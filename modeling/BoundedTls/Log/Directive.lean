import BoundedTls.Text.Numeral

/-!
# The default filter

The log filter that is used unless the environment names another.
-/

namespace BoundedTls.Log

/-- The target under which the program logs. -/
def target : String := "secure_socket"

/-- The program's own events at a level, and warnings of everything else. -/
def defaultDirective (level : String) : String :=
  "warn," ++ target ++ "=" ++ String.ofList (Text.asciiLower level.toList)

end BoundedTls.Log
