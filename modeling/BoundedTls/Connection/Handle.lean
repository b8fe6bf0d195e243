import BoundedTls.Text.Numeral

/-!
# Handles

The identity of a connection. Handles are drawn one after the other from a source, or chosen by
the owner of the connection; both kinds share one space of 64-bit values.
-/

namespace BoundedTls

open BoundedTls.Text

/-- The identity of one connection. -/
structure Handle where
  value : UInt64
deriving DecidableEq, Repr, Hashable

namespace Handle

/-- The handle as it is shown to people and written to the log. -/
def render (h : Handle) : String :=
  "conn-" ++ numeral h.value.toNat

/-- The handle with its kind. -/
def describe (h : Handle) : String :=
  "ConnectionHandle(" ++ numeral h.value.toNat ++ ")"

end Handle

/-- A source of handles: the value that comes next. After the last value it starts again at
zero. -/
structure HandleSource where
  next : UInt64 := 1
deriving DecidableEq, Repr

namespace HandleSource

/-- Draw a handle. -/
def draw (s : HandleSource) : Handle × HandleSource :=
  (⟨s.next⟩, ⟨s.next + 1⟩)

/-- Draw several handles. -/
def drawMany (s : HandleSource) : Nat → List Handle × HandleSource
  | 0 => ([], s)
  | count + 1 =>
    let (h, s) := s.draw
    let (others, s) := s.drawMany count
    (h :: others, s)

end HandleSource

end BoundedTls
