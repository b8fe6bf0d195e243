import BoundedTls.Config.Load
import BoundedTls.Program.Process
import BoundedTls.Tls.MaterialError

/-!
# Failures of the program

What ends the program before its work is done. Each stage of the program has errors of its own,
and the first one is reported.
-/

namespace BoundedTls.Program

/-- Why the program could not do its work. -/
inductive Failure where
  | settings (error : Config.LoadError)
  | material (error : Tls.MaterialError)
  | listener (error : ListenerError)
  | connection (error : ConnectionError)
  | transport (fault : Fault)
deriving DecidableEq, Repr

/-- The failure with its kind and parts. -/
def Failure.describe : Failure → String
  | settings error => error.describe
  | material error => error.describe
  | listener error => error.describe
  | connection error => error.describe
  | transport fault => fault.describe

/-- The process reports a failure and ends. -/
def Process.fail (p : Process) (failure : Failure) : Exit :=
  (p.complain ("Error: " ++ failure.describe)).exit .failure

end BoundedTls.Program
