import Mathlib.Tactic

namespace MediaTransport

/-- Return codes of the modelled functions; `0` and positive values are `ok`. -/
inductive Errno where
  | io
  | inval
  | nomem
  | busy
  | nospc
  deriving DecidableEq, Repr

end MediaTransport
