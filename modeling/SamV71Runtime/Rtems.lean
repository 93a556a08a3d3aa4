import Mathlib.Data.Nat.Notation

/-!
# What the runtime sees of RTEMS

Status codes by the names the runtime compares with, the widths of the RTEMS types,
and the conversion macro of `rtems.h`.
-/
namespace SamV71Runtime

inductive RtemsStatusCode where
  | successful
  | tooMany
  | invalidId
  | invalidNumber
  | other (code : ℕ)
  deriving DecidableEq, Repr

abbrev RtemsId := BitVec 32
abbrev RtemsName := BitVec 32
abbrev RtemsInterval := BitVec 32

end SamV71Runtime
