import Palette.Abort
import Palette.Fault

/-!
# How an operation stops short

An operation that does not finish either reports a fault or aborts.
-/

namespace Palette

/-- A reported fault or an abort. -/
inductive Halt where
  | fault (fault : Fault)
  | abort (abort : Abort)
  deriving Repr

end Palette
