/-!
# Board faults
-/
namespace Playfield

/-- Why a call to the control board failed. -/
inductive Fault where
  | unresponsive (operation : String)
  | rejected (operation reason : String)
  | closed
  deriving DecidableEq, Repr, Inhabited

/-- The text shown for a fault. -/
def Fault.message : Fault → String
  | .unresponsive operation => "device did not respond to " ++ operation
  | .rejected operation reason => "device rejected " ++ operation ++ ": " ++ reason
  | .closed => "device is closed"

end Playfield
