/-!
# Board events

What the control board reports when it is polled. Switch events say which level a switch now has;
the others carry no level.
-/
namespace Playfield

/-- The kind of an event. -/
inductive EventKind where
  | none
  | invalid
  | switchClosedDebounced
  | switchOpenDebounced
  | switchClosedNondebounced
  | switchOpenNondebounced
  | frameDisplayed
  deriving DecidableEq, Repr, Inhabited

namespace EventKind

/-- The level a switch event reports: closed is `true`. -/
def level? : EventKind → Option Bool
  | .switchClosedDebounced | .switchClosedNondebounced => some true
  | .switchOpenDebounced | .switchOpenNondebounced => some false
  | .none | .invalid | .frameDisplayed => Option.none

/-- The kinds by the names they have in documents and records. -/
def names : List (String × EventKind) :=
  [("None", .none), ("Invalid", .invalid), ("SwitchClosedDebounced", .switchClosedDebounced),
    ("SwitchOpenDebounced", .switchOpenDebounced),
    ("SwitchClosedNondebounced", .switchClosedNondebounced),
    ("SwitchOpenNondebounced", .switchOpenNondebounced), ("FrameDisplayed", .frameDisplayed)]

/-- The name of a kind. -/
def text : EventKind → String
  | .none => "None"
  | .invalid => "Invalid"
  | .switchClosedDebounced => "SwitchClosedDebounced"
  | .switchOpenDebounced => "SwitchOpenDebounced"
  | .switchClosedNondebounced => "SwitchClosedNondebounced"
  | .switchOpenNondebounced => "SwitchOpenNondebounced"
  | .frameDisplayed => "FrameDisplayed"

end EventKind

/-- One event. For switch events the value is the switch's number. -/
structure Event where
  kind : EventKind
  value : Nat
  deriving DecidableEq, Repr, Inhabited

/-- The event reported after each displayed frame. -/
def Event.frame : Event := ⟨.frameDisplayed, 0⟩

end Playfield
