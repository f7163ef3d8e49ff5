/-!
# Board rules

A rule sits on the control board and acts on drivers as soon as its switch makes a transition,
without asking the host.
-/
namespace Playfield

/-- The transition of a switch that sets a rule off. -/
inductive Trigger where
  | closedNondebounced
  | openNondebounced
  | closedDebounced
  | openDebounced
  deriving DecidableEq, Repr, Inhabited

namespace Trigger

/-- The name of a trigger. -/
def text : Trigger → String
  | .closedNondebounced => "ClosedNondebounced"
  | .openNondebounced => "OpenNondebounced"
  | .closedDebounced => "ClosedDebounced"
  | .openDebounced => "OpenDebounced"

/-- The triggers by name. -/
def names : List (String × Trigger) :=
  [("ClosedNondebounced", .closedNondebounced), ("OpenNondebounced", .openNondebounced),
    ("ClosedDebounced", .closedDebounced), ("OpenDebounced", .openDebounced)]

/-- The place of a trigger in listings. -/
def rank : Trigger → Nat
  | .closedNondebounced => 0
  | .openNondebounced => 1
  | .closedDebounced => 2
  | .openDebounced => 3

end Trigger

/-- Flags of a rule. -/
structure RuleOptions where
  /-- The host also gets an event for the transition. -/
  notifyHost : Bool := false
  /-- The rule fires again on repeated contact while it is active. -/
  reloadActive : Bool := false
  deriving DecidableEq, Repr, Inhabited

/-- What is done to one driver. -/
inductive DriverAction where
  /-- Drive for so many milliseconds; zero holds the driver on until it is disabled. -/
  | pulse (ms : Nat)
  | disable
  /-- One pulse of a length of its own, then on and off in turns. -/
  | patter (onMs offMs firstMs : Nat)
  deriving DecidableEq, Repr, Inhabited

/-- An action on a driver. -/
structure Directive where
  driver : Nat
  action : DriverAction
  deriving DecidableEq, Repr, Inhabited

namespace Directive

/-- How a directive is written in records. -/
def text (d : Directive) : String :=
  toString d.driver ++ ":" ++
    match d.action with
    | .pulse ms => "pulse " ++ toString ms
    | .disable => "disable"
    | .patter onMs offMs firstMs =>
      "patter " ++ toString onMs ++ " " ++ toString offMs ++ " " ++ toString firstMs

end Directive

/-- A rule for one transition of one switch. A rule without directives takes the present one away.
-/
structure Rule where
  switch : Nat
  trigger : Trigger
  options : RuleOptions
  directives : List Directive
  deriving DecidableEq, Repr, Inhabited

end Playfield
