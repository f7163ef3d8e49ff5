import Playfield.Registry
import Playfield.Span

/-!
# Switches

A switch is closed or open; its wiring decides which of the two counts as active. The switch store
keeps the last reported level of every switch and the time of its last change. Reporting the level a
switch already has changes nothing.
-/
namespace Playfield

/-- How a switch is wired. -/
inductive Wiring where
  /-- Active when closed. -/
  | normallyOpen
  /-- Active when open, as opto switches are. -/
  | normallyClosed
  deriving DecidableEq, Repr, Inhabited

/-- A switch and its last reported level. -/
structure Switch where
  number : Nat
  name : String
  wiring : Wiring := .normallyOpen
  tags : List String := []
  /-- The contacts are closed. -/
  closed : Bool := false
  /-- When the level last changed. -/
  lastChanged : Span := .zero
  deriving DecidableEq, Repr, Inhabited

instance : Listed Switch := ⟨Switch.number, Switch.name⟩

namespace Switch

/-- The logical level. -/
def isActive (s : Switch) : Bool :=
  match s.wiring with
  | .normallyOpen => s.closed
  | .normallyClosed => !s.closed

/-- The switch carries the tag. -/
def hasTag (s : Switch) (tag : String) : Bool := s.tags.contains tag

/-- How long the switch has been at its level. -/
def heldFor (s : Switch) (now : Span) : Span := now.since s.lastChanged

end Switch

/-- A level of a switch: logical (active, inactive) or electrical (opened, closed). -/
inductive Condition where
  | active
  | inactive
  | opened
  | closed
  deriving DecidableEq, Repr, Inhabited

/-- The switch is at this level. -/
def Condition.holds (c : Condition) (s : Switch) : Bool :=
  match c with
  | .active => s.isActive
  | .inactive => !s.isActive
  | .opened => !s.closed
  | .closed => s.closed

/-- All switches of a table. -/
structure SwitchStore where
  switches : Registry Switch := .empty
  deriving DecidableEq, Repr, Inhabited

namespace SwitchStore

def insert (store : SwitchStore) (s : Switch) : Except Clash SwitchStore :=
  (store.switches.insert s).map SwitchStore.mk

/-- The switch with a name. -/
def find? (store : SwitchStore) (name : String) : Option Switch := store.switches.find? name

/-- The switch with a number. -/
def get? (store : SwitchStore) (number : Nat) : Option Switch := store.switches.get? number

/-- All switches in order of registration. -/
def toList (store : SwitchStore) : List Switch := store.switches.items

/-- The named switch exists and is active. -/
def isActive (store : SwitchStore) (name : String) : Bool :=
  (store.find? name).any Switch.isActive

/-- Switches that carry a tag, in order of registration. -/
def tagged (store : SwitchStore) (tag : String) : List Switch :=
  store.toList.filter (·.hasTag tag)

/-- Record a reported level; answers the level before, or nothing for an unknown number. -/
def report (store : SwitchStore) (number : Nat) (closed : Bool) (now : Span) :
    Option Bool × SwitchStore :=
  match store.get? number with
  | none => (none, store)
  | some s =>
    if s.closed = closed then (some s.closed, store)
    else
      (some s.closed,
        ⟨store.switches.modifyNumber number fun s => { s with closed, lastChanged := now }⟩)

end SwitchStore

end Playfield
