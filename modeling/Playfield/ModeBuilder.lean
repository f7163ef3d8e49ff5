import Playfield.Mode
import Playfield.Text.Blank

/-!
# Building modes

A mode under construction: its handlers are registered only if the whole description is sound,
that is, if there is a name that is not blank, and no handler has an empty switch name or a hold
of no time.
-/
namespace Playfield

/-- Why a mode was not built. -/
inductive BuildError where
  | missingName
  | emptySwitchName (mode : String) (index : Nat)
  | zeroHold (switch : String)
  deriving DecidableEq, Repr, Inhabited

/-- The text shown for a mode that was not built. -/
def BuildError.message : BuildError → String
  | .missingName => "Mode name not specified. Call .name(name) before .build()"
  | .emptySwitchName mode index =>
    "Handler " ++ toString index ++ " of mode '" ++ mode ++ "' has an empty switch name"
  | .zeroHold switch =>
    "Held handler for switch '" ++ switch ++
      "' has a zero hold. Use .on() for immediate handlers"

/-- A handler to be registered. -/
structure PendingHandler (σ κ : Type) where
  switch : String
  condition : Condition
  hold : Option Span
  run : σ → Switch → Callback σ κ

/-- A mode under construction. -/
structure ModeBuilder (σ κ : Type) where
  name : Option String := none
  priority : Int := 0
  memory : σ
  handlers : List (PendingHandler σ κ) := []
  hook : ModeHook → σ → Callback σ κ := fun _ _ => .idle

namespace ModeBuilder
variable {σ κ : Type}

/-- The first handler that is not sound, with the handlers numbered from the given number on. -/
def firstError (mode : String) : Nat → List (PendingHandler σ κ) → Option BuildError
  | _, [] => none
  | index, h :: rest =>
    if h.switch = "" then some (.emptySwitchName mode index)
    else if h.hold = some .zero then some (.zeroHold h.switch)
    else firstError mode (index + 1) rest

/-- Register handlers in order. -/
def register (m : Mode σ κ) (handlers : List (PendingHandler σ κ)) : Mode σ κ :=
  handlers.foldl (fun m h => m.on h.switch h.condition h.hold h.run) m

/-- Build the mode under an identity. -/
def build (b : ModeBuilder σ κ) (id : ModeId) : Except BuildError (Mode σ κ) :=
  match b.name.filter fun name => !Text.isAllBlank name with
  | none => .error .missingName
  | some name =>
    match firstError name 0 b.handlers with
    | some e => .error e
    | none =>
      .ok (register { id, name, priority := b.priority, memory := b.memory, hook := b.hook }
        b.handlers)

end ModeBuilder

end Playfield
