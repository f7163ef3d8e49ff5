import Playfield.Board
import Playfield.Game.Status
import Playfield.ModeId

/-!
# The journal

What happened, in order: remarks of the engine, calls to the board with their replies, notes of
callbacks, and the start and the end of every callback, with what it could see at its start and the
board fault in which it ended.
-/
namespace Playfield

/-- How grave a remark is, gravest first. -/
inductive Severity where
  | error
  | warn
  | info
  | debug
  | trace
  deriving DecidableEq, Repr, Inhabited

namespace Severity

/-- The gravest is the lowest. -/
def rank : Severity → Nat
  | .error => 1
  | .warn => 2
  | .info => 3
  | .debug => 4
  | .trace => 5

/-- How a severity is written in records. -/
def text : Severity → String
  | .error => "ERROR"
  | .warn => "WARN"
  | .info => "INFO"
  | .debug => "DEBUG"
  | .trace => "TRACE"

end Severity

/-- A call to the board. -/
inductive BoardCall where
  | poll (frames : Bool)
  | install (rule : Rule) (driveNow : Bool)
  | drive (call : DriverCall)
  | tickle
  | close
  deriving DecidableEq, Repr, Inhabited

/-- How a call to the board came back. -/
inductive Reply where
  | done
  /-- A poll handed out so many events. -/
  | events (count : Nat)
  | fault (fault : Fault)
  | panicked
  deriving DecidableEq, Repr, Inhabited

/-- The callbacks of a mode besides its switch handlers. -/
inductive ModeHook where
  | started
  | tick
  | stopped
  deriving DecidableEq, Repr, Inhabited

/-- Which callback runs. -/
inductive CallbackSite where
  /-- A switch handler of a mode, by the number of its binding. -/
  | handler (mode : ModeId) (binding : Nat) (switch : String)
  | hook (mode : ModeId) (hook : ModeHook)
  | lifecycle (hook : GameHook)
  | frame
  deriving DecidableEq, Repr, Inhabited

/-- What a callback could see of the engine as it started. -/
structure Glimpse where
  now : Span
  running : Option ModeId
  game : GameStatus
  flippers : Bool
  deriving DecidableEq, Repr, Inhabited

/-- One entry of the journal. -/
inductive Entry where
  | remark (severity : Severity) (text : String)
  | call (call : BoardCall) (reply : Reply)
  | note (text : String)
  | began (site : CallbackSite) (glimpse : Glimpse)
  /-- The callback that began last has ended, in a board fault or otherwise. -/
  | ended (fault : Option Fault)
  deriving DecidableEq, Repr, Inhabited

namespace Directive

/-- Several directives in one record. -/
def listText (ds : List Directive) : String := ", ".intercalate (ds.map Directive.text)

end Directive

/-- How a call to the board is written in records. -/
def BoardCall.text : BoardCall → String
  | .poll frames => "get_events " ++ toString frames
  | .install r driveNow =>
    "rule " ++ toString r.switch ++ " " ++ r.trigger.text ++
      " notify=" ++ toString r.options.notifyHost ++
      " reload=" ++ toString r.options.reloadActive ++
      " [" ++ Directive.listText r.directives ++ "] " ++ toString driveNow
  | .drive c => c.text
  | .tickle => "tickle"
  | .close => "close"

/-- How the reply to a call is written behind the call. -/
def Reply.text : Reply → String
  | .done => ""
  | .events n => " [" ++ toString n ++ "]"
  | .fault f => " !" ++ f.message
  | .panicked => " panics"

/-- How an entry is shown to someone who wants remarks up to the given rank; the starts and ends of
callbacks are for the engine's own books. -/
def Entry.text? (rank : Nat) : Entry → Option String
  | .remark severity text =>
    if severity.rank ≤ rank then some ("log " ++ severity.text ++ " " ++ text) else none
  | .call c reply => some ("dev " ++ c.text ++ reply.text)
  | .note text => some text
  | .began _ _ | .ended _ => none

end Playfield
