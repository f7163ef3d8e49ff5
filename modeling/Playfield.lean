import Playfield.Act
import Playfield.Bench
import Playfield.Board
import Playfield.Board.Event
import Playfield.Board.Fault
import Playfield.Board.Rule
import Playfield.Cabinet
import Playfield.Clock
import Playfield.CommandQueue
import Playfield.Config
import Playfield.Config.Check
import Playfield.Config.Document
import Playfield.Document.Board
import Playfield.Document.Failure
import Playfield.Document.Game
import Playfield.Document.Run
import Playfield.Document.Script
import Playfield.Document.Snapshot
import Playfield.Driver
import Playfield.DriverBank
import Playfield.FlipperRules
import Playfield.Game
import Playfield.Game.Status
import Playfield.Handler
import Playfield.HoldQueue
import Playfield.Journal
import Playfield.Json
import Playfield.Json.Printer
import Playfield.Json.Reader
import Playfield.Json.Record
import Playfield.Json.Token
import Playfield.Machine
import Playfield.Machine.Run
import Playfield.Mode
import Playfield.ModeBuilder
import Playfield.ModeId
import Playfield.ModeStack
import Playfield.Proofs.Accepted
import Playfield.Proofs.Arrivals
import Playfield.Proofs.BallsLeft
import Playfield.Proofs.Benchwork
import Playfield.Proofs.Bindings
import Playfield.Proofs.BoardLife
import Playfield.Proofs.BoardRules
import Playfield.Proofs.Books
import Playfield.Proofs.Budget
import Playfield.Proofs.BumperPulse
import Playfield.Proofs.Callback
import Playfield.Proofs.Calls
import Playfield.Proofs.Clearing
import Playfield.Proofs.Contained
import Playfield.Proofs.Deferred
import Playfield.Proofs.Dispatch
import Playfield.Proofs.Documents
import Playfield.Proofs.DriverSteps
import Playfield.Proofs.Edges
import Playfield.Proofs.Effects
import Playfield.Proofs.Engine
import Playfield.Proofs.Errands
import Playfield.Proofs.Escalation
import Playfield.Proofs.Faults
import Playfield.Proofs.GamePlay
import Playfield.Proofs.HeldHandlers
import Playfield.Proofs.HoldQueue
import Playfield.Proofs.Holds
import Playfield.Proofs.Hushed
import Playfield.Proofs.Idle
import Playfield.Proofs.Indices
import Playfield.Proofs.Json.RoundTrip
import Playfield.Proofs.Json.Scanning
import Playfield.Proofs.Lateness
import Playfield.Proofs.Ledger
import Playfield.Proofs.Lives
import Playfield.Proofs.Masks
import Playfield.Proofs.Mended.Callback
import Playfield.Proofs.Mended.Engine
import Playfield.Proofs.Mended.Machine
import Playfield.Proofs.Mended.Runs
import Playfield.Proofs.Mended.Stack
import Playfield.Proofs.Mirrors
import Playfield.Proofs.Moments
import Playfield.Proofs.Moves
import Playfield.Proofs.Operations
import Playfield.Proofs.Outputs
import Playfield.Proofs.Panics
import Playfield.Proofs.Past.Bench
import Playfield.Proofs.Past.Machine
import Playfield.Proofs.Past.Stack
import Playfield.Proofs.Points
import Playfield.Proofs.Posts
import Playfield.Proofs.Precedence
import Playfield.Proofs.Readings
import Playfield.Proofs.Registration
import Playfield.Proofs.Registry
import Playfield.Proofs.Reports
import Playfield.Proofs.Requests
import Playfield.Proofs.Resetting
import Playfield.Proofs.Rig
import Playfield.Proofs.RulePairs
import Playfield.Proofs.RunLoop
import Playfield.Proofs.Sights
import Playfield.Proofs.Snapshots
import Playfield.Proofs.Stack
import Playfield.Proofs.Stage
import Playfield.Proofs.Standing
import Playfield.Proofs.Starts
import Playfield.Proofs.Timekeeping
import Playfield.Proofs.Turns
import Playfield.Proofs.Walk
import Playfield.Proofs.Within
import Playfield.Registry
import Playfield.Script
import Playfield.Span
import Playfield.Switch
import Playfield.Text.Blank
import Playfield.Text.Hidden
import Playfield.Text.Quoted
import Playfield.Text.Timestamp
import Playfield.Text.Uuid
