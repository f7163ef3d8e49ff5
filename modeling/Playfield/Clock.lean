import Playfield.Span

/-!
# The hand-set clock

Time on the bench stands still until someone moves it. The clock counts microseconds in a 64-bit
word: spans are cut to whole microseconds, advancing wraps around at the end of the word, and
setting takes the later of the present and the requested time.
-/
namespace Playfield

/-- A clock that only moves when told to. -/
structure Clock where
  /-- Microseconds since the clock's origin. -/
  micros : UInt64 := 0
  deriving DecidableEq, Repr, Inhabited

namespace Clock

/-- The present time. -/
def now (c : Clock) : Span := .ofMicros c.micros.toNat

/-- The counter word of a span: whole microseconds, modulo the size of the word. -/
def word (s : Span) : UInt64 := UInt64.ofNat s.micros

/-- Move forward, wrapping around at the end of the counter word. -/
def advance (c : Clock) (step : Span) : Clock := ⟨c.micros + word step⟩

/-- Jump to a time; the counter never moves back. -/
def set (c : Clock) (target : Span) : Clock :=
  ⟨if c.micros < word target then word target else c.micros⟩

end Clock

end Playfield
