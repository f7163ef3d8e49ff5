/-!
# Spans of time

A `Span` is a length of time, or an instant as the time since the clock's origin, counted in whole
nanoseconds. Spans end at `2 ^ 64` seconds: `add?` refuses a sum past that limit, and subtraction
stops at zero.
-/
namespace Playfield

/-- A length of time in nanoseconds. -/
structure Span where
  /-- Whole nanoseconds. -/
  nanos : Nat
  deriving DecidableEq, Repr, Inhabited

namespace Span

/-- No time at all. -/
def zero : Span := ⟨0⟩

/-- Nanoseconds in one second. -/
def perSecond : Nat := 1000000000

/-- Every span is shorter than this many nanoseconds. -/
def bound : Nat := UInt64.size * perSecond

def ofMicros (n : Nat) : Span := ⟨n * 1000⟩

def ofMillis (n : Nat) : Span := ⟨n * 1000000⟩

/-- A span of whole seconds and nanoseconds. -/
def ofParts (secs nanos : Nat) : Span := ⟨secs * perSecond + nanos⟩

/-- Whole seconds. -/
def secs (s : Span) : Nat := s.nanos / perSecond

/-- Nanoseconds past the last whole second. -/
def subsec (s : Span) : Nat := s.nanos % perSecond

/-- Whole microseconds. -/
def micros (s : Span) : Nat := s.nanos / 1000

/-- Whole milliseconds. -/
def millis (s : Span) : Nat := s.nanos / 1000000

instance : LE Span := ⟨fun a b => a.nanos ≤ b.nanos⟩

instance : LT Span := ⟨fun a b => a.nanos < b.nanos⟩

instance (a b : Span) : Decidable (a ≤ b) := inferInstanceAs (Decidable (a.nanos ≤ b.nanos))

instance (a b : Span) : Decidable (a < b) := inferInstanceAs (Decidable (a.nanos < b.nanos))

/-- The sum, if it is still a span. -/
def add? (a b : Span) : Option Span :=
  if a.nanos + b.nanos < bound then some ⟨a.nanos + b.nanos⟩ else none

/-- What a sum past the limit panics with. -/
def overflowMessage : String := "overflow when adding durations"

/-- Time from `start` to `now`, zero if `now` is earlier. -/
def since (now start : Span) : Span := ⟨now.nanos - start.nanos⟩

/-- A number in decimal with leading zeros up to the given width. -/
def padded (width n : Nat) : String :=
  let digits := toString n
  String.ofList (List.replicate (width - digits.length) '0') ++ digits

/-- Seconds, a point and nine digits of nanoseconds. -/
def text (s : Span) : String := toString s.secs ++ "." ++ padded 9 s.subsec

end Span

end Playfield
