/-!
# Lengths of time

A `Span` is a number of whole seconds of 64 bits and a number of nanoseconds below one second.
Configurations count milliseconds in 64 bits (`Span.millis64`), so the way there drops what is finer
than a millisecond and keeps the count modulo 2 ^ 64.
-/

namespace DeviceLab

/-- A length of time. -/
structure Span where
  seconds : UInt64
  nanos : Nat
  nanos_lt : nanos < 1000000000
  deriving DecidableEq

namespace Span

/-- The span of a number of seconds and a number of nanoseconds; whole seconds among the latter
are carried, and `none` says that the seconds overflow. -/
def carry? (seconds : UInt64) (nanos : Nat) : Option Span :=
  if seconds.toNat + nanos / 1000000000 < UInt64.size then
    some ⟨seconds + UInt64.ofNat (nanos / 1000000000), nanos % 1000000000, by omega⟩
  else none

/-- The span of a number of milliseconds. -/
def ofMillis (ms : UInt64) : Span :=
  ⟨ms / 1000, (ms.toNat % 1000) * 1000000, by omega⟩

/-- The number of whole milliseconds in a span. -/
def millis (s : Span) : Nat :=
  s.seconds.toNat * 1000 + s.nanos / 1000000

/-- The number of whole milliseconds in a span, modulo 2 ^ 64. -/
def millis64 (s : Span) : UInt64 :=
  UInt64.ofNat s.millis

end Span

end DeviceLab
