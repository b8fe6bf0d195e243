import BoundedTls.Text.Numeral

/-!
# Durations

A span of time in whole seconds (64 bits) and nanoseconds below one second. It is written in the
largest unit that leaves a whole part, with the fraction that remains: `1.5s`, `50ms`,
`123.456µs`, `0ns`.
-/

namespace BoundedTls.Time

/-- Nanoseconds in a second. -/
def nanosPerSecond : Nat := 1000000000

/-- Nanoseconds in a millisecond. -/
def nanosPerMilli : Nat := 1000000

/-- A span of time. -/
structure Duration where
  seconds : UInt64
  nanos : Fin nanosPerSecond
deriving DecidableEq, Repr

namespace Duration

/-- The length in nanoseconds. -/
def total (d : Duration) : Nat :=
  d.seconds.toNat * nanosPerSecond + d.nanos.val

/-- The number of whole milliseconds. -/
def wholeMillis (d : Duration) : Nat :=
  d.total / nanosPerMilli

/-- Seconds and nanoseconds; of the nanoseconds, whole seconds are dropped. -/
def ofParts (seconds : UInt64) (nanos : Nat) : Duration :=
  ⟨seconds, ⟨nanos % nanosPerSecond, Nat.mod_lt _ (by decide)⟩⟩

/-- A whole number of seconds. -/
def ofSeconds (s : UInt64) : Duration :=
  ⟨s, ⟨0, by decide⟩⟩

/-- A whole number of milliseconds. -/
def ofMillis (ms : UInt64) : Duration :=
  ⟨ms / 1000, ⟨(ms.toNat % 1000) * nanosPerMilli, by
    have : ms.toNat % 1000 < 1000 := Nat.mod_lt _ (by decide)
    simp only [nanosPerMilli, nanosPerSecond]
    omega⟩⟩

/-- The longest span. -/
def longest : Duration :=
  ⟨18446744073709551615, ⟨999999999, by decide⟩⟩

/-- The number of whole milliseconds in 64 bits, high bits dropped. -/
def millis64 (d : Duration) : UInt64 :=
  UInt64.ofNat d.wholeMillis

/-- The fraction `part / 10^width` behind a point, without zeros at its end; nothing if the part
is zero. -/
def fraction (part width : Nat) : List Char :=
  let digits := Nat.toDigits 10 part
  let padded := List.replicate (width - digits.length) '0' ++ digits
  let kept := (padded.reverse.dropWhile (· == '0')).reverse
  if part = 0 then [] else '.' :: kept

/-- The duration in its largest unit. -/
def render (d : Duration) : String :=
  let written (whole part width : Nat) (unit : String) : String :=
    String.ofList (Nat.toDigits 10 whole ++ fraction part width ++ unit.toList)
  let n := d.nanos.val
  if d.seconds ≠ 0 then written d.seconds.toNat n 9 "s"
  else if 1000000 ≤ n then written (n / 1000000) (n % 1000000) 6 "ms"
  else if 1000 ≤ n then written (n / 1000) (n % 1000) 3 "µs"
  else written n 0 0 "ns"

end Duration

end BoundedTls.Time
