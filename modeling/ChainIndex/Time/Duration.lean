/-!
# Durations

Seconds and nanoseconds, as far as sixty-four bits of seconds go. Multiplication and addition carry
from one part into the other and stop at the longest duration instead of going around.

`toNanos` is the view in which durations are compared: a duration is determined by it, and the order
of durations is its order.
-/

namespace ChainIndex

def nanosPerSecond : Nat := 1000000000

def nanosPerMilli : Nat := 1000000

@[ext] structure Duration where
  secs : UInt64
  nanos : UInt32
  nanos_lt : nanos.toNat < nanosPerSecond
  deriving DecidableEq

namespace Duration

instance : Repr Duration where
  reprPrec d _ := repr (d.secs, d.nanos)

def zero : Duration := ⟨0, 0, by decide⟩

instance : Inhabited Duration := ⟨zero⟩

/-- The longest duration. -/
def longest : Duration := ⟨18446744073709551615, 999999999, by decide⟩

def toNanos (d : Duration) : Nat :=
  d.secs.toNat * nanosPerSecond + d.nanos.toNat

theorem carry_lt (n : Nat) : (n % nanosPerSecond).toUInt32.toNat < nanosPerSecond := by
  have h : n % nanosPerSecond < nanosPerSecond := Nat.mod_lt _ (by decide)
  have : nanosPerSecond < 4294967296 := by decide
  simp only [Nat.toUInt32_eq, UInt32.toNat_ofNat']
  rw [Nat.mod_eq_of_lt (by omega)]
  exact h

/-- The duration of a number of nanoseconds that fits; of the part that fits otherwise. -/
def ofNanos (n : Nat) : Duration :=
  ⟨(n / nanosPerSecond).toUInt64, (n % nanosPerSecond).toUInt32, carry_lt n⟩

def ofMillis (ms : UInt64) : Duration :=
  ofNanos (ms.toNat * nanosPerMilli)

def ofSecs (secs : UInt64) : Duration :=
  ⟨secs, 0, by decide⟩

/-- The whole milliseconds it takes for the duration to pass. -/
def ceilMillis (d : Duration) : Nat :=
  (d.toNanos + (nanosPerMilli - 1)) / nanosPerMilli

/-- The product, if it is no longer than the longest duration. -/
def mul? (d : Duration) (k : UInt32) : Option Duration :=
  let low := d.nanos.toNat * k.toNat
  let secs := d.secs.toNat * k.toNat + low / nanosPerSecond
  if secs < UInt64.size then
    some ⟨secs.toUInt64, (low % nanosPerSecond).toUInt32, carry_lt low⟩
  else
    none

/-- The sum, if it is no longer than the longest duration. -/
def add? (a b : Duration) : Option Duration :=
  let low := a.nanos.toNat + b.nanos.toNat
  let secs := a.secs.toNat + b.secs.toNat + low / nanosPerSecond
  if secs < UInt64.size then
    some ⟨secs.toUInt64, (low % nanosPerSecond).toUInt32, carry_lt low⟩
  else
    none

/-- The product, clipped to the longest duration. -/
def mul (d : Duration) (k : UInt32) : Duration :=
  (d.mul? k).getD longest

/-- The sum, clipped to the longest duration. -/
def add (a b : Duration) : Duration :=
  (a.add? b).getD longest

/-- One of `k` equal parts, cut to whole nanoseconds. -/
def div (d : Duration) (k : UInt32) : Duration :=
  let low := d.secs.toNat % k.toNat * nanosPerSecond + d.nanos.toNat
  let nanos := low / k.toNat
  ⟨(d.secs.toNat / k.toNat + nanos / nanosPerSecond).toUInt64, (nanos % nanosPerSecond).toUInt32, carry_lt nanos⟩

/-- The longer of two durations. -/
def max (a b : Duration) : Duration :=
  if a.toNanos < b.toNanos then b else a

/-- The duration in seconds, as a double. -/
def toSeconds (d : Duration) : Float :=
  d.secs.toFloat + d.nanos.toFloat / 1e9

end Duration

end ChainIndex
