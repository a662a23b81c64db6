import Fleet.Time.Instant

namespace Fleet

/-- The first number of nanoseconds that is too long for a delay. -/
def Delay.limit : Nat := UInt64.size * Instant.nanosecondsPerSecond

structure Delay where
  nanoseconds : Nat
  lt_limit : nanoseconds < Delay.limit
  deriving DecidableEq, Repr

namespace Delay

/-- The delay of some whole seconds and nanoseconds, of which there are fewer than make another
second. -/
def ofParts (seconds : UInt64) (nanoseconds : Nat)
    (h : nanoseconds < Instant.nanosecondsPerSecond) : Delay :=
  ⟨seconds.toNat * Instant.nanosecondsPerSecond + nanoseconds, by
    have := seconds.toNat_lt
    simp only [limit, UInt64.size, Instant.nanosecondsPerSecond] at *
    omega⟩

def ofSeconds (seconds : UInt64) : Delay := ofParts seconds 0 (by decide)

def zero : Delay := ofSeconds 0

instance : Inhabited Delay := ⟨zero⟩

def seconds (delay : Delay) : UInt64 :=
  .ofNat (delay.nanoseconds / Instant.nanosecondsPerSecond)

def subsecond (delay : Delay) : Nat := delay.nanoseconds % Instant.nanosecondsPerSecond

def min (a b : Delay) : Delay := if a.nanoseconds ≤ b.nanoseconds then a else b

def add? (a b : Delay) : Option Delay :=
  if h : a.nanoseconds + b.nanoseconds < limit then some ⟨a.nanoseconds + b.nanoseconds, h⟩
  else none

/-- What is left of a delay after some nanoseconds; nothing when more have passed. -/
def after (delay : Delay) (passed : Nat) : Delay :=
  ⟨delay.nanoseconds - passed, Nat.lt_of_le_of_lt (Nat.sub_le ..) delay.lt_limit⟩

end Delay

end Fleet
