import Fleet.Time.Date

/-!
Points in time. An instant is a second, counted from the start of 1970 in UTC without leap seconds,
and the nanoseconds past it. A leap second goes on from the last second of a minute: its
nanoseconds are counted beyond that second.
-/

namespace Fleet

namespace Instant

def nanosecondsPerSecond : Nat := 1000000000

def secondsPerDay : Nat := 86400

def firstSecond : Int := Date.toDays ⟨Date.firstYear, 1, 1⟩ * secondsPerDay

def lastSecond : Int := Date.toDays ⟨Date.lastYear, 12, 31⟩ * secondsPerDay + (secondsPerDay - 1)

/-- Whether a second and the nanoseconds past it are a point in time. Only the last second of a
minute may go on as a leap second. -/
def Admits (second : Int) (nanosecond : Nat) : Prop :=
  firstSecond ≤ second ∧ second ≤ lastSecond ∧ nanosecond < 2 * nanosecondsPerSecond ∧
    (nanosecondsPerSecond ≤ nanosecond → second % 60 = 59)

instance (second : Int) (nanosecond : Nat) : Decidable (Admits second nanosecond) :=
  inferInstanceAs (Decidable (_ ∧ _ ∧ _ ∧ (_ → _)))

end Instant

structure Instant where
  /-- The second in which it lies, or after which the leap second comes in which it lies. -/
  second : Int
  /-- The nanoseconds past the start of that second. -/
  nanosecond : Nat
  admitted : Instant.Admits second nanosecond
  deriving DecidableEq, Repr

namespace Instant

def epoch : Instant := ⟨0, 0, by decide⟩

instance : Inhabited Instant := ⟨epoch⟩

def of? (second : Int) (nanosecond : Nat) : Option Instant :=
  if h : Admits second nanosecond then some ⟨second, nanosecond, h⟩ else none

def isLeap (instant : Instant) : Bool := nanosecondsPerSecond ≤ instant.nanosecond

/-- The nanoseconds past the start of the second or leap second. -/
def subsecond (instant : Instant) : Nat := instant.nanosecond % nanosecondsPerSecond

def timeOfDay (instant : Instant) : Int := instant.second % secondsPerDay

def nanoseconds (instant : Instant) : Int :=
  instant.second * nanosecondsPerSecond + instant.nanosecond

def isBefore (earlier later : Instant) : Bool :=
  earlier.second < later.second ||
    (earlier.second == later.second && earlier.nanosecond < later.nanosecond)

/-- The nanoseconds from `earlier` to `later`; none have passed when `earlier` is the later of
the two. The leap second that one of them lies in takes time only if the other one comes after it
by the time of day. -/
def elapsed (earlier later : Instant) : Nat :=
  let leap : Int :=
    if earlier.timeOfDay < later.timeOfDay then if earlier.isLeap then 1 else 0
    else if later.timeOfDay < earlier.timeOfDay then if later.isLeap then -1 else 0
    else 0
  (later.nanoseconds - earlier.nanoseconds + leap * nanosecondsPerSecond).toNat

/-- The point in time a positive number of seconds later. Leap seconds do not count, and the one
that is left takes no time. -/
def later? (instant : Instant) (seconds : Nat) : Option Instant :=
  of? (instant.second + seconds) instant.subsecond

end Instant

end Fleet
