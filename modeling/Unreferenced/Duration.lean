import Unreferenced.Json.Reader
import Unreferenced.Numeric.Double

/-!
# Durations

A duration has whole seconds and nanoseconds.  It is shown to people in
milliseconds, in seconds with one decimal, or in minutes and seconds.
-/

namespace Unreferenced

/-- A span of time. -/
structure Duration where
  secs : Nat
  nanos : Nat
  nanos_lt : nanos < 1000000000
deriving DecidableEq, Repr

namespace Duration

/-- No time at all. -/
def zero : Duration := ⟨0, 0, by decide⟩

/-- The duration of some seconds and any number of nanoseconds, of which full
seconds are carried over. -/
def ofParts (secs nanos : Nat) : Duration :=
  ⟨secs + nanos / 1000000000, nanos % 1000000000, Nat.mod_lt _ (by decide)⟩

/-- The duration of some nanoseconds. -/
def ofNanos (nanos : Nat) : Duration := ofParts 0 nanos

/-- The whole milliseconds. -/
def millis (d : Duration) : Nat := d.secs * 1000 + d.nanos / 1000000

/-- The seconds as a double: the seconds, plus the nanoseconds divided by 10⁹. -/
def seconds (d : Duration) : Numeric.Double :=
  (Numeric.Double.ofNat d.secs).add
    ((Numeric.Double.ofNat d.nanos).div (Numeric.Double.ofNat 1000000000))

/-- The duration for people. -/
def text (d : Duration) : String :=
  if d.millis < 1000 then toString d.millis ++ "ms"
  else if d.secs < 60 then d.seconds.fixed 1 ++ "s"
  else toString (d.secs / 60) ++ "m " ++ toString (d.secs % 60) ++ "s"

/-! ## Written form -/

open Json (Reader Record Member)

/-- The written form of a duration. -/
def toJson (d : Duration) : Json :=
  .obj [("secs", .nat d.secs), ("nanos", .nat d.nanos)]

/-- What is written of a duration: its two parts and nothing else.  The
nanoseconds have 32 bits. -/
def form : Record (Nat × Nat) :=
  ⟨(0, 0),
    [.must "secs" Reader.count fun s v => (s, v.2),
      .must "nanos" (Reader.natBelow 4294967296) fun n v => (v.1, n)], false⟩

/-- Reads a duration whose seconds, after the carry, are a count of 64 bits. -/
def read : Reader Duration := fun d => do
  let (secs, nanos) ← form.read d
  let duration := ofParts secs nanos
  if duration.secs < Reader.countBound then return duration else throw .malformed

end Duration
end Unreferenced
