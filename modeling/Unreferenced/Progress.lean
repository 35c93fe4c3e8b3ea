import Unreferenced.Duration
import Unreferenced.Identity

/-!
# Progress of a scan

How far a scan is: as a note, as a percentage and as a rate.
-/

namespace Unreferenced

/-- The state of a scan when a job has finished. -/
structure Progress where
  /-- The jobs finished so far. -/
  completed : Nat
  /-- The jobs of the scan. -/
  total : Nat
  /-- The candidates struck off so far. -/
  removed : Nat
  /-- The resource whose job has finished. -/
  current? : Option Identity
deriving Repr

namespace Progress

open Numeric (Double)

/-- The share of jobs that have finished, in percent; all of them if there are
none. -/
def percentage (p : Progress) : Double :=
  if p.total = 0 then Double.ofNat 100
  else ((Double.ofNat p.completed).div (Double.ofNat p.total)).mul (Double.ofNat 100)

/-- The finished jobs in a second, after this time; zero if none has passed. -/
def rate (p : Progress) (elapsed : Duration) : Double :=
  if elapsed.seconds.isPositive then (Double.ofNat p.completed).div elapsed.seconds
  else Double.zero

/-- Whether every job has reported. -/
def isFinished (p : Progress) : Bool := p.total ≤ p.completed

/-- The note for people. -/
def note (p : Progress) : String :=
  "Checking resource " ++ toString p.completed ++ "/" ++ toString p.total

/-- The percentage without decimals. -/
def percentText (p : Progress) : String := p.percentage.fixed 0

end Progress
end Unreferenced
