import Unreferenced.Json.Reader
import Unreferenced.Store

/-!
# Configuration of a scan

A configuration names the kind to check and says how to scan.  It can be made
from the target kind alone, from any choice of members, or from a JSON text;
members that are not given have the same defaults in all three ways.
-/

namespace Unreferenced

/-- The configuration of one scan. -/
structure Config where
  /-- The kind of which unused resources are looked for. -/
  target : Kind
  /-- The kinds whose resources are inspected for references. -/
  scannable : List Kind
  /-- How many jobs may run at once; zero stands for the number of processors. -/
  concurrencyLimit : Nat
  /-- After how many finished jobs progress is reported. -/
  progressInterval : Nat
  /-- Whether a target kind that cannot be checked is accepted. -/
  allowAnyTarget : Bool
deriving DecidableEq, Repr

/-- What can be wrong with a configuration. -/
inductive ConfigFault
  | noTarget
  | emptyTarget
  | notCheckable (kind : Kind)
  | nothingScannable
deriving DecidableEq, Repr

namespace ConfigFault

/-- What is said of the fault. -/
def message : ConfigFault → String
  | noTarget => "Target kind is required"
  | emptyTarget => "Target kind cannot be empty"
  | notCheckable kind => kind.text ++ " is not a checkable resource kind"
  | nothingScannable => "At least one scannable kind is required"

end ConfigFault

namespace Config

/-! ## Checks -/

/-- Checks that a kind can be a target. -/
def checkTarget (kind : Kind) (allowAny : Bool) : Except ConfigFault Unit :=
  if kind.text.isEmpty then .error .emptyTarget
  else if !allowAny && !kind.isCheckable then .error (.notCheckable kind)
  else .ok ()

/-- Checks that there is something to inspect. -/
def checkScannable (kinds : List Kind) : Except ConfigFault Unit :=
  if kinds.isEmpty then .error .nothingScannable else .ok ()

/-- Checks a configuration, its target first. -/
def check (c : Config) : Except ConfigFault Unit := do
  checkTarget c.target c.allowAnyTarget
  checkScannable c.scannable

/-- Checks a configuration before a scan. -/
def validate (c : Config) : Except ScanError Unit :=
  match c.check with
  | .ok () => .ok ()
  | .error fault => .error (.invalidConfig fault.message)

/-! ## Making a configuration -/

/-- The number of finished jobs after which progress is reported by default. -/
def defaultInterval : Nat := 100

/-- The configuration that checks a kind, with all defaults. -/
def forTarget (target : Kind) : Config :=
  ⟨target, Kind.scannable, 0, defaultInterval, false⟩

/-- The number of jobs that may run at once on a machine with this many
processors. -/
def effectiveConcurrency (processors : Nat) (c : Config) : Nat :=
  if c.concurrencyLimit = 0 then max processors 1 else c.concurrencyLimit

end Config

/-- The members chosen for a configuration. -/
structure ConfigChoice where
  target? : Option Kind
  scannable? : Option (List Kind)
  concurrencyLimit? : Option Nat
  progressInterval? : Option Nat
  allowAnyTarget? : Option Bool
deriving Repr

namespace ConfigChoice

/-- No member chosen. -/
def none : ConfigChoice := ⟨.none, .none, .none, .none, .none⟩

/-- The configuration with the chosen members, if it passes the checks. -/
def build (c : ConfigChoice) : Except ConfigFault Config := do
  let target ← match c.target? with
    | some kind => pure kind
    | .none => throw .noTarget
  Config.checkTarget target (c.allowAnyTarget?.getD false)
  match c.scannable? with
  | some kinds => Config.checkScannable kinds
  | .none => pure ()
  return ⟨target, c.scannable?.getD Kind.scannable, c.concurrencyLimit?.getD 0,
    c.progressInterval?.getD Config.defaultInterval, c.allowAnyTarget?.getD false⟩

end ConfigChoice

/-! ## Written form -/

namespace Config

open Json (Reader Record Member)

/-- The written form of a configuration. -/
def toJson (c : Config) : Json :=
  .obj [("target_kind", .str c.target.text),
    ("scannable_kinds", .arr (c.scannable.map fun k => .str k.text)),
    ("concurrency_limit", .nat c.concurrencyLimit),
    ("progress_interval", .nat c.progressInterval),
    ("allow_any_target", .bool c.allowAnyTarget)]

/-- What is written of a configuration. -/
def form : Record Config :=
  ⟨forTarget ⟨""⟩,
    [.must "target_kind" Reader.kind fun k v => { v with target := k },
      .may "scannable_kinds" (Reader.listOf Reader.kind) fun ks v => { v with scannable := ks },
      .may "concurrency_limit" Reader.count fun n v => { v with concurrencyLimit := n },
      .may "progress_interval" Reader.count fun n v => { v with progressInterval := n },
      .may "allow_any_target" Reader.bool fun b v => { v with allowAnyTarget := b }], true⟩

/-- The configuration that a text describes. -/
def ofText (text : String) : Except Json.ReadError Config :=
  Reader.run form.read text

end Config
end Unreferenced
