import EdgeSentinel.CLib.Printf

/-!
# Alerts

`alert.c` and `alert_event.c`: the alert levels and how a value is graded, and the
alert event that is built when a level changes.

The enumerations of the source are inductive types here, so the checks that
`alert_event_init` makes of its enumeration arguments always succeed.
-/

namespace EdgeSentinel.Monitor

open CLib

/-- `AlertLevel`. -/
inductive AlertLevel where
  /-- `ALERT_NORMAL`. -/
  | normal
  /-- `ALERT_WARNING`. -/
  | warning
  /-- `ALERT_CRITICAL`. -/
  | critical
  deriving DecidableEq, Repr

/-- The value of the enumerator. -/
def AlertLevel.toNat : AlertLevel → ℕ
  | .normal => 0
  | .warning => 1
  | .critical => 2

/-- `alert_level_to_string`. -/
def alertLevelToString : AlertLevel → Bytes
  | .normal => ascii "NORMAL"
  | .warning => ascii "WARNING"
  | .critical => ascii "CRITICAL"

/-- `alert_evaluate_percentage`. -/
def alertEvaluatePercentage (value warningThreshold criticalThreshold : Double) : AlertLevel :=
  if criticalThreshold.le value then .critical
  else if warningThreshold.le value then .warning
  else .normal

/-- `alert_get_higher_level`. -/
def alertGetHigherLevel (first second : AlertLevel) : AlertLevel :=
  if second.toNat ≤ first.toNat then first else second

/-- `AlertMetric`. -/
inductive AlertMetric where
  /-- `ALERT_METRIC_SYSTEM_CPU`. -/
  | systemCpu
  /-- `ALERT_METRIC_SYSTEM_MEMORY`. -/
  | systemMemory
  /-- `ALERT_METRIC_DISK`. -/
  | disk
  /-- `ALERT_METRIC_PROCESS_CPU`. -/
  | processCpu
  /-- `ALERT_METRIC_PROCESS_MEMORY`. -/
  | processMemory
  deriving DecidableEq, Repr

/-- `alert_metric_to_string`. -/
def alertMetricToString : AlertMetric → Bytes
  | .systemCpu => ascii "SYSTEM_CPU"
  | .systemMemory => ascii "SYSTEM_MEMORY"
  | .disk => ascii "DISK"
  | .processCpu => ascii "PROCESS_CPU"
  | .processMemory => ascii "PROCESS_MEMORY"

/-- `ALERT_EVENT_TARGET_LENGTH`. -/
abbrev alertEventTargetLength : ℕ := 256

/-- `ALERT_EVENT_UNIT_LENGTH`. -/
abbrev alertEventUnitLength : ℕ := 16

/-- What `send_alert_change_notification` is called with: a change of a level. -/
structure AlertChange where
  /-- Which level changed. -/
  metric : AlertMetric
  /-- Whose level. -/
  target : Bytes
  /-- The level before. -/
  previousLevel : AlertLevel
  /-- The level after. -/
  currentLevel : AlertLevel
  /-- The value that was graded. -/
  currentValue : Double
  /-- The unit of the value. -/
  unit : Bytes
  deriving DecidableEq, Repr

/-- `AlertEvent`. -/
structure AlertEvent extends AlertChange where
  /-- When the event was created. -/
  occurredAt : ℤ
  deriving DecidableEq, Repr

/-- `alert_event_init`, where `time(NULL)` returns `now`. -/
def alertEventInit (now : ℤ) (change : AlertChange) : Option AlertEvent :=
  if alertEventTargetLength ≤ change.target.length ∨ alertEventUnitLength ≤ change.unit.length then
    none
  else if now = -1 then none
  else some { change with occurredAt := now }

/-- A level that is watched for changes: `previous_…_level` with its
`…_level_initialized`. -/
structure LevelBaseline where
  /-- The level seen last. -/
  previous : AlertLevel
  /-- There is one. -/
  initialized : Bool
  deriving DecidableEq, Repr

/-- A level that has not been seen yet: `ALERT_NORMAL`, not initialized. -/
def LevelBaseline.unset : LevelBaseline := ⟨.normal, false⟩

/-- The level seen last, if there is one. -/
def LevelBaseline.seen (b : LevelBaseline) : Option AlertLevel :=
  if b.initialized then some b.previous else none

@[simp] theorem LevelBaseline.seen_unset : LevelBaseline.unset.seen = none := rfl

end EdgeSentinel.Monitor
