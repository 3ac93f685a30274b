import EdgeSentinel.Config.Valid

/-!
# What an assignment leaves alone

`config_set_value` has a branch for each key, and the lists of names are read in loops that can
fail at any name. Whatever happens there, it writes to the record at the end of a branch only, and
only to the fields that belong to the key.

## What is proved

* `changesOnly_configSetValue` — **an assignment** changes the fields of its key, or nothing.
-/

namespace EdgeSentinel.Config

open CLib

/-- `config`, with the fields that belong to a key as they are in `config'`. -/
def Key.fieldsFrom (config config' : AppConfig) : Key → AppConfig
  | .monitorInterval => { config with monitorInterval := config'.monitorInterval }
  | .processPid => { config with processPid := config'.processPid }
  | .processName => { config with processName := config'.processName }
  | .processNames =>
    { config with
      processNames := config'.processNames
      processNameCount := config'.processNameCount
      processName := config'.processName }
  | .networkInterfaces =>
    { config with
      networkInterfaces := config'.networkInterfaces
      networkInterfaceCount := config'.networkInterfaceCount }
  | .notificationEnabled => { config with notificationEnabled := config'.notificationEnabled }
  | .notificationCommand => { config with notificationCommand := config'.notificationCommand }
  | .cpuWarningThreshold => { config with cpuWarningThreshold := config'.cpuWarningThreshold }
  | .cpuCriticalThreshold => { config with cpuCriticalThreshold := config'.cpuCriticalThreshold }
  | .processCpuWarningThreshold =>
    { config with processCpuWarningThreshold := config'.processCpuWarningThreshold }
  | .processCpuCriticalThreshold =>
    { config with processCpuCriticalThreshold := config'.processCpuCriticalThreshold }
  | .processMemoryWarningThresholdMib =>
    { config with processMemoryWarningThresholdMib := config'.processMemoryWarningThresholdMib }
  | .processMemoryCriticalThresholdMib =>
    { config with processMemoryCriticalThresholdMib := config'.processMemoryCriticalThresholdMib }
  | .memoryWarningThreshold =>
    { config with memoryWarningThreshold := config'.memoryWarningThreshold }
  | .memoryCriticalThreshold =>
    { config with memoryCriticalThreshold := config'.memoryCriticalThreshold }
  | .diskWarningThreshold => { config with diskWarningThreshold := config'.diskWarningThreshold }
  | .diskCriticalThreshold =>
    { config with diskCriticalThreshold := config'.diskCriticalThreshold }
  | .logFile => { config with logFile := config'.logFile }
  | .logMaxSize => { config with logMaxSize := config'.logMaxSize }

/-- The results of an assignment to `key`: -/
structure ChangesOnly (key : Bytes) (config : AppConfig) (result : ConfigValueStatus × AppConfig) :
    Prop where
  /-- it changes the fields that belong to the key, and no others, -/
  fields : ∀ k : Key, k.name = key → result.2 = k.fieldsFrom config result.2
  /-- and nothing at all if it does not succeed, -/
  rejected : result.1 ≠ .ok → result.2 = config
  /-- as with a key that there is not. -/
  unknown : (∀ k : Key, k.name ≠ key) → result = (.unknown, config)

variable {config : AppConfig} {value : Bytes}

/-- A branch refuses the value, or succeeds and changes the fields of its key. -/
def BranchOf (k : Key) (config : AppConfig) (result : ConfigValueStatus × AppConfig) : Prop :=
  result = (.invalid, config) ∨ result.1 = .ok ∧ result.2 = k.fieldsFrom config result.2

theorem branchOf_branch (config : AppConfig) (value : Bytes) (k : Key) :
    BranchOf k config (k.branch config value) := by
  have hinvalid : BranchOf k config (.invalid, config) := .inl rfl
  cases k
  all_goals dsimp only [Key.branch]
  case monitorInterval | processPid => exact setUnsignedInt_elim hinvalid fun _ => .inr ⟨rfl, rfl⟩
  case processName | notificationCommand | logFile =>
    exact setString_elim hinvalid fun _ => .inr ⟨rfl, rfl⟩
  case processNames => exact setProcessNames_elim hinvalid fun _ _ _ => .inr ⟨rfl, rfl⟩
  case networkInterfaces => exact setNames_elim hinvalid (by decide) fun _ _ _ => .inr ⟨rfl, rfl⟩
  case notificationEnabled => exact setNotificationEnabled_elim hinvalid fun _ _ => .inr ⟨rfl, rfl⟩
  case logMaxSize => exact setLogMaxSize_elim hinvalid fun _ => .inr ⟨rfl, rfl⟩
  all_goals exact setDouble_elim hinvalid fun _ => .inr ⟨rfl, rfl⟩

/-- All the fields of a record are its own. -/
theorem fieldsFrom_self (k : Key) : k.fieldsFrom config config = config := by
  cases k <;> rfl

/-- **An assignment** changes the fields of its key only, and nothing if it does not succeed. -/
theorem changesOnly_configSetValue (config : AppConfig) (key value : Bytes) :
    ChangesOnly key config (configSetValue config key value) := by
  obtain ⟨k, rfl, hbranch⟩ | hunknown := configSetValue_cases key
  · rw [hbranch]
    refine ⟨fun j hj => ?_, fun hstatus => ?_, fun hnone => absurd rfl (hnone k)⟩
    · obtain rfl := Key.name_injective hj
      obtain he | ⟨-, hfields⟩ := branchOf_branch config value j
      · rw [he, fieldsFrom_self]
      · exact hfields
    · obtain he | ⟨hok, -⟩ := branchOf_branch config value k
      · rw [he]
      · exact absurd hok hstatus
  · rw [hunknown]
    exact ⟨fun k _ => (fieldsFrom_self k).symm, fun _ => rfl, fun _ => rfl⟩

end EdgeSentinel.Config
