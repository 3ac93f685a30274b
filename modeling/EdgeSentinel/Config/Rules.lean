import EdgeSentinel.Config.Fresh
import EdgeSentinel.Config.Load

/-!
# The rules of a configuration

The rules that the rest of the program relies on, and how far `config_validate` checks them. It
is written as the last guard, against a record that was changed directly. But

* it compares network interfaces with each other, and not process names;
* it looks for the end of `notification_command` and of the names, and not for that of
  `process_name` and `log_file`;
* it asks whether a threshold is out of its bounds, which NaN is not.

## The model

* `Rules` — all of the rules.
* `Checked` — those that the validator checks, as far as it does.
* `Unchecked` — those that it does not.

## What is proved

* `configValidate_eq_none_iff_checked` — what the validator accepts.
* `rules_iff_unchecked` — of what it accepts, the rules hold if those hold that are not checked.
* `validated_rules_iff` — **a valid configuration keeps the rules** if and only if it keeps those
  that are not checked.
-/

namespace EdgeSentinel.Config

open CLib

/-! ### Thresholds -/

/-- The thresholds of a process: a warning comes first. -/
structure ProcessPairRule (warning critical : Double) : Prop where
  /-- Neither is negative. -/
  nonneg : (Double.finite 0).le warning
  /-- The warning is the lower one. -/
  lt : warning.lt critical

/-- The thresholds of the system: they are percentages, besides. -/
structure SystemPairRule (warning critical : Double) : Prop
    extends ProcessPairRule warning critical where
  /-- Neither is above 100. -/
  le_hundred : critical.le (.finite 100)

/-- What is checked of the thresholds of a process. -/
structure ProcessPairChecked (warning critical : Double) : Prop where
  /-- The warning is not negative. -/
  warning_nonneg : ¬ warning.lt (.finite 0)
  /-- The critical one is not. -/
  critical_nonneg : ¬ critical.lt (.finite 0)
  /-- The critical one is not the lower one. -/
  not_le : ¬ critical.le warning

/-- What is checked of the thresholds of the system. -/
structure SystemPairChecked (warning critical : Double) : Prop
    extends ProcessPairChecked warning critical where
  /-- The warning is not above 100. -/
  warning_le : ¬ (Double.finite 100).lt warning
  /-- The critical one is not. -/
  critical_le : ¬ (Double.finite 100).lt critical

/-- Two thresholds that are numbers. -/
def AreNumbers (warning critical : Double) : Prop := warning ≠ .nan ∧ critical ≠ .nan

variable {warning critical : Double}

/-- Numbers that pass the checks keep the rule. -/
theorem processPairRule_iff : ProcessPairRule warning critical ↔
    ProcessPairChecked warning critical ∧ AreNumbers warning critical := by
  constructor
  · rintro ⟨hnonneg, hlt⟩
    obtain ⟨hw, hc⟩ := Double.ne_nan_of_lt hlt
    have hpos := Double.lt_of_le_of_lt hnonneg hlt
    refine ⟨⟨?_, ?_, ?_⟩, hw, hc⟩
    · exact (Double.not_lt_iff hw (by simp)).mpr hnonneg
    · exact (Double.not_lt_iff hc (by simp)).mpr (Double.le_of_lt hpos)
    · exact (Double.not_le_iff hc hw).mpr hlt
  · rintro ⟨⟨hnonneg, -, hle⟩, hw, hc⟩
    exact ⟨(Double.not_lt_iff hw (by simp)).mp hnonneg, (Double.not_le_iff hc hw).mp hle⟩

theorem systemPairRule_iff : SystemPairRule warning critical ↔
    SystemPairChecked warning critical ∧ AreNumbers warning critical := by
  constructor
  · rintro ⟨hrule, hle⟩
    obtain ⟨hchecked, hw, hc⟩ := processPairRule_iff.mp hrule
    have hlt := Double.lt_of_lt_of_le hrule.lt hle
    refine ⟨⟨hchecked, ?_, ?_⟩, hw, hc⟩
    · exact (Double.not_lt_iff (by simp) hw).mpr (Double.le_of_lt hlt)
    · exact (Double.not_lt_iff (by simp) hc).mpr hle
  · rintro ⟨⟨hchecked, -, hle⟩, hw, hc⟩
    exact ⟨processPairRule_iff.mpr ⟨hchecked, hw, hc⟩,
      (Double.not_lt_iff (by simp) hc).mp hle⟩

theorem validateProcessThresholdPair_eq_none {resource : Bytes} :
    validateProcessThresholdPair resource warning critical = none ↔
      ProcessPairChecked warning critical := by
  simp only [validateProcessThresholdPair, Option.orElse_eq_orElse, Option.orElse_eq_or,
    Option.or_eq_none_iff, reject_eq_none]
  constructor
  · rintro ⟨hw, hc, hle⟩
    exact ⟨hw, hc, hle⟩
  · rintro ⟨hw, hc, hle⟩
    exact ⟨hw, hc, hle⟩

theorem validateThresholdPair_eq_none {resource : Bytes} :
    validateThresholdPair resource warning critical = none ↔
      SystemPairChecked warning critical := by
  simp only [validateThresholdPair, Option.orElse_eq_orElse, Option.orElse_eq_or,
    Option.or_eq_none_iff, reject_eq_none, not_or]
  constructor
  · rintro ⟨⟨hw, hw'⟩, ⟨hc, hc'⟩, hle⟩
    exact ⟨⟨hw, hc, hle⟩, hw', hc'⟩
  · rintro ⟨⟨hw, hc, hle⟩, hw', hc'⟩
    exact ⟨⟨hw, hw'⟩, ⟨hc, hc'⟩, hle⟩

/-! ### Names -/

variable {size : ℕ}

/-- The names in use are not empty, and terminated. -/
def NamesUsable (count : ℕ) (buffers : Fin 8 → CharArray size) : Prop :=
  ∀ i : Fin 8, i < count → (buffers i).cstr ≠ [] ∧ (buffers i).Terminated

/-- No two names in use are the same. -/
def NamesDistinct (count : ℕ) (buffers : Fin 8 → CharArray size) : Prop :=
  ∀ i j : Fin 8, i < count → j < count → i ≠ j → (buffers i).cstr ≠ (buffers j).cstr

/-- A name is compared with the earlier ones only. -/
theorem namesDistinct_iff {count : ℕ} {buffers : Fin 8 → CharArray size} :
    NamesDistinct count buffers ↔
      ∀ i : Fin 8, i < count → ¬ ∃ j < i, (buffers j).cstr = (buffers i).cstr := by
  constructor
  · rintro h i hi ⟨j, hj, he⟩
    exact h j i (lt_trans hj hi) hi hj.ne he
  · intro h i j hi hj hne he
    rcases lt_or_gt_of_ne hne with hlt | hgt
    · exact h j hj ⟨i, hlt, he⟩
    · exact h i hi ⟨j, hgt, he.symm⟩

/-- The checks of the byte that a name begins with and of its end. -/
theorem head?_ne_and_terminated_iff (a : CharArray size) :
    a.bytes.head? ≠ some 0 ∧ a.Terminated ↔ a.cstr ≠ [] ∧ a.Terminated := by
  constructor
  · rintro ⟨hhead, hterminated⟩
    exact ⟨fun he => hhead ((head?_eq_zero_iff hterminated).mpr he), hterminated⟩
  · rintro ⟨hne, hterminated⟩
    exact ⟨fun he => hne ((head?_eq_zero_iff hterminated).mp he), hterminated⟩

/-! ### Configurations -/

/-- The rules of a configuration that the validator checks, as far as it does. -/
structure Checked (config : AppConfig) : Prop where
  /-- There is a sampling interval. -/
  monitorInterval : 0 < config.monitorInterval
  /-- The PID is one. -/
  processPid : config.processPid.toNat ≤ intMax
  /-- There are no more process names than buffers. -/
  processNameCount : config.processNameCount.toNat ≤ maxProcessNames
  /-- They are not empty, and terminated. -/
  processNames : NamesUsable config.processNameCount.toNat config.processNames
  /-- There are no more network interfaces than buffers. -/
  networkInterfaceCount : config.networkInterfaceCount.toNat ≤ maxNetworkInterfaces
  /-- They are not empty, and terminated. -/
  networkInterfaces : NamesUsable config.networkInterfaceCount.toNat config.networkInterfaces
  /-- No two of them are the same. -/
  networkInterfaces_distinct :
    NamesDistinct config.networkInterfaceCount.toNat config.networkInterfaces
  /-- `notification_enabled` is 0 or 1. -/
  notificationEnabled : config.notificationEnabled ≤ 1
  /-- `notification_command` is terminated. -/
  notificationCommand : config.notificationCommand.Terminated
  /-- Notifications that are enabled have a command. -/
  notificationCommand_ne_nil : config.notificationEnabled = 1 →
    config.notificationCommand.cstr ≠ []
  /-- The thresholds of the CPU. -/
  cpu : SystemPairChecked config.cpuWarningThreshold config.cpuCriticalThreshold
  /-- Of the CPU of a process. -/
  processCpu : ProcessPairChecked config.processCpuWarningThreshold
    config.processCpuCriticalThreshold
  /-- Of the memory of a process. -/
  processMemory : ProcessPairChecked config.processMemoryWarningThresholdMib
    config.processMemoryCriticalThresholdMib
  /-- Of the memory. -/
  memory : SystemPairChecked config.memoryWarningThreshold config.memoryCriticalThreshold
  /-- Of the disk. -/
  disk : SystemPairChecked config.diskWarningThreshold config.diskCriticalThreshold
  /-- `log_file` does not begin with a NUL. -/
  logFile : config.logFile.bytes.head? ≠ some 0
  /-- The log may have some size. -/
  logMaxSize : 0 < config.logMaxSize

/-- The rules of a configuration that the validator does not check. -/
structure Unchecked (config : AppConfig) : Prop where
  /-- No two process names are the same. -/
  processNames_distinct : NamesDistinct config.processNameCount.toNat config.processNames
  /-- `process_name` is terminated. -/
  processName : config.processName.Terminated
  /-- `log_file` is terminated. -/
  logFile : config.logFile.Terminated
  /-- No threshold is NaN. -/
  cpu : AreNumbers config.cpuWarningThreshold config.cpuCriticalThreshold
  /-- Nor one of the CPU of a process. -/
  processCpu : AreNumbers config.processCpuWarningThreshold config.processCpuCriticalThreshold
  /-- Nor one of the memory of a process. -/
  processMemory : AreNumbers config.processMemoryWarningThresholdMib
    config.processMemoryCriticalThresholdMib
  /-- Nor one of the memory. -/
  memory : AreNumbers config.memoryWarningThreshold config.memoryCriticalThreshold
  /-- Nor one of the disk. -/
  disk : AreNumbers config.diskWarningThreshold config.diskCriticalThreshold

/-- The rules of a configuration. -/
structure Rules (config : AppConfig) : Prop where
  /-- There is a sampling interval. -/
  monitorInterval : 0 < config.monitorInterval
  /-- The PID is one. -/
  processPid : config.processPid.toNat ≤ intMax
  /-- There are no more process names than buffers. -/
  processNameCount : config.processNameCount.toNat ≤ maxProcessNames
  /-- They are not empty, and terminated. -/
  processNames : NamesUsable config.processNameCount.toNat config.processNames
  /-- No two of them are the same. -/
  processNames_distinct : NamesDistinct config.processNameCount.toNat config.processNames
  /-- There are no more network interfaces than buffers. -/
  networkInterfaceCount : config.networkInterfaceCount.toNat ≤ maxNetworkInterfaces
  /-- They are not empty, and terminated. -/
  networkInterfaces : NamesUsable config.networkInterfaceCount.toNat config.networkInterfaces
  /-- No two of them are the same. -/
  networkInterfaces_distinct :
    NamesDistinct config.networkInterfaceCount.toNat config.networkInterfaces
  /-- `notification_enabled` is 0 or 1. -/
  notificationEnabled : config.notificationEnabled ≤ 1
  /-- Notifications that are enabled have a command, which is terminated. -/
  notificationCommand : config.notificationEnabled = 1 →
    config.notificationCommand.cstr ≠ [] ∧ config.notificationCommand.Terminated
  /-- The thresholds of the CPU. -/
  cpu : SystemPairRule config.cpuWarningThreshold config.cpuCriticalThreshold
  /-- Of the CPU of a process. -/
  processCpu : ProcessPairRule config.processCpuWarningThreshold config.processCpuCriticalThreshold
  /-- Of the memory of a process. -/
  processMemory : ProcessPairRule config.processMemoryWarningThresholdMib
    config.processMemoryCriticalThresholdMib
  /-- Of the memory. -/
  memory : SystemPairRule config.memoryWarningThreshold config.memoryCriticalThreshold
  /-- Of the disk. -/
  disk : SystemPairRule config.diskWarningThreshold config.diskCriticalThreshold
  /-- `log_file` is not empty, and terminated. -/
  logFile : config.logFile.cstr ≠ [] ∧ config.logFile.Terminated
  /-- `process_name` is terminated. -/
  processName : config.processName.Terminated
  /-- The log may have some size. -/
  logMaxSize : 0 < config.logMaxSize

variable {config : AppConfig}

theorem validateProcessName_eq_none : (∀ i, validateProcessName config i = none) ↔
    NamesUsable config.processNameCount.toNat config.processNames := by
  refine forall_congr' fun i => ?_
  unfold validateProcessName
  by_cases hi : i < config.processNameCount.toNat
  · rw [if_pos hi, forall_prop_of_true hi, ← head?_ne_and_terminated_iff]
    simp only [Option.orElse_eq_orElse, Option.orElse_eq_or, Option.or_eq_none_iff,
      reject_eq_none, not_not]
  · simp [hi]

theorem validateNetworkInterface_eq_none : (∀ i, validateNetworkInterface config i = none) ↔
    NamesUsable config.networkInterfaceCount.toNat config.networkInterfaces ∧
      NamesDistinct config.networkInterfaceCount.toNat config.networkInterfaces := by
  rw [namesDistinct_iff, NamesUsable, ← forall_and]
  refine forall_congr' fun i => ?_
  unfold validateNetworkInterface
  by_cases hi : i < config.networkInterfaceCount.toNat
  · rw [if_pos hi, forall_prop_of_true hi, forall_prop_of_true hi, ← head?_ne_and_terminated_iff,
      and_assoc]
    simp only [Option.orElse_eq_orElse, Option.orElse_eq_or, Option.or_eq_none_iff,
      reject_eq_none, not_not]
  · simp [hi]

/-- **The validator** accepts a configuration that keeps the rules it checks. -/
theorem configValidate_eq_none_iff_checked : configValidate config = none ↔ Checked config := by
  rw [configValidate_eq_none, validateProcessName_eq_none, validateNetworkInterface_eq_none,
    validateThresholdPair_eq_none, validateProcessThresholdPair_eq_none,
    validateProcessThresholdPair_eq_none, validateThresholdPair_eq_none,
    validateThresholdPair_eq_none]
  have hcommand : config.notificationCommand.Terminated →
      (¬ (config.notificationEnabled = 1 ∧ config.notificationCommand.bytes.head? = some 0) ↔
        (config.notificationEnabled = 1 → config.notificationCommand.cstr ≠ [])) := by
    intro hterminated
    rw [not_and, ne_eq, head?_eq_zero_iff hterminated]
  constructor
  · rintro ⟨hinterval, hpid, hcount, hnames, hcount', ⟨hnames', hdistinct⟩, henabled, hterminated,
      hmissing, hcpu, hprocessCpu, hprocessMemory, hmemory, hdisk, hlog, hsize⟩
    exact ⟨UInt32.pos_iff_ne_zero.mpr hinterval, hpid, hcount, hnames, hcount', hnames', hdistinct,
      UInt32.not_lt.mp henabled, hterminated, (hcommand hterminated).mp hmissing, hcpu,
      hprocessCpu, hprocessMemory, hmemory, hdisk, hlog, UInt64.pos_iff_ne_zero.mpr hsize⟩
  · intro h
    exact ⟨UInt32.pos_iff_ne_zero.mp h.monitorInterval, h.processPid, h.processNameCount,
      h.processNames, h.networkInterfaceCount, ⟨h.networkInterfaces, h.networkInterfaces_distinct⟩,
      UInt32.not_lt.mpr h.notificationEnabled, h.notificationCommand,
      (hcommand h.notificationCommand).mpr h.notificationCommand_ne_nil, h.cpu, h.processCpu,
      h.processMemory, h.memory, h.disk, h.logFile, UInt64.pos_iff_ne_zero.mp h.logMaxSize⟩

/-- Of a configuration that keeps the rules that are checked, the others are all that matters. -/
theorem rules_iff_unchecked (h : Checked config) : Rules config ↔ Unchecked config := by
  constructor
  · intro hrules
    exact
      { processNames_distinct := hrules.processNames_distinct
        processName := hrules.processName
        logFile := hrules.logFile.2
        cpu := (systemPairRule_iff.mp hrules.cpu).2
        processCpu := (processPairRule_iff.mp hrules.processCpu).2
        processMemory := (processPairRule_iff.mp hrules.processMemory).2
        memory := (systemPairRule_iff.mp hrules.memory).2
        disk := (systemPairRule_iff.mp hrules.disk).2 }
  · intro hunchecked
    exact
      { h with
        processNames_distinct := hunchecked.processNames_distinct
        processName := hunchecked.processName
        notificationCommand := fun henabled =>
          ⟨h.notificationCommand_ne_nil henabled, h.notificationCommand⟩
        logFile := (head?_ne_and_terminated_iff _).mp ⟨h.logFile, hunchecked.logFile⟩
        cpu := systemPairRule_iff.mpr ⟨h.cpu, hunchecked.cpu⟩
        processCpu := processPairRule_iff.mpr ⟨h.processCpu, hunchecked.processCpu⟩
        processMemory := processPairRule_iff.mpr ⟨h.processMemory, hunchecked.processMemory⟩
        memory := systemPairRule_iff.mpr ⟨h.memory, hunchecked.memory⟩
        disk := systemPairRule_iff.mpr ⟨h.disk, hunchecked.disk⟩ }

/-- **The rules** hold of a configuration once the validator accepts it, if and only if one of
the rules that it checks is broken, so that it does not, or the others hold: no two process names
are the same, `process_name` and `log_file` are terminated, and no threshold is NaN. -/
theorem validated_rules_iff (config : AppConfig) :
    (configValidate config = none → Rules config) ↔ ¬ Checked config ∨ Unchecked config := by
  rw [configValidate_eq_none_iff_checked, ← imp_iff_not_or]
  constructor
  · intro hrules hchecked
    exact (rules_iff_unchecked hchecked).mp (hrules hchecked)
  · intro hunchecked hchecked
    exact (rules_iff_unchecked hchecked).mpr (hunchecked hchecked)

/-- The defaults, with the same process name twice. -/
def AppConfig.sameNames : AppConfig :=
  { configSetDefaults .zero with
    processNames := fun _ => (CharArray.zero _).store (ascii "sshd")
    processNameCount := 2
    processName := (CharArray.zero _).store (ascii "sshd") }

/-- A configuration with the same process name twice is accepted. -/
theorem sameNames_accepted : ¬ ∀ config, configValidate config = none → Rules config := by
  intro h
  have hvalid : configValidate .sameNames = none := by decide +kernel
  exact (h .sameNames hvalid).processNames_distinct 0 1 (by decide) (by decide) (by decide) rfl

end EdgeSentinel.Config
