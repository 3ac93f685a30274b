import EdgeSentinel.Config.OneLine
import EdgeSentinel.Config.Sound
import EdgeSentinel.Monitor.SetUp
import EdgeSentinel.Monitor.TextOutput

/-!
# What is printed besides the rounds

With `--output text` the standard output has other lines, too: the progress messages for
`status_stream`, and what `config_print` prints of the configuration in effect, at the start and
behind a reload. The names in them come from the configuration file, and the path of this file
from the command line.

## The model

* `configPrint` — the lines of `config_print`.
* `startMessages`, `reloadMessages`, `foundMessage`, `stopMessages` — what `main` and
  `monitor_process_once` print around them.

## What is proved

* `aside_of_label` — a line with a beginning that no line of a round has is no line of a round,
  whatever follows.
* `aside_startMessages`, `aside_reloadMessages`, `aside_foundMessage` — **none of these lines** can
  be taken for one of a round, whatever the names are, as long as they are on one line.
-/

namespace EdgeSentinel.Monitor

open CLib Config Encoding

/-! ### The messages -/

/-- `config_print`: the fixed beginning of each line, and what follows it. -/
def configPrintParts (config : AppConfig) : List (Bytes × Bytes) :=
  [(ascii "========== EdgeSentinel Configuration ==========", []),
    (ascii "monitor_interval          : ",
      decimal config.monitorInterval.toNat ++ ascii " second(s)"),
    (ascii "process_pid               : ", decimal config.processPid.toNat ++
      if 0 < config.processNameCount then ascii " (ignored: process_names has priority)"
      else if config.processName.cstr ≠ [] then ascii " (ignored: process_name has priority)"
      else if config.processPid = 0 then ascii " (self)"
      else []),
    (ascii "process_name              : ",
      if 0 < config.processNameCount then config.processName.cstr ++ ascii " (compatibility field)"
      else if config.processName.cstr ≠ [] then config.processName.cstr
      else ascii "(not set)"),
    (ascii "process_name_count        : ", decimal config.processNameCount.toNat)] ++
  (usedNames config.processNameCount.toNat config.processNames).zipIdx.map (fun name =>
    (ascii "process_names[", decimal name.2 ++ ascii "]         : " ++ name.1)) ++
  [(ascii "network_interface_count    : ", decimal config.networkInterfaceCount.toNat)] ++
  (if config.networkInterfaceCount = 0 then
    [(ascii "network_interfaces        : ", ascii "(all non-loopback interfaces)")]
  else
    (usedNames config.networkInterfaceCount.toNat config.networkInterfaces).zipIdx.map fun name =>
      (ascii "network_interfaces[", decimal name.2 ++ ascii "]     : " ++ name.1)) ++
  [(ascii "notification_enabled       : ", decimal config.notificationEnabled.toNat ++
      if config.notificationEnabled ≠ 0 then ascii " (enabled)" else ascii " (disabled)"),
    (ascii "notification_command       : ",
      if config.notificationCommand.cstr ≠ [] then config.notificationCommand.cstr
      else ascii "(not set)"),
    (ascii "cpu_warning_threshold     : ", fixed2 config.cpuWarningThreshold ++ ascii "%"),
    (ascii "cpu_critical_threshold    : ", fixed2 config.cpuCriticalThreshold ++ ascii "%"),
    (ascii "process_cpu_warning_threshold  : ",
      fixed2 config.processCpuWarningThreshold ++ ascii "%"),
    (ascii "process_cpu_critical_threshold : ",
      fixed2 config.processCpuCriticalThreshold ++ ascii "%"),
    (ascii "process_memory_warning_threshold_mib  : ",
      fixed2 config.processMemoryWarningThresholdMib ++ ascii " MiB"),
    (ascii "process_memory_critical_threshold_mib : ",
      fixed2 config.processMemoryCriticalThresholdMib ++ ascii " MiB"),
    (ascii "memory_warning_threshold  : ", fixed2 config.memoryWarningThreshold ++ ascii "%"),
    (ascii "memory_critical_threshold : ", fixed2 config.memoryCriticalThreshold ++ ascii "%"),
    (ascii "disk_warning_threshold    : ", fixed2 config.diskWarningThreshold ++ ascii "%"),
    (ascii "disk_critical_threshold   : ", fixed2 config.diskCriticalThreshold ++ ascii "%"),
    (ascii "log_file                  : ", config.logFile.cstr),
    (ascii "log_max_size              : ", decimal config.logMaxSize.toNat ++ ascii " bytes"),
    (ascii "================================================", [])]

/-- The lines of `config_print`. -/
def configPrint (config : AppConfig) : List Bytes :=
  (configPrintParts config).map fun part => part.1 ++ part.2

/-- What is printed of a process behind the start and behind a reload. -/
def targetMessage (i : ProcessIndex) (p : MonitoredProcess) : Bytes :=
  if p.targetName.bytes ≠ [] then
    if 0 < p.currentPid then
      ascii "Monitoring process[" ++ (decimal i ++ ascii "]: " ++ p.targetName.bytes ++
        ascii " (PID: " ++ decimalInt p.currentPid.toInt ++ ascii ")")
    else ascii "Waiting for process[" ++ (decimal i ++ ascii "]: " ++ p.targetName.bytes)
  else
    ascii "Monitoring process[" ++ (decimal i ++ ascii "] PID: " ++ decimalInt p.currentPid.toInt ++
      if p.configuredPid = 0 then ascii " (self)" else [])

/-- What is printed of all of them. -/
def targetMessages (s : MainState) : List Bytes :=
  (processIndices s.processCount).map fun i => targetMessage i (s.processes i)

/-- What is printed of the network. -/
def interfacesMessage (config : AppConfig) : Bytes :=
  if config.networkInterfaceCount = 0 then ascii "Monitoring all non-loopback network interfaces."
  else ascii "Monitoring selected network interfaces:" ++
    (ascii " " ++ (ascii ", ").intercalate (selectedInterfaces config) ++ ascii ".")

/-- The targets that are not found at the start. -/
def notRunningMessages (calls : StartCalls) (config : AppConfig) : List Bytes :=
  (processIndices (monitoredProcessCount config)).filterMap fun i =>
    if targetProcessName config i ≠ [] ∧
      findProcessByName (calls.scans i) (targetProcessName config i) = none
    then some (ascii "Target process is not running yet: " ++ targetProcessName config i)
    else none

/-- What a start that succeeds prints; `path` is the path of the configuration file. -/
def startMessages (path : Bytes) (calls : StartCalls) (s : MainState) : List Bytes :=
  notRunningMessages calls s.config ++
  [ascii "Configuration file: " ++ path] ++
  configPrint s.config ++
  [ascii "EdgeSentinel system monitor started."] ++
  targetMessages s ++
  [ascii "Monitoring disk mount point: /", interfacesMessage s.config,
    ascii "Press Ctrl+C to stop.", []]

/-- What a reload that is applied prints. -/
def reloadMessages (s : MainState) : List Bytes :=
  ascii "Configuration reloaded successfully." :: configPrint s.config ++ targetMessages s

/-- `Target process found`. -/
def foundMessage (name : Bytes) (pid : Int32) : Bytes :=
  ascii "Target process found: " ++
    (name ++ ascii " (PID: " ++ decimalInt pid.toInt ++ ascii ")")

/-- What is printed behind the loop. -/
def stopMessages : List Bytes := [[], ascii "EdgeSentinel stopped safely."]

/-! ### Lines that are no lines of a round -/

/-- A line that is no line of a round. -/
structure Aside (line : Bytes) : Prop where
  /-- It is one line. -/
  newline_not_mem : newline ∉ line
  /-- It is not read as one. -/
  unread : readTextLine line = none

/-- A beginning that no line of a round has. -/
def foreign (label : Bytes) : Bool :=
  ! label.contains newline &&
    textWords.all fun w => ! w.1.isPrefixOf label && ! label.isPrefixOf w.1

variable {label value : Bytes} {config : AppConfig} {s : MainState}

/-- No word of a round stands at the beginning of such a line. -/
theorem readWord_foreign (h : foreign label = true) (value : Bytes) :
    readWord textWords (label ++ value) = none := by
  refine List.findSome?_eq_none_iff.mpr fun w hw => ?_
  have hword := List.all_eq_true.mp (Bool.and_eq_true_iff.mp h).2 w hw
  simp only [Bool.and_eq_true, Bool.not_eq_true', ← Bool.not_eq_true, List.isPrefixOf_iff_prefix]
    at hword
  have hnot : ¬ (label ++ value).take w.1.length = w.1 := by
    intro htake
    have hbegins : w.1 <+: label ++ value := htake ▸ List.take_prefix _ _
    rcases List.prefix_or_prefix_of_prefix hbegins (List.prefix_append label value) with h₁ | h₂
    · exact hword.1 h₁
    · exact hword.2 h₂
  rw [scanLiteral, if_neg hnot, Option.map_none]

/-- **A line with such a beginning** is no line of a round. -/
theorem aside_of_label (h : foreign label = true) (hvalue : newline ∉ value) :
    Aside (label ++ value) where
  newline_not_mem := by
    have hlabel : newline ∉ label := by simpa using (Bool.and_eq_true_iff.mp h).1
    rw [List.mem_append, not_or]
    exact ⟨hlabel, hvalue⟩
  unread := by
    rw [readTextLine, readWord_foreign h value]
    rfl

/-- So is the beginning alone. -/
theorem aside_of_foreign (h : foreign label = true) : Aside label := by
  have haside := aside_of_label h List.not_mem_nil
  rwa [List.append_nil] at haside

/-- An empty line is none. -/
theorem aside_nil : Aside [] := ⟨List.not_mem_nil, by decide⟩

/-! ### The configuration -/

theorem newline_not_mem_fixed2 (d : Double) : newline ∉ fixed2 d := by
  cases d with
  | finite q => exact (not_mem_number rfl).2.2 q
  | nan => decide
  | inf negative => cases negative <;> decide
  | negZero => decide

/-- A part with such a beginning, and nothing but a part of a line behind it. -/
def ForeignPart (part : Bytes × Bytes) : Prop := foreign part.1 = true ∧ newline ∉ part.2

/-- **What `config_print` prints** has no line of a round, if the strings of the record are on one
line. -/
theorem foreign_configPrintParts (h : OneLine config) :
    ∀ part ∈ configPrintParts config, ForeignPart part := by
  obtain ⟨hdecimal, -, -⟩ := not_mem_number (b := newline) rfl
  have hname : newline ∉ config.processName.cstr := h .processName
  have hcommand : newline ∉ config.notificationCommand.cstr := h .notificationCommand
  have htext : ∀ {label value : Bytes}, foreign label = true → newline ∉ value →
      ForeignPart (label, value) := fun hlabel hvalue => ⟨hlabel, hvalue⟩
  have hnumber : ∀ {label : Bytes} (n : ℕ) {behind : Bytes}, foreign label = true →
      newline ∉ behind → ForeignPart (label, decimal n ++ behind) := by
    intro label n behind hlabel hbehind
    refine ⟨hlabel, ?_⟩
    simp [hdecimal, hbehind]
  have hdouble : ∀ {label : Bytes} (d : Double) {behind : Bytes}, foreign label = true →
      newline ∉ behind → ForeignPart (label, fixed2 d ++ behind) := by
    intro label d behind hlabel hbehind
    refine ⟨hlabel, ?_⟩
    simp [newline_not_mem_fixed2, hbehind]
  have hlist : ∀ {names : List Bytes} {label behind : Bytes}, foreign label = true →
      newline ∉ behind → (∀ name ∈ names, newline ∉ name) →
      ∀ part ∈ names.zipIdx.map (fun name => (label, decimal name.2 ++ behind ++ name.1)),
        ForeignPart part := by
    intro names label behind hlabel hbehind hnames part hpart
    obtain ⟨name, hname, rfl⟩ := List.mem_map.mp hpart
    have hmem := hnames name.1 (List.fst_mem_of_mem_zipIdx hname)
    refine ⟨hlabel, ?_⟩
    simp [hdecimal, hbehind, hmem]
  unfold configPrintParts
  simp only [List.forall_mem_append, List.forall_mem_cons]
  refine ⟨⟨⟨⟨⟨htext (by decide) (by simp), hnumber _ (by decide) (by decide), ?_,
    htext (by decide) ?_, htext (by decide) (hdecimal _), by simp⟩,
    hlist (by decide) (by decide) (h .processNames)⟩, htext (by decide) (hdecimal _), by simp⟩,
    ?_⟩, ?_, htext (by decide) ?_, ?_⟩
  · refine hnumber _ (by decide) ?_
    split_ifs <;> decide
  · split_ifs
    · rw [List.mem_append, not_or]
      exact ⟨hname, by decide⟩
    · exact hname
    · decide
  · split_ifs
    · simp only [List.forall_mem_singleton]
      exact ⟨by decide, by decide⟩
    · exact hlist (by decide) (by decide) (h .networkInterfaces)
  · refine hnumber _ (by decide) ?_
    split_ifs <;> decide
  · split_ifs
    · exact hcommand
    · decide
  · exact ⟨hdouble _ (by decide) (by decide), hdouble _ (by decide) (by decide),
      hdouble _ (by decide) (by decide), hdouble _ (by decide) (by decide),
      hdouble _ (by decide) (by decide), hdouble _ (by decide) (by decide),
      hdouble _ (by decide) (by decide), hdouble _ (by decide) (by decide),
      hdouble _ (by decide) (by decide), hdouble _ (by decide) (by decide),
      htext (by decide) (h .logFile), hnumber _ (by decide) (by decide),
      htext (by decide) (by simp), by simp⟩

theorem aside_configPrint (h : OneLine config) : ∀ line ∈ configPrint config, Aside line := by
  intro line hline
  obtain ⟨part, hpart, rfl⟩ := List.mem_map.mp hline
  obtain ⟨hlabel, hvalue⟩ := foreign_configPrintParts h part hpart
  exact aside_of_label hlabel hvalue

/-! ### The processes -/

/-- The names of the processes are on one line. -/
def NamesOneLine (s : MainState) : Prop :=
  ∀ i : ProcessIndex, i.val < s.processCount → newline ∉ (s.processes i).targetName.bytes

/-- The names in use are those of the configuration. -/
theorem newline_not_mem_targetProcessName (h : OneLine config) {i : ProcessIndex}
    (hi : i.val < monitoredProcessCount config) : newline ∉ targetProcessName config i := by
  unfold monitoredProcessCount at hi
  unfold targetProcessName
  split_ifs at hi ⊢ with hcount
  · refine h .processNames _ (List.mem_iff_getElem?.mpr ⟨i, ?_⟩)
    rw [getElem?_usedNames hi]
  · exact h .processName

theorem namesOneLine_of_operating (hop : Operating s) (h : OneLine s.config) : NamesOneLine s := by
  intro i hi
  rw [hop.names i hi]
  exact newline_not_mem_targetProcessName h (hop.count ▸ hi)

theorem aside_targetMessages (h : NamesOneLine s) : ∀ line ∈ targetMessages s, Aside line := by
  obtain ⟨hdecimal, hdecimalInt, -⟩ := not_mem_number (b := newline) rfl
  intro line hline
  obtain ⟨i, hi, rfl⟩ := List.mem_map.mp hline
  have hname := h i (mem_processIndices.mp hi)
  unfold targetMessage
  split_ifs
  · refine aside_of_label (by decide) ?_
    simp [hdecimal, hdecimalInt, hname]
    decide
  · refine aside_of_label (by decide) ?_
    simp [hdecimal, hname]
    decide
  · refine aside_of_label (by decide) ?_
    simp [hdecimal, hdecimalInt]
    decide
  · refine aside_of_label (by decide) ?_
    simp [hdecimal, hdecimalInt]
    decide

theorem aside_foundMessage {name : Bytes} (h : newline ∉ name) (pid : Int32) :
    Aside (foundMessage name pid) := by
  refine aside_of_label (by decide) ?_
  simp [h, (not_mem_number (b := newline) rfl).2.1]
  decide

/-! ### The start and the reload -/

theorem aside_notRunningMessages (h : OneLine config) (calls : StartCalls) :
    ∀ line ∈ notRunningMessages calls config, Aside line := by
  intro line hline
  obtain ⟨i, hi, hline⟩ := List.mem_filterMap.mp hline
  split_ifs at hline
  obtain rfl := Option.some.inj hline
  exact aside_of_label (by decide) (newline_not_mem_targetProcessName h (mem_processIndices.mp hi))

theorem newline_not_mem_intercalate {sep : Bytes} {names : List Bytes} (hsep : newline ∉ sep)
    (h : ∀ name ∈ names, newline ∉ name) : newline ∉ sep.intercalate names := by
  induction names with
  | nil => simp
  | cons name names ih =>
    rw [List.forall_mem_cons] at h
    cases names with
    | nil =>
      rw [List.intercalate_singleton]
      exact h.1
    | cons name' names =>
      rw [List.intercalate_cons_cons]
      simp [h.1, hsep, ih h.2]

theorem aside_interfacesMessage (h : OneLine config) : Aside (interfacesMessage config) := by
  have hnames : ∀ name ∈ selectedInterfaces config, newline ∉ name := h .networkInterfaces
  unfold interfacesMessage
  split_ifs
  · exact aside_of_foreign (by decide)
  · refine aside_of_label (by decide) ?_
    have hlist := newline_not_mem_intercalate (show newline ∉ ascii ", " by decide) hnames
    simp [hlist]
    decide

/-- **The messages of the start** have no line of a round. -/
theorem aside_startMessages {path : Bytes} (hpath : newline ∉ path) (calls : StartCalls)
    (h : OneLine s.config) (hnames : NamesOneLine s) :
    ∀ line ∈ startMessages path calls s, Aside line := by
  unfold startMessages
  simp only [List.forall_mem_append, List.forall_mem_cons]
  refine ⟨⟨⟨⟨⟨aside_notRunningMessages h calls, aside_of_label (by decide) hpath, by simp⟩,
    aside_configPrint h⟩, aside_of_foreign (by decide), by simp⟩, aside_targetMessages hnames⟩,
    aside_of_foreign (by decide), aside_interfacesMessage h, aside_of_foreign (by decide),
    aside_nil, by simp⟩

/-- **The messages of a reload** have none. -/
theorem aside_reloadMessages (h : OneLine s.config) (hnames : NamesOneLine s) :
    ∀ line ∈ reloadMessages s, Aside line := by
  unfold reloadMessages
  simp only [List.cons_append, List.forall_mem_append, List.forall_mem_cons]
  exact ⟨aside_of_foreign (by decide), aside_configPrint h, aside_targetMessages hnames⟩

theorem aside_stopMessages : ∀ line ∈ stopMessages, Aside line := by
  unfold stopMessages
  simp only [List.forall_mem_cons]
  exact ⟨aside_nil, aside_of_foreign (by decide), by simp⟩

end EdgeSentinel.Monitor
