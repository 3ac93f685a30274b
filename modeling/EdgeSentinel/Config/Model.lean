import EdgeSentinel.CLib.Numbers
import Mathlib.Data.Fintype.Pi

/-!
# The configuration

`config.h` and `config.c`: the configuration record, its defaults, the parser of the
configuration file, and the validator.

## The model

* `AppConfig` has the fields of the C struct, its character arrays with all of their
  bytes: what is behind a NUL stays there when a shorter string is copied over it.
* `configSetValue` returns the status the C function returns, and the record it leaves
  behind, so that what a rejected value does to the record can be asked.
* `configLoad` reads a file as the pieces `fgets` cuts it into (`ConfigFile`).
* `configValidate` returns the first problem the C function would print, or none where
  it returns 0.

Printing (`config_print`, and the warnings on stderr) is left out.
-/

namespace EdgeSentinel.Config

open CLib

/-- `CONFIG_MAX_PROCESS_NAMES`. -/
abbrev maxProcessNames : ℕ := 8

/-- `CONFIG_PROCESS_NAME_LENGTH`. -/
abbrev processNameLength : ℕ := 256

/-- `CONFIG_MAX_NETWORK_INTERFACES`. -/
abbrev maxNetworkInterfaces : ℕ := 8

/-- `CONFIG_NETWORK_INTERFACE_NAME_LENGTH`. -/
abbrev networkInterfaceNameLength : ℕ := 32

/-- `CONFIG_NOTIFICATION_COMMAND_LENGTH`. -/
abbrev notificationCommandLength : ℕ := 256

/-- `CONFIG_PATH_LENGTH`. -/
abbrev pathLength : ℕ := 256

/-- `AppConfig`. -/
structure AppConfig where
  /-- The sampling interval in seconds. -/
  monitorInterval : UInt32
  /-- The PID to monitor; 0 is EdgeSentinel itself. -/
  processPid : UInt32
  /-- The single process name of older configurations. -/
  processName : CharArray processNameLength
  /-- The process names. -/
  processNames : Fin maxProcessNames → CharArray processNameLength
  /-- How many of them are used. -/
  processNameCount : UInt32
  /-- The network interfaces to count. -/
  networkInterfaces : Fin maxNetworkInterfaces → CharArray networkInterfaceNameLength
  /-- How many of them are used; 0 counts every interface but the loopback. -/
  networkInterfaceCount : UInt32
  /-- Whether alerts are sent: 0 or 1. -/
  notificationEnabled : UInt32
  /-- The program that receives them. -/
  notificationCommand : CharArray notificationCommandLength
  /-- From here on the CPU usage is a warning. -/
  cpuWarningThreshold : Double
  /-- From here on it is critical. -/
  cpuCriticalThreshold : Double
  /-- The same for the CPU usage of a process, one core being 100. -/
  processCpuWarningThreshold : Double
  /-- Its critical threshold. -/
  processCpuCriticalThreshold : Double
  /-- The same for the resident memory of a process. -/
  processMemoryWarningThresholdMib : Double
  /-- Its critical threshold. -/
  processMemoryCriticalThresholdMib : Double
  /-- The same for the memory usage. -/
  memoryWarningThreshold : Double
  /-- Its critical threshold. -/
  memoryCriticalThreshold : Double
  /-- The same for the disk usage. -/
  diskWarningThreshold : Double
  /-- Its critical threshold. -/
  diskCriticalThreshold : Double
  /-- The path of the log file. -/
  logFile : CharArray pathLength
  /-- The size in bytes from which on the log file is rotated. -/
  logMaxSize : UInt64
  deriving DecidableEq

/-- The names in use in a list of names. -/
def usedNames {size : ℕ} (count : ℕ) (names : Fin 8 → CharArray size) : List Bytes :=
  (List.ofFn fun i => (names i).cstr).take count

/-- `config_set_defaults`. The strings are emptied by their first byte; the two lists of
names are zeroed. -/
def configSetDefaults (config : AppConfig) : AppConfig :=
  { config with
    monitorInterval := 1
    processPid := 0
    processName := config.processName.store []
    processNames := fun _ => .zero processNameLength
    processNameCount := 0
    networkInterfaces := fun _ => .zero networkInterfaceNameLength
    networkInterfaceCount := 0
    notificationEnabled := 0
    notificationCommand := config.notificationCommand.store []
    cpuWarningThreshold := .finite 70
    cpuCriticalThreshold := .finite 90
    processCpuWarningThreshold := .finite 70
    processCpuCriticalThreshold := .finite 90
    processMemoryWarningThresholdMib := .finite 100
    processMemoryCriticalThresholdMib := .finite 200
    memoryWarningThreshold := .finite 75
    memoryCriticalThreshold := .finite 90
    diskWarningThreshold := .finite 80
    diskCriticalThreshold := .finite 90
    logFile := config.logFile.store (ascii "logs/edgesentinel.log")
    logMaxSize := 1048576 }

/-! ### Values -/

/-- `parse_unsigned_long`, where `unsigned long` has the largest value `max`. -/
def parseUnsignedLong (max : ℕ) (text : Bytes) : Option ℕ :=
  if text = [] then none
  else if ¬ (text.head?.any isdigit) then none
  else
    let (value, rest, range) := strtoul max text
    if rest = text ∨ rest ≠ [] ∨ range then none else some value

/-- `parse_unsigned_int`, where `unsigned long` has the largest value `max`. -/
def parseUnsignedInt (max : ℕ) (text : Bytes) : Option ℕ :=
  if text = [] then none
  else if ¬ (text.head?.any isdigit) then none
  else
    let (value, rest, range) := strtoul max text
    if rest = text ∨ rest ≠ [] ∨ range ∨ uintMax < value then none else some value

/-- `parse_double`. -/
def parseDouble (text : Bytes) : Option Double :=
  if text = [] then none
  else
    let (value, rest, range) := strtod text
    if rest = text ∨ rest ≠ [] ∨ range ∨ ¬ value.IsFinite then none else some value

/-- The results of `config_set_value`. -/
inductive ConfigValueStatus where
  /-- `CONFIG_VALUE_INVALID`: the key is known, the value is not valid. -/
  | invalid
  /-- `CONFIG_VALUE_OK`. -/
  | ok
  /-- `CONFIG_KEY_UNKNOWN`. -/
  | unknown
  deriving DecidableEq, Repr

/-- A branch of `config_set_value` for an `unsigned int`. -/
def setUnsignedInt (config : AppConfig) (value : Bytes) (set : UInt32 → AppConfig) :
    ConfigValueStatus × AppConfig :=
  match parseUnsignedInt ulongMax value with
  | none => (.invalid, config)
  | some v => (.ok, set (UInt32.ofNat v))

/-- A branch of `config_set_value` for a `double`. -/
def setDouble (config : AppConfig) (value : Bytes) (set : Double → AppConfig) :
    ConfigValueStatus × AppConfig :=
  match parseDouble value with
  | none => (.invalid, config)
  | some v => (.ok, set v)

/-- A branch of `config_set_value` for a string in a buffer of `size` bytes. -/
def setString (config : AppConfig) (value : Bytes) (size : ℕ) (set : Bytes → AppConfig) :
    ConfigValueStatus × AppConfig :=
  if size ≤ value.length then (.invalid, config) else (.ok, set value)

/-- `,`. -/
def comma : UInt8 := 0x2c

/-- The loop over the tokens of a list of names: `prepare` is what is done to a token
before its length is checked, `count` and `parsed` are the names so far. -/
def parseNames {size : ℕ} (prepare : Bytes → Bytes) :
    List Bytes → ℕ → (Fin 8 → CharArray size) → Option (ℕ × (Fin 8 → CharArray size))
  | [], count, parsed => some (count, parsed)
  | token :: tokens, count, parsed =>
    if h : count < 8 then
      let name := prepare token
      if name.length = 0 ∨ size ≤ name.length then none
      else if ∃ i : Fin 8, i < count ∧ (parsed i).cstr = name then none
      else
        parseNames prepare tokens (count + 1)
          (Function.update parsed ⟨count, h⟩ ((parsed ⟨count, h⟩).store name))
    else none

/-- The commas that make a list of names invalid: one at an end, or two in a row. -/
def HasEmptyName (value : Bytes) : Prop :=
  value.head? = some comma ∨ value.getLast? = some comma ∨ [comma, comma] <:+: value

instance (value : Bytes) : Decidable (HasEmptyName value) :=
  inferInstanceAs (Decidable (_ ∨ _ ∨ _))

/-- A branch of `config_set_value` for a list of names. The copy of the list in
`names_buffer` has to fit. -/
def setNames (size : ℕ) (config : AppConfig) (value : Bytes) (prepare : Bytes → Bytes)
    (set : UInt32 → (Fin 8 → CharArray size) → AppConfig) : ConfigValueStatus × AppConfig :=
  if HasEmptyName value then (.invalid, config)
  else if 8 * size ≤ value.length then (.invalid, config)
  else
    match parseNames prepare (strtok comma value) 0 fun _ => .zero size with
    | none => (.invalid, config)
    | some (count, parsed) =>
      if count = 0 then (.invalid, config) else (.ok, set (UInt32.ofNat count) parsed)

/-- The branch of `config_set_value` for `process_names`: `process_name` is set to the
first name. -/
def setProcessNames (config : AppConfig) (value : Bytes) : ConfigValueStatus × AppConfig :=
  if value.length = 0 then (.invalid, config)
  else
    setNames processNameLength config value id fun count parsed =>
      { config with
        processNames := parsed
        processNameCount := count
        processName := config.processName.store (parsed 0).cstr }

/-- The branch of `config_set_value` for `network_interfaces`: the names are trimmed. -/
def setNetworkInterfaces (config : AppConfig) (value : Bytes) : ConfigValueStatus × AppConfig :=
  setNames networkInterfaceNameLength config value trim fun count parsed =>
    { config with networkInterfaces := parsed, networkInterfaceCount := count }

/-- The branch of `config_set_value` for `notification_enabled`. -/
def setNotificationEnabled (config : AppConfig) (value : Bytes) : ConfigValueStatus × AppConfig :=
  match parseUnsignedInt ulongMax value with
  | none => (.invalid, config)
  | some v =>
    if 1 < v then (.invalid, config)
    else (.ok, { config with notificationEnabled := UInt32.ofNat v })

/-- The branch of `config_set_value` for `log_max_size`. -/
def setLogMaxSize (config : AppConfig) (value : Bytes) : ConfigValueStatus × AppConfig :=
  match parseUnsignedLong ulongMax value with
  | none => (.invalid, config)
  | some v => (.ok, { config with logMaxSize := UInt64.ofNat v })

/-- `config_set_value`: the status it returns, and the record it leaves behind. -/
def configSetValue (config : AppConfig) (key value : Bytes) : ConfigValueStatus × AppConfig :=
  if key = ascii "monitor_interval" then
    setUnsignedInt config value fun v => { config with monitorInterval := v }
  else if key = ascii "process_pid" then
    setUnsignedInt config value fun v => { config with processPid := v }
  else if key = ascii "process_name" then
    setString config value processNameLength fun v =>
      { config with processName := config.processName.store v }
  else if key = ascii "process_names" then setProcessNames config value
  else if key = ascii "network_interfaces" then setNetworkInterfaces config value
  else if key = ascii "notification_enabled" then setNotificationEnabled config value
  else if key = ascii "notification_command" then
    setString config value notificationCommandLength fun v =>
      { config with notificationCommand := config.notificationCommand.store v }
  else if key = ascii "cpu_warning_threshold" then
    setDouble config value fun v => { config with cpuWarningThreshold := v }
  else if key = ascii "cpu_critical_threshold" then
    setDouble config value fun v => { config with cpuCriticalThreshold := v }
  else if key = ascii "process_cpu_warning_threshold" then
    setDouble config value fun v => { config with processCpuWarningThreshold := v }
  else if key = ascii "process_cpu_critical_threshold" then
    setDouble config value fun v => { config with processCpuCriticalThreshold := v }
  else if key = ascii "process_memory_warning_threshold_mib" then
    setDouble config value fun v => { config with processMemoryWarningThresholdMib := v }
  else if key = ascii "process_memory_critical_threshold_mib" then
    setDouble config value fun v => { config with processMemoryCriticalThresholdMib := v }
  else if key = ascii "memory_warning_threshold" then
    setDouble config value fun v => { config with memoryWarningThreshold := v }
  else if key = ascii "memory_critical_threshold" then
    setDouble config value fun v => { config with memoryCriticalThreshold := v }
  else if key = ascii "disk_warning_threshold" then
    setDouble config value fun v => { config with diskWarningThreshold := v }
  else if key = ascii "disk_critical_threshold" then
    setDouble config value fun v => { config with diskCriticalThreshold := v }
  else if key = ascii "log_file" then
    setString config value pathLength fun v =>
      { config with logFile := config.logFile.store v }
  else if key = ascii "log_max_size" then setLogMaxSize config value
  else (.unknown, config)

/-! ### Files -/

/-- A configuration file that has been opened: what can be read of it until its end or until
reading fails, which of the two it was, and whether `fclose` succeeds. The source does
not ask how reading ended. -/
structure ConfigFile where
  /-- The bytes that can be read. -/
  content : Bytes
  /-- Reading ended with an I/O error, not with the end of the file. -/
  readError : Bool
  /-- `fclose` succeeds. -/
  closes : Bool

/-- The size of the buffer `line`. -/
abbrev lineSize : ℕ := 512

/-- The pieces that `fgets` reads into `line`, until it returns NULL. -/
def ConfigFile.pieces (file : ConfigFile) : List Bytes :=
  if file.readError then fgetsUntilError lineSize file.content []
  else fgetsPieces lineSize file.content

/-- One round of the loop of `config_load`: a piece of the file, read into `line`. The
line is skipped, or recorded as an error, or assigned. -/
def configLoadLine (piece : Bytes) (loaded : AppConfig × Bool) : AppConfig × Bool :=
  let key := trim (cstr piece)
  if key = [] ∨ key.head? = some 0x23 then loaded
  else
    match strchr 0x3d key with
    | none => (loaded.1, true)
    | some (key, value) =>
      let key := trim key
      let value := trim value
      if key = [] ∨ value = [] then (loaded.1, true)
      else
        match configSetValue loaded.1 key value with
        | (.ok, config) => (config, loaded.2)
        | (_, config) => (config, true)

/-- `config_load`: whether it returns 0, and the caller's record. A file that cannot be
opened is none. -/
def configLoad (file : Option ConfigFile) (config : AppConfig) : Bool × AppConfig :=
  match file with
  | none => (false, config)
  | some file =>
    let (loaded, hasError) :=
      file.pieces.foldl (fun l piece => configLoadLine piece l) (config, false)
    if ¬ file.closes then (false, config)
    else if hasError then (false, config)
    else (true, loaded)

/-! ### Validation -/

/-- What `config_validate` can complain about. -/
inductive ConfigProblem where
  /-- `Invalid monitor_interval: must be greater than 0`. -/
  | monitorInterval
  /-- `Invalid process_pid: … exceeds maximum …`. -/
  | processPid
  /-- `Invalid process_name_count: … exceeds maximum …`. -/
  | processNameCount
  /-- `Invalid process_names[…]: name is empty`. -/
  | processNameEmpty (i : Fin maxProcessNames)
  /-- `Invalid process_names[…]: name is not null-terminated`. -/
  | processNameNotTerminated (i : Fin maxProcessNames)
  /-- `Invalid network_interface_count: … exceeds maximum …`. -/
  | networkInterfaceCount
  /-- `Invalid network_interfaces[…]: name is empty`. -/
  | networkInterfaceEmpty (i : Fin maxNetworkInterfaces)
  /-- `Invalid network_interfaces[…]: name is not null-terminated`. -/
  | networkInterfaceNotTerminated (i : Fin maxNetworkInterfaces)
  /-- `Invalid network_interfaces[…]: duplicate interface name …`. -/
  | networkInterfaceDuplicate (i : Fin maxNetworkInterfaces)
  /-- `Invalid notification_enabled: expected 0 or 1, got …`. -/
  | notificationEnabled
  /-- `Invalid notification_command: path is not null-terminated`. -/
  | notificationCommandNotTerminated
  /-- `notification_command is required when notification is enabled`. -/
  | notificationCommandMissing
  /-- `Invalid … warning threshold`. -/
  | warningThreshold (resource : Bytes)
  /-- `Invalid … critical threshold`. -/
  | criticalThreshold (resource : Bytes)
  /-- `Invalid … thresholds: warning … must be lower than critical …`. -/
  | thresholdOrder (resource : Bytes)
  /-- `Invalid log_file: path is empty`. -/
  | logFile
  /-- `Invalid log_max_size: must be greater than 0`. -/
  | logMaxSize
  deriving DecidableEq, Repr

/-- A check: `problem` is what is wrong where `bad` holds. -/
def reject (bad : Prop) [Decidable bad] (problem : ConfigProblem) : Option ConfigProblem :=
  if bad then some problem else none

/-- `validate_threshold_pair`. -/
def validateThresholdPair (resource : Bytes) (warning critical : Double) : Option ConfigProblem :=
  reject (warning.lt (.finite 0) ∨ (Double.finite 100).lt warning) (.warningThreshold resource)
  <|> reject (critical.lt (.finite 0) ∨ (Double.finite 100).lt critical) (.criticalThreshold resource)
  <|> reject (critical.le warning) (.thresholdOrder resource)

/-- `validate_process_cpu_threshold_pair` and `validate_process_memory_threshold_pair`:
there is no upper bound. -/
def validateProcessThresholdPair (resource : Bytes) (warning critical : Double) :
    Option ConfigProblem :=
  reject (warning.lt (.finite 0)) (.warningThreshold resource)
  <|> reject (critical.lt (.finite 0)) (.criticalThreshold resource)
  <|> reject (critical.le warning) (.thresholdOrder resource)

/-- The checks of one process name. -/
def validateProcessName (config : AppConfig) (i : Fin maxProcessNames) : Option ConfigProblem :=
  if i < config.processNameCount.toNat then
    reject ((config.processNames i).bytes.head? = some 0) (.processNameEmpty i)
    <|> reject (¬ (config.processNames i).Terminated) (.processNameNotTerminated i)
  else none

/-- The checks of one network interface. -/
def validateNetworkInterface (config : AppConfig) (i : Fin maxNetworkInterfaces) :
    Option ConfigProblem :=
  if i < config.networkInterfaceCount.toNat then
    reject ((config.networkInterfaces i).bytes.head? = some 0) (.networkInterfaceEmpty i)
    <|> reject (¬ (config.networkInterfaces i).Terminated) (.networkInterfaceNotTerminated i)
    <|> reject (∃ j < i, (config.networkInterfaces j).cstr = (config.networkInterfaces i).cstr)
      (.networkInterfaceDuplicate i)
  else none

/-- `config_validate`: the first problem it finds; none is its result 0. -/
def configValidate (config : AppConfig) : Option ConfigProblem :=
  reject (config.monitorInterval = 0) .monitorInterval
  <|> reject (intMax < config.processPid.toNat) .processPid
  <|> reject (maxProcessNames < config.processNameCount.toNat) .processNameCount
  <|> (List.finRange maxProcessNames).findSome? (validateProcessName config)
  <|> reject (maxNetworkInterfaces < config.networkInterfaceCount.toNat) .networkInterfaceCount
  <|> (List.finRange maxNetworkInterfaces).findSome? (validateNetworkInterface config)
  <|> reject (1 < config.notificationEnabled) .notificationEnabled
  <|> reject (¬ config.notificationCommand.Terminated) .notificationCommandNotTerminated
  <|> reject (config.notificationEnabled = 1 ∧ config.notificationCommand.bytes.head? = some 0)
    .notificationCommandMissing
  <|> validateThresholdPair (ascii "CPU") config.cpuWarningThreshold config.cpuCriticalThreshold
  <|> validateProcessThresholdPair (ascii "process CPU")
    config.processCpuWarningThreshold config.processCpuCriticalThreshold
  <|> validateProcessThresholdPair (ascii "process memory")
    config.processMemoryWarningThresholdMib config.processMemoryCriticalThresholdMib
  <|> validateThresholdPair (ascii "memory")
    config.memoryWarningThreshold config.memoryCriticalThreshold
  <|> validateThresholdPair (ascii "disk") config.diskWarningThreshold config.diskCriticalThreshold
  <|> reject (config.logFile.bytes.head? = some 0) .logFile
  <|> reject (config.logMaxSize = 0) .logMaxSize

end EdgeSentinel.Config
