import EdgeSentinel.Monitor.LogRotation
import EdgeSentinel.Monitor.LogText
import EdgeSentinel.Monitor.MessageLengths
import EdgeSentinel.Monitor.SystemRecords

/-!
# The log of a run

The daemon writes the records of its log in six places, over as many calls of `logger_write` as it
comes to, into a file that is renamed when it is full. Whoever reads the log has two files, and no
more than what is in them.

## The model

* `Action.Logs` — a call of `logger_write` with the level and the message of a `LogEntry`.
* `LoggerCall.Answered` — a call of the logger that nothing outside the program makes fail.

## What is proved

* `monitorProcessOnce_logs`, `monitorSystem_logs`, `daemon_logs` — a run logs nothing else. A name
  that is logged has been read from one line of `/proc/<pid>/status`.
* `exists_records` — what such calls append is one line for each record.
* `log_readBack` — **the two files of the log are read back**: they hold the newest records of all
  that the runs have logged, none of them cut or twice.
-/

namespace EdgeSentinel.Monitor

open CLib Config Encoding Trace Trace.Traced

/-! ### What is logged -/

/-- What is handed to `logger_write` for a record. -/
def LogEntry.given (e : LogEntry) : Bytes × Bytes := (e.level, e.message)

/-- An action that, if it is a call of `logger_write`, writes a record, into a file with a name
that is not too long. -/
def Action.Logs : Action → Prop
  | .logWrite _ path level message => (rotatedPath path).length < loggerPathBufferSize ∧
      ∃ e : LogEntry, e.OneLine ∧ e.given = (level, message)
  | _ => True

variable {ρ : Type} {config : AppConfig} {calls : ProcessCalls} {p p' : MonitoredProcess}

/-- The name of the log file is not too long. -/
theorem length_rotatedPath_lt (config : AppConfig) :
    (rotatedPath config.logFile.cstr).length < loggerPathBufferSize := by
  have hcstr := length_cstr_le config.logFile.bytes
  have hsize := config.logFile.size_eq
  have htext : (ascii ".1").length = 2 := by decide
  rw [hsize] at hcstr
  rw [rotatedPath, List.length_append, htext]
  exact (Nat.add_le_add_right hcstr 2).trans_lt (by decide)

/-- A record is logged. -/
theorem writeLog_logs {e : LogEntry} (h : e.OneLine) (call : LogCall) (written : Bool)
    (failure : ρ) :
    (writeLog config call e.level e.message written failure).Emits Action.Logs :=
  writeLog_emits ⟨length_rotatedPath_lt config, e, h, rfl⟩

/-! ### A process -/

/-- A text behind a label is on one line. -/
theorem newline_not_mem_labelText (text : Bytes) : newline ∉ labelText text := by
  intro h
  have := List.mem_takeWhile_imp h
  revert this
  decide

/-- The name and the state that are found are on one line. -/
def StatusFields.OneLine (f : StatusFields) : Prop :=
  (∀ name, f.name = some name → newline ∉ name.bytes) ∧
    ∀ state, f.state = some state → newline ∉ state.bytes

theorem oneLine_readStatusLine {line : Bytes} {f : StatusFields} (h : f.OneLine) :
    (readStatusLine line f).OneLine := by
  have htext : ∀ (m : ℕ) (text : Bytes), newline ∉ (CString.snprintf m (labelText text)).bytes :=
    fun m text hmem => newline_not_mem_labelText text
      ((List.takeWhile_prefix _).subset (List.mem_of_mem_take hmem))
  unfold readStatusLine
  split
  · split_ifs
    · exact h
    · exact ⟨fun name hname => Option.some.inj hname ▸ htext _ _, h.2⟩
  split
  · split_ifs
    · exact h
    · exact ⟨h.1, fun state hstate => Option.some.inj hstate ▸ htext _ _⟩
  repeat' split
  all_goals exact h

/-- **What is read of a process** is on one line. -/
theorem oneLine_readProcessInfo {proc : ProcFs} {pid : Int32} {info : ProcessInfo}
    (h : readProcessInfo proc pid = some info) : (LogEntry.recovered info).OneLine := by
  have hcomplete : ∀ {f : StatusFields}, f.OneLine → f.complete? pid = some info →
      (LogEntry.recovered info).OneLine := by
    intro f hf hinfo
    unfold StatusFields.complete? at hinfo
    simp only [Option.bind_eq_bind, Option.bind_eq_some_iff] at hinfo
    obtain ⟨_, -, name, hname, state, hstate, _, -, hinfo⟩ := hinfo
    rw [← Option.some.inj hinfo]
    exact ⟨hf.1 name hname, hf.2 state hstate⟩
  have hlines : ∀ (lines : List Bytes) (f : StatusFields), f.OneLine →
      readStatusLines pid lines f = some info → (LogEntry.recovered info).OneLine := by
    intro lines
    induction lines with
    | nil => exact fun f hf hinfo => hcomplete hf hinfo
    | cons line lines ih =>
      intro f hf hinfo
      have hnext := @oneLine_readStatusLine (cstr line) f hf
      rw [readStatusLines] at hinfo
      split at hinfo
      · next hfound => exact hcomplete hnext (hfound.trans hinfo)
      · exact ih _ hnext hinfo
  unfold readProcessInfo at h
  split_ifs at h
  split at h
  · cases h
  · refine hlines _ _ ⟨?_, ?_⟩ h
    · intro name hname
      cases hname
    · intro state hstate
      cases hstate

theorem sendAlertChangeNotification_logs (config : AppConfig) (now : ℤ) (change : AlertChange) :
    (sendAlertChangeNotification (ρ := ρ) config now change).Emits Action.Logs :=
  sendAlertChangeNotification_emits config now change trivial fun _ _ => trivial

theorem gradeMemory_logs (config : AppConfig) (calls : ProcessCalls) (p : MonitoredProcess) :
    (gradeMemory config calls p).Emits Action.Logs := by
  refine .check_bind (.emit_bind trivial (.bind (watchLevel_emits (fun previous => ?_) _ _)
    fun _ _ => .pure))
  refine .check_bind (.bind ?_ fun _ _ => sendAlertChangeNotification_logs _ _ _)
  exact writeLog_logs (e := .processMemory previous _ p.currentPid _) trivial _ _ _

theorem gradeProcessCpu_logs {q : ℚ} (husage : p.cpuUsage = .finite q) :
    (gradeProcessCpu config calls p).Emits Action.Logs := by
  refine .emit_bind trivial (.bind (watchLevel_emits (fun previous => ?_) _ _) fun _ _ => .pure)
  refine .check_bind (.bind ?_ fun _ _ => sendAlertChangeNotification_logs _ _ _)
  rw [husage]
  exact writeLog_logs (e := .processCpu previous _ p.currentPid q) trivial _ _ _

theorem monitorProcessCpu_logs (config : AppConfig) (calls : ProcessCalls)
    (p : MonitoredProcess) : (monitorProcessCpu config calls p).Emits Action.Logs := by
  refine monitorProcessCpu_emits_of (fun _ => trivial) (fun _ _ _ => trivial)
    fun _ times time => compareCpuSamples_emits_of (fun _ _ _ _ => trivial) ?_
  obtain ⟨q, husage, -⟩ := calculateProcessCpuUsage_eq calls.ticksPerSecond p.previousCpuTimes
    times p.previousCpuSampleTime time
  exact gradeProcessCpu_logs husage

/-- A change of the availability is a record. -/
theorem exists_availabilityEntry (h : p.available = true → (LogEntry.recovered p.info).OneLine) :
    ∃ e : LogEntry, e.OneLine ∧ availabilityLogMessage p = e.given := by
  unfold availabilityLogMessage
  cases havailable : p.available with
  | true => exact ⟨.recovered p.info, h havailable, rfl⟩
  | false => exact ⟨.unavailable p.currentPid, trivial, rfl⟩

/-- It is logged with what was read of the process. -/
theorem watchAvailability_logs (h : p.available = true → (LogEntry.recovered p.info).OneLine) :
    (watchAvailability config calls p).Emits Action.Logs := by
  obtain ⟨e, he, hmessage⟩ := exists_availabilityEntry h
  unfold watchAvailability
  rw [hmessage]
  split_ifs
  · exact .check_bind (.bind (writeLog_logs he _ _ _) fun _ _ => .pure)
  · exact .pure
  · exact .pure

/-- **A process in a round** logs nothing else. -/
theorem monitorProcessOnce_logs (config : AppConfig) (calls : ProcessCalls)
    (p : MonitoredProcess) : (monitorProcessOnce config calls p).Emits Action.Logs := by
  refine .bind ((lookUpProcess_emits calls p).mono ?_) fun p₁ hp₁ => ?_
  · rintro _ ⟨pid, rfl⟩
    trivial
  obtain rfl := Except.ok.inj ((lookUpProcess_result calls p).symm.trans hp₁)
  refine .bind ?_ fun p₂ hp₂ => ?_
  · unfold readProcess
    split
    · exact .emit_bind trivial .pure
    · exact .emit_bind trivial (gradeMemory_logs _ _ _)
  refine .bind (monitorProcessCpu_logs _ _ _) fun p₃ hp₃ => ?_
  refine .bind (watchAvailability_logs fun havailable => ?_) fun _ _ => .emit_bind trivial .pure
  obtain ⟨-, ⟨-, hgone⟩ | ⟨hread, -⟩⟩ := beforeAvailability hp₂ hp₃
  · exact absurd (hgone.symm.trans havailable) (by decide)
  · exact oneLine_readProcessInfo hread

/-! ### The system -/

theorem gradePercentage_logs {config : AppConfig} {now : ℤ} {metric : AlertMetric} {target : Bytes}
    {percent warning critical : Double} {baseline : LevelBaseline} :
    (gradePercentage config now metric target percent warning critical baseline).Emits
      Action.Logs :=
  gradePercentage_emits (fun _ => trivial) (fun _ _ => trivial) fun _ _ => trivial

/-- A change of the level of the system is logged with the percentages. -/
theorem watchSystemLevel_logs {s : MainState} {q₁ q₂ q₃ : ℚ} (calls : RoundCalls)
    (level : AlertLevel) :
    (watchSystemLevel calls level (percentagesMessage (.finite q₁) (.finite q₂) (.finite q₃)) s).Emits
      Action.Logs := by
  refine .bind (watchLevel_emits (fun previous => .check_bind ?_) _ _) fun _ _ => .pure
  exact writeLog_logs (e := .systemStatus previous level q₁ q₂ q₃) trivial _ _ _

/-- Every tenth round is logged with them, and the message is not cut. -/
theorem writePeriodicLog_logs {s : MainState} {q₁ q₂ q₃ : ℚ} (calls : RoundCalls)
    (level : AlertLevel) (h₁ : |q₁| < (10 ^ 31 : ℕ)) (h₂ : |q₂| < (10 ^ 31 : ℕ))
    (h₃ : |q₃| < (10 ^ 31 : ℕ)) :
    (writePeriodicLog calls level (percentagesMessage (.finite q₁) (.finite q₂) (.finite q₃)) s).Emits
      Action.Logs := by
  have hlength := length_percentagesMessage_le ⟨q₁, rfl, h₁⟩ ⟨q₂, rfl, h₂⟩ ⟨q₃, rfl, h₃⟩
  unfold writePeriodicLog
  split_ifs
  · rw [List.take_of_length_le (hlength.trans (by decide))]
    exact .bind (writeLog_logs (e := .periodic level q₁ q₂ q₃) trivial _ _ _) fun _ _ => .pure
  · exact .pure

/-- **The system part of a round** logs nothing else. -/
theorem monitorSystem_logs (format : OutputFormat) (calls : RoundCalls) (s : MainState) :
    (monitorSystem format calls s).Emits Action.Logs := by
  refine .bind (.orStop_bind fun _ => .check_bind (.bind gradePercentage_logs fun _ _ => .pure))
    fun r₁ h₁ => ?_
  refine .bind (sampleNetwork_emits (fun _ _ _ => trivial) (fun _ _ _ => trivial) _ _)
    fun r₂ h₂ => ?_
  refine .bind (.orStop_bind fun _ => .bind gradePercentage_logs fun _ _ => .pure) fun r₃ h₃ => ?_
  refine .bind (.orStop_bind fun _ => .bind gradePercentage_logs fun _ _ => .pure) fun r₄ h₄ => ?_
  obtain ⟨-, husage, -⟩ := gradeSystemCpu_readings h₁
  obtain ⟨hmemory, -⟩ := gradeSystemMemory_readings h₃
  obtain ⟨hdisk, -⟩ := gradeDisk_readings h₄
  obtain ⟨q₁, hq₁, hle₁⟩ := calculateCpuUsage_bounded s.previousCpu r₁.1
  obtain ⟨q₂, hq₂, hle₂⟩ := getMemoryInfo_usagePercent hmemory
  obtain ⟨q₃, hq₃, hle₃⟩ := getDiskInfo_usagePercent hdisk
  dsimp only
  rw [husage, hq₁, hq₂, hq₃]
  refine .bind (watchSystemLevel_logs calls _) fun s₅ _ => ?_
  refine .bind (writePeriodicLog_logs calls _ hle₁ hle₂ hle₃) fun s₆ _ => ?_
  exact .orStop_bind fun _ => .orStop_bind fun _ => .orStop_bind fun _ => .emit_bind trivial .pure

/-! ### Runs -/

/-- **A turn of the loop** logs nothing else. -/
theorem iteration_logs (format : OutputFormat) (s : MainState) (it : Iteration) :
    (iteration format s it).Emits fun e => e.action.Logs := by
  refine .bind ?_ fun s₁ _ => .bind (.run (fun s i => ?_) _ _) fun s₂ _ => ?_
  · unfold reloadIfRequested
    split
    · unfold reload
      split
      · exact .emit_bind trivial .pure
      · exact .emit_bind trivial (.bind (setUpProcesses_emits _ _ _ _ _) fun _ _ =>
          .emit_bind trivial .pure)
    · exact .pure
  · exact .bind (.rename (monitorProcessOnce_logs _ _ _)) fun _ _ => .pure
  · exact .bind (.rename (monitorSystem_logs format it.round s₂)) fun _ _ => .pure

/-- **A run** logs nothing else. -/
theorem daemon_logs (format : OutputFormat) (calls : StartCalls) (its : List Iteration) :
    (daemon format calls its).Emits fun e => e.action.Logs := by
  refine .bind ?_ fun s _ => .run (iteration_logs format) s its
  refine .bind (setUpProcesses_emits _ _ _ _ _) fun s₁ hs₁ => .check_bind ?_
  refine .orStop_bind fun previousCpu => .orStop_bind fun previousNetwork =>
    .orStop_bind fun previousNetworkTime => .check_bind ?_
  refine .emit_bind ⟨length_rotatedPath_lt _, .started, trivial, rfl⟩ ?_
  exact .check_bind (.emit_bind trivial .pure)

/-- What an event hands to `logger_write` for this path. -/
def loggedTo (path : Bytes) (e : Event) : Option (Bytes × Bytes) :=
  match e.action with
  | .logWrite _ p level message => if p = path then some (level, message) else none
  | _ => none

/-- What `main` logs behind its loop, in the state that the loop has left: it ends for a signal,
not for an error. -/
def logStopped (path : Bytes) (s : MainState) : List (Bytes × Bytes) :=
  if s.config.logFile.cstr = path then [LogEntry.stopped.given] else []

/-- What `main` hands to `logger_write` for this path, where it has (`stopped`) or has not yet been
told to end by a signal. -/
def logWrites (format : OutputFormat) (calls : StartCalls) (its : List Iteration) (stopped : Bool)
    (path : Bytes) : List (Bytes × Bytes) :=
  (daemon format calls its).events.filterMap (loggedTo path) ++
    if stopped then (daemon format calls its).result.toOption.elim [] (logStopped path) else []

theorem exists_entry_of_mem_logWrites {format : OutputFormat} {calls : StartCalls}
    {its : List Iteration} {stopped : Bool} {path : Bytes} {w : Bytes × Bytes}
    (h : w ∈ logWrites format calls its stopped path) :
    (rotatedPath path).length < loggerPathBufferSize ∧
      ∃ e : LogEntry, e.OneLine ∧ e.given = w := by
  rcases List.mem_append.mp h with hrun | hend
  · obtain ⟨⟨source, action⟩, hmem, hw⟩ := List.mem_filterMap.mp hrun
    have hlogs := daemon_logs format calls its _ hmem
    cases action with
    | logWrite call p level message =>
      simp only [loggedTo, Option.ite_none_right_eq_some] at hw
      obtain ⟨rfl, hw⟩ := hw
      obtain rfl := Option.some.inj hw
      exact hlogs
    | _ => cases hw
  · cases stopped with
    | false => cases hend
    | true =>
      cases hresult : (daemon format calls its).result with
      | error reason =>
        rw [hresult] at hend
        cases hend
      | ok s =>
        rw [hresult] at hend
        change w ∈ logStopped path s at hend
        unfold logStopped at hend
        split_ifs at hend with hpath
        · subst hpath
          rw [List.mem_singleton.mp hend]
          exact ⟨length_rotatedPath_lt _, .stopped, trivial, rfl⟩
        · cases hend

/-- The records of a run for this path. -/
theorem exists_entries (format : OutputFormat) (calls : StartCalls) (its : List Iteration)
    (stopped : Bool) (path : Bytes) :
    ∃ entries : List LogEntry, (∀ e ∈ entries, e.OneLine) ∧
      entries.map LogEntry.given = logWrites format calls its stopped path ∧
      (entries ≠ [] → (rotatedPath path).length < loggerPathBufferSize) := by
  have hmem : ∀ w ∈ logWrites format calls its stopped path, _ :=
    fun w hw => exists_entry_of_mem_logWrites hw
  generalize logWrites format calls its stopped path = ws at hmem
  induction ws with
  | nil => exact ⟨[], by simp, rfl, fun h => absurd rfl h⟩
  | cons w ws ih =>
    rw [List.forall_mem_cons] at hmem
    obtain ⟨⟨hpath, e, he, rfl⟩, hmem⟩ := hmem
    obtain ⟨entries, hentries, rfl, -⟩ := ih hmem
    exact ⟨e :: entries, List.forall_mem_cons.mpr ⟨he, hentries⟩, rfl, fun _ => hpath⟩

/-! ### The files -/

/-- A call of the logger that nothing outside the program makes fail. The text of the time is what
`strftime` makes of `%Y-%m-%d %H:%M:%S`, as far as a reader needs it. -/
structure LoggerCall.Answered (c : LoggerCall) : Prop where
  /-- No call on a file fails. -/
  files : c.FilesSucceed
  /-- The clock can be read. -/
  clock : c.ReadsClock
  /-- The time is on one line, and has no bracket. -/
  time : ∀ level message answers time, c = .write level message answers →
    answers.timeText = some time → newline ∉ time ∧ 0x5d ∉ time

/-- What a call of `logger_write` is given. -/
def LoggerCall.given? : LoggerCall → Option (Bytes × Bytes)
  | .init _ _ => none
  | .write level message _ => some (level, message)

variable {path : Bytes} {l : Log} {loggerCalls : List LoggerCall} {entries : List LogEntry}

/-- A rotation that nothing makes fail succeeds. -/
theorem rotateLogIfNeeded_succeeds {answers : WriteCalls} (limit : UInt64) (files : LogFiles)
    (hstat : answers.stat = true) (hrename : answers.rename = true)
    (hpath : (rotatedPath path).length < loggerPathBufferSize) :
    (rotateLogIfNeeded path answers limit files).1 = true := by
  obtain ⟨_ | content, rotated⟩ := files
  · simp [rotateLogIfNeeded, hstat]
  · by_cases hlt : (content.length : ℤ) < limit.toInt64.toInt
    · rw [rotateLogIfNeeded_of_lt hlt, hstat]
    · rw [rotateLogIfNeeded_of_not_lt hstat hlt, if_pos ⟨hpath, hrename⟩]

/-- So does a call of `logger_write`. -/
theorem loggerWrite_succeeds {level message : Bytes} {answers : WriteCalls}
    (h : (LoggerCall.write level message answers).Answered)
    (hpath : (rotatedPath path).length < loggerPathBufferSize) (limit : UInt64) (files : LogFiles) :
    ∃ time files', answers.timeText = some time ∧ newline ∉ time ∧ 0x5d ∉ time ∧
      loggerWrite path level message answers limit files = (true, files') := by
  obtain ⟨hstat, hrename, hopen, hprint, hclose⟩ := h.files
  obtain ⟨time, htime⟩ := Option.isSome_iff_exists.mp h.clock
  obtain ⟨hnewline, hbracket⟩ := h.time level message answers time rfl htime
  have hrotate := rotateLogIfNeeded_succeeds limit files hstat hrename hpath
  rcases hfiles : rotateLogIfNeeded path answers limit files with ⟨ok, rotated⟩
  rw [hfiles] at hrotate
  obtain rfl : ok = true := hrotate
  refine ⟨time, _, htime, hnewline, hbracket, Prod.ext ?_ rfl⟩
  simp [loggerWrite, hfiles, hopen, htime, hprint, hclose]

/-- **What such calls append** is one line for each record, with its time. -/
theorem exists_records (hanswered : ∀ c ∈ loggerCalls, c.Answered)
    (hgiven : loggerCalls.filterMap LoggerCall.given? = entries.map LogEntry.given)
    (hentries : ∀ e ∈ entries, e.OneLine)
    (hpath : entries ≠ [] → (rotatedPath path).length < loggerPathBufferSize) :
    ∃ new : List (Bytes × LogEntry), new.map Prod.snd = entries ∧
      (∀ r ∈ new, logLines.Legible r) ∧
      (l.run path loggerCalls).records = l.records ++ new.map logLines.line := by
  induction loggerCalls generalizing l entries with
  | nil =>
    obtain rfl : entries = [] := List.map_eq_nil_iff.mp hgiven.symm
    exact ⟨[], rfl, by simp, by simp [Log.run]⟩
  | cons c loggerCalls ih =>
    rw [List.forall_mem_cons] at hanswered
    obtain ⟨hc, hanswered⟩ := hanswered
    show ∃ new, _ ∧ _ ∧ ((l.call path c).run path loggerCalls).records = _
    cases c with
    | init maxSizeBytes mkdir =>
      obtain ⟨new, hnew, hlegible, hrecords⟩ := ih (l := l.call path (.init maxSizeBytes mkdir))
        hanswered hgiven hentries hpath
      exact ⟨new, hnew, hlegible, hrecords.trans (by rw [(call_init l path _ _).2])⟩
    | write level message answers =>
      obtain _ | ⟨e, entries⟩ := entries
      · cases hgiven
      obtain ⟨hgiven₁, hgiven₂⟩ := List.cons.inj hgiven
      obtain ⟨rfl, rfl⟩ := Prod.mk.inj hgiven₁
      have hpath := hpath (List.cons_ne_nil _ _)
      obtain ⟨time, files', htime, hnewline, hbracket, hwrite⟩ :=
        loggerWrite_succeeds hc hpath l.currentLogMaxSize l.files
      rw [List.forall_mem_cons] at hentries
      obtain ⟨new, hnew, hlegible, hrecords⟩ := ih (l := l.call path _) hanswered hgiven₂
        hentries.2 fun _ => hpath
      refine ⟨(time, e) :: new, by rw [List.map_cons, hnew], ?_, ?_⟩
      · exact List.forall_mem_cons.mpr ⟨legible_logLines hnewline hbracket hentries.1, hlegible⟩
      · rw [hrecords, call_write_ok htime hwrite, List.map_cons, List.append_assoc]
        rfl

/-- A generation of records is read back. -/
theorem readStream_flatten {records : List (Bytes × LogEntry)}
    (h : ∀ r ∈ records, logLines.Legible r) :
    logLines.readStream (records.map logLines.line).flatten = some (records.map logLines.view) := by
  rw [← List.flatMap_def]
  exact LineFormat.readStream_stream h

/-- **The two files of the log are read back.** Before the run they may hold what other runs have
logged (`old`). The calls of the logger are those of the run for this path, `logger_init` among them
anywhere, and nothing else writes to the two files. Then the older and the newer file are read as
the newest of all the records, one after the other, however often the log was rotated; and the last
record is in the newer one. -/
theorem log_readBack (format : OutputFormat) (calls : StartCalls) (its : List Iteration)
    (stopped : Bool) (path : Bytes) (l : Log) (old : List (Bytes × LogEntry))
    (hends : l.EndsRecords) (hold : l.records = old.map logLines.line)
    (hlegible : ∀ r ∈ old, logLines.Legible r) (loggerCalls : List LoggerCall)
    (hanswered : ∀ c ∈ loggerCalls, c.Answered)
    (hgiven : loggerCalls.filterMap LoggerCall.given? = logWrites format calls its stopped path) :
    ∃ new older newer : List (Bytes × LogEntry),
      new.map (fun r => r.2.given) = logWrites format calls its stopped path ∧
      older ++ newer <:+ old ++ new ∧ (new ≠ [] → newer ≠ []) ∧
      logLines.readStream ((l.run path loggerCalls).files.rotated.getD []) =
        some (older.map logLines.view) ∧
      logLines.readStream ((l.run path loggerCalls).files.current.getD []) =
        some (newer.map logLines.view) := by
  obtain ⟨entries, hentries, hlogged, hpath⟩ := exists_entries format calls its stopped path
  rw [← hlogged] at hgiven
  obtain ⟨new, rfl, hnew, hrecords⟩ := exists_records (l := l) hanswered hgiven hentries hpath
  obtain ⟨g, ⟨hrotated, hcurrent⟩, hsuffix⟩ := run_keeps (I := Log.EndsRecords)
    (fun k c hc hk => call_endsRecords (hanswered c hc).files hk) hends
  have hnewest : (l.run path loggerCalls).NewestLast l.records :=
    run_keeps (I := fun k => k.NewestLast l.records)
      (fun k c hc hk => call_newestLast (hanswered c hc).files (hanswered c hc).clock hk) (.inl rfl)
  rw [Generations.Ends, hrecords, hold, ← List.map_append] at hsuffix
  obtain ⟨kept, hkept, hgenerations⟩ := List.suffix_map_iff.mp hsuffix
  obtain ⟨older, newer, rfl, holder, hnewer⟩ := List.map_eq_append_iff.mp hgenerations.symm
  have hall : ∀ r ∈ older ++ newer, logLines.Legible r := fun r hr =>
    (List.mem_append.mp (hkept.subset hr)).elim (hlegible r) (hnew r)
  rw [List.forall_mem_append] at hall
  refine ⟨new, older, newer, ?_, hkept, fun hne hnil => ?_, ?_, ?_⟩
  · rw [← hlogged, List.map_map]
    rfl
  · -- the newest record is in the newer file, and a record is not empty
    rw [← hnewer, hnil] at hcurrent
    obtain hsame | ⟨record, hlast, hrecord⟩ := hnewest
    · rw [hrecords, List.append_right_eq_self, List.map_eq_nil_iff] at hsame
      exact hne hsame
    · rw [hcurrent] at hrecord
      obtain rfl := List.suffix_nil.mp hrecord
      rw [hrecords] at hlast
      have hmem := List.mem_of_getLast? hlast
      rw [hold, ← List.map_append] at hmem
      obtain ⟨r, -, hline⟩ := List.mem_map.mp hmem
      exact List.append_ne_nil_of_right_ne_nil _ (List.cons_ne_nil _ _) hline
  · rw [hrotated, ← holder, readStream_flatten hall.1]
  · rw [hcurrent, ← hnewer, readStream_flatten hall.2]

/-- Calls of the logger for what a run has logged, with a limit of one byte: a record is a file. -/
def oneRecordAFile (ws : List (Bytes × Bytes)) : List LoggerCall :=
  .init 1 (fun _ n => (.created, n)) :: ws.map fun w =>
    .write w.1 w.2 (writeAnswers (some (ascii "2026-01-01 00:00:00")))

theorem answered_oneRecordAFile (ws : List (Bytes × Bytes)) :
    ∀ c ∈ oneRecordAFile ws, c.Answered := by
  refine List.forall_mem_cons.mpr ⟨⟨fun _ _ => nofun, trivial, nofun⟩, ?_⟩
  simp only [List.forall_mem_map]
  refine fun w _ => ⟨⟨rfl, rfl, rfl, rfl, rfl⟩, rfl, ?_⟩
  rintro _ _ _ time ⟨⟩ htime
  obtain rfl := Option.some.inj htime
  decide

theorem given_oneRecordAFile (ws : List (Bytes × Bytes)) :
    (oneRecordAFile ws).filterMap LoggerCall.given? = ws := by
  show List.filterMap LoggerCall.given? (ws.map _) = _
  rw [List.filterMap_map]
  exact List.filterMap_some

/-- The start, the level of the system and the end are logged, and the newest of them is there. -/
theorem log_readBack_exhausted :
    ∃ new newer : List (Bytes × LogEntry), newer <:+ new ∧ newer ≠ [] ∧ new.length = 3 ∧
      logLines.readStream (((Log.empty.run (ascii "logs/edgesentinel.log") (oneRecordAFile
        (logWrites .json exhaustingStart exhaustingRounds true
          (ascii "logs/edgesentinel.log")))).files.current).getD []) =
        some (newer.map logLines.view) := by
  have hrun : (logWrites .json exhaustingStart exhaustingRounds true
      (ascii "logs/edgesentinel.log")).length = 3 := by decide +kernel
  obtain ⟨new, older, newer, hlogged, hkept, hnewest, -, hread⟩ :=
    log_readBack .json exhaustingStart exhaustingRounds true (ascii "logs/edgesentinel.log") .empty
      [] Log.endsRecords_empty rfl (by simp) _ (answered_oneRecordAFile _) (given_oneRecordAFile _)
  have hlength : new.length = 3 := by
    rw [← hlogged, List.length_map] at hrun
    exact hrun
  refine ⟨new, newer, (List.suffix_append _ _).trans hkept, hnewest fun hnil => ?_, hlength, hread⟩
  rw [hnil] at hlength
  cases hlength

end EdgeSentinel.Monitor
