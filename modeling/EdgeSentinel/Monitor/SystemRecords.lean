import EdgeSentinel.Monitor.NotificationLengths
import EdgeSentinel.Monitor.Readings

/-!
# What a run logs of the system

Two of the records of a round are about the system: one where its level has changed, and one in
every tenth round. The loop carries the level before and a count from round to round; a new
configuration resets the level and leaves the count alone.

## What is proved

* `watchSystemLevel_ok`, `writePeriodicLog_ok` — what the two blocks log, and what they keep.
* `systemStatus_records` — **in a run**, a completed turn logs a change of the system's level
  exactly if what it prints is at another level than what the turn right before has printed; in
  the first turn and right behind a reload that was applied it logs none.
* `periodic_records` — **in a run**, every tenth completed turn logs the percentages that it
  prints, and no other, whatever is reloaded in between.
-/

namespace EdgeSentinel.Monitor

open CLib Config Trace Trace.Traced

variable {format : OutputFormat} {calls : RoundCalls} {s s' s₀ : MainState}
  {its : List Iteration} {b c : MainState × Iteration}

/-- A record of the log: its file, its level and its message. -/
abbrev Record := Bytes × Bytes × Bytes

/-- What an action writes to the log in this call of `logger_write`. -/
def Action.record? (call : LogCall) : Action → Option Record
  | .logWrite call' path level message => if call' = call then some (path, level, message) else none
  | _ => none

theorem record?_of_ofReload (call : LogCall) (a : Action) (h : a.OfReload) :
    a.record? call = none := by
  cases a <;> first | rfl | exact h.elim

/-- The percentages of a round, as they are logged. -/
def Readings.percentages (reading : Readings) : Bytes :=
  percentagesMessage reading.snapshot.cpuUsagePercent reading.snapshot.memoryUsagePercent
    reading.snapshot.diskUsagePercent

/-- The record of a change of the system's level. -/
def Readings.statusRecord (reading : Readings) (config : AppConfig) (previous : AlertLevel) :
    Record :=
  (config.logFile.cstr, alertLevelToString reading.snapshot.systemLevel,
    ascii "System status changed: " ++ alertLevelToString previous ++ ascii " -> " ++
      alertLevelToString reading.snapshot.systemLevel ++ ascii " " ++ reading.percentages)

/-- The record of every tenth round. -/
def Readings.periodicRecord (reading : Readings) (config : AppConfig) : Record :=
  (config.logFile.cstr, alertLevelToString reading.snapshot.systemLevel, reading.percentages)

/-! ### The blocks -/

/-- A call of the logger that succeeds writes its record. -/
theorem shown_writeLog {config : AppConfig} {call : LogCall} {level message : Bytes}
    {written : Bool} {failure : Exit} :
    (writeLog config call level message written failure).shown (Action.record? call) =
      [(config.logFile.cstr, level, message)] := by
  unfold writeLog
  rw [shown, events_emit_bind, events_check]
  simp [Action.record?]

section Blocks

variable {level : AlertLevel} {percentages : Bytes}

/-- The level is watched: the record of its change, and the level that is kept. -/
theorem watchSystemLevel_ok (h : (watchSystemLevel calls level percentages s).result = .ok s') :
    s'.systemBaseline.seen = some level ∧ s'.logSampleCounter = s.logSampleCounter ∧
      s'.config = s.config ∧
      (watchSystemLevel calls level percentages s).shown (Action.record? .systemStatus) =
        match s.systemBaseline.seen with
        | none => []
        | some previous => if previous = level then [] else
          [(s.config.logFile.cstr, alertLevelToString level, ascii "System status changed: " ++
            alertLevelToString previous ++ ascii " -> " ++ alertLevelToString level ++
            ascii " " ++ percentages)] := by
  unfold watchSystemLevel at h ⊢
  obtain ⟨baseline, hbaseline, h⟩ := result_bind_ok.mp h
  obtain rfl := Except.ok.inj h
  rw [shown_bind_of_hidden fun _ => .pure]
  unfold watchLevel at hbaseline ⊢
  unfold LevelBaseline.seen
  by_cases hinitialized : s.systemBaseline.initialized = true
  swap
  · rw [if_pos hinitialized] at hbaseline ⊢
    obtain rfl := Except.ok.inj hbaseline
    rw [if_neg hinitialized]
    exact ⟨rfl, rfl, rfl, rfl⟩
  rw [if_neg (not_not.mpr hinitialized)] at hbaseline ⊢
  rw [if_pos hinitialized]
  by_cases hchanged : level = s.systemBaseline.previous
  · rw [if_neg (not_not.mpr hchanged)] at hbaseline ⊢
    obtain rfl := Except.ok.inj hbaseline
    refine ⟨by rw [if_pos hinitialized, hchanged], rfl, rfl, ?_⟩
    dsimp only
    rw [if_pos hchanged.symm]
    rfl
  · rw [if_pos hchanged] at hbaseline ⊢
    obtain ⟨⟨⟩, hlogged, hbaseline⟩ := result_bind_ok.mp hbaseline
    obtain ⟨⟨⟩, hfits, -⟩ := result_bind_ok.mp hlogged
    obtain rfl := Except.ok.inj hbaseline
    refine ⟨if_pos hinitialized, rfl, rfl, ?_⟩
    dsimp only
    rw [if_neg (Ne.symm hchanged), shown_bind_of_hidden fun _ => .pure, shown_bind_of_ok hfits,
      shown_writeLog]
    simp [shown]

/-- The rounds are counted: the record of every tenth one, and the count that is kept. -/
theorem writePeriodicLog_ok (h : (writePeriodicLog calls level percentages s).result = .ok s') :
    s'.systemBaseline = s.systemBaseline ∧
      s'.logSampleCounter =
        (if logIntervalSamples ≤ s.logSampleCounter + 1 then 0 else s.logSampleCounter + 1) ∧
      (writePeriodicLog calls level percentages s).shown (Action.record? .periodic) =
        if logIntervalSamples ≤ s.logSampleCounter + 1 then
          [(s.config.logFile.cstr, alertLevelToString level,
            percentages.take (logMessageSize - 1))] else [] := by
  unfold writePeriodicLog at h ⊢
  by_cases hcount : logIntervalSamples ≤ s.logSampleCounter + 1
  · simp only [if_pos hcount] at h ⊢
    obtain ⟨⟨⟩, -, h⟩ := result_bind_ok.mp h
    obtain rfl := Except.ok.inj h
    refine ⟨rfl, rfl, ?_⟩
    rw [shown_bind_of_hidden fun _ => .pure, shown_writeLog]
  · simp only [if_neg hcount] at h ⊢
    obtain rfl := Except.ok.inj h
    exact ⟨rfl, rfl, rfl⟩

end Blocks

/-! ### A round -/

/-- The percentages are never long enough to be cut. -/
theorem length_percentagesMessage_le {cpuUsage memoryUsage diskUsage : Double}
    (hcpu : ∃ q, cpuUsage = .finite q ∧ |q| < (10 ^ 31 : ℕ))
    (hmemory : ∃ q, memoryUsage = .finite q ∧ |q| < (10 ^ 31 : ℕ))
    (hdisk : ∃ q, diskUsage = .finite q ∧ |q| < (10 ^ 31 : ℕ)) :
    (percentagesMessage cpuUsage memoryUsage diskUsage).length ≤ 129 := by
  obtain ⟨q₁, rfl, h₁⟩ := hcpu
  obtain ⟨q₂, rfl, h₂⟩ := hmemory
  obtain ⟨q₃, rfl, h₃⟩ := hdisk
  have h₁ := length_fixed2_le h₁
  have h₂ := length_fixed2_le h₂
  have h₃ := length_fixed2_le h₃
  have ht₁ : (ascii "CPU=").length = 4 := by decide
  have ht₂ : (ascii "% Memory=").length = 9 := by decide
  have ht₃ : (ascii "% Disk=").length = 7 := by decide
  have ht₄ : (ascii "%").length = 1 := by decide
  simp only [percentagesMessage, List.length_append, ht₁, ht₂, ht₃, ht₄]
  omega

theorem SystemBlocks.length_percentages_le {r : CpuTimes × MainState}
    (b : SystemBlocks format calls s r) : b.percentages.length ≤ 129 := by
  obtain ⟨-, husage, -⟩ := gradeSystemCpu_readings b.cpu_ok
  refine length_percentagesMessage_le ?_ ?_ ?_
  · rw [husage]
    exact calculateCpuUsage_bounded _ _
  · exact getMemoryInfo_usagePercent (gradeSystemMemory_readings b.memory_ok).1
  · exact getDiskInfo_usagePercent (gradeDisk_readings b.disk_ok).1

/-- The two states have the same configuration, the same system level and the same count. -/
structure SameCount (s s' : MainState) : Prop where
  /-- The configuration. -/
  config : s'.config = s.config
  /-- The level. -/
  systemBaseline : s'.systemBaseline = s.systemBaseline
  /-- The count. -/
  logSampleCounter : s'.logSampleCounter = s.logSampleCounter

theorem SameCount.trans {s₁ s₂ s₃ : MainState} (h : SameCount s₁ s₂) (h' : SameCount s₂ s₃) :
    SameCount s₁ s₃ :=
  ⟨h'.config.trans h.config, h'.systemBaseline.trans h.systemBaseline,
    h'.logSampleCounter.trans h.logSampleCounter⟩

theorem gradeSystemCpu_sameCount (calls : RoundCalls) (s : MainState) :
    (gradeSystemCpu calls s).Yields (fun r => SameCount s r.2.2.2) fun _ => True :=
  .orStop_bind (fun _ _ => .check_bind (fun _ => .seq (gradePercentage_yields _ _ _ _ _ _ _ _)
    fun _ => .pure ⟨rfl, rfl, rfl⟩) fun _ => trivial) fun _ => trivial

theorem sampleNetwork_sameCount (calls : RoundCalls) (s : MainState) :
    (sampleNetwork calls s).Yields (fun r => SameCount s r.2) fun _ => True := by
  refine .orStop_bind (fun network _ => .orStop_bind (fun time _ => .emit_bind ?_)
    fun _ => trivial) fun _ => trivial
  refine .bind (Q := fun r => SameCount s r.2) ?_ fun r hr => .orStop_bind (fun _ _ =>
    .orStop_bind (fun _ _ => .pure hr) fun _ => trivial) fun _ => trivial
  unfold measureNetworkSpeed
  split_ifs
  · exact .pure ⟨rfl, rfl, rfl⟩
  · exact .emit_bind (.orStop_bind (fun _ _ => .pure ⟨rfl, rfl, rfl⟩) fun _ => trivial)

theorem gradeSystemMemory_sameCount (calls : RoundCalls) (s : MainState) :
    (gradeSystemMemory calls s).Yields (fun r => SameCount s r.2.2) fun _ => True :=
  .orStop_bind (fun _ _ => .seq (gradePercentage_yields _ _ _ _ _ _ _ _)
    fun _ => .pure ⟨rfl, rfl, rfl⟩) fun _ => trivial

theorem gradeDisk_sameCount (calls : RoundCalls) (s : MainState) :
    (gradeDisk calls s).Yields (fun r => SameCount s r.2.2) fun _ => True :=
  .orStop_bind (fun _ _ => .seq (gradePercentage_yields _ _ _ _ _ _ _ _)
    fun _ => .pure ⟨rfl, rfl, rfl⟩) fun _ => trivial

/-- The first four blocks leave the level and the count to the two others. -/
theorem SystemBlocks.sameCount {r : CpuTimes × MainState} (b : SystemBlocks format calls s r) :
    SameCount s b.disk.2.2 :=
  ((gradeSystemCpu_sameCount calls s).ok _ b.cpu_ok).trans
    (((sampleNetwork_sameCount calls _).ok _ b.network_ok).trans
      (((gradeSystemMemory_sameCount calls _).ok _ b.memory_ok).trans
        ((gradeDisk_sameCount calls _).ok _ b.disk_ok)))

/-- What a completed turn logs of the system, with what it prints; and the level and the count
that it leaves to the next turn. -/
structure LogsSystem (format : OutputFormat) (c : MainState × Iteration) (s s' : MainState)
    (reading : Readings) : Prop where
  /-- What it prints. -/
  printed : (iteration format c.1 c.2).shown (ofSystem Action.printed?) = [reading]
  /-- The record of a change of the level. -/
  status : (iteration format c.1 c.2).shown (ofSystem (Action.record? .systemStatus)) =
    match s.systemBaseline.seen with
    | none => []
    | some previous => if previous = reading.snapshot.systemLevel then []
        else [reading.statusRecord s.config previous]
  /-- The record of every tenth round. -/
  periodic : (iteration format c.1 c.2).shown (ofSystem (Action.record? .periodic)) =
    if logIntervalSamples ≤ s.logSampleCounter + 1 then [reading.periodicRecord s.config] else []
  /-- The level that is kept. -/
  seen : s'.systemBaseline.seen = some reading.snapshot.systemLevel
  /-- The count that is kept. -/
  counted : s'.logSampleCounter =
    if logIntervalSamples ≤ s.logSampleCounter + 1 then 0 else s.logSampleCounter + 1

/-- **A completed turn** logs so. -/
theorem iteration_logsSystem (h : (iteration format c.1 c.2).result = .ok s') :
    ∃ s reading, (reloadIfRequested c.2.reload c.1).result = .ok s ∧
      LogsSystem format c s s' reading := by
  obtain ⟨s, s₂, r, b, hs, hs₂, -, ⟨i, processes, rfl⟩, hshown⟩ := blocks_of_completed h
  obtain ⟨-, -, heq⟩ := run_monitorProcess_ok (nodup_processIndices _) hs₂
  have hprocesses : SameCount s s₂ := by
    rw [heq]
    exact ⟨rfl, rfl, rfl⟩
  have hsame : SameCount s b.disk.2.2 := hprocesses.trans b.sameCount
  obtain ⟨hseen, hcount, hconfig, hstatus⟩ := watchSystemLevel_ok b.watched_ok
  obtain ⟨hbaseline, hcounted, hperiodic⟩ := writePeriodicLog_ok b.logged_ok
  rw [hsame.systemBaseline, hsame.config] at hstatus
  rw [hcount, hsame.logSampleCounter] at hcounted hperiodic
  have hwhole : b.percentages.take (logMessageSize - 1) = b.percentages :=
    List.take_of_length_le (b.length_percentages_le.trans (by decide))
  unfold SystemBlocks.percentages at hwhole
  rw [hconfig, hsame.config, hwhole] at hperiodic
  refine ⟨s, b.reading, hs, ?_, ?_, ?_, ?_, hcounted⟩
  · rw [hshown _ printed?_of_ofReload, b.printed_actions]
  · rw [hshown _ (record?_of_ofReload _), b.shown_actions (fun _ _ _ => rfl)
      (fun _ => rfl) (fun _ _ => rfl) (fun _ _ _ => rfl) fun _ _ _ => rfl,
      shown_of_hidden (writePeriodicLog_emits (fun _ _ _ => rfl) _ _ _ _)]
    exact (List.append_nil _).trans hstatus
  · rw [hshown _ (record?_of_ofReload _), b.shown_actions (fun _ _ _ => rfl)
      (fun _ => rfl) (fun _ _ => rfl) (fun _ _ _ => rfl) fun _ _ _ => rfl,
      shown_of_hidden (watchSystemLevel_emits (fun _ _ _ => rfl) _ _ _ _)]
    exact (List.append_nil _).trans hperiodic
  · show r.2.systemBaseline.seen = _
    rw [hbaseline]
    exact hseen

/-! ### Runs -/

/-- The level and the count in front of the round: only a reload that is applied resets the
level, and none resets the count. -/
theorem reloadIfRequested_count {it : Iteration}
    (h : (reloadIfRequested it.reload s).result = .ok s') :
    s'.logSampleCounter = s.logSampleCounter ∧
      (¬ AppliesReload s it → s'.systemBaseline = s.systemBaseline) ∧
      (AppliesReload s it → s'.systemBaseline.seen = none) := by
  obtain ⟨hnot, _, _, _, _, rfl⟩ | ⟨happlies, _, _, ⟨_, _, _, _, rfl⟩, rfl⟩ :=
    reloadIfRequested_only h
  · exact ⟨rfl, fun _ => rfl, fun happlies => absurd happlies hnot⟩
  · exact ⟨rfl, fun hnot => absurd happlies hnot, fun _ => rfl⟩

/-- The start has seen no level, and counted no round. -/
theorem start_count {calls : StartCalls} (h : (start calls).result = .ok s) :
    s.systemBaseline.seen = none ∧ s.logSampleCounter = 0 := by
  obtain ⟨_, _, _, rfl⟩ := start_ok h
  exact ⟨rfl, rfl⟩

/-- **Changes of the system's level** are logged, each once: a completed turn logs one exactly if
the turn right before has printed another level, and there was no reload in between that was
applied. The record tells both levels and the percentages that are printed. -/
theorem systemStatus_records (format : OutputFormat) (calls : StartCalls) (its : List Iteration)
    (s₀ : MainState) (hs₀ : (start calls).result = .ok s₀) :
    ∀ c ∈ taken (iteration format) s₀ its, ∀ s', (iteration format c.1 c.2).result = .ok s' →
      ∃ s reading, (reloadIfRequested c.2.reload c.1).result = .ok s ∧
        (iteration format c.1 c.2).shown (ofSystem Action.printed?) = [reading] ∧
        (∀ b, PrecedingRound format s₀ its b c → ∃ before,
          (iteration format b.1 b.2).shown (ofSystem Action.printed?) = [before] ∧
          (iteration format c.1 c.2).shown (ofSystem (Action.record? .systemStatus)) =
            if before.snapshot.systemLevel = reading.snapshot.systemLevel then []
            else [reading.statusRecord s.config before.snapshot.systemLevel]) ∧
        ((∀ b, ¬ PrecedingRound format s₀ its b c) →
          (iteration format c.1 c.2).shown (ofSystem (Action.record? .systemStatus)) = []) := by
  intro c hc s' hs'
  obtain ⟨s, reading, hs, hlogs⟩ := iteration_logsSystem hs'
  obtain ⟨-, hkept, hreset⟩ := reloadIfRequested_count hs
  refine ⟨s, reading, hs, hlogs.printed, fun b hb => ?_, fun hnone => ?_⟩
  · -- the level kept by the turn before is the one it has printed
    obtain ⟨_, before, -, hbefore⟩ := iteration_logsSystem (result_of_adjacent hb.adjacent)
    have hstatus := hlogs.status
    rw [hkept hb.unreloaded, hbefore.seen] at hstatus
    exact ⟨before, hbefore.printed, hstatus⟩
  · have hseen : s.systemBaseline.seen = none := by
      by_cases happlies : AppliesReload c.1 c.2
      · exact hreset happlies
      obtain ⟨-, hfirst⟩ | ⟨b, hadjacent⟩ := adjacent_of_mem_taken hc
      · rw [hkept happlies, hfirst]
        exact (start_count hs₀).1
      · exact absurd ⟨hadjacent, happlies⟩ (hnone b)
    rw [hlogs.status, hseen]

/-- **Every tenth completed turn** logs the percentages that it prints, and no other one does,
whatever is reloaded in between. -/
theorem periodic_records (format : OutputFormat) (calls : StartCalls) (its : List Iteration)
    (s₀ : MainState) (hs₀ : (start calls).result = .ok s₀) :
    ∀ n c, (taken (iteration format) s₀ its)[n]? = some c →
      ∀ s', (iteration format c.1 c.2).result = .ok s' →
      ∃ s reading, (reloadIfRequested c.2.reload c.1).result = .ok s ∧
        (iteration format c.1 c.2).shown (ofSystem Action.printed?) = [reading] ∧
        (iteration format c.1 c.2).shown (ofSystem (Action.record? .periodic)) =
          if logIntervalSamples ∣ n + 1 then [reading.periodicRecord s.config] else [] := by
  intro n c hc s' hs'
  obtain ⟨s, reading, hs, hlogs⟩ := iteration_logsSystem hs'
  refine ⟨s, reading, hs, hlogs.printed, ?_⟩
  -- the count in front of a turn is the number of turns so far, modulo ten
  have hcount : c.1.logSampleCounter = n % logIntervalSamples := by
    refine inv_of_getElem?_taken (I := fun n s => s.logSampleCounter = n % logIntervalSamples)
      (fun n s it s' hn hit => ?_) ?_ hc
    · obtain ⟨t, _, ht, hlogs⟩ := iteration_logsSystem (c := (s, it)) hit
      rw [hlogs.counted, (reloadIfRequested_count ht).1, hn, logIntervalSamples]
      split_ifs <;> omega
    · rw [(start_count hs₀).2]
      rfl
  rw [hlogs.periodic, (reloadIfRequested_count hs).1, hcount]
  simp only [logIntervalSamples]
  congr 1
  rw [eq_iff_iff]
  omega

/-- Ten rounds of a quiet system. -/
def tenRounds : List Iteration :=
  (List.range 10).map fun n => ⟨none, quietRound (quietProc []) (n + 1)⟩

/-- The last one logs its percentages. -/
theorem periodic_records_tenth :
    ∃ s₀ c, (taken (iteration .json) s₀ tenRounds)[9]? = some c ∧ ∃ s reading,
      (reloadIfRequested c.2.reload c.1).result = .ok s ∧
      (iteration .json c.1 c.2).shown (ofSystem Action.printed?) = [reading] ∧
      (iteration .json c.1 c.2).shown (ofSystem (Action.record? .periodic)) =
        [Readings.periodicRecord reading s.config] := by
  have hok : ((start receivingStart).result.map fun s₀ =>
      ((taken (iteration .json) s₀ tenRounds)[9]?).map fun c =>
        (iteration .json c.1 c.2).result.toBool) = .ok (some true) := by decide +kernel
  obtain ⟨s₀, hs₀, hsome⟩ := ok_of_map_ok hok
  obtain ⟨c, hc, hreturns⟩ := Option.map_eq_some_iff.mp hsome
  cases hs' : (iteration .json c.1 c.2).result with
  | error r =>
    rw [hs'] at hreturns
    cases hreturns
  | ok s' => exact ⟨s₀, c, hc, periodic_records .json receivingStart tenRounds s₀ hs₀ 9 c hc s' hs'⟩

/-- The levels that a turn prints. -/
def printedLevels (c : MainState × Iteration) : List AlertLevel :=
  ((iteration .json c.1 c.2).shown (ofSystem Action.printed?)).map fun reading =>
    reading.snapshot.systemLevel

/-- When the memory is used up, the turn logs that the system is critical. -/
theorem systemStatus_records_exhausted :
    ∃ (s₀ s : MainState) (b c : MainState × Iteration) (before reading : Readings),
      PrecedingRound .json s₀ exhaustingRounds b c ∧
      (iteration .json b.1 b.2).shown (ofSystem Action.printed?) = [before] ∧
      (iteration .json c.1 c.2).shown (ofSystem Action.printed?) = [reading] ∧
      (iteration .json c.1 c.2).shown (ofSystem (Action.record? .systemStatus)) =
        [reading.statusRecord s.config .normal] := by
  have hok : ((start exhaustingStart).result.map fun s₀ =>
      (taken (iteration .json) s₀ exhaustingRounds).head?.any
          (fun b => printedLevels b = [.normal]) &&
        (taken (iteration .json) s₀ exhaustingRounds).tail.head?.any (fun c =>
          printedLevels c = [.critical] && (c.2.reload.isNone &&
            (iteration .json c.1 c.2).result.toBool))) = .ok true := by decide +kernel
  obtain ⟨s₀, hs₀, hlevels⟩ := ok_of_map_ok hok
  generalize htaken : taken (iteration .json) s₀ exhaustingRounds = turns at hlevels
  obtain _ | ⟨b, _ | ⟨c, rest⟩⟩ := turns
  · cases hlevels
  · simp at hlevels
  simp only [List.head?_cons, List.tail_cons, Option.any_some, Bool.and_eq_true, decide_eq_true_eq,
    Option.isNone_iff_eq_none] at hlevels
  obtain ⟨hnormal, hcritical, hreload, hreturns⟩ := hlevels
  have hbefore : PrecedingRound .json s₀ exhaustingRounds b c := by
    refine ⟨⟨[], rest, htaken.symm⟩, ?_⟩
    rintro ⟨calls, hcalls, -⟩
    rw [hreload] at hcalls
    cases hcalls
  have hc : c ∈ taken (iteration .json) s₀ exhaustingRounds :=
    hbefore.adjacent.subset (List.mem_cons_of_mem _ List.mem_cons_self)
  cases hs' : (iteration .json c.1 c.2).result with
  | error r =>
    rw [hs'] at hreturns
    cases hreturns
  | ok s' =>
    obtain ⟨s, reading, -, hreading, hstatus, -⟩ :=
      systemStatus_records .json exhaustingStart exhaustingRounds s₀ hs₀ c hc s' hs'
    obtain ⟨before, hshown, hrecord⟩ := hstatus b hbefore
    refine ⟨s₀, s, b, c, before, reading, hbefore, hshown, hreading, ?_⟩
    rw [printedLevels, hshown] at hnormal
    rw [printedLevels, hreading] at hcritical
    have hn : before.snapshot.systemLevel = .normal := List.singleton_inj.mp hnormal
    have hcr : reading.snapshot.systemLevel = .critical := List.singleton_inj.mp hcritical
    rw [hrecord, hn, hcr, if_neg (by decide)]

end EdgeSentinel.Monitor
