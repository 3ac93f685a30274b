import EdgeSentinel.Monitor.Rounds

/-!
# Following processes by their names

A target is given by its name. The name is looked up in `/proc` when the target has no
PID, and from then on the PID is followed. Two things can go wrong with that.

* A target that exits should be looked up again. The clean-up that makes this happen sees
  `active_process` only, which is the last process of the list, so an earlier target keeps
  its PID for as long as it cannot be read.
* The name is compared when it is looked up, and never again: a PID that comes to show
  another name, because its process renamed itself or was replaced, is followed all the
  same.

## The model

* `Look` — what the program sees of the PID that it follows for a target: a search finds it under
  a name, or it is read and shows one. `looks` lists what a run sees at one place of the list.
* `KeepsName` — every PID that is read shows the name that it showed in the look right before.

## What is proved

* `searchedAgain_iff` — in a run, every target that is unavailable at the end of a round
  is looked up again **if and only if** no target but the last one becomes unreadable
  while it has a PID.
* `reportsTarget_iff` — in a run, every process that is reported for a target has the name
  of the target **if and only if** no PID that is followed changes the name that it shows
  between two looks.
-/

namespace EdgeSentinel.Monitor

open CLib Config Trace Trace.Traced

variable {format : OutputFormat} {s s' s₀ : MainState}

/-! ### Targets that exit -/

/-- Every target that is unavailable is looked up again: it has no PID. -/
def SearchedAgain (s : MainState) : Prop :=
  ∀ i, i.val < s.processCount → (s.processes i).targetName.bytes ≠ [] →
    (s.processes i).available = false → (s.processes i).currentPid = 0

/-- The process can be read in this round, if it has a PID. -/
def ReadableIfFound (calls : ProcessCalls) (p : MonitoredProcess) : Prop :=
  pidInRound calls p = 0 ∨ (readProcessInfo calls.status (pidInRound calls p)).isSome

/-- Every target but the last one can be read in this round, if it has a PID. -/
def EarlierTargetsReadable (calls : RoundCalls) (s : MainState) : Prop :=
  ∀ i, i.val + 1 < s.processCount → (s.processes i).targetName.bytes ≠ [] →
    ReadableIfFound (calls.processes i) (s.processes i)

/-- A process that was monitored is to be looked up again exactly if its PID is forgotten in
the clean-up, or it could be read, if it had a PID. -/
theorem forgetIf_searchedAgain_iff {calls : ProcessCalls} {p p' : MonitoredProcess}
    (h : AfterMonitoring calls p p') (clear : Prop) [Decidable clear] :
    ((forgetIf clear p').available = false → (forgetIf clear p').currentPid = 0) ↔
      clear ∨ ReadableIfFound calls p := by
  have havail := h.available
  have hpid := h.currentPid
  unfold forgetIf ReadableIfFound
  by_cases hclear : clear
  · by_cases ha : p'.available = true
    · simp [hclear, ha]
    · simp [hclear, ha]
  · simp only [hclear, false_and, if_false, false_or]
    rw [havail, hpid]
    cases (readProcessInfo calls.status (pidInRound calls p)).isSome <;> simp

@[simp] theorem targetName_forgetIf (clear : Prop) [Decidable clear] (p : MonitoredProcess) :
    (forgetIf clear p).targetName = p.targetName := by
  unfold forgetIf
  split_ifs <;> rfl

/-- A round ends with every unavailable target to be looked up again exactly if every target
but the last one could be read, if it had a PID. -/
theorem round_searchedAgain_iff {calls : RoundCalls} (hs : Operating s)
    (h : (round format calls s).result = .ok s') :
    SearchedAgain s' ↔ EarlierTargetsReadable calls s := by
  have hround := round_ok hs.one_le hs.count_le h
  have hone := hs.one_le
  have hname : ∀ i, i.val < s.processCount →
      (s'.processes i).targetName = (s.processes i).targetName := by
    intro i hi
    obtain ⟨p, hp, heq⟩ := hround.monitored i hi
    rw [heq, targetName_forgetIf, (monitorProcessOnce_ok hp).targetName]
  have hprocess : ∀ i, i.val < s.processCount → (s.processes i).targetName.bytes ≠ [] →
      (((s'.processes i).available = false → (s'.processes i).currentPid = 0) ↔
        (i.val + 1 < s.processCount → ReadableIfFound (calls.processes i) (s.processes i))) := by
    intro i hi hnamed
    obtain ⟨p, hp, heq⟩ := hround.monitored i hi
    have hset : s.config.processName.cstr ≠ [] :=
      processName_ne_nil hs.usable (hs.names i hi ▸ hnamed)
    rw [heq, forgetIf_searchedAgain_iff (monitorProcessOnce_ok hp)]
    by_cases hlast : i.val + 1 < s.processCount
    · have : i.val ≠ s.processCount - 1 := by omega
      simp [hlast, this]
    · have : i.val = s.processCount - 1 := by omega
      exact ⟨fun _ hlt => absurd hlt hlast, fun _ => .inl ⟨hset, this⟩⟩
  unfold SearchedAgain EarlierTargetsReadable
  rw [hround.processCount]
  constructor
  · intro hall i hi hnamed
    have hlt : i.val < s.processCount := by omega
    exact (hprocess i hlt hnamed).mp (hall i hlt (by rwa [hname i hlt])) hi
  · intro hall i hi hnamed
    rw [hname i hi] at hnamed
    exact (hprocess i hi hnamed).mpr fun hlt => hall i hlt hnamed

/-- A round that a run completes: the state in which it begins, behind the reload if there
was one, and the state in which it ends. -/
def RoundOf (format : OutputFormat) (s₀ : MainState) (its : List Iteration) (s : MainState)
    (calls : RoundCalls) (s' : MainState) : Prop :=
  ∃ c ∈ taken (iteration format) s₀ its, (reloadIfRequested c.2.reload c.1).result = .ok s ∧
    calls = c.2.round ∧ (round format calls s).result = .ok s'

/-- The rounds of a run begin in operating states. -/
theorem RoundOf.operating {its : List Iteration} {calls : RoundCalls} (hs₀ : Operating s₀)
    (h : RoundOf format s₀ its s calls s') : Operating s := by
  obtain ⟨c, hc, hreload, -, -⟩ := h
  exact reloadIfRequested_operating
    (forall_taken (fun _ _ _ hs => iteration_operating hs) hs₀ its c hc) hreload

/-- **Targets that exit**: in a run, every round ends with every unavailable target to be
looked up again if and only if in every round each target but the last one can be read, if
it has a PID. -/
theorem searchedAgain_iff (format : OutputFormat) (calls : StartCalls) (its : List Iteration)
    (s₀ : MainState) (hs₀ : (start calls).result = .ok s₀) :
    (∀ s round s', RoundOf format s₀ its s round s' → SearchedAgain s') ↔
      ∀ s round s', RoundOf format s₀ its s round s' → EarlierTargetsReadable round s :=
  forall₃_congr fun s round s' => forall_congr' fun h => by
    have hs := h.operating (start_operating hs₀)
    obtain ⟨-, -, -, -, hround⟩ := h
    exact round_searchedAgain_iff hs hround

/-- The two processes of the example below. -/
def twoProcesses : ProcFs := quietProc [(7, ascii "a"), (8, ascii "b")]

/-- The same after the first of them has exited. -/
def secondProcess : ProcFs := quietProc [(8, ascii "b")]

/-- The round of a run of one turn without a reload. -/
theorem roundOf_single {round : RoundCalls} {calls : RoundCalls}
    (h : RoundOf format s₀ [⟨none, round⟩] s calls s') :
    s = s₀ ∧ calls = round := by
  obtain ⟨c, hc, hs, hcalls, -⟩ := h
  rw [taken_singleton] at hc
  obtain rfl := List.mem_singleton.mp hc
  exact ⟨(Except.ok.inj hs).symm, hcalls⟩

/-- A single target is always looked up again: it is the last one. -/
theorem searchedAgain_single :
    ∃ s₀, (start (quietStart .zero (ascii "process_names=a\n") twoProcesses)).result = .ok s₀ ∧
      ∀ s round s', RoundOf .json s₀ [⟨none, quietRound secondProcess 1⟩] s round s' →
        SearchedAgain s' := by
  have hcount : ((start (quietStart .zero (ascii "process_names=a\n") twoProcesses)).result.map
      fun s => s.processCount) = .ok 1 := by decide +kernel
  obtain ⟨s₀, hs₀, hone⟩ := ok_of_map_ok hcount
  refine ⟨s₀, hs₀, (searchedAgain_iff .json _ _ s₀ hs₀).mpr fun s round s' h i hi => ?_⟩
  obtain ⟨rfl, -⟩ := roundOf_single h
  omega

/-- An earlier target that exits is not looked up again: it keeps its PID. -/
theorem earlier_target_not_searched : ¬ ∀ (format : OutputFormat) (calls : StartCalls)
    (its : List Iteration) (s₀ : MainState), (start calls).result = .ok s₀ →
    ∀ s round s', RoundOf format s₀ its s round s' → SearchedAgain s' := by
  intro h
  have hrun : ((start (quietStart .zero (ascii "process_names=a,b\n") twoProcesses)).result.map
      fun s => (round .json (quietRound secondProcess 1) s).result.map fun s' =>
        (s'.processCount, (s'.processes 0).targetName.bytes, (s'.processes 0).available,
          (s'.processes 0).currentPid)) = .ok (.ok (2, ascii "a", false, 7)) := by decide +kernel
  obtain ⟨s₀, hs₀, hrun⟩ := ok_of_map_ok hrun
  obtain ⟨s', hs', hrun⟩ := ok_of_map_ok hrun
  obtain ⟨hcount, hrest⟩ := Prod.mk.inj hrun
  obtain ⟨hname, hrest⟩ := Prod.mk.inj hrest
  obtain ⟨havail, hpid⟩ := Prod.mk.inj hrest
  have hzero := h .json _ [⟨none, quietRound secondProcess 1⟩] s₀ hs₀ s₀ _ s'
    ⟨_, List.mem_cons_self, rfl, rfl, hs'⟩ 0 (by rw [hcount]; decide) (by rw [hname]; decide)
    havail
  rw [hpid] at hzero
  exact absurd hzero (by decide)

/-! ### Targets that change their name -/

/-- A search compares the name: the PID it finds shows the name it looks for. -/
theorem name_of_findProcessByName {proc : ProcFs} {processName : Bytes} {pid : Int32}
    (h : findProcessByName proc processName = some pid) :
    ∃ info, readProcessInfo proc pid = some info ∧ info.name.bytes = processName := by
  unfold findProcessByName at h
  split at h
  · cases h
  · obtain ⟨name, -, hname⟩ := List.exists_of_findSome?_eq_some h
    exact (matchEntry_eq_some_iff.mp hname).status

/-- What the program sees of the PID that it follows for a target. -/
inductive Look where
  /-- A search finds the PID, under this name. -/
  | found (pid : Int32) (name : Bytes)
  /-- The PID is read, and shows this name. -/
  | read (pid : Int32) (name : Bytes)
  deriving DecidableEq, Repr

/-- What a search sees of the PID that it finds. -/
def searchLooks (scan : ProcFs) (processName : Bytes) : List Look :=
  match findProcessByName scan processName with
  | none => []
  | some pid => (readProcessInfo scan pid).toList.map fun info => .found pid info.name.bytes

/-- What a round sees of a PID that it reads. -/
def readLooks (status : ProcFs) (pid : Int32) : List Look :=
  (readProcessInfo status pid).toList.map fun info => .read pid info.name.bytes

/-- What a call of `monitor_process_once` sees of a target, which is looked up if it has no PID. -/
def callLooks (calls : ProcessCalls) (p : MonitoredProcess) : List Look :=
  if p.targetName.bytes = [] then []
  else (if p.currentPid = 0 then searchLooks calls.scan p.targetName.bytes else []) ++
    readLooks calls.status (pidInRound calls p)

/-- Every PID that is read shows the name that it showed in the look right before. A search begins
anew; it compares the name itself. -/
def KeepsName : Option (Int32 × Bytes) → List Look → Prop
  | _, [] => True
  | _, .found pid name :: looks => KeepsName (some (pid, name)) looks
  | last, .read pid name :: looks => last = some (pid, name) ∧ KeepsName (some (pid, name)) looks

/-- The PID and the name of the last look. -/
def lastLook : Option (Int32 × Bytes) → List Look → Option (Int32 × Bytes)
  | last, [] => last
  | _, .found pid name :: looks => lastLook (some (pid, name)) looks
  | _, .read pid name :: looks => lastLook (some (pid, name)) looks

instance decidableKeepsName : ∀ last looks, Decidable (KeepsName last looks)
  | _, [] => inferInstanceAs (Decidable True)
  | _, .found pid name :: looks => decidableKeepsName (some (pid, name)) looks
  | _, .read pid name :: looks =>
    haveI := decidableKeepsName (some (pid, name)) looks
    inferInstanceAs (Decidable (_ ∧ _))

theorem keepsName_append (last : Option (Int32 × Bytes)) (looks looks' : List Look) :
    KeepsName last (looks ++ looks') ↔
      KeepsName last looks ∧ KeepsName (lastLook last looks) looks' := by
  induction looks generalizing last with
  | nil => exact (and_iff_right trivial).symm
  | cons look looks ih =>
    cases look with
    | found pid name => exact ih _
    | read pid name => exact (and_congr_right fun _ => ih _).trans and_assoc.symm

theorem lastLook_append (last : Option (Int32 × Bytes)) (looks looks' : List Look) :
    lastLook last (looks ++ looks') = lastLook (lastLook last looks) looks' := by
  induction looks generalizing last with
  | nil => rfl
  | cons look looks ih => cases look <;> exact ih _

/-- A search that finds a PID has seen it under the name it looks for. -/
theorem searchLooks_of_found {scan : ProcFs} {processName : Bytes} {pid : Int32}
    (h : findProcessByName scan processName = some pid) :
    searchLooks scan processName = [.found pid processName] := by
  obtain ⟨info, hinfo, hname⟩ := name_of_findProcessByName h
  simp [searchLooks, h, hinfo, hname]

/-- A search never sees a PID under another name than before. -/
theorem keepsName_searchLooks (last : Option (Int32 × Bytes)) (scan : ProcFs)
    (processName : Bytes) : KeepsName last (searchLooks scan processName) := by
  cases h : findProcessByName scan processName with
  | none => simp [searchLooks, h, KeepsName]
  | some pid =>
    rw [searchLooks_of_found h]
    trivial

/-- A call of `monitor_process_once` for a target reads nothing but the target: whatever it
reads has its name, and so has the record it leaves behind, if the target is available. -/
def ReportsTarget (config : AppConfig) (calls : ProcessCalls) (p : MonitoredProcess) : Prop :=
  p.targetName.bytes ≠ [] →
    (∀ info, Action.infoRead info ∈ (monitorProcessOnce config calls p).events →
      info.name.bytes = p.targetName.bytes) ∧
    ∀ p', (monitorProcessOnce config calls p).result = .ok p' → p'.available = true →
      p'.info.name.bytes = p'.targetName.bytes

/-- A search does not stop. -/
theorem lookUpProcess_ok (calls : ProcessCalls) (p : MonitoredProcess) :
    ∃ p', (lookUpProcess calls p).result = .ok p' ∧ p'.currentPid = pidInRound calls p := by
  have hyields := lookUpProcess_yields calls p
  unfold lookUpProcess at hyields ⊢
  split_ifs at hyields ⊢
  · cases hf : findProcessByName calls.scan p.targetName.bytes with
    | none =>
      rw [hf] at hyields
      exact ⟨_, rfl, (hyields.ok _ rfl).2.1⟩
    | some pid =>
      rw [hf] at hyields
      exact ⟨_, rfl, (hyields.ok _ rfl).2.1⟩
  · exact ⟨_, rfl, (hyields.ok _ rfl).2.1⟩

/-- What a round reads for a process is what its PID shows. -/
theorem infoRead_mem_iff {config : AppConfig} {calls : ProcessCalls} {p : MonitoredProcess}
    {info : ProcessInfo} : Action.infoRead info ∈ (monitorProcessOnce config calls p).events ↔
      readProcessInfo calls.status (pidInRound calls p) = some info := by
  obtain ⟨p₁, hp₁, hpid⟩ := lookUpProcess_ok calls p
  have hlook : Action.infoRead info ∉ (lookUpProcess calls p).events := fun hm => by
    obtain ⟨pid, he⟩ := lookUpProcess_emits calls p _ hm
    cases he
  -- what follows the reading reads nothing more
  have hrest : ∀ p₂, (monitorProcessCpu config calls p₂ >>= fun p₃ =>
      watchAvailability config calls p₃ >>= fun p₄ => emit (.monitored p₄) >>= fun _ =>
        (pure p₄ : Traced Action MonitorFailure MonitoredProcess)).Emits
        fun e => e ≠ .infoRead info := by
    intro p₂
    refine .bind ((monitorProcessCpu_emits config calls p₂).mono fun e he => ?_) fun p₃ _ =>
      .bind (watchAvailability_emits (by simp) config calls p₃) fun p₄ _ =>
        .emit_bind (by simp) .pure
    · rintro rfl
      exact he
  rw [monitorProcessOnce, events_bind hp₁, List.mem_append, or_iff_right hlook, ← hpid, readProcess]
  cases readProcessInfo calls.status p₁.currentPid with
  | none =>
    dsimp only
    rw [bind_assoc, events_emit_bind, List.mem_cons, pure_bind]
    refine ⟨fun hm => ?_, fun h => by cases h⟩
    rcases hm with hm | hm
    · cases hm
    · exact absurd rfl (hrest _ _ hm)
  | some info' =>
    dsimp only
    rw [bind_assoc, events_emit_bind, List.mem_cons, or_iff_left]
    · rw [Action.infoRead.injEq, Option.some.injEq, eq_comm]
    · intro hm
      refine absurd rfl (Emits.bind (P := fun e => e ≠ .infoRead info)
        ((gradeMemory_emits config calls _).mono fun e he => ?_) (fun _ _ => hrest _) _ hm)
      rintro rfl
      exact he

/-- A call reports the target exactly if what its PID shows has the name of the target. -/
theorem reportsTarget_iff_shown {config : AppConfig} {calls : ProcessCalls}
    {p : MonitoredProcess} : ReportsTarget config calls p ↔ (p.targetName.bytes ≠ [] →
      ∀ info, readProcessInfo calls.status (pidInRound calls p) = some info →
        info.name.bytes = p.targetName.bytes) := by
  refine forall_congr' fun _ => ⟨fun h info hinfo => h.1 info (infoRead_mem_iff.mpr hinfo),
    fun h => ⟨fun info hm => h info (infoRead_mem_iff.mp hm), fun p' hp' havail => ?_⟩⟩
  have hafter := monitorProcessOnce_ok hp'
  rw [hafter.available] at havail
  obtain ⟨info, hinfo⟩ := Option.isSome_iff_exists.mp havail
  rw [hafter.info info hinfo, hafter.targetName]
  exact h info hinfo

/-- The last look has seen the PID of the target under its name, if the target has a PID. -/
def LastSeen (last : Option (Int32 × Bytes)) (p : MonitoredProcess) : Prop :=
  p.targetName.bytes ≠ [] → p.currentPid ≠ 0 → last = some (p.currentPid, p.targetName.bytes)

section Call

variable {config : AppConfig} {calls : ProcessCalls} {p p' : MonitoredProcess}
  {last : Option (Int32 × Bytes)}

/-- Behind the search of a round, if there is one, the PID was seen under the name of the target. -/
theorem lastLook_of_search (h : LastSeen last p) (hname : p.targetName.bytes ≠ [])
    (hpid : pidInRound calls p ≠ 0) :
    lastLook last (if p.currentPid = 0 then searchLooks calls.scan p.targetName.bytes else []) =
      some (pidInRound calls p, p.targetName.bytes) := by
  by_cases hzero : p.currentPid = 0
  · have hround : pidInRound calls p = (findProcessByName calls.scan p.targetName.bytes).getD 0 :=
      if_pos ⟨hname, hzero⟩
    rw [hround] at hpid ⊢
    rw [if_pos hzero]
    cases hfound : findProcessByName calls.scan p.targetName.bytes with
    | none =>
      rw [hfound] at hpid
      exact absurd rfl hpid
    | some pid =>
      rw [searchLooks_of_found hfound]
      rfl
  · rw [if_neg hzero, pidInRound, if_neg fun hc => hzero hc.2]
    exact h hname hzero

/-- Nothing is read of the PID 0. -/
theorem pidInRound_ne_zero {info : ProcessInfo}
    (h : readProcessInfo calls.status (pidInRound calls p) = some info) :
    pidInRound calls p ≠ 0 := by
  intro hzero
  rw [hzero, readProcessInfo, if_pos (by decide)] at h
  cases h

/-- **A call** reports the target exactly if its PID shows the name it showed in the look before. -/
theorem reportsTarget_iff_keepsName (h : LastSeen last p) :
    ReportsTarget config calls p ↔ KeepsName last (callLooks calls p) := by
  rw [reportsTarget_iff_shown, callLooks]
  by_cases hname : p.targetName.bytes = []
  · rw [if_pos hname]
    exact iff_of_true (fun hne => absurd hname hne) trivial
  have hsearch : KeepsName last
      (if p.currentPid = 0 then searchLooks calls.scan p.targetName.bytes else []) := by
    split_ifs
    · exact keepsName_searchLooks _ _ _
    · trivial
  rw [if_neg hname, keepsName_append, and_iff_right hsearch, readLooks]
  cases hinfo : readProcessInfo calls.status (pidInRound calls p) with
  | none => exact iff_of_true (fun _ _ he => by cases he) trivial
  | some info =>
    have hlast := lastLook_of_search h hname (pidInRound_ne_zero hinfo)
    simp [KeepsName, hlast, hname, eq_comm]

/-- A call that reports the target leaves a record whose PID was seen under its name. -/
theorem lastSeen_monitorProcessOnce (h : LastSeen last p)
    (hreports : ReportsTarget config calls p) {clear : Prop} [Decidable clear]
    (hp' : (monitorProcessOnce config calls p).result = .ok p') :
    LastSeen (lastLook last (callLooks calls p)) (forgetIf clear p') := by
  have hafter := monitorProcessOnce_ok hp'
  rw [reportsTarget_iff_shown] at hreports
  intro hname hpid
  rw [targetName_forgetIf, hafter.targetName] at hname ⊢
  have hkept : (forgetIf clear p').currentPid = pidInRound calls p := by
    unfold forgetIf at hpid ⊢
    split_ifs at hpid ⊢
    · exact absurd rfl hpid
    · exact hafter.currentPid
  rw [hkept] at hpid ⊢
  rw [callLooks, if_neg hname, lastLook_append, lastLook_of_search h hname hpid, readLooks]
  cases hinfo : readProcessInfo calls.status (pidInRound calls p) with
  | none => rfl
  | some info => simp [lastLook, hreports hname info hinfo]

end Call

/-- A call of `monitor_process_once` in a run. -/
def MonitorCall (format : OutputFormat) (s₀ : MainState) (its : List Iteration)
    (config : AppConfig) (calls : ProcessCalls) (p : MonitoredProcess) : Prop :=
  ∃ c ∈ taken (iteration format) s₀ its, ∃ s,
    (reloadIfRequested c.2.reload c.1).result = .ok s ∧
    ∃ d ∈ taken (monitorProcess c.2.round) s (processIndices s.processCount),
      config = d.1.config ∧ calls = c.2.round.processes d.2 ∧ p = d.1.processes d.2

/-- What holds of the calls of `monitor_process_once` in one turn of the loop. -/
def InTurn (P : AppConfig → ProcessCalls → MonitoredProcess → Prop) (s : MainState)
    (it : Iteration) : Prop :=
  ∀ s₁, (reloadIfRequested it.reload s).result = .ok s₁ →
    ∀ d ∈ taken (monitorProcess it.round) s₁ (processIndices s₁.processCount),
      P d.1.config (it.round.processes d.2) (d.1.processes d.2)

/-- What holds of all the calls of a run holds of the calls in each of its turns. -/
theorem forall_monitorCall_iff {its : List Iteration}
    {P : AppConfig → ProcessCalls → MonitoredProcess → Prop} :
    (∀ config calls p, MonitorCall format s₀ its config calls p → P config calls p) ↔
      ∀ c ∈ taken (iteration format) s₀ its, InTurn P c.1 c.2 := by
  constructor
  · intro h c hc s₁ hs₁ d hd
    exact h _ _ _ ⟨c, hc, s₁, hs₁, d, hd, rfl, rfl, rfl⟩
  · rintro h config calls p ⟨c, hc, s₁, hs₁, d, hd, rfl, rfl, rfl⟩
    exact h c hc s₁ hs₁ d hd

/-! ### What a run sees -/

/-- What is seen when the process at place `i` is set up. -/
def setUpLooks (i : ProcessIndex) (scans : ProcessIndex → ProcFs) (s : MainState) : List Look :=
  if i.val < s.processCount ∧ (s.processes i).targetName.bytes ≠ []
  then searchLooks (scans i) (s.processes i).targetName.bytes else []

/-- What is seen of it in a round that begins in `s`, if the loop gets to it. -/
def roundLooks (i : ProcessIndex) (calls : RoundCalls) (s : MainState) : List Look :=
  if (taken (monitorProcess calls) s (processIndices s.processCount)).any (·.2 = i)
  then callLooks (calls.processes i) (s.processes i) else []

/-- What is seen in a turn of the loop: it searches anew for a configuration that is applied. -/
def turnLooks (i : ProcessIndex) (s : MainState) (it : Iteration) : List Look :=
  match (reloadIfRequested it.reload s).result with
  | .error _ => []
  | .ok s₁ =>
    (match it.reload with
      | some calls => if (attemptReload calls s).1 = none then setUpLooks i calls.scans s₁ else []
      | none => []) ++ roundLooks i it.round s₁

/-- **What a run sees** at place `i` of the list, from the start. -/
def looks (format : OutputFormat) (calls : StartCalls) (s₀ : MainState) (its : List Iteration)
    (i : ProcessIndex) : List Look :=
  setUpLooks i calls.scans s₀ ++
    (taken (iteration format) s₀ its).flatMap fun c => turnLooks i c.1 c.2

variable {i : ProcessIndex} {last : Option (Int32 × Bytes)}

/-- So it is for the process at place `i`, if that is in use. -/
def LastSeenAt (i : ProcessIndex) (last : Option (Int32 × Bytes)) (s : MainState) : Prop :=
  i.val < s.processCount → LastSeen last (s.processes i)

/-- The process is set up with the PID that was seen under its name. -/
theorem lastSeenAt_setUpLooks {config : AppConfig} {scans : ProcessIndex → ProcFs} {getpid : Int32}
    (husable : Usable config) (hprocesses : s'.processes = (setUp config scans getpid s).processes)
    (hcount : s'.processCount = monitoredProcessCount config) :
    LastSeenAt i (lastLook last (setUpLooks i scans s')) s' := by
  intro hi hname hpid
  have hi' : i.val < monitoredProcessCount config := hcount ▸ hi
  have hfresh : s'.processes i = freshProcess config scans getpid i := by
    rw [hprocesses]
    exact if_pos hi'
  have htarget : (s'.processes i).targetName.bytes = targetProcessName config i := by
    rw [hfresh]
    exact targetName_freshProcess husable hi'
  have hcurrent : (s'.processes i).currentPid =
      (findProcessByName (scans i) (targetProcessName config i)).getD 0 := by
    rw [hfresh]
    show initialProcessPid config (scans i) getpid i = _
    rw [initialProcessPid, if_pos (htarget ▸ hname)]
  rw [setUpLooks, if_pos ⟨hi, hname⟩, hcurrent, htarget]
  rw [hcurrent] at hpid
  cases hfound : findProcessByName (scans i) (targetProcessName config i) with
  | none =>
    rw [hfound] at hpid
    exact absurd rfl hpid
  | some pid =>
    rw [searchLooks_of_found hfound]
    rfl

theorem keepsName_setUpLooks (last : Option (Int32 × Bytes)) (i : ProcessIndex)
    (scans : ProcessIndex → ProcFs) (s : MainState) : KeepsName last (setUpLooks i scans s) := by
  unfold setUpLooks
  split_ifs
  · exact keepsName_searchLooks _ _ _
  · trivial

/-- What is seen in front of a round keeps the names, and what is known of the last look. -/
theorem turnLooks_eq {it : Iteration} (hlast : LastSeenAt i last s)
    (hs' : (reloadIfRequested it.reload s).result = .ok s') :
    ∃ front, turnLooks i s it = front ++ roundLooks i it.round s' ∧ KeepsName last front ∧
      LastSeenAt i (lastLook last front) s' := by
  unfold turnLooks
  rw [hs']
  dsimp only
  refine ⟨_, rfl, ?_⟩
  cases hreload : it.reload with
  | none =>
    rw [hreload] at hs'
    obtain rfl := Except.ok.inj hs'
    exact ⟨trivial, hlast⟩
  | some calls =>
    rw [hreload] at hs'
    dsimp only
    obtain ⟨step, hstep, -, hprocesses, hcount⟩ | ⟨hacc, s₂, hstep, hconfig, rfl⟩ := reload_ok hs'
    · rw [hstep, if_neg (by simp)]
      refine ⟨trivial, fun hi => ?_⟩
      rw [hprocesses]
      exact hlast (hcount ▸ hi)
    · rw [hstep, if_pos rfl]
      exact ⟨keepsName_setUpLooks _ _ _ _,
        lastSeenAt_setUpLooks (hconfig ▸ usable_reloadConfig hacc) rfl rfl⟩

theorem roundLooks_of_mem {calls : RoundCalls}
    (h : i ∈ (taken (monitorProcess calls) s (processIndices s.processCount)).map Prod.snd) :
    roundLooks i calls s = callLooks (calls.processes i) (s.processes i) := by
  obtain ⟨d, hd, rfl⟩ := List.mem_map.mp h
  exact if_pos (List.any_eq_true.mpr ⟨d, hd, decide_eq_true rfl⟩)

theorem roundLooks_of_not_mem {calls : RoundCalls}
    (h : i ∉ (taken (monitorProcess calls) s (processIndices s.processCount)).map Prod.snd) :
    roundLooks i calls s = [] := by
  refine if_neg fun hany => h ?_
  obtain ⟨d, hd, hi⟩ := List.any_eq_true.mp hany
  exact List.mem_map.mpr ⟨d, hd, of_decide_eq_true hi⟩

/-- What holds of the call for the process at place `i` in one turn of the loop, if there is
one. -/
def InTurnAt (i : ProcessIndex) (P : AppConfig → ProcessCalls → MonitoredProcess → Prop)
    (s : MainState) (it : Iteration) : Prop :=
  ∀ s₁, (reloadIfRequested it.reload s).result = .ok s₁ →
    i ∈ (taken (monitorProcess it.round) s₁ (processIndices s₁.processCount)).map Prod.snd →
    P s₁.config (it.round.processes i) (s₁.processes i)

/-- The calls in a turn are those for each process, with the records in front of the loop. -/
theorem inTurn_iff {P : AppConfig → ProcessCalls → MonitoredProcess → Prop} {it : Iteration} :
    InTurn P s it ↔ ∀ i, InTurnAt i P s it := by
  constructor
  · intro h i s₁ hs₁ hi
    obtain ⟨d, hd, rfl⟩ := List.mem_map.mp hi
    obtain ⟨hconfig, hrecord⟩ := taken_monitorProcess (nodup_processIndices _) hd
    rw [← hconfig, ← hrecord]
    exact h s₁ hs₁ d hd
  · intro h s₁ hs₁ d hd
    obtain ⟨hconfig, hrecord⟩ := taken_monitorProcess (nodup_processIndices _) hd
    rw [hconfig, hrecord]
    exact h d.2 s₁ hs₁ (List.mem_map_of_mem hd)

/-- **A turn** reports the target at place `i` exactly if its PID keeps its name; and then what is
known of the last look holds behind it. -/
theorem inTurnAt_reportsTarget_iff (format : OutputFormat) (it : Iteration) (hs : Operating s)
    (hlast : LastSeenAt i last s) :
    (InTurnAt i ReportsTarget s it ↔ KeepsName last (turnLooks i s it)) ∧
      (InTurnAt i ReportsTarget s it → ∀ s', (iteration format s it).result = .ok s' →
        LastSeenAt i (lastLook last (turnLooks i s it)) s') := by
  rcases hs₁ : (reloadIfRequested it.reload s).result with reason | s₁
  · refine ⟨iff_of_true (fun t ht => ?_) ?_, fun _ s' hs' => ?_⟩
    · cases ht.symm.trans hs₁
    · unfold turnLooks
      rw [hs₁]
      trivial
    · rw [iteration, bind_of_error hs₁] at hs'
      cases hs'
  have hop : Operating s₁ := reloadIfRequested_operating hs hs₁
  obtain ⟨front, hlooks, hfront, hlast₁⟩ := turnLooks_eq hlast hs₁
  have hturn : InTurnAt i ReportsTarget s it ↔
      (i ∈ (taken (monitorProcess it.round) s₁ (processIndices s₁.processCount)).map Prod.snd →
        ReportsTarget s₁.config (it.round.processes i) (s₁.processes i)) := by
    refine ⟨fun h => h s₁ hs₁, fun h t ht => ?_⟩
    obtain rfl := Except.ok.inj (hs₁.symm.trans ht)
    exact h
  have hused : i ∈ (taken (monitorProcess it.round) s₁
      (processIndices s₁.processCount)).map Prod.snd → i.val < s₁.processCount := fun hi =>
    mem_processIndices.mp ((isPrefix_map_snd_taken _ _ _).subset hi)
  rw [hlooks, keepsName_append, and_iff_right hfront, lastLook_append, hturn]
  constructor
  · by_cases hi : i ∈ (taken (monitorProcess it.round) s₁
        (processIndices s₁.processCount)).map Prod.snd
    · rw [roundLooks_of_mem hi]
      exact (forall_prop_of_true hi).trans (reportsTarget_iff_keepsName (hlast₁ (hused hi)))
    · rw [roundLooks_of_not_mem hi]
      exact iff_of_true (fun h => absurd h hi) trivial
  · intro hreports s' hs' hi'
    rw [iteration, bind_of_ok hs₁] at hs'
    have hafter := round_ok hop.one_le hop.count_le hs'
    have hi : i.val < s₁.processCount := hafter.processCount ▸ hi'
    obtain ⟨s₂, hs₂, -⟩ := hafter.loop
    have hmem : i ∈ (taken (monitorProcess it.round) s₁
        (processIndices s₁.processCount)).map Prod.snd := by
      rw [map_snd_taken_of_ok hs₂]
      exact mem_processIndices.mpr hi
    obtain ⟨p, hp, heq⟩ := hafter.monitored i hi
    rw [roundLooks_of_mem hmem, heq]
    exact lastSeen_monitorProcessOnce (hlast₁ hi) (hreports hmem) hp

/-- **The turns of a run** report the target at place `i` exactly if its PID keeps its name. -/
theorem turns_reportsTarget_iff {its : List Iteration} (hs : Operating s)
    (hlast : LastSeenAt i last s) :
    (∀ c ∈ taken (iteration format) s its, InTurnAt i ReportsTarget c.1 c.2) ↔
      KeepsName last ((taken (iteration format) s its).flatMap fun c => turnLooks i c.1 c.2) := by
  induction its generalizing s last with
  | nil => simp [taken, KeepsName]
  | cons it its ih =>
    obtain ⟨hturn, hbehind⟩ := inTurnAt_reportsTarget_iff format it hs hlast
    rw [taken, List.forall_mem_cons, List.flatMap_cons, keepsName_append, ← hturn]
    refine and_congr_right fun hreports => ?_
    cases hs' : (iteration format s it).result with
    | error reason => simp [KeepsName]
    | ok s' => exact ih (iteration_operating hs hs') (hbehind hreports s' hs')

/-- **Targets that change their name**: in a run, every call of `monitor_process_once` for a
target reads that target and nothing else if and only if, at every place of the list, every PID
that is read shows the name that it showed in the look right before: in the search that found it,
at the start, at a reload or in a round, or when it was read last. -/
theorem reportsTarget_iff (format : OutputFormat) (calls : StartCalls) (its : List Iteration)
    (s₀ : MainState) (hs₀ : (start calls).result = .ok s₀) :
    (∀ config calls p, MonitorCall format s₀ its config calls p →
      ReportsTarget config calls p) ↔
      ∀ i, KeepsName none (looks format calls s₀ its i) := by
  have hop := start_operating hs₀
  have hset : ∀ i, LastSeenAt i (lastLook none (setUpLooks i calls.scans s₀)) s₀ := fun i => by
    obtain ⟨_, _, _, rfl⟩ := start_ok hs₀
    exact lastSeenAt_setUpLooks hop.usable rfl rfl
  have hplace : ∀ i, KeepsName none (looks format calls s₀ its i) ↔
      ∀ c ∈ taken (iteration format) s₀ its, InTurnAt i ReportsTarget c.1 c.2 := fun i => by
    rw [looks, keepsName_append, and_iff_right (keepsName_setUpLooks _ _ _ _),
      turns_reportsTarget_iff hop (hset i)]
  simp only [hplace, forall_monitorCall_iff, inTurn_iff]
  exact ⟨fun h i c hc => h c hc i, fun h c hc i => h i c hc⟩

/-- A `/proc` with one process, of the name `name`. -/
def oneProcess (name : Bytes) : ProcFs := quietProc [(7, name)]

/-- A start with the target `a`, of the PID 7. -/
theorem start_oneProcess :
    ∃ s₀, (start (quietStart .zero (ascii "process_names=a\n") (oneProcess (ascii "a")))).result =
      .ok s₀ ∧ s₀.processCount = 1 ∧ (s₀.processes 0).targetName.bytes = ascii "a" ∧
      (s₀.processes 0).currentPid = 7 ∧ (s₀.processes 0).info.name.bytes = [] := by
  have hstart : ((start (quietStart .zero (ascii "process_names=a\n")
      (oneProcess (ascii "a")))).result.map fun s => (s.processCount,
        (s.processes 0).targetName.bytes, (s.processes 0).currentPid,
        (s.processes 0).info.name.bytes)) = .ok (1, ascii "a", 7, []) := by decide +kernel
  obtain ⟨s₀, hs₀, h⟩ := ok_of_map_ok hstart
  obtain ⟨hcount, h⟩ := Prod.mk.inj h
  obtain ⟨hname, h⟩ := Prod.mk.inj h
  obtain ⟨hpid, hinfo⟩ := Prod.mk.inj h
  exact ⟨s₀, hs₀, hcount, hname, hpid, hinfo⟩

/-- The name that a single process shows. -/
theorem readProcessInfo_oneProcess {calls : ProcessCalls} {p : MonitoredProcess}
    (hpid : p.currentPid = 7) {name : Bytes} (hstatus : calls.status = oneProcess name) :
    readProcessInfo calls.status (pidInRound calls p) = readProcessInfo (oneProcess name) 7 := by
  rw [pidInRound, if_neg fun h => absurd (hpid ▸ h.2) (by decide), hpid, hstatus]

/-- A process that keeps its name. -/
theorem reportsTarget_oneProcess :
    ∃ s₀, (start (quietStart .zero (ascii "process_names=a\n") (oneProcess (ascii "a")))).result =
      .ok s₀ ∧ ∀ config calls p,
        MonitorCall .json s₀ [⟨none, quietRound (oneProcess (ascii "a")) 1⟩] config calls p →
          ReportsTarget config calls p := by
  have hrun : ((start (quietStart .zero (ascii "process_names=a\n")
      (oneProcess (ascii "a")))).result.map fun s₀ =>
        decide (∀ i, KeepsName none (looks .json (quietStart .zero (ascii "process_names=a\n")
          (oneProcess (ascii "a"))) s₀ [⟨none, quietRound (oneProcess (ascii "a")) 1⟩] i))) =
      .ok true := by decide +kernel
  obtain ⟨s₀, hs₀, hkeeps⟩ := ok_of_map_ok hrun
  exact ⟨s₀, hs₀, (reportsTarget_iff .json _ _ s₀ hs₀).mpr (of_decide_eq_true hkeeps)⟩

/-- A process that changes its name is reported for a target whose name it no longer has. -/
theorem renamed_process_reported : ¬ ∀ (format : OutputFormat) (calls : StartCalls)
    (its : List Iteration) (s₀ : MainState), (start calls).result = .ok s₀ →
    ∀ config calls p, MonitorCall format s₀ its config calls p → ReportsTarget config calls p := by
  intro h
  obtain ⟨s₀, hs₀, hcount, hname, hpid, -⟩ := start_oneProcess
  have hturn := forall_monitorCall_iff.mp
    (h .json _ [⟨none, quietRound (oneProcess (ascii "b")) 1⟩] s₀ hs₀) _ List.mem_cons_self s₀ rfl
  rw [hcount] at hturn
  have hreports := hturn (s₀, 0) List.mem_cons_self (by rw [hname]; decide)
  have hshown : (readProcessInfo (oneProcess (ascii "b")) 7).map (·.name.bytes) =
      some (ascii "b") := by decide +kernel
  rw [Option.map_eq_some_iff] at hshown
  obtain ⟨info, hread, hinfo⟩ := hshown
  have hsame := hreports.1 info (infoRead_mem_iff.mpr
    ((readProcessInfo_oneProcess hpid rfl).trans hread))
  rw [hinfo, hname] at hsame
  exact absurd hsame (by decide)

end EdgeSentinel.Monitor
