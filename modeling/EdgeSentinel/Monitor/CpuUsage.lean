import EdgeSentinel.Monitor.Frame

/-!
# The CPU usage of the system

`calculate_cpu_usage` subtracts what was idle from what went by, all of it in 64-bit
counters that wrap. The kernel does not promise that its counters only grow: `iowait` may
go back.

## What is proved

* `cpuUsage_inRange_iff` — the usage is between 0 and 100 **if and only if** what the two
  kinds of counters went forward by, modulo 2^64, is together at most 2^64.
* `evaluated_systemCpu_le_iff` — under the same condition, and only then, a round grades no
  usage above 100.
* `calculateCpuUsage_advance` — **counters that only go forward**, by less than 2^64 together,
  give the exact usage, whichever of them and of their sums wrap.
-/

namespace EdgeSentinel.Monitor

open CLib Config Trace Trace.Traced

/-- The time in which the CPU did nothing. -/
def CpuTimes.idleTime (t : CpuTimes) : UInt64 := t.idle + t.iowait

/-- The time in which it worked. -/
def CpuTimes.busyTime (t : CpuTimes) : UInt64 :=
  t.user + t.nice + t.system + t.irq + t.softirq + t.steal

/-- A negative value, which stands for an error, or a percentage between 0 and 100. -/
def UsageInRange (usage : Double) : Prop :=
  usage.lt (.finite 0) ∨ ((Double.finite 0).le usage ∧ usage.le (.finite 100))

/-- What the two kinds of counters went forward by, modulo 2^64, is together at most 2^64. A
sum of counters that goes back goes forward by nearly all of that. -/
def CountersAdvance (previous current : CpuTimes) : Prop :=
  (current.busyTime - previous.busyTime).toNat + (current.idleTime - previous.idleTime).toNat ≤
    2 ^ 64

/-- The usage is the part of the time that went by in which the CPU worked. -/
theorem calculateCpuUsage_eq (previous current : CpuTimes) :
    calculateCpuUsage previous current =
      if current.busyTime - previous.busyTime + (current.idleTime - previous.idleTime) = 0 then
        .finite 0
      else .finite (((current.busyTime - previous.busyTime).toNat : ℚ) /
        (current.busyTime - previous.busyTime +
          (current.idleTime - previous.idleTime)).toNat * 100) := by
  have htotal : current.user + current.nice + current.system + current.idle + current.iowait +
      current.irq + current.softirq + current.steal - (previous.user + previous.nice +
      previous.system + previous.idle + previous.iowait + previous.irq + previous.softirq +
      previous.steal) =
      current.busyTime - previous.busyTime + (current.idleTime - previous.idleTime) := by
    unfold CpuTimes.busyTime CpuTimes.idleTime
    grind
  have hbusy : current.busyTime - previous.busyTime +
      (current.idleTime - previous.idleTime) -
      (current.idle + current.iowait - (previous.idle + previous.iowait)) =
      current.busyTime - previous.busyTime := by
    unfold CpuTimes.idleTime
    grind
  unfold calculateCpuUsage
  dsimp only
  rw [htotal, hbusy]

/-- A part of a sum that wraps is at most the sum, or the sum is zero, exactly if it wraps no
further than to zero. -/
theorem toNat_le_toNat_add_iff (a b : UInt64) :
    a + b = 0 ∨ a.toNat ≤ (a + b).toNat ↔ a.toNat + b.toNat ≤ 2 ^ 64 := by
  have ha := a.toNat_lt
  have hb := b.toNat_lt
  have hzero : a + b = 0 ↔ (a + b).toNat = 0 := by
    rw [← UInt64.toNat_inj]
    rfl
  rw [hzero, UInt64.toNat_add]
  omega

/-- The usage is never negative. -/
theorem calculateCpuUsage_nonneg (previous current : CpuTimes) :
    ∃ q : ℚ, 0 ≤ q ∧ calculateCpuUsage previous current = .finite q := by
  rw [calculateCpuUsage_eq]
  split_ifs
  · exact ⟨0, le_rfl, rfl⟩
  · exact ⟨_, by positivity, rfl⟩

/-- The usage is at most 100 exactly if the counters advance. -/
theorem calculateCpuUsage_le_iff (previous current : CpuTimes) :
    (calculateCpuUsage previous current).le (.finite 100) ↔ CountersAdvance previous current := by
  unfold CountersAdvance
  rw [calculateCpuUsage_eq, ← toNat_le_toNat_add_iff]
  generalize current.busyTime - previous.busyTime = busy
  generalize current.idleTime - previous.idleTime = idle
  split_ifs with hzero
  · simp [hzero]
  · have hpos : (0 : ℚ) < (busy + idle).toNat := by
      have hne : (busy + idle).toNat ≠ 0 := fun h => hzero (UInt64.toNat_inj.mp h)
      exact_mod_cast Nat.pos_of_ne_zero hne
    rw [or_iff_right hzero, Double.le_finite, decide_eq_true_eq]
    constructor
    · intro h
      have hle : (busy.toNat : ℚ) / (busy + idle).toNat ≤ 1 := by linarith
      rw [div_le_one hpos] at hle
      exact_mod_cast hle
    · intro h
      have hle : (busy.toNat : ℚ) / (busy + idle).toNat ≤ 1 := by
        rw [div_le_one hpos]
        exact_mod_cast h
      linarith

/-- **The CPU usage** is between 0 and 100 exactly if the counters advance. -/
theorem cpuUsage_inRange_iff (previous current : CpuTimes) :
    UsageInRange (calculateCpuUsage previous current) ↔ CountersAdvance previous current := by
  rw [← calculateCpuUsage_le_iff]
  obtain ⟨q, hq, heq⟩ := calculateCpuUsage_nonneg previous current
  rw [heq]
  simp [UsageInRange, hq, not_lt.mpr hq]

/-- A pair of samples, as `/proc/stat` shows them, between which `iowait` goes back by one and
the time of the users goes forward by two: the usage is 200. -/
theorem iowait_goes_back : ¬ ∀ (before after : Bytes) (previous current : CpuTimes),
    readCpuTimes (some before) = some previous → readCpuTimes (some after) = some current →
    UsageInRange (calculateCpuUsage previous current) := by
  intro h
  have hrange := h (ascii "cpu  0 0 0 0 10 0 0 0\n") (ascii "cpu  2 0 0 0 9 0 0 0\n")
    ⟨0, 0, 0, 0, 10, 0, 0, 0⟩ ⟨2, 0, 0, 0, 9, 0, 0, 0⟩ (by decide +kernel) (by decide +kernel)
  have husage : calculateCpuUsage ⟨0, 0, 0, 0, 10, 0, 0, 0⟩ ⟨2, 0, 0, 0, 9, 0, 0, 0⟩ =
      .finite 200 := by decide +kernel
  rw [husage] at hrange
  exact absurd hrange (by norm_num [UsageInRange])

/-- Grading a percentage grades nothing else. -/
theorem gradePercentage_evaluates (config : AppConfig) (now : ℤ) (metric : AlertMetric)
    (target : Bytes) (percent warning critical : Double) (baseline : LevelBaseline) :
    (gradePercentage config now metric target percent warning critical baseline).Emits
      fun e => ∀ m value level, e = .evaluated m value level → value = percent := by
  refine .emit_bind ?_ (.bind (watchLevel_emits (fun _ => ?_) _ _) fun _ _ => .pure)
  · intro m value level he
    exact (Action.evaluated.inj he).2.1.symm
  · exact sendAlertChangeNotification_emits _ _ _ (by simp) (by simp)

/-- **A round** that reads the CPU times grades no usage above 100 exactly if the counters
advance. -/
theorem evaluated_systemCpu_le_iff {calls : RoundCalls} {s : MainState} {current : CpuTimes}
    (h : readCpuTimes calls.procStat = some current) :
    (∀ usage level, Action.evaluated .systemCpu usage level ∈ (gradeSystemCpu calls s).events →
      usage.le (.finite 100)) ↔ CountersAdvance s.previousCpu current := by
  obtain ⟨q, hq, heq⟩ := calculateCpuUsage_nonneg s.previousCpu current
  have hcheck : ¬ (calculateCpuUsage s.previousCpu current).lt (.finite 0) := by
    rw [heq]
    simpa using hq
  have hevents : (gradeSystemCpu calls s).events = (gradePercentage s.config calls.cpuAlertTime
      .systemCpu (ascii "system") (calculateCpuUsage s.previousCpu current)
      s.config.cpuWarningThreshold s.config.cpuCriticalThreshold s.cpuBaseline).events := by
    unfold gradeSystemCpu
    rw [h, orStop, pure_bind]
    dsimp only
    rw [check, if_pos hcheck, pure_bind]
    exact events_bind_pure _ fun r : AlertLevel × LevelBaseline => (_, _, r.1, _)
  rw [← calculateCpuUsage_le_iff, hevents]
  constructor
  · intro hall
    exact hall _ _ List.mem_cons_self
  · intro hle usage level hmem
    rw [gradePercentage_evaluates _ _ _ _ _ _ _ _ _ hmem _ _ _ rfl]
    exact hle

/-! ### Counters that only go forward -/

/-- How far the eight counters of the CPU go forward. -/
structure CpuTicks where
  /-- `user`. -/
  user : ℕ
  /-- `nice`. -/
  nice : ℕ
  /-- `system`. -/
  system : ℕ
  /-- `idle`. -/
  idle : ℕ
  /-- `iowait`. -/
  iowait : ℕ
  /-- `irq`. -/
  irq : ℕ
  /-- `softirq`. -/
  softirq : ℕ
  /-- `steal`. -/
  steal : ℕ

/-- All of them together. -/
def CpuTicks.total (d : CpuTicks) : ℕ :=
  d.user + d.nice + d.system + d.idle + d.iowait + d.irq + d.softirq + d.steal

/-- The counters, gone forward. Each of them wraps at 2^64. -/
def CpuTimes.advance (t : CpuTimes) (d : CpuTicks) : CpuTimes where
  user := .ofNat (t.user.toNat + d.user)
  nice := .ofNat (t.nice.toNat + d.nice)
  system := .ofNat (t.system.toNat + d.system)
  idle := .ofNat (t.idle.toNat + d.idle)
  iowait := .ofNat (t.iowait.toNat + d.iowait)
  irq := .ofNat (t.irq.toNat + d.irq)
  softirq := .ofNat (t.softirq.toNat + d.softirq)
  steal := .ofNat (t.steal.toNat + d.steal)

variable (t : CpuTimes) (d : CpuTicks)

/-- A sum of counters that wrap goes forward by the sum of what they go forward by. -/
theorem idleTime_advance_sub :
    (t.advance d).idleTime - t.idleTime = .ofNat (d.idle + d.iowait) := by
  unfold CpuTimes.advance CpuTimes.idleTime
  simp only [UInt64.ofNat_add, UInt64.ofNat_toNat]
  grind

theorem busyTime_advance_sub :
    (t.advance d).busyTime - t.busyTime =
      .ofNat (d.user + d.nice + d.system + d.irq + d.softirq + d.steal) := by
  unfold CpuTimes.advance CpuTimes.busyTime
  simp only [UInt64.ofNat_add, UInt64.ofNat_toNat]
  grind

/-- **The CPU usage** is the busy part of the time that went by, whatever wraps. -/
theorem calculateCpuUsage_advance (h : d.total < 2 ^ 64) :
    calculateCpuUsage t (t.advance d) =
      if d.total = 0 then .finite 0
      else .finite (100 * (d.total - d.idle - d.iowait) / d.total) := by
  have hbusy : d.user + d.nice + d.system + d.irq + d.softirq + d.steal + (d.idle + d.iowait) =
      d.total := by
    unfold CpuTicks.total
    omega
  rw [calculateCpuUsage_eq, busyTime_advance_sub, idleTime_advance_sub, ← UInt64.ofNat_add, hbusy]
  generalize d.user + d.nice + d.system + d.irq + d.softirq + d.steal = busy at hbusy ⊢
  have htotal : (UInt64.ofNat d.total).toNat = d.total := by
    rw [UInt64.toNat_ofNat', Nat.mod_eq_of_lt h]
  have hpart : (UInt64.ofNat busy).toNat = busy := by
    rw [UInt64.toNat_ofNat', Nat.mod_eq_of_lt (by omega)]
  have hzero : UInt64.ofNat d.total = 0 ↔ d.total = 0 := by
    rw [← UInt64.toNat_inj, htotal]
    rfl
  simp only [hzero, htotal, hpart]
  split_ifs
  · rfl
  · have hq : (d.total : ℚ) - d.idle - d.iowait = busy := by
      rw [← hbusy]
      push_cast
      ring
    rw [hq]
    congr 1
    ring

/-- The time of the users wraps, and so do both sums. -/
theorem calculateCpuUsage_advance_wrapping :
    calculateCpuUsage ⟨2 ^ 64 - 1, 0, 0, 2 ^ 64 - 1, 0, 0, 0, 0⟩ ⟨0, 0, 0, 2, 0, 0, 0, 0⟩ =
      .finite 25 := by
  have h := calculateCpuUsage_advance ⟨2 ^ 64 - 1, 0, 0, 2 ^ 64 - 1, 0, 0, 0, 0⟩
    ⟨1, 0, 0, 3, 0, 0, 0, 0⟩ (by decide)
  have hcurrent : CpuTimes.advance ⟨2 ^ 64 - 1, 0, 0, 2 ^ 64 - 1, 0, 0, 0, 0⟩
      ⟨1, 0, 0, 3, 0, 0, 0, 0⟩ = ⟨0, 0, 0, 2, 0, 0, 0, 0⟩ := by decide +kernel
  rw [hcurrent] at h
  rw [h]
  norm_num [CpuTicks.total]

end EdgeSentinel.Monitor
