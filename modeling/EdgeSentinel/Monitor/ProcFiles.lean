import EdgeSentinel.CLib.Decimals
import EdgeSentinel.Monitor.Readings
import EdgeSentinel.Monitor.StatusFile

/-!
# What the system reports

The daemon reads the figures of the system from `/proc/stat`, `/proc/meminfo`, `/proc/uptime` and
`/proc/loadavg`, and from `statvfs`. This module says when such an answer stands for some figures,
and what then becomes of them, from the files to the results that a round prints.

## The model

* `SystemFigures` — what the kernel keeps, in numbers that do not wrap.
* `Reports` — the answers of a round stand for these figures: eight counters behind `cpu`, one line
  of `/proc/meminfo` for each of the two sizes, among any others and in any order, decimals for the
  uptime and the load.

## What is proved

* `readMemoryLines_of_awaits` — the loop of `get_memory_info` ends with the two sizes.
* `getMemoryInfo_of_reports`, `getDiskInfo_of_reports`, … — each reader finds the figures.
* `printed_figures` — **every completed turn** of a run prints the figures that its system reports,
  and the CPU usage since the sampling point before.
-/

namespace EdgeSentinel.Monitor

open CLib Config Trace Trace.Traced

/-! ### Figures -/

/-- What the kernel keeps. -/
structure SystemFigures where
  /-- The CPU times. -/
  cpu : CpuTimes
  /-- All of the memory, in kB. -/
  totalKb : ℕ
  /-- What is available of it. -/
  availableKb : ℕ
  /-- The size of a block of the file system. -/
  blockSize : ℕ
  /-- Its blocks. -/
  blocks : ℕ
  /-- Those that are free. -/
  freeBlocks : ℕ
  /-- Those that are free for everyone. -/
  availableBlocks : ℕ
  /-- The uptime, in seconds. -/
  uptime : ℚ
  /-- The load over one minute. -/
  oneMinute : ℚ
  /-- The load over five minutes. -/
  fiveMinutes : ℚ
  /-- The load over fifteen minutes. -/
  fifteenMinutes : ℚ

/-- The counters, in the order of `/proc/stat`. -/
def CpuTimes.counters (c : CpuTimes) : List UInt64 :=
  [c.user, c.nice, c.system, c.idle, c.iowait, c.irq, c.softirq, c.steal]

/-- `/proc/stat` stands for these CPU times. -/
def ReportsCpu (c : CpuTimes) (procStat : Option Bytes) : Prop :=
  ∃ text rest, procStat = some (ascii "cpu" ++ text) ∧
    Numerals 8 text (c.counters.map fun v => (v.toNat : ℤ)) rest

/-- One of the lines begins with the label, and carries the number. -/
def CarriedOnce (label : String) (n : ℕ) (lines : List Bytes) : Prop :=
  ∃ text, labelled label lines = [text] ∧ CarriesUnsigned text n ∧ n < 2 ^ 64

/-- `/proc/meminfo` stands for these sizes. -/
def ReportsMemory (totalKb availableKb : ℕ) (procMeminfo : Option Bytes) : Prop :=
  ∃ content, procMeminfo = some content ∧
    (∀ line ∈ physicalLines content, line.length < 256) ∧
    CarriedOnce "MemTotal:" totalKb (physicalLines content) ∧
    CarriedOnce "MemAvailable:" availableKb (physicalLines content)

/-- The file system has this many blocks, and its size fits 64 bits. -/
structure ReportsDisk (f : SystemFigures) (v : Statvfs) : Prop where
  frsize : v.frsize.toNat = f.blockSize
  blocks : v.blocks.toNat = f.blocks
  bfree : v.bfree.toNat = f.freeBlocks
  bavail : v.bavail.toNat = f.availableBlocks
  free_le : f.freeBlocks ≤ f.blocks
  available_le : f.availableBlocks ≤ f.freeBlocks
  fits : f.blocks * f.blockSize < 2 ^ 64

/-- `/proc/uptime` stands for this uptime. -/
def ReportsUptime (uptime : ℚ) (procUptime : Option Bytes) : Prop :=
  ∃ content rest, procUptime = some content ∧ Decimal content uptime rest ∧ uptime < 2 ^ 64

/-- `/proc/loadavg` stands for these averages. -/
def ReportsLoad (one five fifteen : ℚ) (procLoadavg : Option Bytes) : Prop :=
  ∃ content s t rest, procLoadavg = some content ∧ Decimal content one s ∧ Decimal s five t ∧
    Decimal t fifteen rest ∧ one < doubleOverflow ∧ five < doubleOverflow ∧
    fifteen < doubleOverflow

/-- The answers of a round stand for these figures. -/
structure Reports (f : SystemFigures) (calls : RoundCalls) : Prop where
  /-- The CPU times. -/
  cpu : ReportsCpu f.cpu calls.procStat
  /-- The memory. -/
  memory : ReportsMemory f.totalKb f.availableKb calls.procMeminfo
  /-- The disk. -/
  disk : ∃ v, calls.statvfs = some v ∧ ReportsDisk f v
  /-- The uptime. -/
  uptime : ReportsUptime f.uptime calls.procUptime
  /-- The load. -/
  load : ReportsLoad f.oneMinute f.fiveMinutes f.fifteenMinutes calls.procLoadavg

variable {f : SystemFigures} {c : CpuTimes} {calls : RoundCalls} {line : Bytes}
  {lines : List Bytes} {total available : UInt64}

/-! ### The CPU times -/

theorem ofInt_toNat (v : UInt64) : UInt64.ofInt (v.toNat : ℤ) = v := by
  rw [UInt64.ofInt, Int.emod_eq_of_lt (by omega) (by have := v.toNat_lt; omega)]
  simp

theorem readCpuTimes_of_reports {procStat : Option Bytes} (h : ReportsCpu c procStat) :
    readCpuTimes procStat = some c := by
  obtain ⟨text, rest, rfl, hnumerals⟩ := h
  have hscan := scanUnsigneds_of_numerals hnumerals fun z hz => by
    obtain ⟨v, -, rfl⟩ := List.mem_map.mp hz
    exact v.toNat_lt
  have hliteral : scanLiteral (ascii "cpu") (ascii "cpu" ++ text) = some text := by
    unfold scanLiteral
    rw [List.take_left, if_pos rfl, List.drop_left]
  have hcounters : (c.counters.map fun v => (v.toNat : ℤ)).map UInt64.ofInt = c.counters := by
    rw [List.map_map]
    exact List.map_id'' ofInt_toNat c.counters
  rw [hcounters] at hscan
  unfold readCpuTimes
  simp only [Option.bind_eq_bind, Option.bind_some, hliteral, hscan]
  rfl

/-! ### The memory -/

/-- No line begins with both labels. -/
theorem scanLiteral_memAvailable {text : Bytes}
    (h : scanLiteral (ascii "MemTotal:") line = some text) :
    scanLiteral (ascii "MemAvailable:") line = none := by
  unfold scanLiteral at h ⊢
  split_ifs at h with htotal
  refine if_neg fun havailable => ?_
  -- the labels differ within the length of the shorter one
  have htake := congrArg (List.take (ascii "MemTotal:").length) havailable
  rw [List.take_take, min_eq_left (by decide), htotal] at htake
  exact absurd htake (by decide)

/-- A line changes the size that its label belongs to. -/
theorem readMemoryLine_eq (line : Bytes) (found : Option UInt64 × Option UInt64) :
    readMemoryLine line found = (foundIn "MemTotal:" readUnsigned line found.1,
      foundIn "MemAvailable:" readUnsigned line found.2) := by
  unfold readMemoryLine foundIn
  cases htotal : scanLiteral (ascii "MemTotal:") line with
  | some text =>
    rw [scanLiteral_memAvailable htotal, Option.bind_some, Option.bind_some]
    cases hnumber : scanUnsigned text <;> simp [readUnsigned, hnumber]
  | none =>
    cases scanLiteral (ascii "MemAvailable:") line with
    | some text =>
      rw [Option.bind_some, Option.bind_some]
      cases hnumber : scanUnsigned text <;> simp [readUnsigned, hnumber]
    | none => rfl

/-- **The loop** ends with the two sizes that are ahead of it, whatever the other lines are. -/
theorem readMemoryLines_of_awaits {found : Option UInt64 × Option UInt64}
    (htotal : Awaits "MemTotal:" readUnsigned total found.1 lines)
    (havailable : Awaits "MemAvailable:" readUnsigned available found.2 lines) :
    readMemoryLines lines found = (some total, some available) := by
  induction lines generalizing found with
  | nil =>
    obtain ⟨first, second⟩ := found
    obtain rfl := htotal.nil
    obtain rfl := havailable.nil
    rfl
  | cons line lines ih =>
    have htotal' := htotal.tail
    have havailable' := havailable.tail
    rw [readMemoryLines, readMemoryLine_eq]
    split
    · next t a heq =>
      obtain ⟨ht, ha⟩ := Prod.mk.inj heq
      rw [ht] at htotal'
      rw [ha] at havailable'
      rw [htotal'.eq, havailable'.eq]
    · exact ih htotal' havailable'

theorem CarriedOnce.exists_awaits {label : String} {n : ℕ} (h : CarriedOnce label n lines) :
    ∃ v : UInt64, v.toNat = n ∧ Awaits label readUnsigned v none lines := by
  obtain ⟨text, hlines, hcarries, hlt⟩ := h
  obtain ⟨v, hread, hv⟩ := exists_readUnsigned hcarries hlt
  exact ⟨v, hv, .inr ⟨rfl, text, hlines, hread⟩⟩

/-- `get_memory_info` finds the two sizes, and refuses them if more is available than there is. -/
theorem getMemoryInfo_of_reports {totalKb availableKb : ℕ} {procMeminfo : Option Bytes}
    (h : ReportsMemory totalKb availableKb procMeminfo) :
    if availableKb ≤ totalKb then
      ∃ info, getMemoryInfo procMeminfo = some info ∧ info.totalKb.toNat = totalKb ∧
        info.availableKb.toNat = availableKb ∧ info.usedKb.toNat = totalKb - availableKb ∧
        info.usagePercent =
          .finite (if totalKb = 0 then 0 else ((totalKb - availableKb : ℕ) : ℚ) / totalKb * 100)
    else getMemoryInfo procMeminfo = none := by
  obtain ⟨content, rfl, hshort, htotal, havailable⟩ := h
  obtain ⟨t, rfl, hawaits⟩ := htotal.exists_awaits
  obtain ⟨a, rfl, hawaits'⟩ := havailable.exists_awaits
  have hrun : readMemoryLines (fgetsPieces 256 content) (none, none) = (some t, some a) := by
    rw [(fgetsPieces_eq_physicalLines_iff (by decide)).mpr hshort]
    exact readMemoryLines_of_awaits hawaits hawaits'
  unfold getMemoryInfo
  simp only [Option.bind_eq_bind, Option.bind_some, hrun]
  by_cases hle : a.toNat ≤ t.toNat
  · rw [if_pos hle, if_neg (fun hlt => absurd (UInt64.lt_iff_toNat_lt.mp hlt) (not_lt.mpr hle))]
    have hused : (t - a).toNat = t.toNat - a.toNat :=
      UInt64.toNat_sub_of_le t a (UInt64.le_iff_toNat_le.mpr hle)
    refine ⟨_, rfl, rfl, rfl, hused, ?_⟩
    dsimp only
    rw [hused]
    congr 1
    by_cases hzero : t.toNat = 0
    · rw [if_pos hzero, if_neg]
      intro hpos
      have := UInt64.lt_iff_toNat_lt.mp hpos
      rw [hzero] at this
      exact absurd this (Nat.not_lt_zero _)
    · have hpos : 0 < t := UInt64.lt_iff_toNat_lt.mpr (by simpa using Nat.pos_of_ne_zero hzero)
      rw [if_neg hzero, if_pos hpos]
  · rw [if_neg hle, if_pos (UInt64.lt_iff_toNat_lt.mpr (not_le.mp hle))]

/-! ### The disk -/

theorem toNat_mul_of_lt {a b : UInt64} (h : a.toNat * b.toNat < 2 ^ 64) :
    (a * b).toNat = a.toNat * b.toNat := by
  rw [UInt64.toNat_mul, Nat.mod_eq_of_lt h]

theorem getDiskInfo_of_reports {v : Statvfs} (h : ReportsDisk f v) :
    ∃ info, getDiskInfo (some v) = some info ∧ info.totalBytes.toNat = f.blocks * f.blockSize ∧
      info.usedBytes.toNat = (f.blocks - f.freeBlocks) * f.blockSize ∧
      info.availableBytes.toNat = f.availableBlocks * f.blockSize ∧
      info.usagePercent = .finite (if (f.blocks - f.freeBlocks + f.availableBlocks) * f.blockSize = 0
        then 0 else ((f.blocks - f.freeBlocks) * f.blockSize : ℕ) /
          ((f.blocks - f.freeBlocks + f.availableBlocks) * f.blockSize : ℕ) * 100) := by
  obtain ⟨hsize, hblocks, hfree, havailable, hfree_le, havailable_le, hfits⟩ := h
  have hfreeSize : f.freeBlocks * f.blockSize ≤ f.blocks * f.blockSize :=
    Nat.mul_le_mul_right _ hfree_le
  have havailableSize : f.availableBlocks * f.blockSize ≤ f.freeBlocks * f.blockSize :=
    Nat.mul_le_mul_right _ havailable_le
  have htotal : (v.blocks * v.frsize).toNat = f.blocks * f.blockSize := by
    rw [← hblocks, ← hsize]
    exact toNat_mul_of_lt (by rw [hblocks, hsize]; exact hfits)
  have hfreeBytes : (v.bfree * v.frsize).toNat = f.freeBlocks * f.blockSize := by
    rw [← hfree, ← hsize]
    exact toNat_mul_of_lt (by rw [hfree, hsize]; omega)
  have havailableBytes : (v.bavail * v.frsize).toNat = f.availableBlocks * f.blockSize := by
    rw [← havailable, ← hsize]
    exact toNat_mul_of_lt (by rw [havailable, hsize]; omega)
  have hused : (v.blocks * v.frsize - v.bfree * v.frsize).toNat =
      (f.blocks - f.freeBlocks) * f.blockSize := by
    rw [UInt64.toNat_sub_of_le _ _ (UInt64.le_iff_toNat_le.mpr (by omega)), htotal, hfreeBytes,
      Nat.sub_mul]
  have hdenominator : (v.blocks * v.frsize - v.bfree * v.frsize + v.bavail * v.frsize).toNat =
      (f.blocks - f.freeBlocks + f.availableBlocks) * f.blockSize := by
    rw [UInt64.toNat_add, hused, havailableBytes, ← Nat.add_mul]
    refine Nat.mod_eq_of_lt (lt_of_le_of_lt (Nat.mul_le_mul_right _ ?_) hfits)
    omega
  refine ⟨_, rfl, htotal, hused, havailableBytes, ?_⟩
  dsimp only
  rw [hused, hdenominator]
  congr 1
  by_cases hzero : (f.blocks - f.freeBlocks + f.availableBlocks) * f.blockSize = 0
  · rw [if_pos hzero, if_pos]
    exact UInt64.toNat_inj.mp (hdenominator.trans hzero)
  · rw [if_neg hzero, if_neg]
    intro h0
    rw [h0] at hdenominator
    exact hzero hdenominator.symm

/-! ### The uptime and the load -/

/-- A `double` can be as large as a 64-bit number. -/
theorem lt_doubleOverflow {q : ℚ} (h : q < 2 ^ 64) : q < doubleOverflow := by
  have hsplit : (2 : ℚ) ^ 1024 = 2 ^ 970 * 2 ^ 54 := by rw [← pow_add]
  have hdouble : (2 : ℚ) ^ 970 * 2 ≤ 2 ^ 970 * 2 ^ 54 :=
    mul_le_mul_of_nonneg_left (by norm_num) (by positivity)
  calc q < 2 ^ 64 := h
    _ < 2 ^ 970 := pow_lt_pow_right₀ (by norm_num) (by norm_num)
    _ = 2 ^ 970 * 2 - 2 ^ 970 := by rw [mul_two, add_sub_cancel_right]
    _ ≤ 2 ^ 1024 - 2 ^ 970 := by rw [hsplit]; exact sub_le_sub_right hdouble _

/-- `get_system_uptime` finds the whole seconds, and `convert_uptime` takes them apart. -/
theorem uptime_of_reports {uptime : ℚ} {procUptime : Option Bytes}
    (h : ReportsUptime uptime procUptime) :
    ∃ seconds, getSystemUptime procUptime = some seconds ∧
      86400 * (convertUptime seconds).days.toNat + 3600 * (convertUptime seconds).hours.toNat +
        60 * (convertUptime seconds).minutes.toNat + (convertUptime seconds).seconds.toNat =
          ⌊uptime⌋.toNat ∧
      (convertUptime seconds).hours < 24 ∧ (convertUptime seconds).minutes < 60 ∧
      (convertUptime seconds).seconds < 60 := by
  obtain ⟨content, rest, rfl, hdecimal, hlt⟩ := h
  have hscan := scanDouble_of_decimal hdecimal (lt_doubleOverflow hlt)
  refine ⟨UInt64.ofNat ⌊uptime⌋.toNat, ?_, ?_⟩
  · unfold getSystemUptime
    simp only [Option.bind_eq_bind, Option.bind_some, hscan]
    rfl
  · have hfloor : ⌊uptime⌋.toNat < 2 ^ 64 := by
      have := Int.floor_lt.mpr (by exact_mod_cast hlt : uptime < ((2 ^ 64 : ℤ) : ℚ))
      omega
    generalize ⌊uptime⌋.toNat = n at hfloor
    have hn : (UInt64.ofNat n).toNat = n := UInt64.toNat_ofNat_of_lt' hfloor
    unfold convertUptime
    rw [hn]
    have hdays : (UInt64.ofNat (n / 86400)).toNat = n / 86400 :=
      UInt64.toNat_ofNat_of_lt' (lt_of_le_of_lt (Nat.div_le_self _ _) hfloor)
    have h32 : ∀ {k : ℕ}, k < 60 → (UInt32.ofNat k).toNat = k := fun h =>
      UInt32.toNat_ofNat_of_lt' (h.trans (by decide))
    rw [hdays, UInt32.lt_iff_toNat_lt, UInt32.lt_iff_toNat_lt, UInt32.lt_iff_toNat_lt,
      h32 (by omega), h32 (by omega), h32 (by omega)]
    show _ ∧ _ < 24 ∧ _ < 60 ∧ _ < 60
    omega

theorem getLoadAverage_of_reports {one five fifteen : ℚ} {procLoadavg : Option Bytes}
    (h : ReportsLoad one five fifteen procLoadavg) :
    getLoadAverage procLoadavg = some ⟨.finite one, .finite five, .finite fifteen⟩ := by
  obtain ⟨content, s, t, rest, rfl, h₁, h₂, h₃, hone, hfive, hfifteen⟩ := h
  unfold getLoadAverage
  simp only [Option.bind_eq_bind, Option.bind_some, scanDouble_of_decimal h₁ hone,
    scanDouble_of_decimal h₂ hfive, scanDouble_of_decimal h₃ hfifteen]

/-! ### Runs -/

/-- A round prints these figures, with the CPU times `g` at the sampling point before. -/
structure Prints (g : CpuTimes) (f : SystemFigures) (shown : MonitorSnapshot) : Prop where
  /-- The CPU usage is that between the two points. -/
  cpu : shown.cpuUsagePercent = calculateCpuUsage g f.cpu
  /-- There is as much memory as is available, or more. -/
  available_le : f.availableKb ≤ f.totalKb
  totalMemory : shown.totalMemoryKb.toNat = f.totalKb
  availableMemory : shown.availableMemoryKb.toNat = f.availableKb
  usedMemory : shown.usedMemoryKb.toNat = f.totalKb - f.availableKb
  /-- The part of the memory that is used. -/
  memoryUsage : shown.memoryUsagePercent = .finite (if f.totalKb = 0 then 0
    else ((f.totalKb - f.availableKb : ℕ) : ℚ) / f.totalKb * 100)
  totalDisk : shown.totalDiskBytes.toNat = f.blocks * f.blockSize
  usedDisk : shown.usedDiskBytes.toNat = (f.blocks - f.freeBlocks) * f.blockSize
  availableDisk : shown.availableDiskBytes.toNat = f.availableBlocks * f.blockSize
  /-- The part that is used of what everyone can use, as `df` shows it. -/
  diskUsage : shown.diskUsagePercent = .finite
    (if (f.blocks - f.freeBlocks + f.availableBlocks) * f.blockSize = 0 then 0
      else ((f.blocks - f.freeBlocks) * f.blockSize : ℕ) /
        ((f.blocks - f.freeBlocks + f.availableBlocks) * f.blockSize : ℕ) * 100)
  /-- The whole seconds of the uptime. -/
  uptime : 86400 * shown.uptime.days.toNat + 3600 * shown.uptime.hours.toNat +
    60 * shown.uptime.minutes.toNat + shown.uptime.seconds.toNat = ⌊f.uptime⌋.toNat
  /-- They are taken apart. -/
  uptime_lt : shown.uptime.hours < 24 ∧ shown.uptime.minutes < 60 ∧ shown.uptime.seconds < 60
  load : shown.loadAverage = ⟨.finite f.oneMinute, .finite f.fiveMinutes, .finite f.fifteenMinutes⟩

/-- The readings of two sampling points are the figures that are reported there. -/
theorem prints_of_readings {g : CpuTimes} {config : AppConfig} {before : SamplingPoint}
    {baseline : Bool} {processes : List MonitoredProcess} {reading : Readings}
    (h : readings config before baseline calls processes = some reading)
    (hbefore : ReportsCpu g before.procStat) (hf : Reports f calls) :
    Prints g f reading.snapshot := by
  obtain ⟨v, hv, hdisk⟩ := hf.disk
  obtain ⟨disk, hdiskInfo, htotalDisk, husedDisk, havailableDisk, hdiskUsage⟩ :=
    getDiskInfo_of_reports hdisk
  obtain ⟨seconds, huptime, hsum, hlt⟩ := uptime_of_reports hf.uptime
  have hmemory := getMemoryInfo_of_reports hf.memory
  by_cases hle : f.availableKb ≤ f.totalKb
  · rw [if_pos hle] at hmemory
    obtain ⟨memory, hmemoryInfo, htotal, havailable, hused, husage⟩ := hmemory
    unfold readings at h
    simp only [readCpuTimes_of_reports hbefore, readCpuTimes_of_reports hf.cpu, hmemoryInfo, hv,
      hdiskInfo, huptime, getLoadAverage_of_reports hf.load, Option.bind_eq_bind,
      Option.bind_some, Option.bind_eq_some_iff] at h
    obtain ⟨network, -, speed, -, download, -, upload, -, time, -, h⟩ := h
    obtain rfl := Option.some.inj h
    exact ⟨rfl, hle, htotal, havailable, hused, husage, htotalDisk, husedDisk, havailableDisk,
      hdiskUsage, hsum, hlt, rfl⟩
  · -- a turn that is completed has a record of the memory
    rw [if_neg hle] at hmemory
    unfold readings at h
    simp [hmemory] at h

/-- **Every completed turn** of a run prints what its system reports: whatever else the files of
`/proc` hold, and in whatever order, the results of the turn are the figures that they stand for,
and the CPU usage is the one since the sampling point before. The percentages are exact quotients;
those of C are rounded, which can change the last digit that is printed. -/
theorem printed_figures (format : OutputFormat) (calls : StartCalls) (its : List Iteration)
    (s₀ : MainState) (hs₀ : (start calls).result = .ok s₀) :
    ∀ c ∈ taken (iteration format) s₀ its, ∀ s', (iteration format c.1 c.2).result = .ok s' →
      ∃ before reading, PointBefore format calls s₀ its c before ∧
        (iteration format c.1 c.2).shown (ofSystem Action.printed?) = [reading] ∧
        ∀ g f, ReportsCpu g before.procStat → Reports f c.2.round →
          Prints g f reading.snapshot := by
  intro c hc s' hs'
  obtain ⟨before, s, baseline, processes, reading, hbefore, -, -, -, hreading, hshown⟩ :=
    readings_of_completed hs₀ hc hs'
  exact ⟨before, reading, hbefore, hshown, fun g f => prints_of_readings hreading⟩

/-- What the quiet system reports. -/
def quietFigures : SystemFigures where
  cpu := ⟨1, 1, 1, 1, 1, 1, 1, 1⟩
  totalKb := 4
  availableKb := 2
  blockSize := 1
  blocks := 2
  freeBlocks := 1
  availableBlocks := 1
  uptime := (1 : ℕ)
  oneMinute := (0 : ℕ)
  fiveMinutes := (0 : ℕ)
  fifteenMinutes := (0 : ℕ)

theorem reportsCpu_quietStat : ReportsCpu quietFigures.cpu (some quietStat) :=
  ⟨ascii " 1 1 1 1 1 1 1 1\n", [newline], rfl, numeralsOf_eq_some_iff.mp (by decide +kernel)⟩

theorem reports_receivingRound (seconds : ℤ) : Reports quietFigures (receivingRound seconds) where
  cpu := reportsCpu_quietStat
  memory := by
    refine ⟨ascii "MemTotal: 4 kB\nMemAvailable: 2 kB\n", rfl, by decide, ?_, ?_⟩
    · exact ⟨ascii " 4 kB\n", by decide,
        ⟨ascii " kB\n", numeralOf_eq_some_iff.mp (by decide)⟩, by decide⟩
    · exact ⟨ascii " 2 kB\n", by decide,
        ⟨ascii " kB\n", numeralOf_eq_some_iff.mp (by decide)⟩, by decide⟩
  disk := ⟨⟨1, 2, 1, 1⟩, rfl, rfl, rfl, rfl, rfl, by decide, by decide, by decide⟩
  uptime := by
    refine ⟨ascii "1.0 1.0\n", ascii " 1.0\n", rfl, ?_, by norm_num [quietFigures]⟩
    exact .of_parts [] (ascii "1") (ascii "0") _ 1 (by decide) (by decide) (by decide) (by decide)
      (by decide) (by decide)
  load := by
    have hzero : ((0 : ℕ) : ℚ) < doubleOverflow := lt_doubleOverflow (by norm_num)
    refine ⟨ascii "0.0 0.0 0.0 1/1 1\n", ascii " 0.0 0.0 1/1 1\n", ascii " 0.0 1/1 1\n",
      ascii " 1/1 1\n", rfl, ?_, ?_, ?_, hzero, hzero, hzero⟩
    · exact .of_parts [] (ascii "0") (ascii "0") _ 0 (by decide) (by decide) (by decide) (by decide)
        (by decide) (by decide)
    · exact .of_parts (ascii " ") (ascii "0") (ascii "0") _ 0 (by decide) (by decide) (by decide)
        (by decide) (by decide) (by decide)
    · exact .of_parts (ascii " ") (ascii "0") (ascii "0") _ 0 (by decide) (by decide) (by decide)
        (by decide) (by decide) (by decide)

/-- Two rounds on the quiet system print what it reports. -/
theorem printed_figures_twice :
    ∃ s₀ c reading, c ∈ taken (iteration .json) s₀
        [⟨none, receivingRound 1⟩, ⟨none, receivingRound 3⟩] ∧
      (iteration .json c.1 c.2).shown (ofSystem Action.printed?) = [reading] ∧
      Prints quietFigures.cpu quietFigures reading.snapshot := by
  have hok : ((start receivingStart).result.map fun s₀ =>
      (taken (iteration .json) s₀ [⟨none, receivingRound 1⟩, ⟨none, receivingRound 3⟩]).any fun c =>
        (iteration .json c.1 c.2).result.toBool) = .ok true := by decide +kernel
  obtain ⟨s₀, hs₀, hany⟩ := ok_of_map_ok hok
  obtain ⟨c, hc, hreturns⟩ := List.any_eq_true.mp hany
  have hgiven : ∀ b ∈ taken (iteration .json) s₀
      [⟨none, receivingRound 1⟩, ⟨none, receivingRound 3⟩], ∃ n, b.2.round = receivingRound n := by
    intro b hb
    have hmem := (isPrefix_map_snd_taken _ _ _).subset (List.mem_map_of_mem hb)
    rw [List.mem_cons, List.mem_singleton] at hmem
    obtain heq | heq := hmem
    · exact ⟨1, by rw [heq]⟩
    · exact ⟨3, by rw [heq]⟩
  cases hs' : (iteration .json c.1 c.2).result with
  | error r =>
    rw [hs'] at hreturns
    cases hreturns
  | ok s' =>
    obtain ⟨before, reading, hbefore, hshown, hprints⟩ :=
      printed_figures .json receivingStart _ s₀ hs₀ c hc s' hs'
    obtain ⟨n, hn⟩ := hgiven c hc
    have hcpu : ReportsCpu quietFigures.cpu before.procStat := by
      cases hbefore with
      | start hfirst => exact reportsCpu_quietStat
      | round b hadjacent =>
        obtain ⟨m, hm⟩ := hgiven b (hadjacent.subset List.mem_cons_self)
        rw [hm]
        exact reportsCpu_quietStat
    exact ⟨s₀, c, reading, hc, hshown, hprints _ _ hcpu (hn ▸ reports_receivingRound n)⟩

end EdgeSentinel.Monitor
