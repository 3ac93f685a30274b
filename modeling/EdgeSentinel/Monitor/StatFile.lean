import EdgeSentinel.CLib.Numerals
import EdgeSentinel.CLib.Lines
import EdgeSentinel.CLib.Split
import EdgeSentinel.CLib.Printf
import EdgeSentinel.Monitor.Process

/-!
# The stat file of a process

`read_process_cpu_times` finds fields 14 and 15 of `/proc/<pid>/stat`: it reads one line, goes to
its last `)`, and counts the fields behind it. The kernel writes the name of the process in front
of this parenthesis as it is.

## The model

* `ShowsTicks` — the lines that the reader accepts, and the counters that they show.
* `StatRecord` — what the kernel writes, and `StatRecord.line`, how.

## What is proved

* `readProcessCpuTimes_eq_some_iff` — the reader accepts these lines, and no others.
* `StatRecord.showsTicks_line` — the line of a process shows its counters, whatever the name is.
* `readProcessCpuTimes_statRecord_iff` — **the counters are read** exactly if the name does not
  break the line, or its first line shows the same ones.
-/

namespace EdgeSentinel.Monitor

open CLib

/-! ### The lines that are accepted -/

/-- `rest` is what is behind the first `n` fields of a text: runs of bytes that are no blanks,
with blanks in front of them. -/
inductive AfterFields : (n : ℕ) → (s rest : Bytes) → Prop where
  /-- No field. -/
  | zero (s : Bytes) : AfterFields 0 s s
  /-- One field more. -/
  | succ {n : ℕ} {blanks field s rest : Bytes} (blank : ∀ b ∈ blanks, isspace b = true)
    (ne_nil : field ≠ []) (no_blank : ∀ b ∈ field, isspace b = false)
    (stop : ∀ b, s.head? = some b → isspace b = true) (more : AfterFields n s rest) :
    AfterFields (n + 1) (blanks ++ (field ++ s)) rest

/-- A text begins with a tick count; `strtoull` takes a minus sign as well. -/
def Ticks (s : Bytes) (v : UInt64) (rest : Bytes) : Prop :=
  ∃ negative n, Numeral s negative n rest ∧ n < 2 ^ 64 ∧
    v = .ofInt (if negative then -(n : ℤ) else n)

/-- What is behind the name: the state, ten fields, and the two counters. -/
def Counters (behind : Bytes) (userTicks systemTicks : UInt64) : Prop :=
  ∃ blanks state fields user system rest, behind = blanks ++ state :: fields ∧
    (∀ b ∈ blanks, isspace b = true) ∧ isspace state = false ∧ AfterFields 10 fields user ∧
    Ticks user userTicks system ∧ Ticks system systemTicks rest

/-- The counters that a line shows behind its last `)`. -/
def ShowsTicks (line : Bytes) (userTicks systemTicks : UInt64) : Prop :=
  ∃ front behind, line = front ++ 0x29 :: behind ∧ 0x29 ∉ behind ∧
    Counters behind userTicks systemTicks

section Reader

variable {proc : ProcFs} {pid : Int32} {times : ProcessCpuTimes} {file : StatFile}
  {s rest line : Bytes} {n : ℕ} {v : UInt64}

theorem skipField_eq_some_iff : skipField s = some rest ↔
    ∃ blanks field, s = blanks ++ (field ++ rest) ∧ (∀ b ∈ blanks, isspace b = true) ∧
      field ≠ [] ∧ (∀ b ∈ field, isspace b = false) ∧
      ∀ b, rest.head? = some b → isspace b = true := by
  unfold skipField
  dsimp only
  constructor
  · intro h
    split_ifs at h with hnil
    obtain rfl := Option.some.inj h
    refine ⟨s.takeWhile isspace, (s.dropWhile isspace).takeWhile fun b => ¬ isspace b, ?_,
      fun b hb => List.mem_takeWhile_imp hb, ?_, fun b hb => ?_, fun b hb => ?_⟩
    · rw [List.takeWhile_append_dropWhile, List.takeWhile_append_dropWhile]
    · have hhead := List.head_dropWhile_not isspace hnil
      rw [← List.cons_head_tail hnil, List.takeWhile_cons_of_pos (by simp [hhead])]
      exact List.cons_ne_nil _ _
    · simpa using List.mem_takeWhile_imp hb
    · have hnot := List.head?_dropWhile_not (fun b => decide ¬ isspace b = true) (s.dropWhile isspace)
      rw [hb] at hnot
      simpa using hnot
  · rintro ⟨blanks, field, rfl, hblank, hne, hfield, hstop⟩
    obtain ⟨b, field, rfl⟩ := List.exists_cons_of_ne_nil hne
    have hb : isspace b = false := hfield b List.mem_cons_self
    obtain ⟨-, hdrop⟩ := takeWhile_dropWhile_append (t := b :: field ++ rest) hblank
      fun c hc => Option.some.inj hc ▸ hb
    rw [hdrop, if_neg (by simp)]
    obtain ⟨-, hrest⟩ := takeWhile_dropWhile_append (p := fun b => decide ¬ isspace b = true)
      (s := b :: field) (t := rest) (fun c hc => by simp [hfield c hc])
      fun c hc => by simp [hstop c hc]
    rw [hrest]

theorem skipFields_eq_some_iff : skipFields n s = some rest ↔ AfterFields n s rest := by
  induction n generalizing s with
  | zero =>
    rw [skipFields, Option.some_inj]
    constructor
    · rintro rfl
      exact .zero s
    · rintro ⟨⟩
      rfl
  | succ n ih =>
    rw [skipFields, Option.bind_eq_some_iff]
    constructor
    · rintro ⟨t, hfield, hmore⟩
      obtain ⟨blanks, field, rfl, hblank, hne, hno, hstop⟩ := skipField_eq_some_iff.mp hfield
      exact .succ hblank hne hno hstop (ih.mp hmore)
    · rintro (_ | ⟨hblank, hne, hno, hstop, hmore⟩)
      exact ⟨_, skipField_eq_some_iff.mpr ⟨_, _, rfl, hblank, hne, hno, hstop⟩, ih.mpr hmore⟩

/-- Blanks in front of a number make no difference. -/
theorem numeralOf_dropWhile (s : Bytes) : numeralOf (s.dropWhile isspace) = numeralOf s := by
  unfold numeralOf
  rw [List.dropWhile_idempotent]

theorem readTicks_eq_some_iff : readTicks s = some (v, rest) ↔ Ticks s v rest := by
  unfold readTicks Ticks
  dsimp only
  rw [strtoul_eq, numeralOf_dropWhile]
  constructor
  · intro h
    split_ifs at h with hnil hrest
    rw [not_or] at hrest
    cases hs : numeralOf s with
    | none =>
      rw [hs] at hrest
      exact absurd rfl hrest.1
    | some number =>
      obtain ⟨negative, n, rest'⟩ := number
      rw [hs] at h hrest
      obtain ⟨hv, rfl⟩ := Prod.mk.inj (Option.some.inj h)
      have hsize : ulongMax + 1 = 2 ^ 64 := rfl
      have hn : n < 2 ^ 64 := by
        have hle : ¬ ulongMax < n := by simpa using hrest.2
        omega
      exact ⟨negative, n, numeralOf_eq_some_iff.mp hs, hn, hv ▸ ofNat_unsignedValue_eq_ofInt hn⟩
  · rintro ⟨negative, n, hnumeral, hn, rfl⟩
    have hs := numeralOf_eq_some_iff.mpr hnumeral
    have hdrop : Numeral (s.dropWhile isspace) negative n rest :=
      numeralOf_eq_some_iff.mp ((numeralOf_dropWhile s).trans hs)
    have hnil : s.dropWhile isspace ≠ [] := fun hnil => by
      have hlt := hdrop.length_lt
      rw [hnil] at hlt
      exact Nat.not_lt_zero _ hlt
    have hsize : ulongMax + 1 = 2 ^ 64 := rfl
    rw [if_neg hnil, hs]
    dsimp only
    rw [if_neg, ofNat_unsignedValue_eq_ofInt hn]
    rw [not_or]
    exact ⟨hdrop.ne, by simp; omega⟩

/-- **The reader** accepts a file if its first line shows counters, and returns these. -/
theorem readProcessCpuTimes_eq_some_iff (hpid : 0 < pid) (hstat : proc.stat pid = some file)
    (hline : (fgetsPieces 4096 file.content).head? = some line) (h0 : 0 ∉ line) :
    readProcessCpuTimes proc pid = some times ↔
      file.closes = true ∧ ShowsTicks line times.userTicks times.systemTicks := by
  unfold readProcessCpuTimes
  rw [if_neg (Int32.not_le.mpr hpid), hstat]
  simp only [Option.bind_eq_bind, Option.bind_some, hline, cstr_eq_self_iff.mpr h0]
  by_cases hclose : file.closes = true
  · rw [if_neg (not_not.mpr hclose), Option.bind_eq_some_iff]
    constructor
    · rintro ⟨⟨front, behind⟩, hlast, h⟩
      obtain ⟨hfront, hbehind⟩ := strrchr_eq_some_iff.mp hlast
      cases hstate : behind.dropWhile isspace with
      | nil =>
        rw [hstate] at h
        cases h
      | cons state fields =>
        rw [hstate] at h
        rw [if_neg (List.cons_ne_nil _ _)] at h
        obtain ⟨user, hskip, h⟩ := Option.bind_eq_some_iff.mp h
        obtain ⟨⟨u, system⟩, huser, h⟩ := Option.bind_eq_some_iff.mp h
        obtain ⟨⟨v, rest⟩, hsystem, h⟩ := Option.bind_eq_some_iff.mp h
        obtain rfl := Option.some.inj h
        obtain ⟨blanks, hblanks, hblank, hno⟩ := dropWhile_eq_iff.mp hstate
        exact ⟨hclose, front, behind, hfront, hbehind, blanks, state, fields, user, system, rest,
          hblanks, hblank, hno state rfl, skipFields_eq_some_iff.mp hskip,
          readTicks_eq_some_iff.mp huser,
          readTicks_eq_some_iff.mp hsystem⟩
    · rintro ⟨-, front, behind, hfront, hbehind, blanks, state, fields, user, system, rest, hblanks,
        hblank, hno, hskip, huser, hsystem⟩
      refine ⟨(front, behind), strrchr_eq_some_iff.mpr ⟨hfront, hbehind⟩, ?_⟩
      have hstate : behind.dropWhile isspace = state :: fields :=
        dropWhile_eq_iff.mpr
          ⟨blanks, hblanks, hblank, fun b hb => Option.some.inj hb ▸ hno⟩
      rw [hstate]
      rw [if_neg (List.cons_ne_nil _ _), List.tail_cons, skipFields_eq_some_iff.mpr hskip,
        Option.bind_some, readTicks_eq_some_iff.mpr huser, Option.bind_some,
        readTicks_eq_some_iff.mpr hsystem]
      rfl
  · rw [if_pos hclose]
    exact iff_of_false nofun fun h => hclose h.1

end Reader

/-! ### What the kernel writes -/

/-- A decimal field: digits, perhaps with a minus sign in front of them. -/
def DecimalField (field : Bytes) : Prop :=
  DigitString field ∨ ∃ digits, DigitString digits ∧ field = 0x2d :: digits

/-- What the kernel shows of a process in its stat file. -/
structure StatRecord where
  /-- The PID. -/
  pid : Int32
  /-- PIDs are positive. -/
  pid_pos : 0 < pid
  /-- The name: any bytes -/
  name : Bytes
  /-- but NUL. -/
  name_ok : 0 ∉ name
  /-- The state, -/
  state : UInt8
  /-- a letter, or any other byte that cannot be taken for something else. -/
  state_ok : isspace state = false ∧ state ≠ 0x29 ∧ state ≠ 0
  /-- Fields 4 to 13. -/
  skipped : List Bytes
  /-- There are ten of them. -/
  skipped_length : skipped.length = 10
  /-- They are numbers. -/
  skipped_ok : ∀ field ∈ skipped, DecimalField field
  /-- Field 14, -/
  user : Bytes
  /-- a number -/
  user_ok : DigitString user
  /-- of 64 bits. -/
  user_lt : decimalValue user < 2 ^ 64
  /-- Field 15, -/
  system : Bytes
  /-- a number -/
  system_ok : DigitString system
  /-- of 64 bits. -/
  system_lt : decimalValue system < 2 ^ 64
  /-- The fields behind it. -/
  others : List Bytes
  /-- They are numbers. -/
  others_ok : ∀ field ∈ others, DecimalField field

/-- Some fields, each with a space in front of it. -/
def spaced (fields : List Bytes) : Bytes := fields.flatMap fun field => 0x20 :: field

namespace StatRecord

variable (r : StatRecord)

/-- `pid (`, which the name is behind of. -/
def front : Bytes := decimalInt r.pid.toInt ++ ascii " ("

/-- What is behind the `)` of the name. -/
def behind : Bytes := 0x20 :: r.state :: spaced (r.skipped ++ r.user :: r.system :: r.others)

/-- The line of the process: `pid (name) state field4 field5 …`. -/
def line : Bytes := r.front ++ (r.name ++ 0x29 :: r.behind)

/-- Fields 14 and 15. -/
def times : ProcessCpuTimes := ⟨.ofNat (decimalValue r.user), .ofNat (decimalValue r.system)⟩

theorem toNat_times : r.times.userTicks.toNat = decimalValue r.user ∧
    r.times.systemTicks.toNat = decimalValue r.system :=
  ⟨UInt64.toNat_ofNat_of_lt' r.user_lt, UInt64.toNat_ofNat_of_lt' r.system_lt⟩

/-- The part of the name that ends its line, where it has a newline. -/
def firstLine : Bytes := lineText r.name ++ [newline]

/-- The name does not break the line; or it does, but the line that is left shows the counters of
the process nevertheless. -/
def KeepsTicks : Prop :=
  newline ∉ r.name ∨ ShowsTicks r.firstLine r.times.userTicks r.times.systemTicks

end StatRecord

/-! ### Encoding and decoding -/

section Fields

variable {field s : Bytes} {fields : List Bytes} {b : UInt8}

/-- A byte of a number is a digit or the minus sign. -/
theorem DecimalField.mem (h : DecimalField field) (hb : b ∈ field) :
    isdigit b = true ∨ b = 0x2d := by
  obtain h | ⟨digits, h, rfl⟩ := h
  · exact .inl (h.2 b hb)
  · obtain rfl | hb := List.mem_cons.mp hb
    · exact .inr rfl
    · exact .inl (h.2 b hb)

theorem DecimalField.ne_nil (h : DecimalField field) : field ≠ [] := by
  obtain h | ⟨digits, -, rfl⟩ := h
  · exact h.1
  · exact List.cons_ne_nil _ _

/-- A digit, or a minus sign, is no byte with a meaning of its own. -/
theorem not_isspace_of_digit_or_minus (h : isdigit b = true ∨ b = 0x2d) :
    isspace b = false ∧ b ≠ 0x29 ∧ b ≠ 0 := by
  obtain h | rfl := h
  · refine ⟨not_isspace_of_isdigit h, ?_, ?_⟩
    · rintro rfl
      cases h
    · rintro rfl
      cases h
  · decide

/-- Neither is a space. -/
theorem mem_spaced (h : ∀ field ∈ fields, DecimalField field) (hb : b ∈ spaced fields) :
    b ≠ 0x29 ∧ b ≠ newline ∧ b ≠ 0 := by
  obtain ⟨field, hfield, hb⟩ := List.mem_flatMap.mp hb
  obtain rfl | hb := List.mem_cons.mp hb
  · decide
  · obtain ⟨hspace, hlast, h0⟩ := not_isspace_of_digit_or_minus ((h field hfield).mem hb)
    refine ⟨hlast, ?_, h0⟩
    rintro rfl
    cases hspace

theorem head?_spaced_append (fields : List Bytes) (hs : ∀ c, s.head? = some c → isspace c = true) :
    ∀ c, (spaced fields ++ s).head? = some c → isspace c = true := by
  cases fields with
  | nil => exact hs
  | cons field fields =>
    intro c hc
    obtain rfl : 0x20 = c := Option.some.inj hc
    rfl

/-- Numbers with spaces in front of them are fields. -/
theorem afterFields_spaced (h : ∀ field ∈ fields, DecimalField field)
    (hs : ∀ c, s.head? = some c → isspace c = true) :
    AfterFields fields.length (spaced fields ++ s) s := by
  induction fields with
  | nil => exact .zero s
  | cons field fields ih =>
    rw [List.forall_mem_cons] at h
    have hparts : spaced (field :: fields) ++ s = [0x20] ++ (field ++ (spaced fields ++ s)) := by
      simp [spaced]
    rw [hparts]
    exact .succ (List.all_eq_true.mp (by decide)) h.1.ne_nil
      (fun b hb => (not_isspace_of_digit_or_minus (h.1.mem hb)).1)
      (head?_spaced_append fields hs) (ih h.2)

/-- A number with a space in front of it is a tick count. -/
theorem ticks_spaced (h : DigitString field) (hlt : decimalValue field < 2 ^ 64)
    (hs : ∀ c, s.head? = some c → isspace c = true) :
    Ticks (0x20 :: field ++ s) (.ofNat (decimalValue field)) s := by
  have hvalue : UInt64.ofNat (unsignedValue ulongMax false (decimalValue field)) =
      .ofInt (decimalValue field) := ofNat_unsignedValue_eq_ofInt hlt
  have hle : decimalValue field ≤ ulongMax := Nat.le_pred_of_lt hlt
  rw [unsignedValue_of_le hle] at hvalue
  refine ⟨false, decimalValue field, ?_, hlt, hvalue⟩
  have hblank : ∀ b ∈ ([0x20] : Bytes), isspace b = true := List.all_eq_true.mp (by decide)
  refine Numeral.intro hblank .none h.1 h.2 fun c hc => ?_
  have hspace := hs c hc
  by_contra hdigit
  rw [not_isspace_of_isdigit (by simpa using hdigit)] at hspace
  cases hspace

end Fields

namespace StatRecord

variable (r : StatRecord)

/-- What is behind the name shows the counters, whatever is behind them. -/
theorem counters_behind {e : Bytes} (he : ∀ c, e.head? = some c → isspace c = true) :
    Counters (r.behind ++ e) r.times.userTicks r.times.systemTicks := by
  have hparts : r.behind ++ e = [0x20] ++ r.state :: (spaced r.skipped ++
      (0x20 :: r.user ++ (0x20 :: r.system ++ (spaced r.others ++ e)))) := by
    simp [behind, spaced]
  have hothers := head?_spaced_append r.others he
  have hsystem : ∀ c, (0x20 :: r.system ++ (spaced r.others ++ e)).head? = some c →
      isspace c = true := by
    intro c hc
    obtain rfl : 0x20 = c := Option.some.inj hc
    rfl
  have hskip := afterFields_spaced
    (s := 0x20 :: r.user ++ (0x20 :: r.system ++ (spaced r.others ++ e)))
    r.skipped_ok fun c hc => by
      obtain rfl : 0x20 = c := Option.some.inj hc
      rfl
  rw [r.skipped_length] at hskip
  exact ⟨[0x20], r.state, _, _, _, _, hparts, List.all_eq_true.mp (by decide), r.state_ok.1, hskip,
    ticks_spaced r.user_ok r.user_lt hsystem, ticks_spaced r.system_ok r.system_lt hothers⟩

/-- Behind the name there is no `)`, and nothing that ends the line. -/
theorem mem_behind {b : UInt8} (hb : b ∈ r.behind) : b ≠ 0x29 ∧ b ≠ newline ∧ b ≠ 0 := by
  have hfields : ∀ field ∈ r.skipped ++ r.user :: r.system :: r.others, DecimalField field := by
    rw [List.forall_mem_append, List.forall_mem_cons, List.forall_mem_cons]
    exact ⟨r.skipped_ok, .inl r.user_ok, .inl r.system_ok, r.others_ok⟩
  obtain ⟨hspace, hlast, h0⟩ := r.state_ok
  obtain rfl | hb := List.mem_cons.mp hb
  · decide
  · obtain rfl | hb := List.mem_cons.mp hb
    · refine ⟨hlast, ?_, h0⟩
      intro hnewline
      rw [hnewline] at hspace
      cases hspace
    · exact mem_spaced hfields hb

/-- Neither is there in front of it. -/
theorem mem_front {b : UInt8} (hb : b ∈ r.front) : b ≠ 0x29 ∧ b ≠ newline ∧ b ≠ 0 := by
  obtain hb | hb := List.mem_append.mp hb
  · have hdigit : isdigit b = true ∨ b = 0x2d := by
      unfold decimalInt at hb
      split_ifs at hb
      · obtain rfl | hb := List.mem_cons.mp hb
        · exact .inr rfl
        · exact .inl (isdigit_of_mem_decimal _ b hb)
      · exact .inl (isdigit_of_mem_decimal _ b hb)
    obtain ⟨hspace, hlast, h0⟩ := not_isspace_of_digit_or_minus hdigit
    refine ⟨hlast, ?_, h0⟩
    rintro rfl
    cases hspace
  · have hascii : ∀ c ∈ ascii " (", c ≠ 0x29 ∧ c ≠ newline ∧ c ≠ 0 :=
      List.all_iff_forall_prop.mp (by decide)
    exact hascii b hb

/-- **The line** shows the counters, whatever the name is. -/
theorem showsTicks_line {e : Bytes} (he : e = [] ∨ e = [newline]) :
    ShowsTicks (r.line ++ e) r.times.userTicks r.times.systemTicks := by
  refine ⟨r.front ++ r.name, r.behind ++ e, by simp [line], ?_, r.counters_behind ?_⟩
  · rw [List.mem_append, not_or]
    refine ⟨fun hmem => (r.mem_behind hmem).1 rfl, ?_⟩
    obtain rfl | rfl := he <;> decide
  · obtain rfl | rfl := he
    · exact nofun
    · intro c hc
      rw [← Option.some.inj hc]
      rfl

theorem zero_not_mem_line : 0 ∉ r.line := by
  unfold line
  rw [List.mem_append, List.mem_append, List.mem_cons, not_or, not_or, not_or]
  exact ⟨fun h => (r.mem_front h).2.2 rfl, r.name_ok, by decide, fun h => (r.mem_behind h).2.2 rfl⟩

/-- The part of the name in front of its first newline. -/
theorem exists_firstLine (h : newline ∈ r.name) : ∃ before behind, newline ∉ before ∧
    r.name = before ++ newline :: behind ∧ r.firstLine = before ++ [newline] := by
  obtain ⟨hname, hbefore⟩ := (strchr_eq_some_iff (s := r.name)).mp (if_pos h)
  exact ⟨_, _, hbefore, hname, rfl⟩

/-- Where the name has a newline, this ends the first line of the file. -/
theorem head?_fgetsPieces (h : newline ∈ r.name) (hshort : r.line.length < 4096) (ending : Bytes) :
    (fgetsPieces 4096 (r.line ++ ending)).head? = some (r.front ++ r.firstLine) := by
  obtain ⟨before, behind, hbefore, hname, hfirst⟩ := r.exists_firstLine h
  have hparts : r.line ++ ending =
      (r.front ++ before) ++ newline :: (behind ++ 0x29 :: r.behind ++ ending) := by
    simp [line, hname]
  have hlength : (r.front ++ before).length + 1 < 4096 := by
    simp only [line, hname, List.length_append, List.length_cons] at hshort ⊢
    omega
  have hline : newline ∉ r.front ++ before := by
    rw [List.mem_append, not_or]
    exact ⟨fun hmem => (r.mem_front hmem).2.1 rfl, hbefore⟩
  rw [hparts, fgetsPieces, fgetsFrom_append_newline hline _ [] (by simpa using hlength), hfirst,
    List.head?_cons, List.nil_append, List.append_assoc]

theorem zero_not_mem_firstLine : 0 ∉ r.front ++ r.firstLine := by
  unfold firstLine
  rw [List.mem_append, List.mem_append, not_or, not_or]
  exact ⟨fun h => (r.mem_front h).2.2 rfl,
    fun h => r.name_ok ((List.takeWhile_prefix _).subset h), by decide⟩

theorem newline_not_mem_line (h : newline ∉ r.name) : newline ∉ r.line := by
  unfold line
  rw [List.mem_append, List.mem_append, List.mem_cons, not_or, not_or, not_or]
  exact ⟨fun h => (r.mem_front h).2.1 rfl, h, by decide, fun h => (r.mem_behind h).2.1 rfl⟩

end StatRecord

/-- A text without `)` in front of a line changes nothing. -/
theorem showsTicks_append_iff {s t : Bytes} {u v : UInt64} (hs : 0x29 ∉ s) :
    ShowsTicks (s ++ t) u v ↔ ShowsTicks t u v := by
  constructor
  · rintro ⟨front, behind, hparts, hlast, hcounters⟩
    rcases List.append_eq_append_iff.mp hparts with ⟨as, rfl, ht⟩ | ⟨bs, hbs, hbehind⟩
    · exact ⟨as, behind, ht, hlast, hcounters⟩
    · cases bs with
      | nil => exact ⟨[], behind, hbehind.symm, hlast, hcounters⟩
      | cons b bs =>
        -- the `)` would be in the text
        obtain ⟨rfl, -⟩ := List.cons.inj hbehind
        refine absurd ?_ hs
        rw [hbs]
        exact List.mem_append_right _ List.mem_cons_self
  · rintro ⟨front, behind, rfl, hlast, hcounters⟩
    exact ⟨s ++ front, behind, by rw [List.append_assoc], hlast, hcounters⟩

/-- **The counters are read** exactly if the name keeps them, and the file can be closed. -/
theorem readProcessCpuTimes_statRecord_iff (r : StatRecord) (hshort : r.line.length < 4096)
    {ending : Bytes} (hending : ending = [] ∨ ending = [newline]) {closes : Bool} {proc : ProcFs}
    (hstat : proc.stat r.pid = some ⟨r.line ++ ending, closes⟩) :
    readProcessCpuTimes proc r.pid = some r.times ↔ closes = true ∧ r.KeepsTicks := by
  by_cases hname : newline ∈ r.name
  · -- the first line ends in the name
    have hlast : 0x29 ∉ r.front := fun hmem => (r.mem_front hmem).1 rfl
    rw [readProcessCpuTimes_eq_some_iff r.pid_pos hstat (r.head?_fgetsPieces hname hshort ending)
      r.zero_not_mem_firstLine, showsTicks_append_iff hlast, StatRecord.KeepsTicks,
      or_iff_right (not_not.mpr hname)]
  · have hfirst : ending = [] ∨ ending.head? = some newline := by
      obtain rfl | rfl := hending
      · exact .inl rfl
      · exact .inr rfl
    obtain ⟨e, hline, he⟩ := exists_head?_fgetsPieces (r.newline_not_mem_line hname)
      (by simp [StatRecord.line]) hshort hfirst
    have h0 : 0 ∉ r.line ++ e := by
      rw [List.mem_append, not_or]
      refine ⟨r.zero_not_mem_line, ?_⟩
      obtain rfl | rfl := he <;> decide
    rw [readProcessCpuTimes_eq_some_iff r.pid_pos hstat hline h0]
    exact and_congr_right fun _ => iff_of_true (r.showsTicks_line he) (.inl hname)

/-- A process that runs `sh`, but for its name. -/
def StatRecord.named (name : Bytes) (h : 0 ∉ name) : StatRecord where
  pid := 7
  pid_pos := by decide
  name := name
  name_ok := h
  state := 0x53
  state_ok := by decide
  skipped := List.replicate 9 (ascii "0") ++ [ascii "-1"]
  skipped_length := by decide
  skipped_ok := by
    intro field hfield
    obtain hfield | hfield := List.mem_append.mp hfield
    · rw [List.eq_of_mem_replicate hfield]
      exact .inl (by decide)
    · rw [List.mem_singleton.mp hfield]
      exact .inr ⟨ascii "1", by decide, rfl⟩
  user := ascii "25"
  user_ok := by decide
  user_lt := by decide
  system := ascii "17"
  system_ok := by decide
  system_lt := by decide
  others := []
  others_ok := nofun

/-- A name that looks like the rest of a line. -/
theorem readProcessCpuTimes_hostile :
    readProcessCpuTimes ⟨none, fun _ => none,
        fun _ => some ⟨(StatRecord.named (ascii "x) R 1 2 (") (by decide)).line, true⟩⟩ 7 =
      some ⟨25, 17⟩ :=
  (readProcessCpuTimes_statRecord_iff (.named (ascii "x) R 1 2 (") (by decide)) (by decide)
    (.inl rfl) (by rw [List.append_nil])).mpr ⟨rfl, .inl (by decide)⟩

/-- A name with a newline breaks the line. -/
theorem readProcessCpuTimes_newline : ¬ ∀ (r : StatRecord) (ending : Bytes) (proc : ProcFs),
    r.line.length < 4096 → (ending = [] ∨ ending = [newline]) →
    proc.stat r.pid = some ⟨r.line ++ ending, true⟩ →
    readProcessCpuTimes proc r.pid = some r.times := by
  intro h
  have hread := h (.named (ascii "a\nb") (by decide)) [] ⟨none, fun _ => none, fun _ => some
    ⟨(StatRecord.named (ascii "a\nb") (by decide)).line ++ [], true⟩⟩ (by decide) (.inl rfl) rfl
  revert hread
  decide

end EdgeSentinel.Monitor
