import EdgeSentinel.CLib.Numerals
import EdgeSentinel.Monitor.Process

/-!
# Looking for a process by its name

`find_process_by_name` goes through the entries of `/proc` and takes the first one that is a
process with the name.

## The model

* `findProcessByNameInto` — the function with its variable `*pid`: whether it returns 0, and what
  the variable holds then.
* `NamesProcess` — which entries stand for a process with the name, and for which PID.

## What is proved

* `matchEntry_eq_some_iff` — the body of the loop takes these entries, however long they are.
* `findsFirst_findProcessByName` — **the search** finds the first one of them.
-/

namespace EdgeSentinel.Monitor

open CLib

/-! ### The search, with its variable -/

/-- The loop of `find_process_by_name` over the entries of `/proc`. -/
def findInEntries (proc : ProcFs) (processName : Bytes) : List Bytes → Int32 → Bool × Int32
  | [], pid => (false, pid)
  | name :: entries, pid =>
    if ¬ isPidDirectoryName name then findInEntries proc processName entries pid
    else
      let (value, rest, _) := strtol longMax name
      if rest ≠ [] ∨ value ≤ 0 ∨ (intMax : ℤ) < value then
        findInEntries proc processName entries pid
      else
        match readProcessInfo proc (Int32.ofInt value) with
        | none => findInEntries proc processName entries pid
        | some info =>
          if info.name.bytes = processName then (true, Int32.ofInt value)
          else findInEntries proc processName entries pid

/-- `find_process_by_name`, where `*pid` holds `pid`: whether it returns 0, and what `*pid` holds
then. -/
def findProcessByNameInto (proc : ProcFs) (processName : Bytes) (pid : Int32) : Bool × Int32 :=
  match proc.entries with
  | none => (false, pid)
  | some entries => findInEntries proc processName entries pid

variable {proc : ProcFs} {processName name : Bytes} {pid : Int32}

theorem findInEntries_eq (entries : List Bytes) (pid : Int32) :
    findInEntries proc processName entries pid =
      match entries.findSome? (matchEntry proc processName) with
      | none => (false, pid)
      | some found => (true, found) := by
  induction entries with
  | nil => rfl
  | cons name entries ih =>
    rw [findInEntries, List.findSome?_cons, matchEntry]
    by_cases hname : isPidDirectoryName name = true
    · rw [if_neg (not_not.mpr hname), if_pos hname]
      dsimp only
      split_ifs with hvalue
      · exact ih
      · cases readProcessInfo proc (Int32.ofInt (strtol longMax name).1) with
        | none => exact ih
        | some info =>
          dsimp only
          split_ifs with hmatch
          · rfl
          · exact ih
    · rw [if_pos hname, if_neg hname]
      exact ih

/-- The variable is written when the process is found, and only then. -/
theorem findProcessByNameInto_eq (proc : ProcFs) (processName : Bytes) (pid : Int32) :
    findProcessByNameInto proc processName pid =
      match findProcessByName proc processName with
      | none => (false, pid)
      | some found => (true, found) := by
  unfold findProcessByNameInto findProcessByName
  cases proc.entries with
  | none => rfl
  | some entries => exact findInEntries_eq entries pid

/-! ### The entries that are taken -/

/-- An `int` that is read from a number in range. -/
theorem toInt_ofInt_of_mem {z : ℤ} (h₀ : 0 ≤ z) (h : z ≤ intMax) : (Int32.ofInt z).toInt = z := by
  refine Int32.toInt_ofInt_of_le (by omega) ?_
  have : (intMax : ℤ) < 2 ^ 31 := by decide
  omega

/-- The entry `name` stands for the process `pid`, and this has the name that is looked for. -/
structure NamesProcess (proc : ProcFs) (processName name : Bytes) (pid : Int32) : Prop where
  /-- The entry is made of digits. -/
  digits : DigitString name
  /-- They stand for a PID, -/
  value : (decimalValue name : ℤ) = pid.toInt
  /-- which is positive. -/
  pos : 0 < pid.toInt
  /-- The status file is accepted, and shows exactly the name. -/
  status : ∃ info, readProcessInfo proc pid = some info ∧ info.name.bytes = processName

theorem isPidDirectoryName_iff : isPidDirectoryName name = true ↔ DigitString name := by
  unfold isPidDirectoryName DigitString
  rw [Bool.and_eq_true, decide_eq_true_eq, List.all_eq_true]

/-- What `strtol` makes of digits: a value that is too large stays too large. -/
theorem strtol_digitString (h : DigitString name) :
    (strtol longMax name).2.1 = [] ∧
      (strtol longMax name).1 =
        (if longMax < decimalValue name then longMax else decimalValue name : ℕ) := by
  rw [strtol_eq, numeralOf_digitString h]
  dsimp only
  rw [signedValue, if_neg Bool.false_ne_true]
  split_ifs <;> exact ⟨rfl, rfl⟩

variable {value : ℤ} {rest : Bytes} {range : Bool}

/-- The number of an entry is refused unless it is a positive `int`. -/
theorem refused_iff (h : DigitString name) (hread : strtol longMax name = (value, rest, range)) :
    (rest ≠ [] ∨ value ≤ 0 ∨ (intMax : ℤ) < value) ↔
      decimalValue name = 0 ∨ intMax < decimalValue name := by
  have hlong : intMax < longMax := by decide
  obtain ⟨hrest, hvalue⟩ := strtol_digitString h
  rw [hread] at hrest hvalue
  dsimp only at hrest hvalue
  rw [hrest, hvalue, or_iff_right (not_not.mpr rfl)]
  split_ifs <;> omega

/-- One that is not refused is the PID. -/
theorem toInt_ofInt_of_not_refused (h : DigitString name)
    (hread : strtol longMax name = (value, rest, range))
    (hrange : ¬ (decimalValue name = 0 ∨ intMax < decimalValue name)) :
    (Int32.ofInt value).toInt = decimalValue name := by
  have hlong : intMax < longMax := by decide
  obtain ⟨-, hvalue⟩ := strtol_digitString h
  rw [hread, if_neg (by omega)] at hvalue
  dsimp only at hvalue
  rw [hvalue]
  exact toInt_ofInt_of_mem (by omega) (by omega)

/-- **An entry is taken** if it is made of digits that stand for a positive `int`, and the process
has the name. -/
theorem matchEntry_eq_some_iff :
    matchEntry proc processName name = some pid ↔ NamesProcess proc processName name pid := by
  unfold matchEntry
  by_cases hname : DigitString name
  swap
  · rw [if_neg (isPidDirectoryName_iff.not.mpr hname)]
    exact iff_of_false nofun fun h => hname h.digits
  rw [if_pos (isPidDirectoryName_iff.mpr hname)]
  rcases hread : strtol longMax name with ⟨value, rest, range⟩
  dsimp only
  by_cases hrange : decimalValue name = 0 ∨ intMax < decimalValue name
  · rw [if_pos ((refused_iff hname hread).mpr hrange)]
    refine iff_of_false nofun fun h => ?_
    have hpid : pid.toInt ≤ intMax := pid.toInt_le
    have hpos := h.pos
    have hsame := h.value
    omega
  · rw [if_neg ((refused_iff hname hread).not.mpr hrange)]
    have hint := toInt_ofInt_of_not_refused hname hread hrange
    constructor
    · intro h
      cases hinfo : readProcessInfo proc (Int32.ofInt value) with
      | none =>
        rw [hinfo] at h
        cases h
      | some info =>
        rw [hinfo] at h
        dsimp only at h
        split_ifs at h with hmatch
        obtain rfl := Option.some.inj h
        exact ⟨hname, hint.symm, by omega, info, hinfo, hmatch⟩
    · rintro ⟨-, hpid, -, info, hinfo, hmatch⟩
      obtain rfl : Int32.ofInt value = pid := Int32.toInt_inj.mp (hint.trans hpid)
      rw [hinfo]
      exact if_pos hmatch

/-! ### The first one -/

/-- A search through `entries`: -/
structure FindsFirst (proc : ProcFs) (entries : List Bytes) (processName : Bytes) (pid : Int32)
    (outcome : Bool × Int32) : Prop where
  /-- it succeeds if and only if there is such a process, -/
  found_iff : outcome.1 = true ↔ ∃ name ∈ entries, ∃ found, NamesProcess proc processName name found
  /-- it stores the PID of the first entry that stands for one, -/
  first : outcome.1 = true → ∃ before name after, entries = before ++ name :: after ∧
    NamesProcess proc processName name outcome.2 ∧
    ∀ earlier ∈ before, ∀ found, ¬ NamesProcess proc processName earlier found
  /-- and without success it stores nothing. -/
  unchanged : outcome.1 = false → outcome.2 = pid

/-- **`find_process_by_name`** finds the first process with the name, in the order of the listing.
A directory that cannot be opened lists nothing. -/
theorem findsFirst_findProcessByName (proc : ProcFs) (processName : Bytes) (pid : Int32) :
    FindsFirst proc (proc.entries.getD []) processName pid
      (findProcessByNameInto proc processName pid) := by
  rw [findProcessByNameInto_eq]
  have hentries : findProcessByName proc processName =
      (proc.entries.getD []).findSome? (matchEntry proc processName) := by
    unfold findProcessByName
    cases proc.entries <;> rfl
  rw [hentries]
  cases hfound : (proc.entries.getD []).findSome? (matchEntry proc processName) with
  | none =>
    rw [List.findSome?_eq_none_iff] at hfound
    refine ⟨iff_of_false Bool.false_ne_true ?_, nofun, fun _ => rfl⟩
    rintro ⟨name, hname, found, hnames⟩
    have hnone := hfound name hname
    rw [matchEntry_eq_some_iff.mpr hnames] at hnone
    cases hnone
  | some found =>
    obtain ⟨before, name, after, hsplit, hmatch, hbefore⟩ := List.findSome?_eq_some_iff.mp hfound
    have hnames := matchEntry_eq_some_iff.mp hmatch
    refine ⟨iff_of_true rfl ⟨name, ?_, found, hnames⟩, fun _ => ⟨before, name, after, hsplit, hnames, ?_⟩,
      nofun⟩
    · rw [hsplit]
      simp
    · intro earlier hearlier other hother
      have hnone := hbefore earlier hearlier
      rw [matchEntry_eq_some_iff.mpr hother] at hnone
      cases hnone

end EdgeSentinel.Monitor
