import EdgeSentinel.CLib.Numerals
import EdgeSentinel.CLib.Lines
import EdgeSentinel.Monitor.Process

/-!
# The status file of a process

`read_process_info` looks for four lines of `/proc/<pid>/status` by their labels, and writes the
caller's `ProcessInfo` once it has found them all.

## The model

* `readProcessInfoInto` — the function with its local `result`, its four flags and the caller's
  variable `*info`.
* `labelled` — what is behind a label, in all of the lines that begin with it.
* `CarriesNumber`, `CarriesInt`, `CarriesUnsigned` — which number such a text begins with.

## What is proved

* `readProcessInfoInto_eq` — the variable is written at the end, and with the whole record.
* `Awaits`, `Lacks` — what is still ahead of the loop for one of the labels; one line keeps it.
* `readsStatus_readProcessInfo` — **the four lines** make the record, wherever they stand; without
  one of them, the variable stays as it is.
-/

namespace EdgeSentinel.Monitor

open CLib

/-! ### The reader, with its variables -/

/-- The variables of `read_process_info` in its loop. -/
structure StatusScan where
  /-- `result`. -/
  result : ProcessInfo
  /-- `found_name`. -/
  foundName : Bool
  /-- `found_state`. -/
  foundState : Bool
  /-- `found_parent_pid`. -/
  foundParentPid : Bool
  /-- `found_memory`. -/
  foundMemory : Bool

/-- The variables in front of the loop. -/
def StatusScan.start (pid : Int32) : StatusScan :=
  ⟨{ ProcessInfo.zero with pid := pid }, false, false, false, false⟩

/-- All four flags are set. -/
def StatusScan.foundAll (s : StatusScan) : Bool :=
  s.foundName && s.foundState && s.foundParentPid && s.foundMemory

/-- The body of the loop, up to its `break`. -/
def scanStatusLine (line : Bytes) (s : StatusScan) : StatusScan :=
  match scanLiteral (ascii "Name:") line with
  | some text =>
    if labelText text = [] then s
    else { s with result.name := .snprintf _ (labelText text), foundName := true }
  | none =>
    match scanLiteral (ascii "State:") line with
    | some text =>
      if labelText text = [] then s
      else { s with result.state := .snprintf _ (labelText text), foundState := true }
    | none =>
      match scanLiteral (ascii "PPid:") line with
      | some text =>
        match scanInt text with
        | some (v, _) => { s with result.parentPid := v, foundParentPid := true }
        | none => s
      | none =>
        match scanLiteral (ascii "VmRSS:") line with
        | some text =>
          match scanUnsigned text with
          | some (v, _) => { s with result.residentMemoryKb := v, foundMemory := true }
          | none => s
        | none => s

/-- The loop. -/
def scanStatusLines : List Bytes → StatusScan → StatusScan
  | [], s => s
  | line :: lines, s =>
    let s := scanStatusLine (cstr line) s
    if s.foundAll then s else scanStatusLines lines s

/-- `read_process_info`, where `*info` holds `info`: whether it returns 0, and what `*info` holds
then. -/
def readProcessInfoInto (proc : ProcFs) (pid : Int32) (info : ProcessInfo) : Bool × ProcessInfo :=
  if pid ≤ 0 then (false, info)
  else
    match proc.status pid with
    | none => (false, info)
    | some content =>
      let s := scanStatusLines (fgetsPieces 512 content) (.start pid)
      if s.foundAll then (true, s.result) else (false, info)

/-- What has been found, without what is only in `result`. -/
def StatusScan.fields (s : StatusScan) : StatusFields where
  name := if s.foundName then some s.result.name else none
  state := if s.foundState then some s.result.state else none
  parentPid := if s.foundParentPid then some s.result.parentPid else none
  residentMemoryKb := if s.foundMemory then some s.result.residentMemoryKb else none

variable {proc : ProcFs} {pid : Int32} {info : ProcessInfo} {content line : Bytes}

/-- A line changes what has been found, and the PID stays. -/
theorem scanStatusLine_fields (line : Bytes) (s : StatusScan) :
    (scanStatusLine line s).fields = readStatusLine line s.fields ∧
      (scanStatusLine line s).result.pid = s.result.pid := by
  unfold scanStatusLine readStatusLine
  cases scanLiteral (ascii "Name:") line with
  | some text =>
    dsimp only
    split_ifs <;> exact ⟨rfl, rfl⟩
  | none =>
    cases scanLiteral (ascii "State:") line with
    | some text =>
      dsimp only
      split_ifs <;> exact ⟨rfl, rfl⟩
    | none =>
      cases scanLiteral (ascii "PPid:") line with
      | some text =>
        dsimp only
        cases scanInt text <;> exact ⟨rfl, rfl⟩
      | none =>
        cases scanLiteral (ascii "VmRSS:") line with
        | some text =>
          dsimp only
          cases scanUnsigned text <;> exact ⟨rfl, rfl⟩
        | none => exact ⟨rfl, rfl⟩

/-- The record is complete exactly if all flags are set, and it is `result` then. -/
theorem complete?_fields (s : StatusScan) :
    s.fields.complete? s.result.pid = if s.foundAll then some s.result else none := by
  obtain ⟨result, foundName, foundState, foundParentPid, foundMemory⟩ := s
  cases foundName <;> cases foundState <;> cases foundParentPid <;> cases foundMemory <;> rfl

theorem scanStatusLines_result (lines : List Bytes) (s : StatusScan) :
    (if (scanStatusLines lines s).foundAll then some (scanStatusLines lines s).result else none) =
      readStatusLines s.result.pid lines s.fields := by
  induction lines generalizing s with
  | nil => exact (complete?_fields s).symm
  | cons line lines ih =>
    obtain ⟨hfields, hpid⟩ := scanStatusLine_fields (cstr line) s
    have hcomplete := complete?_fields (scanStatusLine (cstr line) s)
    rw [hfields, hpid] at hcomplete
    rw [scanStatusLines, readStatusLines, hcomplete]
    by_cases hall : (scanStatusLine (cstr line) s).foundAll = true
    · rw [if_pos hall, if_pos hall]
    · rw [if_neg hall, if_neg hall]
      dsimp only
      rw [ih, hpid, hfields]

/-- **The variable is written** with the whole record, when this is complete, and only then. -/
theorem readProcessInfoInto_eq (proc : ProcFs) (pid : Int32) (info : ProcessInfo) :
    readProcessInfoInto proc pid info =
      match readProcessInfo proc pid with
      | none => (false, info)
      | some result => (true, result) := by
  unfold readProcessInfoInto readProcessInfo
  split_ifs with hpid
  · rfl
  · cases proc.status pid with
    | none => rfl
    | some content =>
      have hrun : _ = readStatusLines pid (fgetsPieces 512 content) ⟨none, none, none, none⟩ :=
        scanStatusLines_result (fgetsPieces 512 content) (.start pid)
      dsimp only
      rw [← hrun]
      split_ifs <;> rfl

/-! ### One line -/

/-- What is behind a label, in each of the lines that begin with it, in their order. -/
def labelled (label : String) (lines : List Bytes) : List Bytes :=
  lines.filterMap fun line => scanLiteral (ascii label) (cstr line)

/-- A string behind a label, as it is stored. -/
def readText (max : ℕ) (text : Bytes) : Option (CString max) :=
  if labelText text = [] then none else some (.snprintf max (labelText text))

/-- The number that `%d` finds in a text, as it is stored. -/
def readInt (text : Bytes) : Option Int32 := (scanInt text).map (·.1)

/-- The number that `%lu` finds. -/
def readUnsigned (text : Bytes) : Option UInt64 := (scanUnsigned text).map (·.1)

/-- What is found for a label once the loop is behind `line`, where `slot` was found before. -/
def foundIn {α : Type} (label : String) (read : Bytes → Option α) (line : Bytes) (slot : Option α) :
    Option α :=
  ((scanLiteral (ascii label) line).bind read).or slot

/-- No line begins with two labels that differ in their first byte. -/
theorem scanLiteral_eq_none {a b : UInt8} {as bs text : Bytes} (hne : a ≠ b)
    (h : scanLiteral (a :: as) line = some text) : scanLiteral (b :: bs) line = none := by
  unfold scanLiteral at h ⊢
  cases line with
  | nil => rfl
  | cons c line =>
    simp only [List.length_cons, List.take_succ_cons, List.cons.injEq] at h ⊢
    split_ifs at h with ha
    exact if_neg fun hb => hne (ha.1.symm.trans hb.1)

/-- A line changes the field that its label belongs to. -/
theorem readStatusLine_eq (line : Bytes) (f : StatusFields) : readStatusLine line f =
    ⟨foundIn "Name:" (readText _) line f.name, foundIn "State:" (readText _) line f.state,
      foundIn "PPid:" readInt line f.parentPid,
      foundIn "VmRSS:" readUnsigned line f.residentMemoryKb⟩ := by
  have hlabels : ascii "Name:" = 0x4e :: ascii "ame:" ∧ ascii "State:" = 0x53 :: ascii "tate:" ∧
      ascii "PPid:" = 0x50 :: ascii "Pid:" ∧ ascii "VmRSS:" = 0x56 :: ascii "mRSS:" := by decide
  obtain ⟨hN, hS, hP, hV⟩ := hlabels
  unfold readStatusLine foundIn
  rw [hN, hS, hP, hV]
  cases hname : scanLiteral (0x4e :: ascii "ame:") line with
  | some text =>
    rw [scanLiteral_eq_none (by decide) hname, scanLiteral_eq_none (by decide) hname,
      scanLiteral_eq_none (by decide) hname]
    dsimp only
    rw [Option.bind_some, readText]
    split_ifs <;> rfl
  | none =>
    cases hstate : scanLiteral (0x53 :: ascii "tate:") line with
    | some text =>
      rw [scanLiteral_eq_none (by decide) hstate, scanLiteral_eq_none (by decide) hstate]
      dsimp only
      rw [Option.bind_some, readText]
      split_ifs <;> rfl
    | none =>
      cases hparent : scanLiteral (0x50 :: ascii "Pid:") line with
      | some text =>
        rw [scanLiteral_eq_none (by decide) hparent]
        dsimp only
        cases hint : scanInt text <;> simp [readInt, hint]
      | none =>
        cases scanLiteral (0x56 :: ascii "mRSS:") line with
        | some text =>
          dsimp only
          cases hmemory : scanUnsigned text <;> simp [readUnsigned, hmemory]
        | none => rfl

/-! ### The lines that are still ahead -/

section Slot

variable {α : Type} {label : String} {read : Bytes → Option α} {v w : α} {slot : Option α}
  {lines : List Bytes}

/-- The value `v` has been found for a label, and no other line begins with the label; or none has
been found, and there is one line that has it. -/
def Awaits (label : String) (read : Bytes → Option α) (v : α) (slot : Option α)
    (lines : List Bytes) : Prop :=
  slot = some v ∧ labelled label lines = [] ∨
    slot = none ∧ ∃ text, labelled label lines = [text] ∧ read text = some v

/-- Nothing has been found for a label, and no line that begins with the label has a value. -/
def Lacks (label : String) (read : Bytes → Option α) (slot : Option α) (lines : List Bytes) : Prop :=
  slot = none ∧ ∀ text ∈ labelled label lines, read text = none

/-- A line that does not begin with the label leaves everything as it is; one that does is the
next of its lines. -/
theorem foundIn_cons (label : String) (read : Bytes → Option α) (line : Bytes) (slot : Option α)
    (lines : List Bytes) :
    foundIn label read (cstr line) slot = slot ∧
        labelled label (line :: lines) = labelled label lines ∨
      ∃ text, foundIn label read (cstr line) slot = (read text).or slot ∧
        labelled label (line :: lines) = text :: labelled label lines := by
  unfold foundIn labelled
  cases htext : scanLiteral (ascii label) (cstr line) with
  | none => exact .inl ⟨rfl, List.filterMap_cons_none htext⟩
  | some text => exact .inr ⟨text, rfl, List.filterMap_cons_some htext⟩

theorem Awaits.tail (h : Awaits label read v slot (line :: lines)) :
    Awaits label read v (foundIn label read (cstr line) slot) lines := by
  obtain ⟨hfound, hlines⟩ | ⟨text, hfound, hlines⟩ := foundIn_cons label read line slot lines
  · rw [Awaits, hlines] at h
    rw [hfound]
    exact h
  · rw [Awaits, hlines] at h
    obtain ⟨-, hnil⟩ | ⟨-, text', hone, hread⟩ := h
    · cases hnil
    · obtain ⟨rfl, hnil⟩ := List.cons.inj hone
      rw [hfound, hread]
      exact .inl ⟨rfl, hnil⟩

/-- At the end of the file, the value has been found. -/
theorem Awaits.nil (h : Awaits label read v slot []) : slot = some v := by
  obtain ⟨hv, -⟩ | ⟨-, text, hone, -⟩ := h
  · exact hv
  · cases hone

/-- Nothing but the value is found. -/
theorem Awaits.eq (h : Awaits label read v (some w) lines) : w = v := by
  obtain ⟨hv, -⟩ | ⟨hnone, -⟩ := h
  · exact Option.some.inj hv
  · cases hnone

theorem Lacks.tail (h : Lacks label read slot (line :: lines)) :
    Lacks label read (foundIn label read (cstr line) slot) lines := by
  obtain ⟨rfl, hnone⟩ := h
  obtain ⟨hfound, hlines⟩ | ⟨text, hfound, hlines⟩ := foundIn_cons label read line none lines
  · rw [hlines] at hnone
    exact ⟨hfound, hnone⟩
  · rw [hlines, List.forall_mem_cons] at hnone
    rw [hfound, hnone.1]
    exact ⟨rfl, hnone.2⟩

end Slot

/-! ### The loop -/

/-- For each of the four labels, its field of `r` has been found or is still ahead. -/
structure AwaitsAll (r : ProcessInfo) (f : StatusFields) (lines : List Bytes) : Prop where
  /-- The name. -/
  name : Awaits "Name:" (readText _) r.name f.name lines
  /-- The state. -/
  state : Awaits "State:" (readText _) r.state f.state lines
  /-- The PID of the parent. -/
  parentPid : Awaits "PPid:" readInt r.parentPid f.parentPid lines
  /-- The memory. -/
  residentMemoryKb : Awaits "VmRSS:" readUnsigned r.residentMemoryKb f.residentMemoryKb lines

/-- One of the labels has nothing found, and nothing ahead. -/
def LacksOne (f : StatusFields) (lines : List Bytes) : Prop :=
  Lacks "Name:" (readText processNameMax) f.name lines ∨
    Lacks "State:" (readText processStateMax) f.state lines ∨
    Lacks "PPid:" readInt f.parentPid lines ∨
    Lacks "VmRSS:" readUnsigned f.residentMemoryKb lines

variable {r : ProcessInfo} {f : StatusFields} {lines : List Bytes}

theorem AwaitsAll.tail (h : AwaitsAll r f (line :: lines)) :
    AwaitsAll r (readStatusLine (cstr line) f) lines := by
  rw [readStatusLine_eq]
  exact ⟨h.name.tail, h.state.tail, h.parentPid.tail, h.residentMemoryKb.tail⟩

/-- A record that is complete is the one that was awaited. -/
theorem AwaitsAll.complete (h : AwaitsAll r f lines) (hinfo : f.complete? r.pid = some info) :
    info = r := by
  obtain ⟨name, state, parentPid, residentMemoryKb⟩ := f
  obtain ⟨hname, hstate, hparent, hmemory⟩ := h
  cases parentPid with
  | none => cases hinfo
  | some p =>
    cases name with
    | none => cases hinfo
    | some n =>
      cases state with
      | none => cases hinfo
      | some s =>
        cases residentMemoryKb with
        | none => cases hinfo
        | some m =>
          obtain rfl := Option.some.inj hinfo
          obtain rfl := hname.eq
          obtain rfl := hstate.eq
          obtain rfl := hparent.eq
          obtain rfl := hmemory.eq
          rfl

/-- **The loop** ends with the record that it awaits, whatever the other lines are. -/
theorem readStatusLines_of_awaitsAll (h : AwaitsAll r f lines) :
    readStatusLines r.pid lines f = some r := by
  induction lines generalizing f with
  | nil =>
    obtain ⟨name, state, parentPid, residentMemoryKb⟩ := f
    obtain rfl := h.name.nil
    obtain rfl := h.state.nil
    obtain rfl := h.parentPid.nil
    obtain rfl := h.residentMemoryKb.nil
    rfl
  | cons line lines ih =>
    rw [readStatusLines]
    cases hinfo : (readStatusLine (cstr line) f).complete? r.pid with
    | none => exact ih h.tail
    | some info => exact congrArg some (h.tail.complete hinfo)

theorem LacksOne.tail (h : LacksOne f (line :: lines)) :
    LacksOne (readStatusLine (cstr line) f) lines := by
  rw [readStatusLine_eq]
  obtain h | h | h | h := h
  · exact .inl h.tail
  · exact .inr (.inl h.tail)
  · exact .inr (.inr (.inl h.tail))
  · exact .inr (.inr (.inr h.tail))

theorem LacksOne.complete (h : LacksOne f lines) : f.complete? pid = none := by
  obtain ⟨name, state, parentPid, residentMemoryKb⟩ := f
  obtain ⟨hnone, -⟩ | ⟨hnone, -⟩ | ⟨hnone, -⟩ | ⟨hnone, -⟩ := h
  · obtain rfl : name = none := hnone
    cases parentPid <;> rfl
  · obtain rfl : state = none := hnone
    cases parentPid <;> cases name <;> rfl
  · obtain rfl : parentPid = none := hnone
    rfl
  · obtain rfl : residentMemoryKb = none := hnone
    cases parentPid <;> cases name <;> cases state <;> rfl

/-- It ends without a record if it lacks one of the labels. -/
theorem readStatusLines_of_lacksOne (h : LacksOne f lines) :
    readStatusLines pid lines f = none := by
  induction lines generalizing f with
  | nil => exact h.complete
  | cons line lines ih =>
    rw [readStatusLines, h.tail.complete]
    exact ih h.tail

/-! ### What the lines carry -/

/-- A text begins with a decimal number, of whatever size. -/
def CarriesNumber (text : Bytes) : Prop := ∃ negative n rest, Numeral text negative n rest

/-- A text begins with the decimal integer `z`. -/
def CarriesInt (text : Bytes) (z : ℤ) : Prop :=
  ∃ negative n rest, Numeral text negative n rest ∧ z = if negative then -(n : ℤ) else n

/-- A text begins with the decimal number `n`, without a minus sign. -/
def CarriesUnsigned (text : Bytes) (n : ℕ) : Prop := ∃ rest, Numeral text false n rest

/-- There is exactly one line for each of the labels, and they carry these values. -/
structure FourLines (lines : List Bytes) (name state : Bytes) (parentPid : ℤ) (memoryKb : ℕ) :
    Prop where
  /-- The name. -/
  name : ∃ text, labelled "Name:" lines = [text] ∧ labelText text = name ∧ name ≠ []
  /-- The state. -/
  state : ∃ text, labelled "State:" lines = [text] ∧ labelText text = state ∧ state ≠ []
  /-- An `int`. -/
  parentPid : ∃ text, labelled "PPid:" lines = [text] ∧ CarriesInt text parentPid ∧
    -2 ^ 31 ≤ parentPid ∧ parentPid < 2 ^ 31
  /-- An `unsigned long`. -/
  memoryKb : ∃ text, labelled "VmRSS:" lines = [text] ∧ CarriesUnsigned text memoryKb ∧
    memoryKb < 2 ^ 64

/-- One of the labels has no line, or none that carries anything: no text, or no number. -/
def LacksLine (lines : List Bytes) : Prop :=
  (∀ text ∈ labelled "Name:" lines, labelText text = []) ∨
    (∀ text ∈ labelled "State:" lines, labelText text = []) ∨
    (∀ text ∈ labelled "PPid:" lines, ¬ CarriesNumber text) ∨
    ∀ text ∈ labelled "VmRSS:" lines, ¬ CarriesNumber text

/-- The record that the values make. -/
structure Records (pid : Int32) (name state : Bytes) (parentPid : ℤ) (memoryKb : ℕ)
    (r : ProcessInfo) : Prop where
  /-- The PID that was asked for. -/
  pid : r.pid = pid
  /-- As much of the name as fits. -/
  name : r.name.bytes = name.take 255
  /-- As much of the state as fits. -/
  state : r.state.bytes = state.take 63
  /-- The PID of the parent. -/
  parentPid : r.parentPid.toInt = parentPid
  /-- The memory. -/
  memoryKb : r.residentMemoryKb.toNat = memoryKb

/-! ### The values -/

section Values

variable {label : String} {text : Bytes} {n : ℕ} {z : ℤ}

theorem zero_not_mem_of_labelled (h : text ∈ labelled label lines) : 0 ∉ text := by
  obtain ⟨line, -, hline⟩ := List.mem_filterMap.mp h
  unfold scanLiteral at hline
  split_ifs at hline
  rw [← Option.some.inj hline]
  exact fun h0 => zero_not_mem_cstr line (List.mem_of_mem_drop h0)

theorem zero_not_mem_labelText (h : 0 ∉ text) : 0 ∉ labelText text := fun h0 =>
  h ((List.dropWhile_suffix _).subset ((List.takeWhile_prefix _).subset h0))

/-- A text is stored as far as it fits. -/
theorem exists_readText (max : ℕ) (h : 0 ∉ text) (hne : labelText text ≠ []) :
    ∃ c, readText max text = some c ∧ c.bytes = (labelText text).take max := by
  refine ⟨_, if_neg hne, ?_⟩
  change (cstr (labelText text)).take max = _
  rw [cstr_eq_self_iff.mpr (zero_not_mem_labelText h)]

/-- An integer that an `int` can hold is stored as it is. -/
theorem exists_readInt (h : CarriesInt text z) (hmin : -2 ^ 31 ≤ z) (hmax : z < 2 ^ 31) :
    ∃ v, readInt text = some v ∧ v.toInt = z := by
  obtain ⟨negative, n, rest, hnumeral, rfl⟩ := h
  have hvalue : signedValue longMax negative n = if negative then -(n : ℤ) else n := by
    unfold signedValue longMax
    cases negative with
    | false =>
      rw [if_neg Bool.false_ne_true] at hmax
      rw [if_neg Bool.false_ne_true, if_neg (by omega)]
      rfl
    | true =>
      rw [if_pos rfl] at hmin
      rw [if_pos rfl, if_neg (by omega)]
      rfl
  refine ⟨_, ?_, Int32.toInt_ofInt_of_le hmin hmax⟩
  rw [readInt, scanInt_eq, numeralOf_eq_some_iff.mpr hnumeral, ← hvalue]
  rfl

/-- So is a number that an `unsigned long` can hold. -/
theorem exists_readUnsigned (h : CarriesUnsigned text n) (hmax : n < 2 ^ 64) :
    ∃ v, readUnsigned text = some v ∧ v.toNat = n := by
  obtain ⟨rest, hnumeral⟩ := h
  have hvalue : unsignedValue ulongMax false n = n := unsignedValue_of_le (Nat.le_pred_of_lt hmax)
  refine ⟨_, ?_, UInt64.toNat_ofNat_of_lt' hmax⟩
  rw [readUnsigned, scanUnsigned_eq, numeralOf_eq_some_iff.mpr hnumeral]
  change some (UInt64.ofNat (unsignedValue ulongMax false n)) = _
  rw [hvalue]

/-- Without a number there is nothing to store. -/
theorem readInt_eq_none (h : ¬ CarriesNumber text) : readInt text = none := by
  rw [readInt, scanInt_eq, numeralOf_eq_none_iff.mpr h]
  rfl

theorem readUnsigned_eq_none (h : ¬ CarriesNumber text) : readUnsigned text = none := by
  rw [readUnsigned, scanUnsigned_eq, numeralOf_eq_none_iff.mpr h]
  rfl

end Values

/-! ### The file -/

/-- In front of the loop, everything is ahead. -/
theorem FourLines.exists_awaitsAll {name state : Bytes} {parentPid : ℤ} {memoryKb : ℕ}
    (h : FourLines lines name state parentPid memoryKb) (pid : Int32) :
    ∃ r, Records pid name state parentPid memoryKb r ∧ AwaitsAll r ⟨none, none, none, none⟩ lines := by
  obtain ⟨⟨t₁, hname, rfl, hne⟩, ⟨t₂, hstate, rfl, hne'⟩, ⟨t₃, hparent, hint, hmin, hmax⟩,
    ⟨t₄, hmemory, hunsigned, hmax'⟩⟩ := h
  have h₁ : 0 ∉ t₁ := zero_not_mem_of_labelled (hname ▸ List.mem_singleton_self t₁)
  have h₂ : 0 ∉ t₂ := zero_not_mem_of_labelled (hstate ▸ List.mem_singleton_self t₂)
  obtain ⟨n, hn, hnbytes⟩ := exists_readText processNameMax h₁ hne
  obtain ⟨s, hs, hsbytes⟩ := exists_readText processStateMax h₂ hne'
  obtain ⟨p, hp, hpint⟩ := exists_readInt hint hmin hmax
  obtain ⟨m, hm, hmnat⟩ := exists_readUnsigned hunsigned hmax'
  exact ⟨⟨pid, p, n, s, m⟩, ⟨rfl, hnbytes, hsbytes, hpint, hmnat⟩,
    ⟨.inr ⟨rfl, t₁, hname, hn⟩, .inr ⟨rfl, t₂, hstate, hs⟩, .inr ⟨rfl, t₃, hparent, hp⟩,
      .inr ⟨rfl, t₄, hmemory, hm⟩⟩⟩

theorem LacksLine.lacksOne (h : LacksLine lines) : LacksOne ⟨none, none, none, none⟩ lines := by
  obtain h | h | h | h := h
  · exact .inl ⟨rfl, fun text htext => if_pos (h text htext)⟩
  · exact .inr (.inl ⟨rfl, fun text htext => if_pos (h text htext)⟩)
  · exact .inr (.inr (.inl ⟨rfl, fun text htext => readInt_eq_none (h text htext)⟩))
  · exact .inr (.inr (.inr ⟨rfl, fun text htext => readUnsigned_eq_none (h text htext)⟩))

/-- A file whose lines fit the buffer is read line after line. -/
theorem readProcessInfo_eq (hpid : 0 < pid) (hopen : proc.status pid = some content)
    (hshort : ∀ line ∈ physicalLines content, line.length < 512) :
    readProcessInfo proc pid =
      readStatusLines pid (physicalLines content) ⟨none, none, none, none⟩ := by
  unfold readProcessInfo
  rw [if_neg (Int32.not_le.mpr hpid), hopen]
  dsimp only
  rw [(fgetsPieces_eq_physicalLines_iff (by decide)).mpr hshort]

/-- **The four lines** make the record, in any order and among any others; without one of them
the function fails, and the variable keeps what it holds. -/
theorem readsStatus_readProcessInfo (hpid : 0 < pid) (hopen : proc.status pid = some content)
    (hshort : ∀ line ∈ physicalLines content, line.length < 512) (info : ProcessInfo) :
    (∀ name state parentPid memoryKb,
        FourLines (physicalLines content) name state parentPid memoryKb →
          ∃ r, readProcessInfoInto proc pid info = (true, r) ∧
            Records pid name state parentPid memoryKb r) ∧
      (LacksLine (physicalLines content) → readProcessInfoInto proc pid info = (false, info)) := by
  rw [readProcessInfoInto_eq, readProcessInfo_eq hpid hopen hshort]
  constructor
  · intro name state parentPid memoryKb hfour
    obtain ⟨r, hr, hawaits⟩ := hfour.exists_awaitsAll pid
    have hrun := readStatusLines_of_awaitsAll hawaits
    rw [hr.pid] at hrun
    rw [hrun]
    exact ⟨r, rfl, hr⟩
  · intro hlacks
    rw [readStatusLines_of_lacksOne hlacks.lacksOne]

/-- A `/proc` in which every process has the status file `content`. -/
def ProcFs.ofStatus (content : Bytes) : ProcFs := ⟨some [], fun _ => some content, fun _ => none⟩

/-- A file with the four lines, not in their usual order, and a line that only looks like one. -/
def shuffledStatus : Bytes :=
  ascii "VmRSS:\t  1580 kB\nState:\tS (sleeping)\nNameSpace:\t-\nPPid:\t12\nName:\tsh\n"

/-- It is read. -/
theorem readsStatus_shuffledStatus :
    ∃ r, readProcessInfoInto (.ofStatus shuffledStatus) 7 .zero = (true, r) ∧
      Records 7 (ascii "sh") (ascii "S (sleeping)") 12 1580 r :=
  (readsStatus_readProcessInfo (by decide) rfl (by decide) .zero).1 _ _ _ _
    { name := ⟨ascii "\tsh\n", by decide, by decide, by decide⟩
      state := ⟨ascii "\tS (sleeping)\n", by decide, by decide, by decide⟩
      parentPid := ⟨ascii "\t12\n", by decide,
        ⟨false, 12, [newline], numeralOf_eq_some_iff.mp (by decide), rfl⟩, by decide, by decide⟩
      memoryKb := ⟨ascii "\t  1580 kB\n", by decide,
        ⟨ascii " kB\n", numeralOf_eq_some_iff.mp (by decide)⟩, by decide⟩ }

/-- A file with a negative size. -/
def negativeStatus : Bytes := ascii "Name:\tsh\nState:\tS\nPPid:\t1\nVmRSS:\t-1 kB\n"

/-- `%lu` accepts it, although it is no `unsigned long`. -/
theorem readProcessInfo_negativeStatus : ¬ ∀ proc pid info content, 0 < pid →
    proc.status pid = some content → (∀ line ∈ physicalLines content, line.length < 512) →
    (∀ text ∈ labelled "VmRSS:" (physicalLines content),
      ¬ ∃ n < 2 ^ 64, CarriesUnsigned text n) →
    readProcessInfoInto proc pid info = (false, info) := by
  intro h
  have hfail := h (.ofStatus negativeStatus) 7 .zero negativeStatus (by decide) rfl (by decide) ?_
  · exact absurd (congrArg Prod.fst hfail) (by decide)
  · have hlines : labelled "VmRSS:" (physicalLines negativeStatus) = [ascii "\t-1 kB\n"] := by
      decide
    rw [hlines, List.forall_mem_singleton]
    rintro ⟨n, -, rest, hnumeral⟩
    have hnumber := numeralOf_eq_some_iff.mpr hnumeral
    revert hnumber
    have : numeralOf (ascii "\t-1 kB\n") = some (true, 1, ascii " kB\n") := by decide
    rw [this]
    rintro ⟨⟩

end EdgeSentinel.Monitor
