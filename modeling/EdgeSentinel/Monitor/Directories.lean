import EdgeSentinel.CLib.Files
import EdgeSentinel.CLib.Split
import EdgeSentinel.Monitor.Logger

/-!
# Making directories

`create_directories` on a tree of files: what it does depends on what is there already, and on
the calls of `mkdir` that the operating system refuses.

## The model

* `position` — where a path leads, from the root or from the working directory.
* `mkdir` — the system call. It may be refused at any call, for a reason that has nothing to do
  with what is there.

## What is proved

* `adds_createDirectories` — nothing but directories on the way is made, whatever happens.
* `createDirectories_iff` — when `create_directories` succeeds.
* `walks_createDirectories` — **what is there behind a success**: directories on the way, and at
  the end of it, unless something else was there before.
-/

namespace EdgeSentinel.Monitor

open CLib FileSystem

/-! ### Paths -/

/-- The names in a path. -/
def components (path : Bytes) : List Bytes := strtok slash path

/-- Where a path begins. -/
def startOf (fs : FileSystem) (path : Bytes) : Position :=
  if path.head? = some slash then [] else fs.cwd

/-- Where a path leads. -/
def position (fs : FileSystem) (path : Bytes) : Position :=
  locate (startOf fs path) (components path)

/-- The positions on the way there, from the beginning to the end. -/
def onTheWay (fs : FileSystem) (path : Bytes) : Set Position :=
  {p | ∃ names, names <+: components path ∧ p = locate (startOf fs path) names}

/-- What `mkdir` does to the files, if it is not refused: there must be directories all the way,
and nothing at the end of it. -/
def mkdirAt (fs : FileSystem) (path : Bytes) : MkdirResult × FileSystem :=
  if path = [] ∨ ¬ fs.Walks (startOf fs path) (components path).dropLast then (.failed, fs)
  else if fs.kind (position fs path) = .absent then (.created, fs.create (position fs path))
  else (.exists, fs)

/-- The files, and the number of calls of `mkdir` so far. -/
structure Disk where
  /-- The files. -/
  fs : FileSystem
  /-- The calls. -/
  calls : ℕ

/-- `mkdir`, where the operating system refuses some calls. -/
def mkdir (refuses : ℕ → Bool) : Mkdir Disk := fun path disk =>
  let (result, fs) := if refuses disk.calls then (.failed, disk.fs) else mkdirAt disk.fs path
  (result, ⟨fs, disk.calls + 1⟩)

variable {fs fs' : FileSystem} {made : Set Position} {refuses : ℕ → Bool} {disk : Disk}
  {path done rest xs piece : Bytes}

theorem startOf_append (h : done ≠ []) : startOf fs (done ++ rest) = startOf fs done := by
  obtain ⟨b, done, rfl⟩ := List.exists_cons_of_ne_nil h
  rfl

theorem kind_startOf (fs : FileSystem) (path : Bytes) :
    fs.kind (startOf fs path) = .directory := by
  unfold startOf
  split_ifs
  · exact fs.kind_root
  · exact fs.kind_cwd

theorem startOf_of_adds (h : fs.Adds fs' made) (path : Bytes) :
    startOf fs' path = startOf fs path := by
  unfold startOf
  rw [h.cwd]

theorem components_append_slash (s t : Bytes) :
    components (s ++ slash :: t) = components s ++ components t :=
  strtok_append_cons slash s t

/-! ### One call -/

/-- **A call of `mkdir`** makes at most the directory it is asked for. -/
theorem adds_makeDirectory (refuses : ℕ → Bool) (path : Bytes) (disk : Disk) :
    disk.fs.Adds (makeDirectory (mkdir refuses) path disk).2.fs {position disk.fs path} := by
  unfold makeDirectory mkdir mkdirAt
  dsimp only
  split_ifs
  · exact .refl _ _
  · exact .refl _ _
  · exact adds_create _ _
  · exact .refl _ _

@[simp] theorem calls_makeDirectory (refuses : ℕ → Bool) (path : Bytes) (disk : Disk) :
    (makeDirectory (mkdir refuses) path disk).2.calls = disk.calls + 1 := rfl

/-- It is taken for a success if it is not refused, and there are directories all the way. -/
theorem makeDirectory_iff : (makeDirectory (mkdir refuses) path disk).1 = true ↔
    refuses disk.calls = false ∧ path ≠ [] ∧
      disk.fs.Walks (startOf disk.fs path) (components path).dropLast := by
  unfold makeDirectory mkdir mkdirAt
  dsimp only
  split_ifs with hrefused hpath habsent
  · simp [hrefused]
  · simpa [hrefused] using fun h => hpath.resolve_left h
  · simp only [not_or, not_not] at hpath
    simp [hrefused, hpath]
  · simp only [not_or, not_not] at hpath
    simp [hrefused, hpath]

/-- Behind a success there is a directory, unless something else is there. -/
theorem kind_makeDirectory (h : (makeDirectory (mkdir refuses) path disk).1 = true)
    (hother : disk.fs.kind (position disk.fs path) ≠ .other) :
    (makeDirectory (mkdir refuses) path disk).2.fs.kind (position disk.fs path) = .directory := by
  obtain ⟨hpermitted, hpath, hwalks⟩ := makeDirectory_iff.mp h
  unfold makeDirectory mkdir mkdirAt
  dsimp only
  rw [if_neg (by rw [hpermitted]; decide), if_neg (by rw [not_or, not_not]; exact ⟨hpath, hwalks⟩)]
  split_ifs with habsent
  · dsimp only
    have hcreate : (disk.fs.create (position disk.fs path)).kind =
        Function.update disk.fs.kind (position disk.fs path) .directory :=
      kind_create (creatable_of_walks hwalks habsent)
    rw [hcreate, Function.update_self]
  · cases hkind : disk.fs.kind (position disk.fs path) with
    | absent => exact absurd hkind habsent
    | directory => rfl
    | other => exact absurd hkind hother

/-! ### All the calls -/

theorem adds_of_prefix (h : components done <+: components path)
    (hstart : startOf fs done = startOf fs path) (hadds : fs.Adds fs' {position fs done}) :
    fs.Adds fs' (onTheWay fs path) := by
  refine hadds.mono ?_
  rintro p rfl
  exact ⟨components done, h, by rw [← hstart]; rfl⟩

theorem onTheWay_of_adds (h : fs.Adds fs' made) (path : Bytes) :
    onTheWay fs' path = onTheWay fs path := by
  unfold onTheWay
  rw [startOf_of_adds h]

/-- **The loop** makes nothing but directories on the way. -/
theorem adds_createParents (refuses : ℕ → Bool) (hdone : done ≠ []) (rest : Bytes) (disk : Disk) :
    disk.fs.Adds (createParents (mkdir refuses) done rest disk).2.fs
      (onTheWay disk.fs (done ++ rest)) := by
  induction rest generalizing done disk with
  | nil =>
    rw [createParents]
    exact .refl _ _
  | cons b rest ih =>
    have hnext : (done ++ [b]) ++ rest = done ++ b :: rest := List.append_assoc _ _ _
    have hne : done ++ [b] ≠ [] := by simp
    rw [createParents]
    by_cases hb : b = slash
    swap
    · rw [if_neg hb, ← hnext]
      exact ih hne disk
    rw [if_pos hb]
    have hpre : components done <+: components (done ++ b :: rest) := by
      rw [hb, components_append_slash]
      exact List.prefix_append _ _
    have hmade := adds_of_prefix hpre (startOf_append hdone).symm
      (adds_makeDirectory refuses done disk)
    rcases hmake : makeDirectory (mkdir refuses) done disk with ⟨_ | _, disk'⟩
    · rw [hmake] at hmade
      exact hmade
    · rw [hmake] at hmade
      have hih := ih hne disk'
      rw [hnext, onTheWay_of_adds hmade] at hih
      exact hmade.trans hih

/-- If the loop succeeds, no call was refused. -/
theorem createParents_permitted
    (h : (createParents (mkdir refuses) done rest disk).1 = true) :
    (createParents (mkdir refuses) done rest disk).2.calls = disk.calls + rest.count slash ∧
      ∀ i < rest.count slash, refuses (disk.calls + i) = false := by
  induction rest generalizing done disk with
  | nil => exact ⟨rfl, nofun⟩
  | cons b rest ih =>
    rw [createParents] at h ⊢
    by_cases hb : b = slash
    swap
    · rw [if_neg hb] at h ⊢
      rw [List.count_cons_of_ne hb]
      exact ih h
    subst hb
    rw [if_pos rfl] at h ⊢
    rw [List.count_cons_self]
    rcases hmake : makeDirectory (mkdir refuses) done disk with ⟨_ | _, disk'⟩
    · rw [hmake] at h
      cases h
    · rw [hmake] at h
      obtain ⟨hpermitted, -, -⟩ := makeDirectory_iff.mp (congrArg Prod.fst hmake)
      have hcalls := calls_makeDirectory refuses done disk
      rw [hmake] at hcalls
      change disk'.calls = _ at hcalls
      obtain ⟨hcount, hrest⟩ := ih h
      dsimp only
      rw [hcount, hcalls]
      refine ⟨by omega, fun i hi => ?_⟩
      cases i with
      | zero => exact hpermitted
      | succ i =>
        have hi' := hrest i (by omega)
        rw [hcalls] at hi'
        rwa [Nat.add_right_comm] at hi'

/-- Nothing but directories may be at these positions. -/
def NoneOther (fs : FileSystem) (p : Position) (names : List Bytes) : Prop :=
  ∀ names', names' <+: names → fs.kind (locate p names') ≠ .other

theorem NoneOther.of_adds (h : fs.Adds fs' made) {p : Position} {names : List Bytes}
    (hnone : NoneOther fs p names) : NoneOther fs' p names :=
  fun names' hpre hother => hnone names' hpre (h.other_iff.mp hother)

/-- The names of a path that is cut at a slash, whatever has been read of the next one. -/
theorem components_append (hxs : xs = [] ∨ xs.getLast? = some slash) (hpiece : slash ∉ piece) :
    components (xs ++ piece) = components xs ++ if piece = [] then [] else [piece] :=
  strtok_append hxs hpiece

theorem dropLast_components_append (hxs : xs = [] ∨ xs.getLast? = some slash)
    (hpiece : slash ∉ piece) : (components (xs ++ piece)).dropLast <+: components xs := by
  rw [components_append hxs hpiece]
  split_ifs
  · rw [List.append_nil]
    exact List.dropLast_prefix _
  · rw [List.dropLast_concat]

/-- A path that goes on behind a slash has a name there. -/
theorem components_ne_nil (h : (slash :: rest).getLast? ≠ some slash) : components rest ≠ [] := by
  cases hc : rest.getLast? with
  | none =>
    rw [List.getLast?_cons, hc] at h
    exact absurd rfl h
  | some c =>
    rw [List.getLast?_cons, hc] at h
    exact strtok_ne_nil (List.mem_of_getLast? hc) fun he => h (congrArg some he)

theorem getLast?_of_cons {b : UInt8} (h : (b :: rest).getLast? ≠ some slash) :
    rest.getLast? ≠ some slash := by
  cases rest with
  | nil => simp
  | cons c rest => rwa [List.getLast?_cons_cons] at h

/-- A call that is not refused takes the walk to the end of its path, if nothing else is there. -/
theorem makeDirectory_walks {start : Position} (hxs : xs = [] ∨ xs.getLast? = some slash)
    (hpiece : slash ∉ piece) (hne : xs ++ piece ≠ [])
    (hstart : startOf disk.fs (xs ++ piece) = start)
    (hwalks : disk.fs.Walks start (components xs)) (hpermitted : refuses disk.calls = false)
    (hother : disk.fs.kind (locate start (components (xs ++ piece))) ≠ .other) :
    (makeDirectory (mkdir refuses) (xs ++ piece) disk).1 = true ∧
      (makeDirectory (mkdir refuses) (xs ++ piece) disk).2.fs.Walks start
        (components (xs ++ piece)) := by
  have hmakes : (makeDirectory (mkdir refuses) (xs ++ piece) disk).1 = true := by
    rw [makeDirectory_iff, hstart]
    exact ⟨hpermitted, hne, hwalks.mono (dropLast_components_append hxs hpiece)⟩
  refine ⟨hmakes, ?_⟩
  have hadds := adds_makeDirectory refuses (xs ++ piece) disk
  have hkind := kind_makeDirectory hmakes (by rwa [position, hstart])
  rw [position, hstart, components_append hxs hpiece] at hkind
  rw [components_append hxs hpiece]
  split_ifs at hkind ⊢
  · rw [List.append_nil]
    exact hadds.walks hwalks
  · exact (hadds.walks hwalks).concat hkind

/-- **The loop succeeds** if no call is refused, and nothing but directories is on the way. What
has been walked is kept in two parts: `xs` ends at a slash, and `piece` is the name that follows. -/
theorem createParents_walks (xs piece : Bytes) (disk : Disk) (start : Position)
    (hxs : xs = [] ∨ xs.getLast? = some slash) (hpiece : slash ∉ piece)
    (hne : xs ++ piece ≠ []) (hlast : rest.getLast? ≠ some slash)
    (hstart : startOf disk.fs (xs ++ piece) = start)
    (hwalks : disk.fs.Walks start (components xs))
    (hpermitted : ∀ i < rest.count slash, refuses (disk.calls + i) = false)
    (hnone : NoneOther disk.fs start (components (xs ++ piece ++ rest)).dropLast) :
    (createParents (mkdir refuses) (xs ++ piece) rest disk).1 = true ∧
      (createParents (mkdir refuses) (xs ++ piece) rest disk).2.fs.Walks start
        (components (xs ++ piece ++ rest)).dropLast := by
  induction rest generalizing xs piece disk with
  | nil =>
    rw [List.append_nil, createParents]
    exact ⟨rfl, hwalks.mono (dropLast_components_append hxs hpiece)⟩
  | cons b rest ih =>
    have hlast' := getLast?_of_cons hlast
    rw [createParents]
    by_cases hb : b = slash
    swap
    · -- the name goes on
      have hnext : xs ++ piece ++ b :: rest = xs ++ (piece ++ [b]) ++ rest := by simp
      have hpiece' : slash ∉ piece ++ [b] := by
        rw [List.mem_append, List.mem_singleton, not_or]
        exact ⟨hpiece, fun he => hb he.symm⟩
      rw [List.count_cons_of_ne hb] at hpermitted
      rw [if_neg hb, List.append_assoc]
      rw [hnext] at hnone ⊢
      refine ih xs (piece ++ [b]) disk hxs hpiece' (by simp) hlast' ?_ hwalks hpermitted hnone
      rw [← List.append_assoc, startOf_append hne, hstart]
    subst hb
    rw [if_pos rfl]
    rw [List.count_cons_self] at hpermitted
    have hother : disk.fs.kind (locate start (components (xs ++ piece))) ≠ .other := by
      refine hnone _ ?_
      rw [components_append_slash, List.dropLast_append_of_ne_nil (components_ne_nil hlast)]
      exact List.prefix_append _ _
    obtain ⟨hmakes, hwalks'⟩ := makeDirectory_walks hxs hpiece hne hstart hwalks
      (hpermitted 0 (Nat.succ_pos _)) hother
    have hadds := adds_makeDirectory refuses (xs ++ piece) disk
    have hcalls := calls_makeDirectory refuses (xs ++ piece) disk
    generalize makeDirectory (mkdir refuses) (xs ++ piece) disk = r at *
    obtain ⟨made, disk'⟩ := r
    obtain rfl : made = true := hmakes
    change disk'.calls = _ at hcalls
    -- the slash closes what has been walked
    have hclosed : components (xs ++ piece ++ [slash]) = components (xs ++ piece) := by
      rw [components_append_slash]
      exact List.append_nil _
    rw [← hclosed] at hwalks'
    have hnext : xs ++ piece ++ slash :: rest = xs ++ piece ++ [slash] ++ [] ++ rest := by simp
    have hih := ih (xs ++ piece ++ [slash]) [] disk' (.inr List.getLast?_concat)
      List.not_mem_nil (by simp) hlast'
      (by rw [List.append_nil, startOf_of_adds hadds, startOf_append hne, hstart]) hwalks'
      (fun i hi => by
        have hi' := hpermitted (i + 1) (by omega)
        rwa [hcalls, Nat.add_right_comm]) (hnext ▸ hnone.of_adds hadds)
    rw [← hnext, List.append_nil] at hih
    exact hih

/-! ### A whole path -/

theorem components_dropTrailingSlashes (path : Bytes) :
    components (dropTrailingSlashes path) = components path := by
  cases path with
  | nil => rfl
  | cons b path =>
    have hsplit : b :: path = dropTrailingSlashes (b :: path) ++ path.rtakeWhile (· = slash) := by
      rw [dropTrailingSlashes, List.cons_append, List.rdropWhile_append_rtakeWhile]
    have hslashes : ∀ c ∈ path.rtakeWhile (· = slash), c = slash := fun c hc => by
      simpa using List.mem_rtakeWhile_imp hc
    calc components (dropTrailingSlashes (b :: path))
        = strtok slash (dropTrailingSlashes (b :: path) ++ path.rtakeWhile (· = slash)) :=
          (strtok_append_of_forall_eq hslashes).symm
      _ = components (b :: path) := by rw [← hsplit, components]

theorem startOf_dropTrailingSlashes (fs : FileSystem) (path : Bytes) :
    startOf fs (dropTrailingSlashes path) = startOf fs path := by
  cases path <;> rfl

/-- What is behind the first byte of a path without slashes at its end does not end in one. -/
theorem getLast?_tail_dropTrailingSlashes (path : Bytes) :
    ((dropTrailingSlashes path).drop 1).getLast? ≠ some slash := by
  cases path with
  | nil => simp [dropTrailingSlashes]
  | cons b path =>
    show (path.rdropWhile (· = slash)).getLast? ≠ some slash
    intro hlast
    obtain ⟨before, hbefore⟩ := List.getLast?_eq_some_iff.mp hlast
    have hne : path.rdropWhile (· = slash) ≠ [] := by simp [hbefore]
    have hnot := List.rdropWhile_last_not _ path hne
    rw [List.getLast_eq_iff_getLast?_eq_some hne |>.mpr hlast] at hnot
    exact hnot (by simp)

/-- What must be so that `create_directories` succeeds. -/
structure CanCreate (refuses : ℕ → Bool) (disk : Disk) (directory : Bytes) : Prop where
  /-- The path is not empty, -/
  nonempty : directory ≠ []
  /-- and fits its buffer. -/
  short : directory.length < loggerPathBufferSize
  /-- No call of `mkdir` is refused. -/
  permitted : ∀ i ≤ ((dropTrailingSlashes directory).drop 1).count slash,
    refuses (disk.calls + i) = false
  /-- Nothing but directories is on the way. -/
  noneOther : NoneOther disk.fs (startOf disk.fs directory) (components directory).dropLast

/-- The loop over a whole path. -/
theorem createParents_path (hne : path ≠ []) (hlast : (path.drop 1).getLast? ≠ some slash)
    (hpermitted : ∀ i < (path.drop 1).count slash, refuses (disk.calls + i) = false)
    (hnone : NoneOther disk.fs (startOf disk.fs path) (components path).dropLast) :
    (createParents (mkdir refuses) (path.take 1) (path.drop 1) disk).1 = true ∧
      (createParents (mkdir refuses) (path.take 1) (path.drop 1) disk).2.fs.Walks
        (startOf disk.fs path) (components path).dropLast := by
  obtain ⟨b, path, rfl⟩ := List.exists_cons_of_ne_nil hne
  have hroot : disk.fs.Walks (startOf disk.fs (b :: path)) [] := by
    intro names hnames
    rw [List.prefix_nil.mp hnames]
    exact kind_startOf _ _
  by_cases hb : b = slash
  · -- the slash in front is walked
    subst hb
    have hclosed : components [slash] = [] := components_append_slash [] []
    exact createParents_walks [slash] [] disk _ (.inr rfl) List.not_mem_nil (by simp)
      hlast rfl (hclosed ▸ hroot) hpermitted hnone
  · exact createParents_walks [] [b] disk _ (.inl rfl)
      (by simpa using fun he => hb he.symm) (by simp) hlast rfl hroot hpermitted hnone

variable {directory : Bytes}

/-- `create_directories`, once the path has been checked and its loop has ended. -/
theorem createDirectories_eq {disk' : Disk} {made : Bool} (hne : directory ≠ [])
    (hshort : directory.length < loggerPathBufferSize)
    (hparents : createParents (mkdir refuses) ((dropTrailingSlashes directory).take 1)
      ((dropTrailingSlashes directory).drop 1) disk = (made, disk')) :
    createDirectories (mkdir refuses) directory disk =
      if made then makeDirectory (mkdir refuses) (dropTrailingSlashes directory) disk'
      else (false, disk') := by
  rw [createDirectories, if_neg hne, if_neg (Nat.not_le.mpr hshort)]
  dsimp only
  rw [hparents]
  cases made <;> rfl

theorem dropTrailingSlashes_ne_nil (hne : directory ≠ []) : dropTrailingSlashes directory ≠ [] := by
  obtain ⟨b, directory, rfl⟩ := List.exists_cons_of_ne_nil hne
  simp [dropTrailingSlashes]

theorem onTheWay_dropTrailingSlashes (fs : FileSystem) (path : Bytes) :
    onTheWay fs (dropTrailingSlashes path) = onTheWay fs path := by
  unfold onTheWay
  rw [components_dropTrailingSlashes, startOf_dropTrailingSlashes]

theorem position_dropTrailingSlashes (fs : FileSystem) (path : Bytes) :
    position fs (dropTrailingSlashes path) = position fs path := by
  unfold position
  rw [components_dropTrailingSlashes, startOf_dropTrailingSlashes]

/-- The loop of `create_directories` makes nothing but directories on the way. -/
theorem adds_parents (refuses : ℕ → Bool) (hne : directory ≠ []) (disk : Disk) :
    disk.fs.Adds (createParents (mkdir refuses) ((dropTrailingSlashes directory).take 1)
      ((dropTrailingSlashes directory).drop 1) disk).2.fs (onTheWay disk.fs directory) := by
  have htake : (dropTrailingSlashes directory).take 1 ≠ [] := by
    simpa using dropTrailingSlashes_ne_nil hne
  have hadds := adds_createParents refuses htake ((dropTrailingSlashes directory).drop 1) disk
  rwa [List.take_append_drop, onTheWay_dropTrailingSlashes] at hadds

/-- **`create_directories`** makes nothing but directories on the way, whether it succeeds or
not. -/
theorem adds_createDirectories (refuses : ℕ → Bool) (directory : Bytes) (disk : Disk) :
    disk.fs.Adds (createDirectories (mkdir refuses) directory disk).2.fs
      (onTheWay disk.fs directory) := by
  by_cases hne : directory = []
  · rw [createDirectories, if_pos hne]
    exact .refl _ _
  by_cases hshort : directory.length < loggerPathBufferSize
  swap
  · rw [createDirectories, if_neg hne, if_pos (Nat.not_lt.mp hshort)]
    exact .refl _ _
  have hadds := adds_parents refuses hne disk
  rcases hparents : createParents (mkdir refuses) ((dropTrailingSlashes directory).take 1)
    ((dropTrailingSlashes directory).drop 1) disk with ⟨made, disk'⟩
  rw [hparents] at hadds
  rw [createDirectories_eq hne hshort hparents]
  split_ifs
  swap
  · exact hadds
  · refine hadds.trans ?_
    rw [← onTheWay_of_adds hadds]
    refine (adds_makeDirectory refuses _ disk').mono ?_
    rintro p rfl
    rw [position_dropTrailingSlashes]
    exact ⟨components directory, List.prefix_rfl, rfl⟩

/-- If `create_directories` succeeds, so did its loop, and the last call. -/
theorem createDirectories_ok (h : (createDirectories (mkdir refuses) directory disk).1 = true) :
    directory ≠ [] ∧ directory.length < loggerPathBufferSize ∧ ∃ disk',
      createParents (mkdir refuses) ((dropTrailingSlashes directory).take 1)
        ((dropTrailingSlashes directory).drop 1) disk = (true, disk') ∧
      createDirectories (mkdir refuses) directory disk =
        makeDirectory (mkdir refuses) (dropTrailingSlashes directory) disk' := by
  have hne : directory ≠ [] := by
    intro he
    rw [createDirectories, if_pos he] at h
    cases h
  have hshort : directory.length < loggerPathBufferSize := by
    by_contra hlong
    rw [createDirectories, if_neg hne, if_pos (Nat.not_lt.mp hlong)] at h
    cases h
  refine ⟨hne, hshort, ?_⟩
  rcases hparents : createParents (mkdir refuses) ((dropTrailingSlashes directory).take 1)
    ((dropTrailingSlashes directory).drop 1) disk with ⟨_ | _, disk'⟩
  · rw [createDirectories_eq hne hshort hparents] at h
    cases h
  · exact ⟨disk', rfl, createDirectories_eq hne hshort hparents⟩

/-- **`create_directories`** succeeds exactly if it can. -/
theorem createDirectories_iff : (createDirectories (mkdir refuses) directory disk).1 = true ↔
    CanCreate refuses disk directory := by
  constructor
  · intro h
    obtain ⟨hne, hshort, disk', hparents, hmake⟩ := createDirectories_ok h
    have hadds := adds_parents refuses hne disk
    obtain ⟨hcalls, hbefore⟩ := createParents_permitted (congrArg Prod.fst hparents)
    rw [hparents] at hadds hcalls
    change disk'.calls = _ at hcalls
    obtain ⟨hlast, -, hwalks⟩ := makeDirectory_iff.mp (hmake ▸ h)
    rw [components_dropTrailingSlashes, startOf_dropTrailingSlashes,
      startOf_of_adds hadds] at hwalks
    refine ⟨hne, hshort, fun i hi => ?_, fun names hpre hother => ?_⟩
    · rcases Nat.lt_or_eq_of_le hi with hlt | rfl
      · exact hbefore i hlt
      · rwa [hcalls] at hlast
    · have hkind := hwalks names hpre
      rw [hadds.other_iff.mpr hother] at hkind
      cases hkind
  · rintro ⟨hne, hshort, hpermitted, hnone⟩
    rw [← components_dropTrailingSlashes, ← startOf_dropTrailingSlashes] at hnone
    obtain ⟨hok, hwalks⟩ := createParents_path (dropTrailingSlashes_ne_nil hne)
      (getLast?_tail_dropTrailingSlashes directory) (fun i hi => hpermitted i hi.le) hnone
    obtain ⟨hcalls, -⟩ := createParents_permitted hok
    have hadds := adds_parents refuses hne disk
    rcases hparents : createParents (mkdir refuses) ((dropTrailingSlashes directory).take 1)
      ((dropTrailingSlashes directory).drop 1) disk with ⟨made, disk'⟩
    rw [hparents] at hok hwalks hcalls hadds
    obtain rfl : made = true := hok
    change disk'.calls = _ at hcalls
    rw [createDirectories_eq hne hshort hparents]
    refine makeDirectory_iff.mpr ⟨?_, dropTrailingSlashes_ne_nil hne, ?_⟩
    · rw [hcalls]
      exact hpermitted _ le_rfl
    · rwa [startOf_of_adds hadds]

/-- Behind a success there are directories on the way, and at the end of it, unless something
else was there. -/
theorem walks_createDirectories
    (h : (createDirectories (mkdir refuses) directory disk).1 = true) :
    (createDirectories (mkdir refuses) directory disk).2.fs.Walks (startOf disk.fs directory)
      (components directory).dropLast ∧
    ((createDirectories (mkdir refuses) directory disk).2.fs.kind (position disk.fs directory) =
      .directory ↔ disk.fs.kind (position disk.fs directory) ≠ .other) := by
  have hall := adds_createDirectories refuses directory disk
  obtain ⟨hne, -, disk', hparents, hmake⟩ := createDirectories_ok h
  have hadds := adds_parents refuses hne disk
  rw [hparents] at hadds
  rw [hmake] at h hall ⊢
  have hstart : startOf disk'.fs directory = startOf disk.fs directory := startOf_of_adds hadds _
  constructor
  · obtain ⟨-, -, hwalks⟩ := makeDirectory_iff.mp h
    rw [components_dropTrailingSlashes, startOf_dropTrailingSlashes, hstart] at hwalks
    exact (adds_makeDirectory refuses _ disk').walks hwalks
  · constructor
    · intro hdirectory hother
      rw [hall.other_iff.mpr hother] at hdirectory
      cases hdirectory
    · intro hother
      have hkind := kind_makeDirectory h
      rw [position_dropTrailingSlashes, position, hstart] at hkind
      exact hkind fun he => hother (hadds.other_iff.mp he)

end EdgeSentinel.Monitor
