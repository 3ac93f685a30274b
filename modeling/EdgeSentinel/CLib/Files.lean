import EdgeSentinel.CLib.Strings
import Mathlib.Data.Set.Basic

/-!
# Directories

A tree of files, as a process sees it that makes directories: where there is nothing, where
there is a directory, and where there is something else. A symbolic link counts as what it
leads to, and `..` leads back the way that one came.

## The model

* `FileSystem` — the tree. Whatever there is stands in a directory, and the process is in one.
* `locate` — where a path leads, name by name.
* `Walks` — it leads through directories only.
* `create` — a directory is made.
* `Adds` — one tree is another one with some new directories.
-/

namespace EdgeSentinel.CLib

/-- Where a file is: the names on the way to it from the root. -/
abbrev Position := List Bytes

/-- What is at a position. -/
inductive FileKind where
  /-- Nothing. -/
  | absent
  /-- A directory. -/
  | directory
  /-- Something else. -/
  | other
  deriving DecidableEq, Repr

/-- A tree of files, and the directory that a process is in. -/
structure FileSystem where
  /-- What is at a position. -/
  kind : Position → FileKind
  /-- The working directory. -/
  cwd : Position
  /-- The root is a directory. -/
  kind_root : kind [] = .directory
  /-- What there is stands in a directory. -/
  kind_parent : ∀ {p : Position} {name : Bytes}, kind (p ++ [name]) ≠ .absent →
    kind p = .directory
  /-- The working directory is one. -/
  kind_cwd : kind cwd = .directory

/-- One name further. -/
def enter (p : Position) (name : Bytes) : Position :=
  if name = ascii "." then p
  else if name = ascii ".." then p.dropLast
  else p ++ [name]

/-- Where the names lead from a position. -/
def locate (p : Position) (names : List Bytes) : Position := names.foldl enter p

theorem locate_concat (p : Position) (names : List Bytes) (name : Bytes) :
    locate p (names ++ [name]) = enter (locate p names) name := by
  rw [locate, List.foldl_concat, locate]

namespace FileSystem

variable {fs fs' fs'' : FileSystem} {p q : Position} {names names' : List Bytes}

/-- Above a directory there are directories. -/
theorem kind_dropLast (h : fs.kind p = .directory) : fs.kind p.dropLast = .directory := by
  rcases List.eq_nil_or_concat p with rfl | ⟨q, name, rfl⟩
  · exact h
  · rw [List.concat_eq_append] at h ⊢
    rw [List.dropLast_concat]
    exact fs.kind_parent (by rw [h]; decide)

/-- There are directories all the way. -/
def Walks (fs : FileSystem) (p : Position) (names : List Bytes) : Prop :=
  ∀ names', names' <+: names → fs.kind (locate p names') = .directory

instance (fs : FileSystem) (p : Position) (names : List Bytes) : Decidable (fs.Walks p names) :=
  decidable_of_iff (∀ names' ∈ names.inits, fs.kind (locate p names') = .directory) <| by
    simp [Walks]

theorem Walks.mono (h : fs.Walks p names) (hpre : names' <+: names) : fs.Walks p names' :=
  fun _ hn => h _ (hn.trans hpre)

theorem Walks.concat {name : Bytes} (h : fs.Walks p names)
    (hname : fs.kind (locate p (names ++ [name])) = .directory) : fs.Walks p (names ++ [name]) := by
  intro names' hpre
  rcases List.prefix_concat_iff.mp hpre with rfl | hpre
  · exact hname
  · exact h _ hpre

/-- There is a place for a new directory. -/
def Creatable (fs : FileSystem) (p : Position) : Prop :=
  fs.kind p = .absent ∧ fs.kind p.dropLast = .directory

instance (fs : FileSystem) (p : Position) : Decidable (fs.Creatable p) :=
  inferInstanceAs (Decidable (_ ∧ _))

theorem Creatable.ne (h : fs.Creatable p) (hq : fs.kind q = .directory) : q ≠ p := by
  rintro rfl
  rw [h.1] at hq
  cases hq

/-- A directory is made, where there is a place for it. -/
def create (fs : FileSystem) (p : Position) : FileSystem :=
  if h : fs.Creatable p then
    { kind := Function.update fs.kind p .directory
      cwd := fs.cwd
      kind_root := by rw [Function.update_of_ne (h.ne fs.kind_root), fs.kind_root]
      kind_cwd := by rw [Function.update_of_ne (h.ne fs.kind_cwd), fs.kind_cwd]
      kind_parent := by
        intro q name hq
        by_cases hp : q ++ [name] = p
        · -- the new directory is in one
          have hdirectory := h.2
          rw [← hp, List.dropLast_concat] at hdirectory
          rw [Function.update_of_ne (h.ne hdirectory), hdirectory]
        · rw [Function.update_of_ne hp] at hq
          have hdirectory := fs.kind_parent hq
          rw [Function.update_of_ne (h.ne hdirectory), hdirectory] }
  else fs

theorem kind_create (h : fs.Creatable p) :
    (fs.create p).kind = Function.update fs.kind p .directory := by
  rw [create, dif_pos h]

@[simp] theorem cwd_create (fs : FileSystem) (p : Position) : (fs.create p).cwd = fs.cwd := by
  unfold create
  split_ifs <;> rfl

/-- **Behind directories** there is a place for a new one, where there is nothing. -/
theorem creatable_of_walks (h : fs.Walks p names.dropLast)
    (habsent : fs.kind (locate p names) = .absent) : fs.Creatable (locate p names) := by
  refine ⟨habsent, ?_⟩
  rcases List.eq_nil_or_concat names with rfl | ⟨before, name, rfl⟩
  · have hp := h [] List.nil_prefix
    rw [hp] at habsent
    cases habsent
  · rw [List.concat_eq_append] at h habsent ⊢
    rw [List.dropLast_concat] at h
    have hbefore := h before List.prefix_rfl
    rw [locate_concat] at habsent ⊢
    unfold enter at habsent ⊢
    split_ifs at habsent ⊢
    · exact kind_dropLast hbefore
    · exact kind_dropLast (kind_dropLast hbefore)
    · rw [List.dropLast_concat]
      exact hbefore

/-! ### New directories -/

/-- `fs'` is `fs` with new directories at some of these positions. -/
structure Adds (fs fs' : FileSystem) (made : Set Position) : Prop where
  /-- The process stays where it is. -/
  cwd : fs'.cwd = fs.cwd
  /-- Nothing but a directory that was not there is new. -/
  kind : ∀ p, fs'.kind p = fs.kind p ∨
    fs.kind p = .absent ∧ fs'.kind p = .directory ∧ p ∈ made

variable {made made' : Set Position}

theorem Adds.refl (fs : FileSystem) (made : Set Position) : Adds fs fs made :=
  ⟨rfl, fun _ => .inl rfl⟩

theorem Adds.mono (h : Adds fs fs' made) (hsub : made ⊆ made') : Adds fs fs' made' :=
  ⟨h.cwd, fun p => (h.kind p).imp_right fun ⟨ha, hd, hp⟩ => ⟨ha, hd, hsub hp⟩⟩

theorem Adds.trans (h : Adds fs fs' made) (h' : Adds fs' fs'' made) : Adds fs fs'' made := by
  refine ⟨h'.cwd.trans h.cwd, fun p => ?_⟩
  rcases h.kind p with hp | ⟨habsent, hdirectory, hp⟩
  · rcases h'.kind p with hp' | ⟨habsent', hdirectory', hp'⟩
    · exact .inl (hp'.trans hp)
    · exact .inr ⟨hp ▸ habsent', hdirectory', hp'⟩
  · rcases h'.kind p with hp' | ⟨habsent', -, -⟩
    · exact .inr ⟨habsent, hp'.trans hdirectory, hp⟩
    · rw [hdirectory] at habsent'
      cases habsent'

/-- What is no directory and not absent stays. -/
theorem Adds.other_iff (h : Adds fs fs' made) : fs'.kind p = .other ↔ fs.kind p = .other := by
  rcases h.kind p with hp | ⟨habsent, hdirectory, -⟩
  · rw [hp]
  · rw [habsent, hdirectory]
    decide

/-- A directory stays. -/
theorem Adds.directory (h : Adds fs fs' made) (hp : fs.kind p = .directory) :
    fs'.kind p = .directory := by
  rcases h.kind p with hsame | ⟨-, hdirectory, -⟩
  · rw [hsame, hp]
  · exact hdirectory

theorem Adds.walks (h : Adds fs fs' made) (hw : fs.Walks p names) : fs'.Walks p names :=
  fun _ hn => h.directory (hw _ hn)

theorem adds_create (fs : FileSystem) (p : Position) : Adds fs (fs.create p) {p} := by
  refine ⟨cwd_create fs p, fun q => ?_⟩
  by_cases h : fs.Creatable p
  · rw [kind_create h]
    by_cases hq : q = p
    · subst hq
      exact .inr ⟨h.1, Function.update_self .., rfl⟩
    · exact .inl (Function.update_of_ne hq ..)
  · rw [create, dif_neg h]
    exact .inl rfl

end FileSystem

end EdgeSentinel.CLib
