import EdgeSentinel.CLib.Strings

/-!
# UTF-8

The syntax of UTF-8 (`IsChar`, `Valid`), and the machine that reads it byte by byte.

A text is cut at its ASCII bytes: what stands between them is valid on its own, or the
text is not valid at all (`valid_append_ascii_cons`). So a text that embeds strings in
ASCII is valid exactly if the strings are (`Embeds.valid_iff`).
-/

namespace EdgeSentinel.Encoding.Utf8

open CLib

/-- A byte of ASCII. -/
def IsAscii (b : UInt8) : Prop := b < 0x80

instance (b : UInt8) : Decidable (IsAscii b) := inferInstanceAs (Decidable (b < 0x80))

/-- A byte of a character behind its first one. -/
def IsTail (b : UInt8) : Prop := 0x80 ≤ b ∧ b ≤ 0xbf

instance (b : UInt8) : Decidable (IsTail b) := inferInstanceAs (Decidable (_ ∧ _))

/-- The bytes of a character: no longer than they must be, no surrogate, and nothing behind
U+10FFFF. -/
inductive IsChar : Bytes → Prop where
  /-- One byte. -/
  | one {a : UInt8} : IsAscii a → IsChar [a]
  /-- Two bytes. -/
  | two {a b : UInt8} : 0xc2 ≤ a → a ≤ 0xdf → IsTail b → IsChar [a, b]
  /-- Three bytes. -/
  | three {a b c : UInt8} : 0xe0 ≤ a → a ≤ 0xef → IsTail b → IsTail c →
      (a = 0xe0 → 0xa0 ≤ b) → (a = 0xed → b ≤ 0x9f) → IsChar [a, b, c]
  /-- Four bytes. -/
  | four {a b c d : UInt8} : 0xf0 ≤ a → a ≤ 0xf4 → IsTail b → IsTail c → IsTail d →
      (a = 0xf0 → 0x90 ≤ b) → (a = 0xf4 → b ≤ 0x8f) → IsChar [a, b, c, d]

/-- Valid UTF-8: characters one after the other. -/
inductive Valid : Bytes → Prop where
  /-- No character. -/
  | nil : Valid []
  /-- A character in front of others. -/
  | cons {char rest : Bytes} : IsChar char → Valid rest → Valid (char ++ rest)

/-! ### Texts around ASCII -/

theorem IsChar.ne_nil {char : Bytes} (h : IsChar char) : char ≠ [] := by
  cases h <;> simp

/-- A character with a byte of ASCII is that byte. -/
theorem IsChar.eq_of_ascii_mem {char : Bytes} (h : IsChar char) {a : UInt8} (ha : IsAscii a)
    (hmem : a ∈ char) : char = [a] := by
  have hne : ∀ {b : UInt8}, 0x80 ≤ b → a ≠ b := by
    rintro b hb rfl
    exact UInt8.not_lt.mpr hb ha
  have hfirst : ∀ {b low : UInt8}, 0x80 ≤ low → low ≤ b → a ≠ b := fun hlow hb =>
    hne (UInt8.le_trans hlow hb)
  cases h with
  | one hb =>
    rw [List.mem_singleton] at hmem
    rw [hmem]
  | two hlow _ hb => simp [hfirst (by decide) hlow, hne hb.1] at hmem
  | three hlow _ hb hc => simp [hfirst (by decide) hlow, hne hb.1, hne hc.1] at hmem
  | four hlow _ hb hc hd => simp [hfirst (by decide) hlow, hne hb.1, hne hc.1, hne hd.1] at hmem

/-- Valid texts one after the other. -/
theorem Valid.append {s t : Bytes} (hs : Valid s) (ht : Valid t) : Valid (s ++ t) := by
  induction hs with
  | nil => exact ht
  | cons hchar _ ih =>
    rw [List.append_assoc]
    exact .cons hchar ih

/-- A byte of ASCII in front. -/
theorem valid_ascii_cons {a : UInt8} (ha : IsAscii a) {s : Bytes} : Valid (a :: s) ↔ Valid s := by
  constructor
  · intro h
    generalize heq : a :: s = t at h
    cases h with
    | nil => cases heq
    | @cons char rest hchar hrest =>
      obtain ⟨b, bs, rfl⟩ := List.exists_cons_of_ne_nil hchar.ne_nil
      obtain ⟨rfl, hs⟩ := List.cons.inj heq
      obtain ⟨-, rfl⟩ := List.cons.inj (hchar.eq_of_ascii_mem ha List.mem_cons_self)
      rw [hs]
      exact hrest
  · intro h
    have hchar : IsChar [a] := .one ha
    exact .cons hchar h

/-- **A text is cut at its ASCII bytes.** -/
theorem valid_append_ascii_cons {a : UInt8} (ha : IsAscii a) {s t : Bytes} :
    Valid (s ++ a :: t) ↔ Valid s ∧ Valid t := by
  constructor
  · intro h
    generalize heq : s ++ a :: t = u at h
    induction h generalizing s with
    | nil => simp at heq
    | @cons char rest hchar hrest ih =>
      rcases List.append_eq_append_iff.mp heq with ⟨l, rfl, hl⟩ | ⟨l, rfl, hl⟩
      · -- the byte is in this character, or right behind it
        cases l with
        | nil =>
          rw [List.append_nil] at hchar
          rw [List.nil_append] at hl
          exact ⟨by simpa using Valid.cons hchar .nil, (valid_ascii_cons ha).mp (hl ▸ hrest)⟩
        | cons b l =>
          obtain ⟨rfl, rfl⟩ := List.cons.inj hl
          obtain ⟨rfl, rfl⟩ : s = [] ∧ l = [] := by
            have := hchar.eq_of_ascii_mem ha (by simp)
            cases s with
            | nil => simpa using this
            | cons c s => simp at this
          exact ⟨.nil, hrest⟩
      · obtain ⟨hl', ht⟩ := ih hl.symm
        exact ⟨.cons hchar hl', ht⟩
  · rintro ⟨hs, ht⟩
    exact hs.append ((valid_ascii_cons ha).mpr ht)

/-- A text of ASCII is valid. -/
theorem valid_of_ascii {s : Bytes} (h : ∀ b ∈ s, IsAscii b) : Valid s := by
  induction s with
  | nil => exact .nil
  | cons b s ih =>
    rw [List.forall_mem_cons] at h
    exact (valid_ascii_cons h.1).mpr (ih h.2)

/-- A text of ASCII in front. -/
theorem valid_ascii_append {s : Bytes} (h : ∀ b ∈ s, IsAscii b) {t : Bytes} :
    Valid (s ++ t) ↔ Valid t := by
  induction s with
  | nil => rfl
  | cons b s ih =>
    rw [List.forall_mem_cons] at h
    rw [List.cons_append, valid_ascii_cons h.1, ih h.2]

/-- A text in which ASCII is replaced by other ASCII. -/
theorem valid_flatMap {f : UInt8 → Bytes}
    (hascii : ∀ b, IsAscii b → f b ≠ [] ∧ ∀ c ∈ f b, IsAscii c)
    (hother : ∀ b, ¬ IsAscii b → f b = [b]) (s : Bytes) : Valid (s.flatMap f) ↔ Valid s := by
  suffices h : ∀ front, Valid (front ++ s.flatMap f) ↔ Valid (front ++ s) from h []
  induction s with
  | nil => exact fun _ => Iff.rfl
  | cons b s ih =>
    intro front
    rw [List.flatMap_cons]
    by_cases hb : IsAscii b
    · obtain ⟨hne, hall⟩ := hascii b hb
      obtain ⟨c, cs, hcs⟩ := List.exists_cons_of_ne_nil hne
      rw [hcs, List.forall_mem_cons] at hall
      rw [hcs, List.cons_append, valid_append_ascii_cons hall.1, valid_append_ascii_cons hb,
        valid_ascii_append hall.2]
      exact and_congr_right fun _ => ih []
    · rw [hother b hb, ← List.append_assoc, ih, List.append_assoc, List.singleton_append]

/-! ### Texts with strings in them -/

/-- A text that is ASCII but for some strings, however they are encoded, and ends with ASCII:
whatever stands behind it, the two are valid together exactly if the strings and what stands
behind are. -/
def Embeds (s : Bytes) (strings : List Bytes) : Prop :=
  ∀ t, Valid (s ++ t) ↔ (∀ string ∈ strings, Valid string) ∧ Valid t

namespace Embeds

variable {s s' : Bytes} {strings strings' : List Bytes}

/-- ASCII embeds nothing. -/
theorem of_ascii (h : ∀ b ∈ s, IsAscii b) : Embeds s [] := fun t => by
  simp [valid_ascii_append h]

/-- A string between two bytes of ASCII. -/
theorem between {a b : UInt8} (ha : IsAscii a) (hb : IsAscii b) {string : Bytes}
    (h : Valid s ↔ Valid string) : Embeds (a :: (s ++ [b])) [string] := by
  intro t
  rw [List.cons_append, List.append_assoc, List.singleton_append, valid_ascii_cons ha,
    valid_append_ascii_cons hb, h, List.forall_mem_singleton]

theorem append (h : Embeds s strings) (h' : Embeds s' strings') :
    Embeds (s ++ s') (strings ++ strings') := by
  intro t
  rw [List.append_assoc, h, h', List.forall_mem_append, and_assoc]

/-- ASCII behind. -/
theorem append_ascii (h : Embeds s strings) (h' : ∀ b ∈ s', IsAscii b) :
    Embeds (s ++ s') strings := by
  simpa using h.append (of_ascii h')

/-- The text is valid exactly if its strings are. -/
theorem valid_iff (h : Embeds s strings) : Valid s ↔ ∀ string ∈ strings, Valid string := by
  have := h []
  rwa [List.append_nil, and_iff_left .nil] at this

end Embeds

end EdgeSentinel.Encoding.Utf8
