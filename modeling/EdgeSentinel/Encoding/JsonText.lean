import EdgeSentinel.Encoding.Json

/-!
# Compact JSON texts

A JSON text without white space, as a tree. The numbers and strings of the tree are
literals: they carry what is printed, what it stands for, and the proof that the parser
reads it as that. So every tree is well formed, and `render` prints nothing but JSON.

## What is proved

* `parse_render` — the parser reads a text as what it stands for, and reads all of it.
* `printable_render` — no byte of a text is below 0x20.
-/

namespace EdgeSentinel.Encoding.Json

open CLib

/-- The literal of a number. -/
structure NumberLiteral where
  /-- What is printed. -/
  lexeme : Bytes
  /-- What it stands for. -/
  value : ℚ
  /-- It is read as that. -/
  numberValue_eq : numberValue lexeme = some value
  /-- It has no byte that a number cannot have. -/
  isNumberByte_of_mem : ∀ b ∈ lexeme, isNumberByte b = true

/-- The literal of a string, without its quotes. -/
structure StringLiteral where
  /-- What is printed. -/
  lexeme : Bytes
  /-- What it stands for. -/
  value : Bytes
  /-- It is read as that, up to its quote. -/
  readString_eq : ∀ t, readString (lexeme ++ 0x22 :: t) = some (value, t)
  /-- It has no control character. -/
  printable : ∀ b ∈ lexeme, 0x20 ≤ b

/-- A compact JSON text. -/
inductive Text where
  /-- `null`. -/
  | null
  /-- `true` or `false`. -/
  | bool (b : Bool)
  /-- A number. -/
  | number (n : NumberLiteral)
  /-- A string. -/
  | string (s : StringLiteral)
  /-- An array. -/
  | array (items : List Text)
  /-- An object. -/
  | object (members : List (StringLiteral × Text))

namespace Text

/-- A string literal in its quotes. -/
def quoted (s : StringLiteral) : Bytes := 0x22 :: (s.lexeme ++ [0x22])

mutual

/-- The bytes of the text. -/
def render : Text → Bytes
  | .null => ascii "null"
  | .bool b => if b then ascii "true" else ascii "false"
  | .number n => n.lexeme
  | .string s => quoted s
  | .array items => 0x5b :: (renderItems items ++ [0x5d])
  | .object members => 0x7b :: (renderMembers members ++ [0x7d])

/-- The items of an array, with commas between them. -/
def renderItems : List Text → Bytes
  | [] => []
  | [item] => item.render
  | item :: items => item.render ++ 0x2c :: renderItems items

/-- The members of an object, with commas between them. -/
def renderMembers : List (StringLiteral × Text) → Bytes
  | [] => []
  | [(key, text)] => quoted key ++ 0x3a :: text.render
  | (key, text) :: members => quoted key ++ 0x3a :: (text.render ++ 0x2c :: renderMembers members)

end

mutual

/-- What the text stands for. -/
def value : Text → Json
  | .null => .null
  | .bool b => .bool b
  | .number n => .number n.value
  | .string s => .string s.value
  | .array items => .array (valueItems items)
  | .object members => .object (valueMembers members)

/-- What the items of an array stand for. -/
def valueItems : List Text → List Json
  | [] => []
  | item :: items => item.value :: valueItems items

/-- What the members of an object stand for. -/
def valueMembers : List (StringLiteral × Text) → List (Bytes × Json)
  | [] => []
  | (key, text) :: members => (key.value, text.value) :: valueMembers members

end

theorem valueItems_eq (items : List Text) : valueItems items = items.map value := by
  induction items with
  | nil => rfl
  | cons item items ih => rw [valueItems, ih, List.map_cons]

theorem renderItems_cons (item item' : Text) (items : List Text) :
    renderItems (item :: item' :: items) = item.render ++ 0x2c :: renderItems (item' :: items) :=
  rfl

theorem renderMembers_cons (key : StringLiteral) (text : Text) (member : StringLiteral × Text)
    (members : List (StringLiteral × Text)) :
    renderMembers ((key, text) :: member :: members) =
      quoted key ++ 0x3a :: (text.render ++ 0x2c :: renderMembers (member :: members)) :=
  rfl

end Text

/-! ### Reading what was printed -/

/-- A text that does not go on with a number. -/
def NumberEnds (t : Bytes) : Prop := ∀ b, t.head? = some b → isNumberByte b = false

theorem numberEnds_cons {b : UInt8} (h : isNumberByte b = false) (t : Bytes) :
    NumberEnds (b :: t) := fun c hc => by
  obtain rfl := Option.some.inj hc
  exact h

theorem skipWhite_cons {b : UInt8} (h : isWhite b = false) (t : Bytes) :
    skipWhite (b :: t) = b :: t := by
  rw [skipWhite, List.dropWhile_cons_of_neg (by simp [h])]

/-- A byte that a text can begin with. -/
structure StartsText (b : UInt8) : Prop where
  /-- It is no white space. -/
  not_white : isWhite b = false
  /-- It does not end an array. -/
  ne_bracket : b ≠ 0x5d
  /-- It does not end an object. -/
  ne_brace : b ≠ 0x7d

theorem isWhite_of_isNumberByte {b : UInt8} (h : isNumberByte b = true) : isWhite b = false := by
  by_contra hw
  rw [Bool.not_eq_false] at hw
  simp only [isWhite, Bool.or_eq_true, decide_eq_true_eq] at hw
  rcases hw with ((rfl | rfl) | rfl) | rfl <;> exact absurd h (by decide)

theorem startsText_of_isNumberByte {b : UInt8} (h : isNumberByte b = true) : StartsText b where
  not_white := isWhite_of_isNumberByte h
  ne_bracket := by rintro rfl; exact absurd h (by decide)
  ne_brace := by rintro rfl; exact absurd h (by decide)

/-- The literal of a number is not empty. -/
theorem NumberLiteral.exists_cons (n : NumberLiteral) :
    ∃ b s, n.lexeme = b :: s ∧ isNumberByte b = true := by
  cases h : n.lexeme with
  | nil =>
    have := n.numberValue_eq
    rw [h] at this
    cases this
  | cons b s => exact ⟨b, s, rfl, n.isNumberByte_of_mem b (by simp [h])⟩

/-- A text is not empty, and does not begin with white space or a closing bracket. -/
theorem Text.exists_render_cons (t : Text) : ∃ b s, t.render = b :: s ∧ StartsText b := by
  cases t with
  | null => exact ⟨_, _, rfl, by decide, by decide, by decide⟩
  | bool b => cases b <;> exact ⟨_, _, rfl, by decide, by decide, by decide⟩
  | number n =>
    obtain ⟨b, s, h, hb⟩ := n.exists_cons
    exact ⟨b, s, by rw [Text.render, h], startsText_of_isNumberByte hb⟩
  | string s => exact ⟨_, _, rfl, by decide, by decide, by decide⟩
  | array items => exact ⟨_, _, by rw [Text.render], by decide, by decide, by decide⟩
  | object members => exact ⟨_, _, by rw [Text.render], by decide, by decide, by decide⟩

/-- There is no white space in front of a text. -/
theorem skipWhite_render (t : Text) (rest : Bytes) :
    skipWhite (t.render ++ rest) = t.render ++ rest := by
  obtain ⟨b, s, h, hb⟩ := t.exists_render_cons
  rw [h, List.cons_append, skipWhite_cons hb.not_white]

theorem Text.exists_renderItems_cons (item : Text) (items : List Text) :
    ∃ b s, renderItems (item :: items) = b :: s ∧ StartsText b := by
  obtain ⟨b, s, h, hb⟩ := item.exists_render_cons
  cases items with
  | nil => exact ⟨b, s, h, hb⟩
  | cons item' items =>
    refine ⟨b, s ++ 0x2c :: renderItems (item' :: items), ?_, hb⟩
    rw [renderItems, h, List.cons_append]
    simp

theorem Text.exists_renderMembers_cons (member : StringLiteral × Text)
    (members : List (StringLiteral × Text)) :
    ∃ s, renderMembers (member :: members) = 0x22 :: s := by
  cases members <;> exact ⟨_, rfl⟩

theorem scanLiteral_append (literal t : Bytes) : scanLiteral literal (literal ++ t) = some t := by
  simp [scanLiteral]

theorem scanLiteral_cons_of_ne {a b : UInt8} (h : b ≠ a) (literal t : Bytes) :
    scanLiteral (a :: literal) (b :: t) = none := by
  rw [scanLiteral, if_neg]
  simp [h]

/-- A number is read up to its end. -/
theorem readAtom_number (n : NumberLiteral) {t : Bytes} (ht : NumberEnds t) :
    readAtom (n.lexeme ++ t) = some (.number n.value, t) := by
  have htake := takeWhile_dropWhile_append n.isNumberByte_of_mem ht
  rw [readAtom, htake.1, htake.2, n.numberValue_eq]
  obtain ⟨b, s, h, hb⟩ := n.exists_cons
  have hne : ∀ {a : UInt8}, isNumberByte a = false → b ≠ a := by
    rintro a ha rfl
    rw [ha] at hb
    cases hb
  have hnull : scanLiteral (ascii "null") (b :: (s ++ t)) = none :=
    scanLiteral_cons_of_ne (hne (by decide)) _ _
  have htrue : scanLiteral (ascii "true") (b :: (s ++ t)) = none :=
    scanLiteral_cons_of_ne (hne (by decide)) _ _
  have hfalse : scanLiteral (ascii "false") (b :: (s ++ t)) = none :=
    scanLiteral_cons_of_ne (hne (by decide)) _ _
  rw [h, List.cons_append, hnull, htrue, hfalse]
  rfl

/-- The name of a member is read up to its colon. -/
theorem readKey_quoted (key : StringLiteral) (t : Bytes) :
    readKey (Text.quoted key ++ 0x3a :: t) = some (key.value, t) := by
  have hquoted : skipWhite (Text.quoted key ++ 0x3a :: t) =
      [0x22] ++ (key.lexeme ++ 0x22 :: 0x3a :: t) := by
    rw [Text.quoted, List.cons_append, skipWhite_cons (by decide)]
    simp
  have hcolon : scanLiteral [0x3a] (skipWhite (0x3a :: t)) = some t := by
    rw [skipWhite_cons (by decide)]
    exact scanLiteral_append [0x3a] t
  simp only [readKey, hquoted, scanLiteral_append, key.readString_eq, hcolon,
    Option.bind_eq_bind, Option.bind_some]

mutual

/-- A value is read up to its end. -/
theorem readValue_render (t : Text) (fuel : ℕ) (rest : Bytes) (hfuel : 2 * t.render.length ≤ fuel)
    (hrest : NumberEnds rest) : readValue fuel (t.render ++ rest) = some (t.value, rest) := by
  obtain ⟨b, s, hcons, -⟩ := t.exists_render_cons
  obtain ⟨fuel, rfl⟩ : ∃ f, fuel = f + 1 := ⟨fuel - 1, by rw [hcons, List.length_cons] at hfuel; omega⟩
  match t with
  | .null => rfl
  | .bool true => rfl
  | .bool false => rfl
  | .number n =>
    obtain ⟨b, s, h, hb⟩ := n.exists_cons
    have hatom := readAtom_number n hrest
    have hne : ∀ {a : UInt8}, isNumberByte a = false → b ≠ a := by
      rintro a ha rfl
      rw [ha] at hb
      cases hb
    rw [h, List.cons_append] at hatom
    rw [Text.render, h, List.cons_append, readValue, if_neg (hne (by decide)),
      if_neg (hne (by decide)), if_neg (hne (by decide)), hatom, Text.value]
  | .string s =>
    show readValue (fuel + 1) (0x22 :: (s.lexeme ++ [0x22] ++ rest)) = _
    rw [readValue, if_pos rfl, List.append_assoc, List.singleton_append, s.readString_eq]
    rfl
  | .array [] => rfl
  | .array (item :: items) =>
    rw [Text.render, List.length_cons, List.length_append, List.length_singleton] at hfuel
    obtain ⟨b, s, h, hb⟩ := Text.exists_renderItems_cons item items
    show readValue (fuel + 1) (0x5b :: (Text.renderItems (item :: items) ++ [0x5d] ++ rest)) = _
    rw [readValue, if_neg (by decide), if_pos rfl, if_neg, List.append_assoc, List.singleton_append,
      readItems_render (item :: items) fuel rest (by simp) (by omega)]
    · rfl
    · rw [h, List.cons_append, List.cons_append, skipWhite_cons hb.not_white]
      simpa using hb.ne_bracket
  | .object [] => rfl
  | .object (member :: members) =>
    rw [Text.render, List.length_cons, List.length_append, List.length_singleton] at hfuel
    obtain ⟨s, h⟩ := Text.exists_renderMembers_cons member members
    show readValue (fuel + 1) (0x7b :: (Text.renderMembers (member :: members) ++ [0x7d] ++ rest)) = _
    rw [readValue, if_neg (by decide), if_neg (by decide), if_pos rfl, if_neg, List.append_assoc,
      List.singleton_append, readMembers_render (member :: members) fuel rest (by simp) (by omega)]
    · rfl
    · rw [h, List.cons_append, List.cons_append, skipWhite_cons (by decide)]
      simp

/-- The items of an array are read up to its bracket. -/
theorem readItems_render (items : List Text) (fuel : ℕ) (rest : Bytes) (hne : items ≠ [])
    (hfuel : 2 * (Text.renderItems items).length + 1 ≤ fuel) :
    readItems fuel (Text.renderItems items ++ 0x5d :: rest) =
      some (Text.valueItems items, rest) := by
  obtain ⟨fuel, rfl⟩ : ∃ f, fuel = f + 1 := ⟨fuel - 1, by omega⟩
  match items with
  | [item] =>
    show (readValue fuel (skipWhite (item.render ++ 0x5d :: rest)) >>= _) = _
    rw [skipWhite_render, readValue_render item fuel _ (by simpa [Text.renderItems] using hfuel)
      (numberEnds_cons (by decide) _)]
    rfl
  | item :: item' :: items =>
    have hlength : (Text.renderItems (item :: item' :: items)).length =
        item.render.length + (Text.renderItems (item' :: items)).length + 1 := by
      show (item.render ++ 0x2c :: Text.renderItems (item' :: items)).length = _
      rw [List.length_append, List.length_cons]
      omega
    show (readValue fuel (skipWhite (item.render ++ 0x2c :: Text.renderItems (item' :: items) ++
      0x5d :: rest)) >>= _) = _
    rw [List.append_assoc, skipWhite_render, List.cons_append,
      readValue_render item fuel _ (by omega) (numberEnds_cons (by decide) _)]
    show (readItems fuel (Text.renderItems (item' :: items) ++ 0x5d :: rest)).map _ = _
    rw [readItems_render (item' :: items) fuel rest (by simp) (by omega)]
    rfl

/-- The members of an object are read up to its brace. -/
theorem readMembers_render (members : List (StringLiteral × Text)) (fuel : ℕ) (rest : Bytes)
    (hne : members ≠ []) (hfuel : 2 * (Text.renderMembers members).length + 1 ≤ fuel) :
    readMembers fuel (Text.renderMembers members ++ 0x7d :: rest) =
      some (Text.valueMembers members, rest) := by
  obtain ⟨fuel, rfl⟩ : ∃ f, fuel = f + 1 := ⟨fuel - 1, by omega⟩
  match members with
  | [(key, text)] =>
    have hlength : (Text.renderMembers [(key, text)]).length =
        (Text.quoted key).length + text.render.length + 1 := by
      show (Text.quoted key ++ 0x3a :: text.render).length = _
      rw [List.length_append, List.length_cons]
      omega
    show (readKey (Text.quoted key ++ 0x3a :: text.render ++ 0x7d :: rest) >>= _) = _
    rw [List.append_assoc, List.cons_append, readKey_quoted]
    show (readValue fuel (skipWhite (text.render ++ 0x7d :: rest)) >>= _) = _
    rw [skipWhite_render, readValue_render text fuel _ (by omega) (numberEnds_cons (by decide) _)]
    rfl
  | (key, text) :: member :: members =>
    have hlength : (Text.renderMembers ((key, text) :: member :: members)).length =
        (Text.quoted key).length + text.render.length +
          (Text.renderMembers (member :: members)).length + 2 := by
      show (Text.quoted key ++ 0x3a :: (text.render ++ 0x2c ::
        Text.renderMembers (member :: members))).length = _
      rw [List.length_append, List.length_cons, List.length_append, List.length_cons]
      omega
    show (readKey (Text.quoted key ++ 0x3a :: (text.render ++ 0x2c ::
      Text.renderMembers (member :: members)) ++ 0x7d :: rest) >>= _) = _
    rw [List.append_assoc, List.cons_append, readKey_quoted]
    show (readValue fuel (skipWhite (text.render ++ 0x2c ::
      Text.renderMembers (member :: members) ++ 0x7d :: rest)) >>= _) = _
    rw [List.append_assoc, skipWhite_render, List.cons_append,
      readValue_render text fuel _ (by omega) (numberEnds_cons (by decide) _)]
    show (readMembers fuel (Text.renderMembers (member :: members) ++ 0x7d :: rest)).map _ = _
    rw [readMembers_render (member :: members) fuel rest (by simp) (by omega)]
    rfl

end

/-- **The parser reads a text** as what it stands for, with white space behind it. -/
theorem parse_render (t : Text) {white : Bytes} (h : ∀ b ∈ white, isWhite b = true) :
    parse (t.render ++ white) = some t.value := by
  have hrest : NumberEnds white := fun b hb => by
    by_contra hn
    rw [Bool.not_eq_false] at hn
    have hwhite := h b (List.mem_of_head? hb)
    rw [isWhite_of_isNumberByte hn] at hwhite
    cases hwhite
  have hskip : skipWhite white = [] := List.dropWhile_eq_nil_iff.mpr h
  rw [parse, skipWhite_render, readValue_render t _ white (by simp) hrest]
  simp [hskip]

/-! ### The bytes of a text -/

theorem printable_of_isNumberByte {b : UInt8} (h : isNumberByte b = true) : 0x20 ≤ b := by
  simp only [isNumberByte, Bool.or_eq_true, decide_eq_true_eq] at h
  rcases h with ((((h | rfl) | rfl) | rfl) | rfl) | rfl
  · simp only [isdigit, Bool.and_eq_true, decide_eq_true_eq] at h
    exact UInt8.le_trans (by decide) h.1
  all_goals decide

theorem printable_quoted (s : StringLiteral) : ∀ b ∈ Text.quoted s, 0x20 ≤ b := by
  intro b hb
  rw [Text.quoted, List.mem_cons, List.mem_append, List.mem_singleton] at hb
  rcases hb with rfl | hb | rfl
  · decide
  · exact s.printable b hb
  · decide

mutual

/-- No byte of a text is below 0x20. -/
theorem printable_render (t : Text) : ∀ b ∈ t.render, 0x20 ≤ b := by
  match t with
  | .null => exact List.all_iff_forall_prop.mp (by decide)
  | .bool true => exact List.all_iff_forall_prop.mp (by decide)
  | .bool false => exact List.all_iff_forall_prop.mp (by decide)
  | .number n => exact fun b hb => printable_of_isNumberByte (n.isNumberByte_of_mem b hb)
  | .string s => exact printable_quoted s
  | .array items =>
    rw [Text.render, List.forall_mem_cons, List.forall_mem_append, List.forall_mem_singleton]
    exact ⟨by decide, printable_renderItems items, by decide⟩
  | .object members =>
    rw [Text.render, List.forall_mem_cons, List.forall_mem_append, List.forall_mem_singleton]
    exact ⟨by decide, printable_renderMembers members, by decide⟩

theorem printable_renderItems (items : List Text) : ∀ b ∈ Text.renderItems items, 0x20 ≤ b := by
  match items with
  | [] => exact fun _ hb => absurd hb List.not_mem_nil
  | [item] => exact printable_render item
  | item :: item' :: items =>
    rw [Text.renderItems_cons, List.forall_mem_append, List.forall_mem_cons]
    exact ⟨printable_render item, by decide, printable_renderItems (item' :: items)⟩

theorem printable_renderMembers (members : List (StringLiteral × Text)) :
    ∀ b ∈ Text.renderMembers members, 0x20 ≤ b := by
  match members with
  | [] => exact fun _ hb => absurd hb List.not_mem_nil
  | [(key, text)] =>
    rw [Text.renderMembers, List.forall_mem_append, List.forall_mem_cons]
    exact ⟨printable_quoted key, by decide, printable_render text⟩
  | (key, text) :: member :: members =>
    rw [Text.renderMembers_cons, List.forall_mem_append, List.forall_mem_cons,
      List.forall_mem_append, List.forall_mem_cons]
    exact ⟨printable_quoted key, by decide, printable_render text, by decide,
      printable_renderMembers (member :: members)⟩

end

end EdgeSentinel.Encoding.Json
