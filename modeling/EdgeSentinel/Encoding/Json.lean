import EdgeSentinel.CLib.Printf

/-!
# JSON

A parser for JSON texts (RFC 8259) that are sequences of bytes.

## The model

* `Json` — the value a text stands for. Numbers are exact, strings are bytes, and the
  members of an object are kept in order.
* Bytes from 0x80 up are ordinary characters of a string: whether they are UTF-8 is
  another question. An escape `\uXXXX` is a UTF-16 code unit, and becomes the UTF-8 bytes
  of the character it stands for.
* `parse` reads a whole text, with white space around it, or nothing. The functions on its
  way return a value and the text behind it. They are given fuel, of which a text needs no
  more than twice its length.
-/

namespace EdgeSentinel.Encoding

open CLib

/-- The value of a JSON text. -/
inductive Json where
  /-- `null`. -/
  | null
  /-- `true` or `false`. -/
  | bool (b : Bool)
  /-- A number. -/
  | number (q : ℚ)
  /-- A string. -/
  | string (s : Bytes)
  /-- An array. -/
  | array (items : List Json)
  /-- An object. -/
  | object (members : List (Bytes × Json))
  deriving Repr

namespace Json

/-! ### White space -/

/-- White space between the tokens. -/
def isWhite (b : UInt8) : Bool := b = 0x20 || b = 0x09 || b = 0x0a || b = 0x0d

/-- The text behind the white space at its start. -/
def skipWhite (s : Bytes) : Bytes := s.dropWhile isWhite

/-! ### Numbers -/

/-- A byte that a number can have. -/
def isNumberByte (b : UInt8) : Bool :=
  isdigit b || b = 0x2d || b = 0x2b || b = 0x2e || b = 0x65 || b = 0x45

/-- The digits behind a point, if there is one, and the text behind them. -/
def readFraction (s : Bytes) : Option (Bytes × Bytes) :=
  match s with
  | 0x2e :: t =>
    if t.takeWhile isdigit = [] then none else some (t.takeWhile isdigit, t.dropWhile isdigit)
  | _ => some ([], s)

/-- The exponent that is all of the text. -/
def readExponent : Bytes → Option ℤ
  | [] => some 0
  | b :: s =>
    let (negative, digits) := signOf s
    if (b = 0x65 ∨ b = 0x45) ∧ digits ≠ [] ∧ digits.all isdigit then
      some (if negative then -(decimalValue digits : ℤ) else decimalValue digits)
    else none

/-- An unsigned number. Its integer has no zeros in front. -/
def unsignedValue (s : Bytes) : Option ℚ := do
  let whole := s.takeWhile isdigit
  if whole = [] ∨ (whole.head? = some 0x30 ∧ whole ≠ [0x30]) then none
  else
    let (fraction, s) ← readFraction (s.dropWhile isdigit)
    let exponent ← readExponent s
    some (decimalValue (whole ++ fraction) * 10 ^ (exponent - fraction.length))

/-- The number that is all of the text. -/
def numberValue (s : Bytes) : Option ℚ :=
  match s with
  | 0x2d :: t => (unsignedValue t).map fun q => -q
  | _ => unsignedValue s

/-! ### Strings -/

/-- What a string literal is made of. -/
inductive Part where
  /-- A byte. -/
  | byte (b : UInt8)
  /-- A UTF-16 code unit. -/
  | unit (u : ℕ)
  deriving DecidableEq, Repr

/-- The byte that `\b` and its like stand for. -/
def simpleEscape (b : UInt8) : Option UInt8 :=
  if b = 0x22 ∨ b = 0x5c ∨ b = 0x2f then some b
  else if b = 0x62 then some 0x08
  else if b = 0x66 then some 0x0c
  else if b = 0x6e then some 0x0a
  else if b = 0x72 then some 0x0d
  else if b = 0x74 then some 0x09
  else none

/-- The parts of a string literal behind its opening quote, and the text behind its closing
one. -/
def readParts : Bytes → Option (List Part × Bytes)
  | [] => none
  | b :: s =>
    if b = 0x22 then some ([], s)
    else if b = 0x5c then
      match s with
      | [] => none
      | e :: s =>
        match simpleEscape e with
        | some v => (readParts s).map fun (parts, t) => (.byte v :: parts, t)
        | none =>
          match s with
          | h₁ :: h₂ :: h₃ :: h₄ :: s =>
            if e = 0x75 ∧ [h₁, h₂, h₃, h₄].all isxdigit then
              let unit := [h₁, h₂, h₃, h₄].foldl (fun u h => 16 * u + xdigitValue h) 0
              (readParts s).map fun (parts, t) => (.unit unit :: parts, t)
            else none
          | _ => none
    else if b < 0x20 then none
    else (readParts s).map fun (parts, t) => (.byte b :: parts, t)

/-- The closing quote. -/
theorem readParts_quote (s : Bytes) : readParts (0x22 :: s) = some ([], s) := by
  rw [readParts.eq_def]
  rfl

/-- A byte that is no quote, no backslash and no control character. -/
theorem readParts_byte {b : UInt8} (hquote : b ≠ 0x22) (hbackslash : b ≠ 0x5c) (hlow : ¬ b < 0x20)
    (s : Bytes) : readParts (b :: s) = (readParts s).map fun (parts, t) => (.byte b :: parts, t) := by
  rw [readParts.eq_def]
  dsimp only
  rw [if_neg hquote, if_neg hbackslash, if_neg hlow]

/-- A simple escape. -/
theorem readParts_escape {e v : UInt8} (h : simpleEscape e = some v) (s : Bytes) :
    readParts (0x5c :: e :: s) = (readParts s).map fun (parts, t) => (.byte v :: parts, t) := by
  rw [readParts.eq_def]
  dsimp only
  rw [if_neg (by decide), if_pos rfl, h]

/-- An escaped code unit. -/
theorem readParts_unit {h₁ h₂ h₃ h₄ : UInt8} (h : [h₁, h₂, h₃, h₄].all isxdigit = true)
    (s : Bytes) : readParts (0x5c :: 0x75 :: h₁ :: h₂ :: h₃ :: h₄ :: s) =
      (readParts s).map fun (parts, t) =>
        (.unit ([h₁, h₂, h₃, h₄].foldl (fun u h => 16 * u + xdigitValue h) 0) :: parts, t) := by
  rw [readParts.eq_def]
  dsimp only
  rw [if_neg (by decide), if_pos rfl, show simpleEscape 0x75 = none by decide]
  dsimp only
  rw [if_pos ⟨rfl, h⟩]

/-- The UTF-8 bytes of a character. -/
def utf8 (c : ℕ) : Bytes :=
  let tail (n : ℕ) : UInt8 := UInt8.ofNat (0x80 + n % 64)
  if c < 0x80 then [UInt8.ofNat c]
  else if c < 0x800 then [UInt8.ofNat (0xc0 + c / 64), tail c]
  else if c < 0x10000 then [UInt8.ofNat (0xe0 + c / 4096), tail (c / 64), tail c]
  else [UInt8.ofNat (0xf0 + c / 262144), tail (c / 4096), tail (c / 64), tail c]

/-- The bytes of a string. Two code units that are surrogates of each other are one
character. -/
def bytesOfParts : List Part → Bytes
  | [] => []
  | .byte b :: parts => b :: bytesOfParts parts
  | .unit u :: .unit v :: parts =>
    if 0xd800 ≤ u ∧ u < 0xdc00 ∧ 0xdc00 ≤ v ∧ v < 0xe000 then
      utf8 (0x10000 + (u - 0xd800) * 0x400 + (v - 0xdc00)) ++ bytesOfParts parts
    else utf8 u ++ bytesOfParts (.unit v :: parts)
  | .unit u :: parts => utf8 u ++ bytesOfParts parts

/-- The string whose literal begins behind the opening quote, and the text behind it. -/
def readString (s : Bytes) : Option (Bytes × Bytes) :=
  (readParts s).map fun (parts, t) => (bytesOfParts parts, t)

/-! ### Values -/

/-- `null`, `true`, `false` or a number, and the text behind it. -/
def readAtom (s : Bytes) : Option (Json × Bytes) :=
  match scanLiteral (ascii "null") s with
  | some t => some (.null, t)
  | none =>
    match scanLiteral (ascii "true") s with
    | some t => some (.bool true, t)
    | none =>
      match scanLiteral (ascii "false") s with
      | some t => some (.bool false, t)
      | none => (numberValue (s.takeWhile isNumberByte)).map fun q =>
          (.number q, s.dropWhile isNumberByte)

/-- The name of a member and its colon, and the text behind them. -/
def readKey (s : Bytes) : Option (Bytes × Bytes) := do
  let t ← scanLiteral [0x22] (skipWhite s)
  let (key, t) ← readString t
  let t ← scanLiteral [0x3a] (skipWhite t)
  some (key, t)

mutual

/-- A value, and the text behind it. -/
def readValue : (fuel : ℕ) → Bytes → Option (Json × Bytes)
  | 0, _ => none
  | fuel + 1, s =>
    match s with
    | [] => none
    | b :: t =>
      if b = 0x22 then (readString t).map fun (v, t) => (.string v, t)
      else if b = 0x5b then
        if (skipWhite t).head? = some 0x5d then some (.array [], (skipWhite t).tail)
        else (readItems fuel t).map fun (items, t) => (.array items, t)
      else if b = 0x7b then
        if (skipWhite t).head? = some 0x7d then some (.object [], (skipWhite t).tail)
        else (readMembers fuel t).map fun (members, t) => (.object members, t)
      else readAtom s

/-- The items of an array, its bracket, and the text behind it. -/
def readItems : (fuel : ℕ) → Bytes → Option (List Json × Bytes)
  | 0, _ => none
  | fuel + 1, s => do
    let (item, t) ← readValue fuel (skipWhite s)
    match skipWhite t with
    | [] => none
    | b :: t =>
      if b = 0x2c then (readItems fuel t).map fun (items, t) => (item :: items, t)
      else if b = 0x5d then some ([item], t)
      else none

/-- The members of an object, its brace, and the text behind it. -/
def readMembers : (fuel : ℕ) → Bytes → Option (List (Bytes × Json) × Bytes)
  | 0, _ => none
  | fuel + 1, s => do
    let (key, t) ← readKey s
    let (value, t) ← readValue fuel (skipWhite t)
    match skipWhite t with
    | [] => none
    | b :: t =>
      if b = 0x2c then (readMembers fuel t).map fun (members, t) => ((key, value) :: members, t)
      else if b = 0x7d then some ([(key, value)], t)
      else none

end

/-- The value of a JSON text, all of it. -/
def parse (s : Bytes) : Option Json :=
  match readValue (2 * s.length) (skipWhite s) with
  | some (v, t) => if skipWhite t = [] then some v else none
  | none => none

end Json

end EdgeSentinel.Encoding
