import MetadataHarvest.Json.Value
import MetadataHarvest.Text.Scan

/-!
# JSON tokens

A text is cut into brackets, separators and scalar values. The escapes of a string give a
sequence of characters and surrogates, from which its text is put together.
-/

namespace MetadataHarvest.Json

open MetadataHarvest.Number MetadataHarvest.Text

inductive Token where
  | scalar (value : Scalar)
  | beginArray
  | endArray
  | beginObject
  | endObject
  | comma
  | colon
  deriving DecidableEq

/-- White space between tokens. -/
def isSpace (c : Char) : Bool := c == ' ' || c == '\t' || c == '\n' || c == '\r'

/-- What a string is made of: characters, and surrogates that stand in escapes. -/
inductive Piece where
  | char (c : Char)
  | high (bits : Nat)
  | low (bits : Nat)

namespace Piece

/-- The piece with this number of 16 bits. -/
def ofUnit (n : Nat) : Piece :=
  if 0xD800 ≤ n && n < 0xDC00 then .high (n - 0xD800)
  else if 0xDC00 ≤ n && n < 0xE000 then .low (n - 0xDC00)
  else .char (Char.ofNat n)

/-- The text that the pieces make up, when every surrogate has its partner. -/
def join? : List Piece → Option (List Char)
  | [] => some []
  | .char c :: ps => (join? ps).map (c :: ·)
  | .high a :: .low b :: ps => (join? ps).map (Char.ofNat (0x10000 + a * 0x400 + b) :: ·)
  | _ => none

end Piece

/-- The character that a backslash before `c` stands for. -/
def escaped? (c : Char) : Option Char :=
  if c = '"' || c = '\\' || c = '/' then some c
  else if c = 'b' then some (Char.ofNat 8)
  else if c = 'f' then some (Char.ofNat 12)
  else if c = 'n' then some '\n'
  else if c = 'r' then some '\r'
  else if c = 't' then some '\t'
  else none

/-- The pieces of a string up to its closing quotation mark, and what follows it. -/
def pieces? : List Char → Option (List Piece × List Char)
  | [] => none
  | '"' :: cs => some ([], cs)
  | '\\' :: 'u' :: a :: b :: c :: d :: cs => do
    let n ← ofBase? 16 [a, b, c, d]
    let (ps, rest) ← pieces? cs
    return (Piece.ofUnit n :: ps, rest)
  | '\\' :: e :: cs => do
    let c ← escaped? e
    let (ps, rest) ← pieces? cs
    return (.char c :: ps, rest)
  | c :: cs =>
    if c = '\\' || c.toNat < 0x20 then none
    else (pieces? cs).map fun parts => (.char c :: parts.1, parts.2)

theorem length_of_pieces? {cs rest : List Char} {ps : List Piece}
    (h : pieces? cs = some (ps, rest)) : rest.length < cs.length := by
  fun_induction pieces? cs generalizing ps with
  | case1 => cases h
  | case2 cs =>
      cases h
      simp
  | case3 a b c d cs ih =>
      simp only [Option.bind_eq_bind, Option.bind_eq_some_iff] at h
      obtain ⟨n, -, ⟨qs, r⟩, hq, he⟩ := h
      cases he
      have := ih hq
      simp only [List.length_cons] at *
      omega
  | case4 e cs _ ih =>
      simp only [Option.bind_eq_bind, Option.bind_eq_some_iff] at h
      obtain ⟨n, -, ⟨qs, r⟩, hq, he⟩ := h
      cases he
      have := ih hq
      simp only [List.length_cons] at *
      omega
  | case5 => cases h
  | case6 c cs _ _ _ _ ih =>
      simp only [Option.map_eq_some_iff] at h
      obtain ⟨⟨qs, r⟩, hq, he⟩ := h
      cases he
      have := ih hq
      simp only [List.length_cons] at *
      omega

/-- The fraction of a number, if there is a point, and what follows. -/
def fraction? : List Char → Option (Option (List Char) × List Char)
  | '.' :: cs =>
    let digits := cs.takeWhile isDigit
    if digits.isEmpty then none else some (some digits, cs.dropWhile isDigit)
  | cs => some (none, cs)

/-- The exponent of a number, if there is one, and what follows. -/
def exponentPart? : List Char → Option (Option (Bool × List Char) × List Char)
  | [] => some (none, [])
  | c :: cs =>
    if c = 'e' || c = 'E' then
      let (negative, body) := splitSign cs
      let digits := body.takeWhile isDigit
      if digits.isEmpty then none else some (some (negative, digits), body.dropWhile isDigit)
    else some (none, c :: cs)

/-- The unsigned number at the front of a text, and what follows: no digit may stand after
a leading zero. -/
def unsigned? (negative : Bool) (cs : List Char) : Option (Literal × List Char) := do
  let whole := cs.takeWhile isDigit
  if whole.isEmpty || (whole.head? == some '0' && 1 < whole.length) then none
  else
    let (fraction, rest) ← fraction? (cs.dropWhile isDigit)
    let (exponent, rest) ← exponentPart? rest
    return (⟨negative, whole, fraction, exponent⟩, rest)

/-- The number at the front of a text, and what follows. -/
def number? : List Char → Option (Literal × List Char)
  | '-' :: cs => unsigned? true cs
  | cs => unsigned? false cs

theorem length_of_fraction? {cs rest : List Char} {f : Option (List Char)}
    (h : fraction? cs = some (f, rest)) : rest.length ≤ cs.length := by
  unfold fraction? at h
  split at h
  · next cs =>
      dsimp only at h
      split at h
      · cases h
      · cases h
        have := length_dropWhile_le isDigit cs
        simp only [List.length_cons]
        omega
  · cases h
    exact Nat.le_refl _

theorem length_of_splitSign (cs : List Char) : (splitSign cs).2.length ≤ cs.length := by
  unfold splitSign
  split <;> simp

theorem length_of_exponentPart? {cs rest : List Char} {e : Option (Bool × List Char)}
    (h : exponentPart? cs = some (e, rest)) : rest.length ≤ cs.length := by
  unfold exponentPart? at h
  split at h
  · cases h
    exact Nat.le_refl _
  · next c cs =>
      split at h
      · dsimp only at h
        split at h
        · cases h
        · cases h
          have h₁ := length_of_splitSign cs
          have h₂ := length_dropWhile_le isDigit (splitSign cs).2
          simp only [List.length_cons]
          omega
      · cases h
        exact Nat.le_refl _

theorem length_of_unsigned? {negative : Bool} {cs rest : List Char} {l : Literal}
    (h : unsigned? negative cs = some (l, rest)) : rest.length < cs.length := by
  unfold unsigned? at h
  dsimp only at h
  split at h
  · cases h
  · next hw =>
      simp only [Option.bind_eq_bind, Option.bind_eq_some_iff] at h
      obtain ⟨⟨f, r⟩, hf, ⟨e, r'⟩, he, hl⟩ := h
      cases hl
      have h₁ := length_of_fraction? hf
      have h₂ := length_of_exponentPart? he
      dsimp only at h₁ h₂ ⊢
      have h₃ : (cs.takeWhile isDigit).length + (cs.dropWhile isDigit).length = cs.length := by
        rw [← List.length_append, List.takeWhile_append_dropWhile]
      have h₄ : 0 < (cs.takeWhile isDigit).length := by
        simp only [Bool.or_eq_true, not_or, List.isEmpty_iff] at hw
        exact List.length_pos_iff.mpr hw.1
      omega

theorem length_of_number? {cs rest : List Char} {l : Literal}
    (h : number? cs = some (l, rest)) : rest.length < cs.length := by
  unfold number? at h
  split at h
  · have := length_of_unsigned? h
    simp only [List.length_cons]
    omega
  · exact length_of_unsigned? h

/-- What follows `word` at the front of a text. -/
def afterWord? : List Char → List Char → Option (List Char)
  | [], cs => some cs
  | _ :: _, [] => none
  | w :: word, c :: cs => if w = c then afterWord? word cs else none

theorem length_of_afterWord? {word cs rest : List Char} (h : afterWord? word cs = some rest) :
    rest.length + word.length = cs.length := by
  induction word generalizing cs with
  | nil => simp_all [afterWord?]
  | cons w word ih =>
      cases cs with
      | nil => cases h
      | cons c cs =>
          simp only [afterWord?] at h
          split at h
          · simp only [List.length_cons, ← ih h]
            omega
          · cases h

namespace Token

/-- The bracket or separator that a character is. -/
def mark? (c : Char) : Option Token :=
  if c = '[' then some beginArray
  else if c = ']' then some endArray
  else if c = '\x7b' then some beginObject
  else if c = '\x7d' then some endObject
  else if c = ',' then some comma
  else if c = ':' then some colon
  else none

/-- The scalar value that begins with the character `c`, and what follows it. -/
def scalar? (c : Char) (cs : List Char) : Option (Scalar × List Char) :=
  if c = '"' then
    (pieces? cs).map fun parts =>
      (.string ((Piece.join? parts.1).map String.ofList), parts.2)
  else if c = 'n' then (afterWord? "ull".toList cs).map fun rest => (.null, rest)
  else if c = 't' then (afterWord? "rue".toList cs).map fun rest => (.bool true, rest)
  else if c = 'f' then (afterWord? "alse".toList cs).map fun rest => (.bool false, rest)
  else (number? (c :: cs)).map fun (literal, rest) => (.number literal, rest)

/-- The token that begins with the character `c`, and what follows it. -/
def next? (c : Char) (cs : List Char) : Option (Token × List Char) :=
  match mark? c with
  | some token => some (token, cs)
  | none => (scalar? c cs).map fun (value, rest) => (scalar value, rest)

theorem length_of_scalar? {c : Char} {cs rest : List Char} {v : Scalar}
    (h : scalar? c cs = some (v, rest)) : rest.length ≤ cs.length := by
  unfold scalar? at h
  split at h
  · simp only [Option.map_eq_some_iff] at h
    obtain ⟨⟨ps, r⟩, ha, he⟩ := h
    cases he
    exact Nat.le_of_lt (length_of_pieces? ha)
  iterate 3
    split at h
    · simp only [Option.map_eq_some_iff] at h
      obtain ⟨r, ha, he⟩ := h
      cases he
      have := length_of_afterWord? ha
      omega
  · simp only [Option.map_eq_some_iff] at h
    obtain ⟨⟨l, r⟩, ha, he⟩ := h
    cases he
    have := length_of_number? ha
    simp only [List.length_cons] at *
    omega

theorem length_of_next? {c : Char} {cs rest : List Char} {t : Token}
    (h : next? c cs = some (t, rest)) : rest.length ≤ cs.length := by
  unfold next? at h
  split at h
  · cases h
    exact Nat.le_refl _
  · simp only [Option.map_eq_some_iff] at h
    obtain ⟨a, ha, he⟩ := h
    cases he
    exact length_of_scalar? (v := a.1) ha

end Token

/-- The tokens of a text. -/
def tokens? (cs : List Char) : Option (List Token) :=
  match cs with
  | [] => some []
  | c :: rest =>
    if isSpace c then tokens? rest
    else match _h : Token.next? c rest with
      | none => none
      | some (token, after) => (tokens? after).map (token :: ·)
termination_by cs.length
decreasing_by
  · simp
  · have := Token.length_of_next? _h
    simp only [List.length_cons]
    omega

end MetadataHarvest.Json
