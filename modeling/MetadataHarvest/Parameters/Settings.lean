import MetadataHarvest.Parameters.Quoted

/-!
# Settings files

A settings file names parameters line by line, each with an equals sign and a quoted
value. Lines may be empty, and a number sign begins a comment.
-/

namespace MetadataHarvest.Settings

open MetadataHarvest.Text

/-- A blank within a line. -/
def isBlank (c : Char) : Bool := c == ' ' || c == '\t'

/-- Whether a character may stand in a name without quotation. -/
def isNameChar (c : Char) : Bool := c.isAlphanum || c == '_' || c == '-'

/-- What follows the rest of a line on which only a comment may stand. -/
def nextLine? (cs : List Char) : Option (List Char) :=
  let cs := cs.dropWhile isBlank
  let comment := if cs.head? == some '#' then cs.takeWhile fun c => c ≠ '\n' && c ≠ '\r' else []
  if comment.all Quoted.isShown then
    match cs.drop comment.length with
    | [] => some []
    | '\n' :: rest | '\r' :: '\n' :: rest => some rest
    | _ => none
  else none

/-- A name, quoted or not, and what follows it. -/
def name? (cs : List Char) : Option (List Char × List Char) :=
  let bare := cs.takeWhile isNameChar
  if bare.isEmpty then Quoted.onLine? cs else some (bare, cs.dropWhile isNameChar)

/-- A name with its value, and the lines that follow. -/
def entry? (cs : List Char) : Option ((String × String) × List Char) := do
  let (name, rest) ← name? (cs.dropWhile isBlank)
  match rest.dropWhile isBlank with
  | '=' :: rest => do
    let (value, rest) ← Quoted.next? (rest.dropWhile isBlank)
    let rest ← nextLine? rest
    return ((String.ofList name, String.ofList value), rest)
  | _ => none

theorem length_of_nextLine? {cs rest : List Char} (h : nextLine? cs = some rest) :
    rest.length ≤ cs.length ∧ (cs ≠ [] → rest.length < cs.length) := by
  have hle := length_dropWhile_le isBlank cs
  have hpos : cs ≠ [] → 0 < cs.length := List.length_pos_iff.mpr
  unfold nextLine? at h
  dsimp only at h
  generalize hc : (if (cs.dropWhile isBlank).head? == some '#' then
    (cs.dropWhile isBlank).takeWhile fun c => c ≠ '\n' && c ≠ '\r' else []) = comment at h
  have hd : ((cs.dropWhile isBlank).drop comment.length).length ≤ cs.length := by
    simp only [List.length_drop]
    omega
  split at h
  · split at h
    · cases h
      exact ⟨Nat.zero_le _, hpos⟩
    · next r hr =>
        cases h
        rw [hr, List.length_cons] at hd
        exact ⟨by omega, fun _ => by omega⟩
    · next r hr =>
        cases h
        rw [hr, List.length_cons, List.length_cons] at hd
        exact ⟨by omega, fun _ => by omega⟩
    · cases h
  · cases h

theorem length_of_name? {cs name rest : List Char} (h : name? cs = some (name, rest)) :
    rest.length ≤ cs.length := by
  unfold name? at h
  dsimp only at h
  split at h
  · exact Nat.le_of_lt (Quoted.length_of_onLine? h)
  · cases h
    exact length_dropWhile_le _ _

theorem length_of_entry? {cs rest : List Char} {e : String × String}
    (h : entry? cs = some (e, rest)) : rest.length < cs.length := by
  unfold entry? at h
  simp only [Option.bind_eq_bind, Option.bind_eq_some_iff] at h
  obtain ⟨⟨name, r₁⟩, hn, h⟩ := h
  have h₀ := length_dropWhile_le isBlank cs
  have h₁ := length_of_name? hn
  have h₂ := length_dropWhile_le isBlank r₁
  dsimp only at h
  split at h
  · next r₂ hr =>
      simp only [Option.bind_eq_some_iff] at h
      obtain ⟨⟨value, r₃⟩, hv, r₄, hl, he⟩ := h
      cases he
      have h₃ := length_dropWhile_le isBlank r₂
      have h₄ := Quoted.length_of_next? hv
      have h₅ := (length_of_nextLine? hl).1
      rw [hr, List.length_cons] at h₂
      simp only at h₁ h₄ h₅
      omega
  · cases h

/-- The names and values of a text, line by line. -/
def entries? (cs : List Char) : Option (List (String × String)) :=
  if _h : cs = [] then some []
  else match _h₁ : nextLine? cs with
    | some rest => entries? rest
    | none => match _h₂ : entry? cs with
      | some (e, rest) => (entries? rest).map (e :: ·)
      | none => none
termination_by cs.length
decreasing_by
  · exact (length_of_nextLine? _h₁).2 _h
  · exact length_of_entry? _h₂

/-- The names and values of a settings file, which may start with a byte order mark. -/
def read? (source : String) : Option (List (String × String)) :=
  entries? (match source.toList with
    | '\ufeff' :: cs => cs
    | cs => cs)

end MetadataHarvest.Settings
