import MetadataHarvest.Markup.Reference
import MetadataHarvest.Markup.Token

/-!
# Attributes

The attributes of a tag: a name, an equals sign and a quoted value each, with white space
allowed around all three but not needed between one attribute and the next. No name may
occur twice.
-/

namespace MetadataHarvest.Markup

open MetadataHarvest.Text

/-- An attribute with its value as written. -/
structure RawAttribute where
  name : String
  value : List Char
  deriving DecidableEq

namespace RawAttribute

/-- The quoted value at the front of `cs`, and what follows it. -/
def quoted? : List Char → Option (List Char × List Char)
  | [] => none
  | quote :: cs => if quote = '"' || quote = '\'' then breakOn? [quote] cs else none

/-- The attribute that begins with the character `c`, and what follows it. -/
def next? (c : Char) (cs : List Char) : Option (RawAttribute × List Char) :=
  let inName := fun d => d ≠ '=' && !isSpace d
  match (cs.dropWhile inName).dropWhile isSpace with
  | '=' :: rest =>
    (quoted? (rest.dropWhile isSpace)).map fun (value, after) =>
      (⟨String.ofList (c :: cs.takeWhile inName), value⟩, after)
  | _ => none

theorem length_of_quoted? {cs value rest : List Char} (h : quoted? cs = some (value, rest)) :
    rest.length < cs.length := by
  unfold quoted? at h
  split at h
  · cases h
  · split at h
    · have := length_of_breakOn? h
      simp only [List.length_cons, List.length_nil] at *
      omega
    · cases h

theorem length_of_next? {c : Char} {cs rest : List Char} {a : RawAttribute}
    (h : next? c cs = some (a, rest)) : rest.length < cs.length := by
  unfold next? at h
  dsimp only at h
  split at h
  · next tail ht =>
      simp only [Option.map_eq_some_iff] at h
      obtain ⟨⟨value, after⟩, hq, he⟩ := h
      simp only [Prod.mk.injEq] at he
      obtain ⟨-, rfl⟩ := he
      have h₁ := length_of_quoted? hq
      have h₂ := length_dropWhile_le isSpace tail
      have h₃ := length_dropWhile_le isSpace (cs.dropWhile fun d => d ≠ '=' && !isSpace d)
      have h₄ := length_dropWhile_le (fun d => d ≠ '=' && !isSpace d) cs
      rw [ht] at h₃
      simp only [List.length_cons] at h₃
      omega
  · cases h

/-- The attributes of a text, whatever their names. -/
def sequence? (cs : List Char) : Option (List RawAttribute) :=
  match _h : cs.dropWhile isSpace with
  | [] => some []
  | c :: rest =>
    match _h' : next? c rest with
    | none => none
    | some (a, after) => (sequence? after).map (a :: ·)
termination_by cs.length
decreasing_by
  have h₁ := length_of_next? _h'
  have h₂ := length_dropWhile_le isSpace cs
  rw [_h] at h₂
  simp only [List.length_cons] at h₂
  omega

end RawAttribute

/-- The attributes of a tag, in order, when they can be read and their names differ. -/
def rawAttributes? (cs : List Char) : Option (List RawAttribute) :=
  (RawAttribute.sequence? cs).bind fun attributes =>
    if (attributes.map (·.name)).Nodup then some attributes else none

/-- The attributes of a tag with their references replaced. -/
def attributes? (cs : List Char) : Option (List (String × String)) :=
  (rawAttributes? cs).bind fun attributes =>
    attributes.mapM fun a => (unescape? a.value).map fun value => (a.name, String.ofList value)

end MetadataHarvest.Markup
