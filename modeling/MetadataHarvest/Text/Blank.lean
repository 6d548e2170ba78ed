/-!
# Blank characters, trimming and words

A character is blank when it has Unicode's White_Space property. Trimming removes
blanks from both ends, and the words of a text are its maximal runs without a blank.
-/

namespace MetadataHarvest.Text

/-- The characters of Unicode's White_Space property. -/
def isBlank (c : Char) : Bool :=
  (9 ≤ c.toNat && c.toNat ≤ 13) || c.toNat == 0x20 || c.toNat == 0x85 || c.toNat == 0xA0
    || c.toNat == 0x1680 || (0x2000 ≤ c.toNat && c.toNat ≤ 0x200A)
    || c.toNat == 0x2028 || c.toNat == 0x2029 || c.toNat == 0x202F
    || c.toNat == 0x205F || c.toNat == 0x3000

@[simp] theorem isBlank_space : isBlank ' ' = true := by decide

section Trim

variable (p : Char → Bool)

/-- What is left of `cs` when the longest suffix of characters in `p` is dropped. -/
def dropWhileEnd (cs : List Char) : List Char :=
  (cs.reverse.dropWhile p).reverse

/-- `cs` without the characters in `p` at its two ends. -/
def trimWhile (cs : List Char) : List Char :=
  dropWhileEnd p (cs.dropWhile p)

end Trim

@[simp] theorem dropWhileEnd_nil (p : Char → Bool) : dropWhileEnd p [] = [] := rfl

@[simp] theorem trimWhile_nil (p : Char → Bool) : trimWhile p [] = [] := rfl

/-- `cs` without the blanks at its two ends. -/
def trim (cs : List Char) : List Char := trimWhile isBlank cs

/-- `s` without the blanks at its two ends. -/
def trimmed (s : String) : String := String.ofList (trim s.toList)

@[simp] theorem toList_trimmed (s : String) : (trimmed s).toList = trim s.toList := by
  simp [trimmed]

/-- A value with its outer blanks removed, or none when nothing else was there. -/
def nonBlank? (s : String) : Option String :=
  if (trimmed s).isEmpty then none else some (trimmed s)

/-- The words of `cs` when the reversed characters `word` of an unfinished one come before it. -/
def wordsFrom (word : List Char) : List Char → List (List Char)
  | [] => if word.isEmpty then [] else [word.reverse]
  | c :: cs =>
    if isBlank c then
      if word.isEmpty then wordsFrom [] cs else word.reverse :: wordsFrom [] cs
    else wordsFrom (c :: word) cs

/-- The maximal runs of characters that are not blank, in order. -/
def words (cs : List Char) : List (List Char) := wordsFrom [] cs

@[simp] theorem words_nil : words [] = [] := rfl

theorem words_cons_blank {c : Char} (h : isBlank c = true) (cs : List Char) :
    words (c :: cs) = words cs := by
  simp [words, wordsFrom, h]

/-- Words joined by single spaces. -/
def joinWords (ws : List (List Char)) : List Char := [' '].intercalate ws

@[simp] theorem joinWords_nil : joinWords [] = [] := rfl

end MetadataHarvest.Text
