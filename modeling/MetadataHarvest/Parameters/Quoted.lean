import MetadataHarvest.Number.Digits
import MetadataHarvest.Text.Scan

/-!
# Quoted strings of settings

Four kinds of quotation: between quotation marks, where a backslash begins an escape, or
between apostrophes, where nothing does; and either one on one line or, between tripled
marks, on several lines. A text on several lines loses a line break at its start.
-/

namespace MetadataHarvest.Quoted

open MetadataHarvest.Number MetadataHarvest.Text

/-- Whether a character may stand in a quotation: no control character but the tab. -/
def isShown (c : Char) : Bool := c == '\t' || (0x20 ≤ c.toNat && c.toNat ≠ 0x7F)

/-- The text before the first quotation mark that no backslash precedes, and what follows. -/
def untilMark? : List Char → Option (List Char × List Char)
  | [] => none
  | '"' :: cs => some ([], cs)
  | '\\' :: c :: cs => (untilMark? cs).map fun parts => ('\\' :: c :: parts.1, parts.2)
  | c :: cs => (untilMark? cs).map fun parts => (c :: parts.1, parts.2)

/-- The text before the first three quotation marks that no backslash precedes, and what
follows. -/
def untilMarks? : List Char → Option (List Char × List Char)
  | [] => none
  | '"' :: '"' :: '"' :: cs => some ([], cs)
  | '\\' :: c :: cs => (untilMarks? cs).map fun parts => ('\\' :: c :: parts.1, parts.2)
  | c :: cs => (untilMarks? cs).map fun parts => (c :: parts.1, parts.2)

/-- The character that a backslash before a letter stands for. -/
def escaped? (c : Char) : Option Char :=
  if c = '"' || c = '\\' then some c
  else if c = 'b' then some (Char.ofNat 8)
  else if c = 't' then some '\t'
  else if c = 'n' then some '\n'
  else if c = 'f' then some (Char.ofNat 12)
  else if c = 'r' then some '\r'
  else none

/-- The character whose number the hexadecimal digits denote. -/
def scalar? (digits : List Char) : Option Char :=
  (ofBase? 16 digits).bind fun n => if h : n.isValidChar then some (Char.ofNatAux n h) else none

/-- The text on one line that `cs` stands for. -/
def lineText? : List Char → Option (List Char)
  | [] => some []
  | '\\' :: 'u' :: a :: b :: c :: d :: cs => do
    return (← scalar? [a, b, c, d]) :: (← lineText? cs)
  | '\\' :: 'U' :: a :: b :: c :: d :: e :: f :: g :: h :: cs => do
    return (← scalar? [a, b, c, d, e, f, g, h]) :: (← lineText? cs)
  | '\\' :: c :: cs => do return (← escaped? c) :: (← lineText? cs)
  | c :: cs => if isShown c && c != '\\' then (lineText? cs).map (c :: ·) else none

/-- Whether only blanks are left on a line. -/
def lineIsOver (cs : List Char) : Bool :=
  match cs.dropWhile fun c => c == ' ' || c == '\t' with
  | '\n' :: _ | '\r' :: '\n' :: _ => true
  | _ => false

/-- The text on several lines that `cs` stands for; with `joining`, blanks and line breaks
at its start do not count. A backslash at the end of a line joins it with the next text. -/
def linesText? (joining : Bool) : List Char → Option (List Char)
  | [] => some []
  | '\r' :: '\n' :: cs =>
    if joining then linesText? true cs else (linesText? false cs).map ('\n' :: ·)
  | '\\' :: 'u' :: a :: b :: c :: d :: cs => do
    return (← scalar? [a, b, c, d]) :: (← linesText? false cs)
  | '\\' :: 'U' :: a :: b :: c :: d :: e :: f :: g :: h :: cs => do
    return (← scalar? [a, b, c, d, e, f, g, h]) :: (← linesText? false cs)
  | '\\' :: c :: cs =>
    if lineIsOver (c :: cs) then linesText? true (c :: cs)
    else do return (← escaped? c) :: (← linesText? false cs)
  | c :: cs =>
    if joining && (c == ' ' || c == '\t' || c == '\n') then linesText? true cs
    else if (isShown c && c != '\\') || c == '\n' then (linesText? false cs).map (c :: ·)
    else none

/-- The text between tripled apostrophes: line breaks become one character. -/
def plainLines? : List Char → Option (List Char)
  | [] => some []
  | '\r' :: '\n' :: cs => (plainLines? cs).map ('\n' :: ·)
  | c :: cs => if isShown c || c == '\n' then (plainLines? cs).map (c :: ·) else none

/-- Without a line break at the start. -/
def dropLineBreak : List Char → List Char
  | '\n' :: cs | '\r' :: '\n' :: cs => cs
  | cs => cs

/-- Up to two marks that stand after three closing ones belong to the text. -/
def closingMarks (mark : Char) (cs : List Char) : List Char × List Char :=
  let marks := (cs.take 2).takeWhile (· = mark)
  (marks, cs.drop marks.length)

/-- A quotation on one line at the front of `cs`, and what follows it. -/
def onLine? : List Char → Option (List Char × List Char)
  | '"' :: cs => do
    let (body, rest) ← untilMark? cs
    return (← lineText? body, rest)
  | '\'' :: cs => do
    let (body, rest) ← breakOn? ['\''] cs
    if body.all isShown then some (body, rest) else none
  | _ => none

/-- A quotation at the front of `cs`, and what follows it. -/
def next? : List Char → Option (List Char × List Char)
  | '"' :: '"' :: '"' :: cs => do
    let (body, rest) ← untilMarks? cs
    let (marks, rest) := closingMarks '"' rest
    return (← linesText? false (dropLineBreak (body ++ marks)), rest)
  | '\'' :: '\'' :: '\'' :: cs => do
    let (body, rest) ← breakOn? ['\'', '\'', '\''] cs
    let (marks, rest) := closingMarks '\'' rest
    return (← plainLines? (dropLineBreak (body ++ marks)), rest)
  | cs => onLine? cs

theorem length_of_untilMark? {cs body rest : List Char}
    (h : untilMark? cs = some (body, rest)) : rest.length < cs.length := by
  fun_induction untilMark? cs generalizing body with
  | case1 => cases h
  | case2 cs =>
      cases h
      simp
  | case3 c cs ih | case4 c cs _ _ ih =>
      simp only [Option.map_eq_some_iff] at h
      obtain ⟨⟨a, b⟩, hab, he⟩ := h
      cases he
      have := ih hab
      simp only [List.length_cons] at *
      omega

theorem length_of_untilMarks? {cs body rest : List Char}
    (h : untilMarks? cs = some (body, rest)) : rest.length < cs.length := by
  fun_induction untilMarks? cs generalizing body with
  | case1 => cases h
  | case2 cs =>
      cases h
      simp only [List.length_cons]
      omega
  | case3 c cs ih | case4 c cs _ _ ih =>
      simp only [Option.map_eq_some_iff] at h
      obtain ⟨⟨a, b⟩, hab, he⟩ := h
      cases he
      have := ih hab
      simp only [List.length_cons] at *
      omega

theorem length_of_onLine? {cs body rest : List Char} (h : onLine? cs = some (body, rest)) :
    rest.length < cs.length := by
  unfold onLine? at h
  split at h
  · simp only [Option.bind_eq_bind, Option.bind_eq_some_iff] at h
    obtain ⟨⟨a, b⟩, hab, t, -, he⟩ := h
    cases he
    have := length_of_untilMark? hab
    simp only [List.length_cons] at *
    omega
  · simp only [Option.bind_eq_bind, Option.bind_eq_some_iff] at h
    obtain ⟨⟨a, b⟩, hab, he⟩ := h
    split at he
    · cases he
      have := length_of_breakOn? hab
      simp only [List.length_cons, List.length_nil] at *
      omega
    · cases he
  · cases h

theorem length_of_next? {cs body rest : List Char} (h : next? cs = some (body, rest)) :
    rest.length < cs.length := by
  unfold next? at h
  split at h
  · simp only [Option.bind_eq_bind, Option.bind_eq_some_iff] at h
    obtain ⟨⟨a, b⟩, hab, t, -, he⟩ := h
    cases he
    have := length_of_untilMarks? hab
    simp only [closingMarks, List.length_cons, List.length_drop] at *
    omega
  · simp only [Option.bind_eq_bind, Option.bind_eq_some_iff] at h
    obtain ⟨⟨a, b⟩, hab, t, -, he⟩ := h
    cases he
    have := length_of_breakOn? hab
    simp only [closingMarks, List.length_cons, List.length_nil, List.length_drop] at *
    omega
  · exact length_of_onLine? h

end MetadataHarvest.Quoted
