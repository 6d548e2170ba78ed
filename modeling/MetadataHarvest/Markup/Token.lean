import MetadataHarvest.Text.Blank
import MetadataHarvest.Text.Scan

/-!
# Markup tokens

The text of a document is cut into tags, character data, CDATA sections, comments,
processing instructions and document type declarations. Nothing is interpreted: raw text
keeps its references and an opening tag its attributes as written. What cannot be cut is
`malformed`, and nothing follows it.

## Implementation notes

Tag names are not checked, and a tag that ends the text without its closing angle bracket
is complete when it is a closing tag or an instruction.
-/

namespace MetadataHarvest.Markup

open MetadataHarvest.Text

/-- The white space of markup. -/
def isSpace (c : Char) : Bool := c == ' ' || c == '\t' || c == '\r' || c == '\n'

/-- `cs` without white space at its two ends. -/
def trimSpace (cs : List Char) : List Char := trimWhile isSpace cs

inductive Token where
  /-- Character data, with references and outer white space. -/
  | text (raw : List Char)
  | cdata (content : List Char)
  | comment (content : List Char)
  | instruction (content : List Char)
  | doctype (content : List Char)
  /-- A tag with its attributes as written; a self-closing one is a whole element. -/
  | opening (name : String) (attributes : List Char) (selfClosing : Bool)
  | closing (name : String)
  | malformed
  deriving DecidableEq

namespace Token

/-- The body of an opening tag up to the first `>` outside quotes, and what follows;
`quote` is the quotation mark that is open. -/
def tagBody? (quote : Option Char) : List Char → Option (List Char × List Char)
  | [] => none
  | c :: cs =>
    if c = '>' && quote.isNone then some ([], cs)
    else
      let quote := match quote with
        | none => if c = '"' || c = '\'' then some c else none
        | some q => if c = q then none else some q
      (tagBody? quote cs).map fun parts => (c :: parts.1, parts.2)

/-- The body of a document type declaration up to the `>` that balances, and what follows;
`depth` counts the angle brackets that are open. -/
def doctypeBody? (depth : Nat) : List Char → Option (List Char × List Char)
  | [] => none
  | c :: cs =>
    if c = '>' && depth = 0 then some ([], cs)
    else
      let depth := if c = '<' then depth + 1 else if c = '>' then depth - 1 else depth
      (doctypeBody? depth cs).map fun parts => (c :: parts.1, parts.2)

/-- An opening or self-closing tag with this body. -/
def ofTagBody (body : List Char) : Token :=
  let selfClosing := body.getLast? == some '/'
  let inner := if selfClosing then body.dropLast else body
  .opening (String.ofList (inner.takeWhile (!isSpace ·))) (inner.dropWhile (!isSpace ·))
    selfClosing

/-- A closing tag with this body: white space after the name does not count. -/
def ofClosingBody (body : List Char) : Token :=
  let name := dropWhileEnd isSpace body
  .closing (String.ofList (if name.isEmpty then body else name))

/-- What begins with `<!`. -/
def declaration (cs : List Char) : Token × List Char :=
  if let some rest := afterIgnoringCase? ['-', '-'] cs then
    match breakOn? ['-', '-', '>'] rest with
    | some (content, rest) => (.comment content, rest)
    | none => (.malformed, [])
  else if let some rest := afterIgnoringCase? "[CDATA[".toList cs then
    match breakOn? [']', ']', '>'] rest with
    | some (content, rest) => (.cdata content, rest)
    | none => (.malformed, [])
  else if let some rest := afterIgnoringCase? "DOCTYPE".toList cs then
    match doctypeBody? 0 rest with
    | some (content, rest) =>
      if content.all isSpace then (.malformed, []) else (.doctype content, rest)
    | none => (.malformed, [])
  else (.malformed, [])

/-- What begins with `<?`. -/
def processing (cs : List Char) : Token × List Char :=
  let body := cs.takeWhile (· ≠ '>')
  if 2 ≤ body.length && body.getLast? == some '?' then
    (.instruction body.dropLast, (cs.dropWhile (· ≠ '>')).drop 1)
  else (.malformed, [])

/-- The token that a `<` before `cs` begins; a lone one at the end is nothing. -/
def markup? : List Char → Option (Token × List Char)
  | [] => none
  | '!' :: cs => some (declaration cs)
  | '?' :: cs => some (processing cs)
  | '/' :: cs => some (ofClosingBody (cs.takeWhile (· ≠ '>')), (cs.dropWhile (· ≠ '>')).drop 1)
  | cs => some (match tagBody? none cs with
    | some (body, rest) => (ofTagBody body, rest)
    | none => (.malformed, []))

/-- The first token of `cs` and what follows it. -/
def next? : List Char → Option (Token × List Char)
  | [] => none
  | '<' :: cs => markup? cs
  | c :: cs => some (.text (c :: cs.takeWhile (· ≠ '<')), cs.dropWhile (· ≠ '<'))

theorem length_of_tagBody? {quote : Option Char} {cs body rest : List Char}
    (h : tagBody? quote cs = some (body, rest)) : rest.length < cs.length := by
  induction cs generalizing quote body with
  | nil => simp [tagBody?] at h
  | cons c cs ih =>
      simp only [tagBody?] at h
      split at h
      · simp_all
      · simp only [Option.map_eq_some_iff] at h
        obtain ⟨⟨a, b⟩, hab, he⟩ := h
        simp only [Prod.mk.injEq] at he
        obtain ⟨rfl, rfl⟩ := he
        have := ih hab
        simp only [List.length_cons]
        omega

theorem length_of_doctypeBody? {depth : Nat} {cs body rest : List Char}
    (h : doctypeBody? depth cs = some (body, rest)) : rest.length < cs.length := by
  induction cs generalizing depth body with
  | nil => simp [doctypeBody?] at h
  | cons c cs ih =>
      simp only [doctypeBody?] at h
      split at h
      · simp_all
      · simp only [Option.map_eq_some_iff] at h
        obtain ⟨⟨a, b⟩, hab, he⟩ := h
        simp only [Prod.mk.injEq] at he
        obtain ⟨rfl, rfl⟩ := he
        have := ih hab
        simp only [List.length_cons]
        omega

theorem length_of_afterIgnoringCase? {mark cs rest : List Char}
    (h : afterIgnoringCase? mark cs = some rest) : rest.length ≤ cs.length := by
  unfold afterIgnoringCase? at h
  split at h
  · cases h
    simp
  · cases h

theorem length_declaration_le (cs : List Char) : (declaration cs).2.length ≤ cs.length := by
  unfold declaration
  split
  · next rest hr =>
      have := length_of_afterIgnoringCase? hr
      split
      · next hb =>
          have := length_of_breakOn? hb
          simp only
          omega
      · simp
  split
  · next rest hr =>
      have := length_of_afterIgnoringCase? hr
      split
      · next hb =>
          have := length_of_breakOn? hb
          simp only
          omega
      · simp
  split
  · next rest hr =>
      have := length_of_afterIgnoringCase? hr
      split
      · next hb =>
          have := length_of_doctypeBody? hb
          split
          · simp
          · simp only
            omega
      · simp
  · simp

theorem length_processing_le (cs : List Char) : (processing cs).2.length ≤ cs.length := by
  unfold processing
  have := length_dropWhile_le (· ≠ '>') cs
  dsimp only
  split
  · simp only [List.length_drop]
    omega
  · simp

theorem length_of_markup? {cs rest : List Char} {t : Token}
    (h : markup? cs = some (t, rest)) : rest.length ≤ cs.length := by
  unfold markup? at h
  split at h
  · cases h
  · next cs =>
      have := length_declaration_le cs
      simp only [Option.some.injEq] at h
      rw [h] at this
      simp only [List.length_cons] at *
      omega
  · next cs =>
      have := length_processing_le cs
      simp only [Option.some.injEq] at h
      rw [h] at this
      simp only [List.length_cons] at *
      omega
  · next cs =>
      have := length_dropWhile_le (· ≠ '>') cs
      simp only [Option.some.injEq, Prod.mk.injEq] at h
      rw [← h.2]
      simp only [List.length_drop, List.length_cons]
      omega
  · simp only [Option.some.injEq] at h
    split at h
    · next hb =>
        have := length_of_tagBody? hb
        simp only [Prod.mk.injEq] at h
        rw [← h.2]
        omega
    · simp only [Prod.mk.injEq] at h
      simp [← h.2]

/-- Every token takes something from the text. -/
theorem length_of_next? {cs rest : List Char} {t : Token} (h : next? cs = some (t, rest)) :
    rest.length < cs.length := by
  unfold next? at h
  split at h
  · cases h
  · have := length_of_markup? h
    simp only [List.length_cons]
    omega
  · next c cs _ =>
      have := length_dropWhile_le (· ≠ '<') cs
      simp only [Option.some.injEq, Prod.mk.injEq] at h
      rw [← h.2]
      simp only [List.length_cons]
      omega

end Token

/-- The tokens of a text. -/
def tokens (cs : List Char) : List Token :=
  match _h : Token.next? cs with
  | none => []
  | some (t, rest) => t :: tokens rest
termination_by cs.length
decreasing_by exact Token.length_of_next? _h

/-- The tokens of a document, which may start with a byte order mark. -/
def documentTokens (cs : List Char) : List Token :=
  tokens (match cs with
    | '\ufeff' :: rest => rest
    | _ => cs)

end MetadataHarvest.Markup
