import MetadataHarvest.Proofs.Protocol.Namespaces
import MetadataHarvest.Proofs.Text.Words

/-!
# What looks like a namespace

Namespaces are removed from the text of a response before it is cut into tags, so whatever looks
like a declaration or like a tag with a prefix is taken for one, wherever it stands. Here it is
said what looks like that, that a text stays as it is exactly when nothing in it does, and that a
text is changed alone when what stands around it has no part in a declaration or a tag.
-/

namespace MetadataHarvest.Protocol

open Markup Text

/-- What may stand between the word of a declaration and `rest`: nothing, or a colon and a name
that does not go on. -/
inductive IsBound (rest : List Char) : List Char → Prop
  | default : IsBound rest []
  | named {name : List Char} (hne : name ≠ []) (hname : ∀ c ∈ name, isNameChar c = true)
      (hends : ∀ c ∈ rest.head?, isNameChar c = false) : IsBound rest (':' :: name)

/-- A declaration after its first blank: more blanks, its word, the prefix that it binds, an
equals sign among blanks, and a value in quotation marks. -/
inductive IsDeclaration : List Char → Prop
  | intro {space bound gap gap' value : List Char} (hspace : ∀ c ∈ space, isBlank c = true)
      (hbound : IsBound (gap ++ ['=']) bound) (hgap : ∀ c ∈ gap, isBlank c = true)
      (hgap' : ∀ c ∈ gap', isBlank c = true) (hvalue : '"' ∉ value) :
      IsDeclaration (space ++ ("xmlns".toList ++ (bound ++
        (gap ++ '=' :: (gap' ++ '"' :: (value ++ ['"']))))))

/-- The characters of a declaration before its value. -/
def isDeclarationChar (c : Char) : Bool := isBlank c || isNameChar c || c == ':' || c == '='

/-- Whether something in a text looks like a declaration of a namespace. -/
def HasDeclaration (cs : List Char) : Prop :=
  ∃ front blank d back, isBlank blank = true ∧ IsDeclaration d ∧
    cs = front ++ blank :: (d ++ back)

/-- The front of a tag that has a prefix, up to the colon; `kept` stays when it is removed. -/
inductive IsPrefixedTag : (kept tag : List Char) → Prop
  | intro {slash name : List Char} (hslash : slash = [] ∨ slash = ['/']) (hne : name ≠ [])
      (hname : ∀ c ∈ name, isNameChar c = true) :
      IsPrefixedTag ('<' :: slash) ('<' :: (slash ++ (name ++ [':'])))

/-- Whether something in a text looks like a tag with a prefix. -/
def HasPrefixedTag (cs : List Char) : Prop :=
  ∃ front kept tag back, IsPrefixedTag kept tag ∧ cs = front ++ (tag ++ back)

section Grammar

variable {cs rest : List Char}

theorem afterWord?_eq_some_iff {word : List Char} :
    afterWord? word cs = some rest ↔ cs = word ++ rest := by
  constructor
  · intro h
    unfold afterWord? at h
    split at h
    · next hword =>
        obtain ⟨tail, rfl⟩ := List.isPrefixOf_iff_prefix.mp hword
        rw [← Option.some.inj h, List.drop_left]
    · cases h
  · rintro rfl
    exact afterWord?_append word rest

theorem dropWhile_blanks {space : List Char} (h : ∀ c ∈ space, isBlank c = true) {c : Char}
    (hc : isBlank c = false) (cs : List Char) :
    (space ++ c :: cs).dropWhile isBlank = c :: cs := by
  apply dropWhile_append_of_head? h
  simpa using hc

/-- A text is blanks and what follows them. -/
theorem exists_blanks (cs : List Char) :
    ∃ space, (∀ c ∈ space, isBlank c = true) ∧ cs = space ++ cs.dropWhile isBlank :=
  ⟨cs.takeWhile isBlank, fun _ hc => List.mem_takeWhile_imp hc,
    List.takeWhile_append_dropWhile.symm⟩

/-- What is passed over before the equals sign is what may stand there. -/
theorem exists_isBound (cs : List Char) :
    ∃ bound, IsBound (afterBoundPrefix cs) bound ∧ cs = bound ++ afterBoundPrefix cs := by
  unfold afterBoundPrefix
  split
  · next more =>
      split
      · exact ⟨[], .default, rfl⟩
      · next hne =>
          rw [List.isEmpty_iff] at hne
          refine ⟨':' :: more.takeWhile isNameChar, .named hne ?_ ?_, ?_⟩
          · exact fun _ hc => List.mem_takeWhile_imp hc
          · intro c hc
            have hhead := List.head?_dropWhile_not isNameChar more
            rw [Option.mem_def.mp hc] at hhead
            simpa using hhead
          · rw [List.cons_append, List.takeWhile_append_dropWhile]
  · exact ⟨[], .default, rfl⟩

/-- It is passed over wherever an equals sign comes next. -/
theorem afterBoundPrefix_of_isBound {bound gap : List Char}
    (hbound : IsBound (gap ++ ['=']) bound) (hgap : ∀ c ∈ gap, isBlank c = true)
    (more : List Char) : afterBoundPrefix (bound ++ (gap ++ '=' :: more)) = gap ++ '=' :: more := by
  have hhead : (gap ++ '=' :: more).head? = (gap ++ ['=']).head? := by
    cases gap <;> rfl
  cases hbound with
  | default =>
      rw [List.nil_append]
      cases gap with
      | nil => rfl
      | cons c gap =>
          rw [List.cons_append, afterBoundPrefix]
          rintro tail hcons
          obtain rfl := (List.cons.inj hcons).1
          exact absurd (hgap _ List.mem_cons_self) (by decide)
  | @named name hne hname hends =>
      rw [← hhead] at hends
      rw [List.cons_append, afterBoundPrefix, takeWhile_append_of_head? hname hends,
        dropWhile_append_of_head? hname hends, if_neg (by simpa using hne)]

/-- What is found as a declaration is one, and every one is found. -/
theorem afterDeclaration?_eq_some_iff :
    afterDeclaration? cs = some rest ↔ ∃ d, IsDeclaration d ∧ cs = d ++ rest := by
  constructor
  · intro h
    simp only [afterDeclaration?, Option.bind_eq_bind, Option.bind_eq_some_iff,
      afterWord?_eq_some_iff] at h
    obtain ⟨word, hword, binding, hbinding, quoted, hquoted, hvalue⟩ := h
    obtain ⟨space, hspace, hcs⟩ := exists_blanks cs
    obtain ⟨bound, hbound, hwordSplit⟩ := exists_isBound word
    obtain ⟨gap, hgap, hgapSplit⟩ := exists_blanks (afterBoundPrefix word)
    obtain ⟨gap', hgap', hgapSplit'⟩ := exists_blanks binding
    have hvalueSplit : quoted = quoted.takeWhile (· ≠ '"') ++ '"' :: rest := by
      rw [List.singleton_append] at hvalue
      rw [← hvalue, List.takeWhile_append_dropWhile]
    have hend : afterBoundPrefix word = gap ++ '=' :: binding := by
      rw [hgapSplit, hbinding]
      rfl
    have hbound : IsBound (gap ++ ['=']) bound := by
      rw [hend] at hbound
      cases hbound with
      | default => exact .default
      | named hne hname hends =>
          refine .named hne hname ?_
          cases gap with
          | nil => simpa using hends
          | cons c gap => simpa using hends
    have hquote : '"' ∉ quoted.takeWhile (· ≠ '"') := fun hmem => by
      simpa using List.mem_takeWhile_imp hmem
    refine ⟨_, .intro hspace hbound hgap hgap' hquote, ?_⟩
    have hbinding : binding = gap' ++ '"' :: quoted := by
      rw [hgapSplit', hquoted]
      rfl
    calc cs = space ++ ("xmlns".toList ++ word) := by rw [← hword]; exact hcs
      _ = space ++ ("xmlns".toList ++ (bound ++ (gap ++ '=' :: binding))) := by
        rw [← hend, ← hwordSplit]
      _ = space ++ ("xmlns".toList ++ (bound ++ (gap ++ '=' :: (gap' ++ '"' ::
            (quoted.takeWhile (· ≠ '"') ++ '"' :: rest))))) := by
        rw [← hvalueSplit, ← hbinding]
      _ = _ := by simp only [List.append_assoc, List.cons_append, List.nil_append]
  · rintro ⟨d, hd, rfl⟩
    cases hd with
    | @intro space bound gap gap' value hspace hbound hgap hgap' hvalue =>
        have hvalueEnd : (value ++ '"' :: rest).dropWhile (· ≠ '"') = '"' :: rest := by
          apply dropWhile_append_of_head?
          · intro c hc
            rw [decide_eq_true_eq]
            rintro rfl
            exact hvalue hc
          · simp
        have hword (more : List Char) :
            (space ++ ("xmlns".toList ++ more)).dropWhile isBlank = "xmlns".toList ++ more :=
          dropWhile_blanks hspace (by decide : isBlank 'x' = false)
            ('m' :: 'l' :: 'n' :: 's' :: more)
        have hmark (c : Char) (more : List Char) : afterWord? [c] (c :: more) = some more :=
          afterWord?_append [c] more
        simp only [List.append_assoc, List.cons_append, List.nil_append]
        rw [afterDeclaration?, hword, afterWord?_append]
        simp only [Option.bind_eq_bind, Option.bind_some, afterBoundPrefix_of_isBound hbound hgap,
          dropWhile_blanks hgap (by decide : isBlank '=' = false),
          dropWhile_blanks hgap' (by decide : isBlank '"' = false), hmark, hvalueEnd]

end Grammar

section Append

variable {cs back part rest : List Char} {m : Char}

/-- A part that ends with a character which `back` does not have ends before it. -/
theorem exists_append_of_getLast? (hlast : part.getLast? = some m) (hback : m ∉ back)
    (h : cs ++ back = part ++ rest) : ∃ tail, cs = part ++ tail := by
  obtain ⟨tail, rfl, rfl⟩ | ⟨tail, hcs, -⟩ := List.append_eq_append_iff.mp h
  · obtain rfl | ⟨front, d, rfl⟩ := List.eq_nil_or_concat tail
    · exact ⟨[], by rw [List.append_nil, List.append_nil]⟩
    · obtain rfl : d = m := by simpa using hlast
      exact absurd (by simp) hback
  · exact ⟨tail, hcs⟩

/-- A part without a character ends before it. -/
theorem exists_append_of_not_mem (hpart : m ∉ part) (h : cs ++ m :: back = part ++ rest) :
    ∃ tail, cs = part ++ tail := by
  obtain ⟨tail, rfl, htail⟩ | ⟨tail, hcs, -⟩ := List.append_eq_append_iff.mp h
  · cases tail with
    | nil => exact ⟨[], by rw [List.append_nil, List.append_nil]⟩
    | cons d tail =>
        obtain rfl := (List.cons.inj htail).1
        exact absurd (by simp) hpart
  · exact ⟨tail, hcs⟩

/-- There is one way to cut a text at its first `m`. -/
theorem append_inj_of_not_mem (hcs : m ∉ cs) (hpart : m ∉ part)
    (h : cs ++ m :: back = part ++ m :: rest) : cs = part ∧ back = rest := by
  obtain ⟨tail, rfl⟩ := exists_append_of_not_mem hpart h
  rw [List.append_assoc, List.append_cancel_left_eq] at h
  cases tail with
  | nil => exact ⟨List.append_nil _, (List.cons.inj h).2⟩
  | cons c tail =>
      obtain rfl := (List.cons.inj h).1
      exact absurd (by simp) hcs

end Append

section Declaration

variable {cs : List Char}

theorem removeDeclarations_of_some {c : Char} {rest : List Char} (hc : isBlank c = true)
    (h : afterDeclaration? cs = some rest) :
    removeDeclarations 0 (c :: cs) = removeDeclarations 0 rest := by
  obtain ⟨d, -, rfl⟩ := afterDeclaration?_eq_some_iff.mp h
  have hlength : (d ++ rest).length - rest.length = d.length := by
    rw [List.length_append, Nat.add_sub_cancel]
  rw [removeDeclarations_cons, if_pos hc, h]
  simp only [hlength]
  exact removeDeclarations_length d rest

theorem removeDeclarations_of_none {c : Char} (h : isBlank c = true → afterDeclaration? cs = none) :
    removeDeclarations 0 (c :: cs) = c :: removeDeclarations 0 cs := by
  rw [removeDeclarations_cons]
  cases hc : isBlank c with
  | true => rw [if_pos rfl, h hc]
  | false => rfl

/-- A character is a blank before a declaration, with which it is removed, or it stays. -/
theorem removeDeclarations_cases (c : Char) (cs : List Char) :
    (∃ d rest, isBlank c = true ∧ IsDeclaration d ∧ cs = d ++ rest ∧
      removeDeclarations 0 (c :: cs) = removeDeclarations 0 rest) ∨
      ((isBlank c = true → afterDeclaration? cs = none) ∧
        removeDeclarations 0 (c :: cs) = c :: removeDeclarations 0 cs) := by
  by_cases h : isBlank c = true → afterDeclaration? cs = none
  · exact .inr ⟨h, removeDeclarations_of_none h⟩
  · rw [Classical.not_imp] at h
    obtain ⟨rest, hrest⟩ := Option.ne_none_iff_exists'.mp h.2
    obtain ⟨d, hd, hcs⟩ := afterDeclaration?_eq_some_iff.mp hrest
    exact .inl ⟨d, rest, h.1, hd, hcs, removeDeclarations_of_some h.1 hrest⟩

theorem length_removeDeclarations_le (cs : List Char) :
    (removeDeclarations 0 cs).length ≤ cs.length := by
  match cs with
  | [] => exact Nat.le_refl 0
  | c :: cs =>
      obtain ⟨d, rest, -, -, hcs, hremoved⟩ | ⟨-, hkept⟩ := removeDeclarations_cases c cs
      · have hlength := congrArg List.length hcs
        rw [List.length_append] at hlength
        have hshorter : rest.length < cs.length + 1 := by omega
        have hle := length_removeDeclarations_le rest
        rw [hremoved, List.length_cons]
        omega
      · rw [hkept]
        exact Nat.succ_le_succ (length_removeDeclarations_le cs)
termination_by cs.length

theorem not_hasDeclaration_of_cons {c : Char} (h : ¬HasDeclaration (c :: cs)) :
    ¬HasDeclaration cs := by
  rintro ⟨front, blank, d, back, hblank, hd, rfl⟩
  exact h ⟨c :: front, blank, d, back, hblank, hd, rfl⟩

theorem removeDeclarations_of_not (h : ¬HasDeclaration cs) : removeDeclarations 0 cs = cs := by
  induction cs with
  | nil => rfl
  | cons c cs ih =>
      obtain ⟨d, rest, hc, hd, rfl, -⟩ | ⟨-, hkept⟩ := removeDeclarations_cases c cs
      · exact absurd ⟨[], c, d, rest, hc, hd, rfl⟩ h
      · rw [hkept, ih (not_hasDeclaration_of_cons h)]

/-- Where something looks like a declaration the text gets shorter. -/
theorem length_removeDeclarations_lt (h : HasDeclaration cs) :
    (removeDeclarations 0 cs).length < cs.length := by
  induction cs with
  | nil =>
      obtain ⟨front, blank, d, back, -, -, hnil⟩ := h
      simp at hnil
  | cons c cs ih =>
      obtain ⟨d, rest, -, -, rfl, hremoved⟩ | ⟨hnone, hkept⟩ := removeDeclarations_cases c cs
      · have hle := length_removeDeclarations_le rest
        rw [hremoved, List.length_cons, List.length_append]
        omega
      · obtain ⟨front, blank, d, back, hblank, hd, hcons⟩ := h
        cases front with
        | nil =>
            obtain ⟨rfl, rfl⟩ := List.cons.inj hcons
            have hfound : afterDeclaration? (d ++ back) = some back :=
              afterDeclaration?_eq_some_iff.mpr ⟨d, hd, rfl⟩
            rw [hnone hblank] at hfound
            cases hfound
        | cons c' front =>
            obtain ⟨rfl, rfl⟩ := List.cons.inj hcons
            rw [hkept]
            exact Nat.succ_lt_succ (ih ⟨front, blank, d, back, hblank, hd, rfl⟩)

theorem IsDeclaration.getLast? {d : List Char} (hd : IsDeclaration d) : d.getLast? = some '"' := by
  cases hd with
  | @intro space bound gap gap' value =>
      have hsplit : space ++ ("xmlns".toList ++ (bound ++
          (gap ++ '=' :: (gap' ++ '"' :: (value ++ ['"']))))) =
            (space ++ ("xmlns".toList ++ (bound ++ (gap ++ '=' :: (gap' ++ '"' :: value))))) ++
              ['"'] := by
        simp only [List.append_assoc, List.cons_append]
      rw [hsplit, List.getLast?_concat]

/-- One more blank in front makes it no less a declaration. -/
theorem IsDeclaration.cons {d : List Char} (hd : IsDeclaration d) {c : Char}
    (hc : isBlank c = true) : IsDeclaration (c :: d) := by
  cases hd with
  | intro hspace hbound hgap hgap' hvalue =>
      exact .intro (List.forall_mem_cons.mpr ⟨hc, hspace⟩) hbound hgap hgap' hvalue

/-- All blanks before a declaration are removed with it, so what is left does not end with a
blank when the text did not. -/
theorem endsInWord_removeDeclarations {cs : List Char} (h : EndsInWord cs) :
    removeDeclarations 0 cs = [] ∨ EndsInWord (removeDeclarations 0 cs) := by
  match cs with
  | [] => exact .inl rfl
  | c :: cs =>
      obtain ⟨d, rest, -, hd, hcs, hremoved⟩ | ⟨hnone, hkept⟩ := removeDeclarations_cases c cs
      · have hlength := congrArg List.length hcs
        rw [List.length_append] at hlength
        have hshorter : rest.length < cs.length + 1 := by omega
        rw [hremoved]
        by_cases hrest : rest = []
        · rw [hrest]
          exact .inl rfl
        · refine endsInWord_removeDeclarations ?_
          rwa [hcs, ← List.cons_append, endsInWord_append hrest] at h
      · rw [hkept]
        by_cases hcs : cs = []
        · exact .inr (hcs ▸ h)
        obtain hnil | hword := endsInWord_removeDeclarations ((endsInWord_cons hcs).mp h)
        · obtain ⟨c', cs, rfl⟩ := List.exists_cons_of_ne_nil hcs
          obtain ⟨d, rest, hc', hd, rfl, -⟩ | ⟨-, hkept'⟩ := removeDeclarations_cases c' cs
          · have hblank : isBlank c = false := by
              rw [← Bool.not_eq_true]
              intro hc
              have hfound : afterDeclaration? (c' :: (d ++ rest)) = some rest :=
                afterDeclaration?_eq_some_iff.mpr ⟨_, hd.cons hc', rfl⟩
              rw [hnone hc] at hfound
              cases hfound
            rw [hnil]
            exact .inr ⟨c, rfl, hblank⟩
          · rw [hkept'] at hnil
            cases hnil
        · exact .inr ((endsInWord_cons hword.ne_nil).mpr hword)
termination_by cs.length

/-- A declaration ends with a quotation mark, so none reaches into what has no such mark. -/
theorem removeDeclarations_append_of_not_mem {back : List Char} (h : '"' ∉ back)
    (cs : List Char) : removeDeclarations 0 (cs ++ back) = removeDeclarations 0 cs ++ back := by
  match cs with
  | [] => exact removeDeclarations_of_not_mem h
  | c :: cs =>
      obtain ⟨d, rest, hc, hd, hcs, hremoved⟩ | ⟨hnone, hkept⟩ := removeDeclarations_cases c cs
      · have hfound : afterDeclaration? (cs ++ back) = some (rest ++ back) :=
          afterDeclaration?_eq_some_iff.mpr ⟨d, hd, by rw [hcs, List.append_assoc]⟩
        have hlength := congrArg List.length hcs
        rw [List.length_append] at hlength
        have hshorter : rest.length < cs.length + 1 := by omega
        rw [hremoved, List.cons_append, removeDeclarations_of_some hc hfound,
          removeDeclarations_append_of_not_mem h rest]
      · have hnone' : isBlank c = true → afterDeclaration? (cs ++ back) = none := by
          intro hc
          rw [Option.eq_none_iff_forall_ne_some]
          intro rest hrest
          obtain ⟨d, hd, hsplit⟩ := afterDeclaration?_eq_some_iff.mp hrest
          obtain ⟨tail, rfl⟩ := exists_append_of_getLast? hd.getLast? h hsplit
          have hfound : afterDeclaration? (d ++ tail) = some tail :=
            afterDeclaration?_eq_some_iff.mpr ⟨d, hd, rfl⟩
          rw [hnone hc] at hfound
          cases hfound
        rw [List.cons_append, removeDeclarations_of_none hnone', hkept,
          removeDeclarations_append_of_not_mem h cs, List.cons_append]
termination_by cs.length

/-- Before its first quotation mark a declaration ends with a blank or the equals sign. -/
theorem IsDeclaration.exists_head {d : List Char} (hd : IsDeclaration d) :
    ∃ head tail, d = head ++ '"' :: tail ∧ (∀ c ∈ head, isDeclarationChar c = true) ∧
      ∃ c ∈ head.getLast?, isBlank c = true ∨ c = '=' := by
  cases hd with
  | @intro space bound gap gap' value hspace hbound hgap hgap' hvalue =>
      have hblanks {blanks : List Char} (h : ∀ c ∈ blanks, isBlank c = true) :
          ∀ c ∈ blanks, isDeclarationChar c = true :=
        fun c hc => by simp [isDeclarationChar, h c hc]
      have hbound : ∀ c ∈ bound, isDeclarationChar c = true := by
        cases hbound with
        | default => exact List.forall_mem_nil _
        | named hne hname hends =>
            exact List.forall_mem_cons.mpr
              ⟨by decide, fun c hc => by simp [isDeclarationChar, hname c hc]⟩
      have hword : ∀ c ∈ "xmlns".toList, isDeclarationChar c = true :=
        List.all_eq_true.mp (by decide)
      refine ⟨(space ++ ("xmlns".toList ++ (bound ++ gap))) ++ '=' :: gap', value ++ ['"'],
        by simp, ?_, ?_⟩
      · simp only [List.forall_mem_append, List.forall_mem_cons]
        exact ⟨⟨hblanks hspace, hword, hbound, hblanks hgap⟩, by decide, hblanks hgap'⟩
      · rw [List.getLast?_append_of_ne_nil _ (List.cons_ne_nil _ _)]
        obtain rfl | ⟨gap', c, rfl⟩ := List.eq_nil_or_concat' gap'
        · exact ⟨'=', rfl, .inr rfl⟩
        · refine ⟨c, ?_, .inl (hgap' c (by simp))⟩
          rw [← List.cons_append, List.getLast?_concat]
          rfl

/-- What begins no declaration stays as it is. -/
theorem removeDeclarations_append_of_none {front stop : List Char}
    (h : ∀ tail, tail <:+ front → afterDeclaration? (tail ++ stop) = none) :
    removeDeclarations 0 (front ++ stop) = front ++ removeDeclarations 0 stop := by
  induction front with
  | nil => rfl
  | cons c front ih =>
      have hfront : front <:+ c :: front := List.suffix_cons c front
      rw [List.cons_append, removeDeclarations_of_none fun _ => h front hfront,
        ih fun tail htail => h tail (htail.trans hfront), List.cons_append]

/-- What has no quotation mark stays up to an angle bracket. -/
theorem removeDeclarations_bracket {front : List Char} (h : '"' ∉ front) {m : Char}
    (hm : m = '<' ∨ m = '>') (rest : List Char) :
    removeDeclarations 0 (front ++ m :: rest) = front ++ m :: removeDeclarations 0 rest := by
  obtain ⟨hblank, hchar, hquote⟩ :
      isBlank m = false ∧ isDeclarationChar m = false ∧ m ≠ '"' := by
    rcases hm with rfl | rfl <;> decide
  have hstop : removeDeclarations 0 (m :: rest) = m :: removeDeclarations 0 rest :=
    removeDeclarations_of_none fun hm => by rw [hblank] at hm; cases hm
  rw [removeDeclarations_append_of_none ?_, hstop]
  intro tail htail
  rw [Option.eq_none_iff_forall_ne_some]
  intro after hafter
  obtain ⟨d, hd, hsplit⟩ := afterDeclaration?_eq_some_iff.mp hafter
  obtain ⟨head, value, rfl, hhead, -⟩ := hd.exists_head
  have hnot : m ∉ head := fun hmem => by
    rw [hhead m hmem] at hchar
    cases hchar
  rw [List.append_assoc, List.cons_append] at hsplit
  obtain ⟨more, rfl⟩ := exists_append_of_not_mem hnot hsplit
  rw [List.append_assoc, List.append_cancel_left_eq] at hsplit
  cases more with
  | nil => exact hquote (List.cons.inj hsplit).1
  | cons c more =>
      obtain rfl := (List.cons.inj hsplit).1
      exact h (htail.subset (by simp))

end Declaration

section Tag

variable {cs : List Char}

theorem prefixLength?_eq_some_iff {n : Nat} :
    prefixLength? cs = some n ↔ ∃ name back, name ≠ [] ∧ (∀ c ∈ name, isNameChar c = true) ∧
      cs = name ++ ':' :: back ∧ n = (name ++ [':']).length := by
  constructor
  · intro h
    simp only [prefixLength?, Option.ite_none_right_eq_some, Bool.and_eq_true, Bool.not_eq_true',
      beq_iff_eq, Option.some.injEq] at h
    obtain ⟨⟨hne, hhead⟩, rfl⟩ := h
    rw [List.isEmpty_eq_false_iff] at hne
    obtain ⟨back, hback⟩ := List.head?_eq_some_iff.mp hhead
    obtain ⟨tail, htail⟩ := List.takeWhile_prefix isNameChar (l := cs)
    refine ⟨cs.takeWhile isNameChar, back, hne, fun _ hc => List.mem_takeWhile_imp hc, ?_, by simp⟩
    have hdrop : cs.drop (cs.takeWhile isNameChar).length = tail := by
      have hleft : (cs.takeWhile isNameChar ++ tail).drop (cs.takeWhile isNameChar).length = tail :=
        List.drop_left
      rwa [htail] at hleft
    rw [← hback, hdrop, htail]
  · rintro ⟨name, back, hne, hname, rfl, rfl⟩
    have hcolon : ∀ c ∈ (':' :: back).head?, isNameChar c = false := by
      intro c hc
      obtain rfl : ':' = c := by simpa using hc
      decide
    rw [prefixLength?, takeWhile_append_of_head? hname hcolon, List.drop_left,
      if_pos (by simp [hne]), List.length_append]
    rfl

/-- The prefix of a tag is removed. -/
theorem removePrefixes_of_isPrefixedTag {kept tag : List Char} (h : IsPrefixedTag kept tag)
    (rest : List Char) : removePrefixes 0 (tag ++ rest) = kept ++ removePrefixes 0 rest := by
  cases h with
  | @intro slash name hslash hne hname =>
      have hlength : prefixLength? (name ++ ':' :: rest) = some (name ++ [':']).length :=
        prefixLength?_eq_some_iff.mpr ⟨name, rest, hne, hname, rfl, rfl⟩
      have hskip := removePrefixes_length (name ++ [':']) rest
      rw [List.append_assoc, List.singleton_append] at hskip
      obtain rfl | rfl := hslash
      · simp only [List.nil_append, List.cons_append, List.append_assoc]
        rw [removePrefixes, hlength, Option.getD_some, hskip]
        rintro tail htail
        obtain ⟨c, name, rfl⟩ := List.exists_cons_of_ne_nil hne
        obtain rfl := (List.cons.inj htail).1
        exact absurd (hname _ List.mem_cons_self) (by decide)
      · simp only [List.nil_append, List.cons_append, List.append_assoc]
        rw [removePrefixes, hlength, Option.getD_some, hskip]

/-- What does not begin such a tag stays. -/
theorem removePrefixes_of_not {c : Char}
    (h : ∀ kept tag rest, IsPrefixedTag kept tag → c :: cs ≠ tag ++ rest) :
    removePrefixes 0 (c :: cs) = c :: removePrefixes 0 cs := by
  by_cases hc : c = '<'
  · subst hc
    have hnone {slash cs' : List Char} (hslash : slash = [] ∨ slash = ['/'])
        (hcs : cs = slash ++ cs') : prefixLength? cs' = none := by
      rw [Option.eq_none_iff_forall_ne_some]
      intro n hn
      obtain ⟨name, back, hne, hname, rfl, -⟩ := prefixLength?_eq_some_iff.mp hn
      exact h _ _ back (.intro hslash hne hname) (by simp [hcs])
    by_cases hslash : ∃ tail, cs = '/' :: tail
    · obtain ⟨tail, rfl⟩ := hslash
      have hplain := removePrefixes_append (by decide : '<' ∉ ['/']) tail
      rw [removePrefixes, hnone (.inr rfl) rfl]
      exact congrArg ('<' :: ·) hplain.symm
    · rw [removePrefixes, hnone (.inl rfl) rfl]
      · rfl
      · exact fun tail htail => hslash ⟨tail, htail⟩
  · exact removePrefixes_append (by simpa using Ne.symm hc : '<' ∉ [c]) cs

/-- A text begins with a tag that has a prefix, of which the prefix is removed, or its first
character stays. -/
theorem removePrefixes_cases (c : Char) (cs : List Char) :
    (∃ kept tag rest, IsPrefixedTag kept tag ∧ c :: cs = tag ++ rest ∧
      removePrefixes 0 (c :: cs) = kept ++ removePrefixes 0 rest) ∨
      ((∀ kept tag rest, IsPrefixedTag kept tag → c :: cs ≠ tag ++ rest) ∧
        removePrefixes 0 (c :: cs) = c :: removePrefixes 0 cs) := by
  by_cases h : ∀ kept tag rest, IsPrefixedTag kept tag → c :: cs ≠ tag ++ rest
  · exact .inr ⟨h, removePrefixes_of_not h⟩
  · obtain ⟨kept, tag, rest, htag, hcs⟩ : ∃ kept tag rest, IsPrefixedTag kept tag ∧
        c :: cs = tag ++ rest := by
      simpa [Classical.not_forall] using h
    exact .inl ⟨kept, tag, rest, htag, hcs, hcs ▸ removePrefixes_of_isPrefixedTag htag rest⟩

theorem IsPrefixedTag.length_lt {kept tag : List Char} (h : IsPrefixedTag kept tag) :
    kept.length < tag.length := by
  cases h with
  | @intro slash name hslash hne hname => simp

theorem not_hasPrefixedTag_of_cons {c : Char} (h : ¬HasPrefixedTag (c :: cs)) :
    ¬HasPrefixedTag cs := by
  rintro ⟨front, kept, tag, back, htag, rfl⟩
  exact h ⟨c :: front, kept, tag, back, htag, rfl⟩

theorem removePrefixes_eq_self (h : ¬HasPrefixedTag cs) : removePrefixes 0 cs = cs := by
  induction cs with
  | nil => rfl
  | cons c cs ih =>
      obtain ⟨kept, tag, rest, htag, hcs, -⟩ | ⟨-, hkept⟩ := removePrefixes_cases c cs
      · exact absurd ⟨[], kept, tag, rest, htag, hcs⟩ h
      · rw [hkept, ih (not_hasPrefixedTag_of_cons h)]

theorem length_removePrefixes_le (cs : List Char) :
    (removePrefixes 0 cs).length ≤ cs.length := by
  match cs with
  | [] => exact Nat.le_refl 0
  | c :: cs =>
      obtain ⟨kept, tag, rest, htag, hcs, hremoved⟩ | ⟨-, hkept⟩ := removePrefixes_cases c cs
      · have hlt := htag.length_lt
        have hlength := congrArg List.length hcs
        rw [List.length_append, List.length_cons] at hlength
        have hshorter : rest.length < cs.length + 1 := by omega
        have hle := length_removePrefixes_le rest
        rw [hremoved, List.length_append, List.length_cons]
        omega
      · rw [hkept]
        exact Nat.succ_le_succ (length_removePrefixes_le cs)
termination_by cs.length

/-- Where something looks like a tag with a prefix the text gets shorter. -/
theorem length_removePrefixes_lt (h : HasPrefixedTag cs) :
    (removePrefixes 0 cs).length < cs.length := by
  induction cs with
  | nil =>
      obtain ⟨front, kept, tag, back, htag, hnil⟩ := h
      have hlt := htag.length_lt
      simp only [List.nil_eq, List.append_eq_nil_iff] at hnil
      simp [hnil.2.1] at hlt
  | cons c cs ih =>
      obtain ⟨kept, tag, rest, htag, hcs, hremoved⟩ | ⟨hnone, hkept⟩ := removePrefixes_cases c cs
      · have hlt := htag.length_lt
        have hle := length_removePrefixes_le rest
        rw [hremoved, hcs, List.length_append, List.length_append]
        omega
      · obtain ⟨front, kept, tag, back, htag, hcons⟩ := h
        cases front with
        | nil => exact absurd hcons (hnone kept tag back htag)
        | cons c' front =>
            obtain ⟨rfl, rfl⟩ := List.cons.inj hcons
            rw [hkept]
            exact Nat.succ_lt_succ (ih ⟨front, kept, tag, back, htag, rfl⟩)

/-- Of a tag that has a prefix its bounds stay, so nothing else begins or ends the text. -/
theorem beginsWithWord_removePrefixes (h : BeginsWithWord cs) :
    BeginsWithWord (removePrefixes 0 cs) := by
  obtain ⟨c, hc, hblank⟩ := h
  obtain ⟨tail, rfl⟩ := List.head?_eq_some_iff.mp hc
  obtain ⟨kept, tag, rest, htag, hcs, hremoved⟩ | ⟨-, hkept⟩ := removePrefixes_cases c tail
  · rw [hremoved]
    cases htag
    exact ⟨'<', rfl, by decide⟩
  · rw [hkept]
    exact ⟨c, rfl, hblank⟩

theorem endsInWord_removePrefixes {cs : List Char} (h : EndsInWord cs) :
    EndsInWord (removePrefixes 0 cs) := by
  match cs with
  | [] => exact h
  | c :: cs =>
      obtain ⟨kept, tag, rest, htag, hcs, hremoved⟩ | ⟨-, hkept⟩ := removePrefixes_cases c cs
      · have hlt := htag.length_lt
        have hlength := congrArg List.length hcs
        rw [List.length_append, List.length_cons] at hlength
        have hshorter : rest.length < cs.length + 1 := by omega
        rw [hremoved]
        by_cases hrest : rest = []
        · subst hrest
          cases htag with
          | @intro slash name hslash hne hname =>
              obtain rfl | rfl := hslash
              · exact ⟨'<', rfl, by decide⟩
              · exact ⟨'/', rfl, by decide⟩
        · rw [hcs, endsInWord_append hrest] at h
          have hword := endsInWord_removePrefixes h
          exact (endsInWord_append hword.ne_nil).mpr hword
      · rw [hkept]
        by_cases hcs : cs = []
        · exact hcs ▸ h
        · have hword := endsInWord_removePrefixes ((endsInWord_cons hcs).mp h)
          exact (endsInWord_cons hword.ne_nil).mpr hword
termination_by cs.length

/-- A tag with a prefix has no square bracket, so none reaches beyond one. -/
theorem removePrefixes_append_bracket (cs back : List Char) :
    removePrefixes 0 (cs ++ ']' :: back) =
      removePrefixes 0 cs ++ removePrefixes 0 (']' :: back) := by
  match cs with
  | [] => rfl
  | c :: cs =>
      obtain ⟨kept, tag, rest, htag, hcs, hremoved⟩ | ⟨hnone, hkept⟩ := removePrefixes_cases c cs
      · have hlt := htag.length_lt
        have hlength := congrArg List.length hcs
        rw [List.length_append, List.length_cons] at hlength
        have hshorter : rest.length < cs.length + 1 := by omega
        rw [hremoved, hcs, List.append_assoc, removePrefixes_of_isPrefixedTag htag,
          removePrefixes_append_bracket rest back, List.append_assoc]
      · have hnone' : ∀ kept tag rest, IsPrefixedTag kept tag →
            c :: (cs ++ ']' :: back) ≠ tag ++ rest := by
          intro kept tag rest htag hsplit
          have hbracket : ']' ∉ tag := by
            cases htag with
            | @intro slash name hslash hne hname =>
                have hmem : ']' ∉ name := fun hmem => absurd (hname _ hmem) (by decide)
                obtain rfl | rfl := hslash <;> simp [hmem]
          rw [← List.cons_append] at hsplit
          obtain ⟨tail, htail⟩ := exists_append_of_not_mem hbracket hsplit
          exact hnone kept tag tail htag htail
        rw [List.cons_append, removePrefixes_of_not hnone', hkept,
          removePrefixes_append_bracket cs back, List.cons_append]
termination_by cs.length

end Tag

end MetadataHarvest.Protocol
