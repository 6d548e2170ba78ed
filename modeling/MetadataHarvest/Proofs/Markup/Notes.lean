import MetadataHarvest.Proofs.Markup.RoundTrip
import Mathlib.Data.List.TakeWhile

/-!
# Texts without their notes

Comments and processing instructions are notes. When some of them are taken out of a text, the
tokens of what is left are the other tokens of the text, except that character data which a note
parted is one token now. What carries the proof is that a token which ends before the text does is
read from its own characters alone, whatever follows them.

## Implementation notes

A comment inside of a document type declaration is part of the declaration, as it is for a reader.
-/

namespace MetadataHarvest.Markup

open MetadataHarvest.Text

/-- Whether a token is a comment or a processing instruction. -/
def Token.isNote : Token → Bool
  | .comment _ | .instruction _ => true
  | _ => false

/-- The text without the tokens in `drops`. -/
def without (drops : Token → Bool) (cs : List Char) : List Char :=
  match _h : Token.next? cs with
  | none => cs
  | some (t, rest) =>
    if drops t then without drops rest
    else cs.take (cs.length - rest.length) ++ without drops rest
termination_by cs.length
decreasing_by all_goals exact Token.length_of_next? _h

/-- A token before others, with which character data becomes one. -/
def Token.join : Token → List Token → List Token
  | .text raw, .text raw' :: ts => .text (raw ++ raw') :: ts
  | t, ts => t :: ts

/-- The tokens without those in `drops`, where character data that is adjacent then is joined. -/
def dropTokens (drops : Token → Bool) (ts : List Token) : List Token :=
  (ts.filter (!drops ·)).foldr Token.join []

variable {cs front rest body : List Char} {t : Token} {ts : List Token}

section Scanners

/-- A mark is found in the same place when something else follows it. -/
theorem breakOn?_local {mark : List Char} (hmark : mark ≠ [])
    (h : breakOn? mark cs = some (front, rest)) (more : List Char) :
    breakOn? mark (front ++ (mark ++ more)) = some (front, more) := by
  induction cs generalizing front with
  | nil => cases h
  | cons c cs ih =>
      rw [breakOn?] at h
      split at h
      · obtain ⟨rfl, -⟩ := Prod.mk.inj (Option.some.inj h)
        obtain ⟨m, mark, rfl⟩ := List.exists_cons_of_ne_nil hmark
        simp [breakOn?]
      · next hprefix =>
          obtain ⟨⟨front, back⟩, hback, hparts⟩ := Option.map_eq_some_iff.mp h
          obtain ⟨rfl, rfl⟩ := Prod.mk.inj hparts
          have hsplit := append_of_breakOn? hback
          have hnot : ¬mark.isPrefixOf (c :: (front ++ (mark ++ more))) = true := by
            intro hearly
            apply hprefix
            rw [List.isPrefixOf_iff_prefix] at hearly ⊢
            have hinside : mark <+: c :: (front ++ mark) := by
              apply List.prefix_of_prefix_length_le hearly
              · simp
              · simp only [List.length_cons, List.length_append]
                omega
            rw [← hsplit]
            exact hinside.trans (List.prefix_append (c :: (front ++ mark)) back)
          rw [List.cons_append, breakOn?, if_neg hnot, ih hback]
          rfl

/-- The body of a tag ends with the same bracket when something else follows it. -/
theorem Token.tagBody?_local {quote : Option Char} (h : tagBody? quote cs = some (body, rest)) :
    body ++ '>' :: rest = cs ∧
      ∀ more, tagBody? quote (body ++ '>' :: more) = some (body, more) := by
  induction cs generalizing quote body with
  | nil => cases h
  | cons c cs ih =>
      simp only [tagBody?] at h
      split at h
      · next hend =>
          obtain ⟨rfl, rfl⟩ := Prod.mk.inj (Option.some.inj h)
          rw [Bool.and_eq_true, decide_eq_true_eq] at hend
          obtain ⟨rfl, hnone⟩ := hend
          exact ⟨rfl, fun more => by simp [tagBody?, hnone]⟩
      · next hgoes =>
          obtain ⟨⟨body, after⟩, hbody, hparts⟩ := Option.map_eq_some_iff.mp h
          obtain ⟨rfl, rfl⟩ := Prod.mk.inj hparts
          obtain ⟨hsplit, hlocal⟩ := ih hbody
          refine ⟨by rw [List.cons_append, hsplit], fun more => ?_⟩
          simp only [List.cons_append, tagBody?]
          rw [if_neg hgoes, hlocal]
          rfl

theorem Token.doctypeBody?_local {depth : Nat} (h : doctypeBody? depth cs = some (body, rest)) :
    body ++ '>' :: rest = cs ∧
      ∀ more, doctypeBody? depth (body ++ '>' :: more) = some (body, more) := by
  induction cs generalizing depth body with
  | nil => cases h
  | cons c cs ih =>
      simp only [doctypeBody?] at h
      split at h
      · next hend =>
          obtain ⟨rfl, rfl⟩ := Prod.mk.inj (Option.some.inj h)
          rw [Bool.and_eq_true, decide_eq_true_eq, decide_eq_true_eq] at hend
          obtain ⟨rfl, rfl⟩ := hend
          exact ⟨rfl, fun more => by simp [doctypeBody?]⟩
      · next hgoes =>
          obtain ⟨⟨body, after⟩, hbody, hparts⟩ := Option.map_eq_some_iff.mp h
          obtain ⟨rfl, rfl⟩ := Prod.mk.inj hparts
          obtain ⟨hsplit, hlocal⟩ := ih hbody
          refine ⟨by rw [List.cons_append, hsplit], fun more => ?_⟩
          simp only [List.cons_append, doctypeBody?]
          rw [if_neg hgoes, hlocal]
          rfl

theorem afterIgnoringCase?_local {mark : List Char} (h : afterIgnoringCase? mark cs = some rest) :
    ∃ front, front.length = mark.length ∧ front ++ rest = cs ∧
      ∀ more, afterIgnoringCase? mark (front ++ more) = some more := by
  unfold afterIgnoringCase? at h
  split at h
  · next htake =>
      obtain rfl := Option.some.inj h
      have hlength : (cs.take mark.length).length = mark.length := by
        rw [← List.length_map (f := Char.toLower), htake, List.length_map]
      refine ⟨_, hlength, List.take_append_drop _ _, fun more => ?_⟩
      rw [afterIgnoringCase?, List.take_left' hlength, List.drop_left' hlength, if_pos htake]
  · cases h

/-- Whether a mark is missing can be seen in as many characters as the mark has. -/
theorem afterIgnoringCase?_local_none {mark : List Char} (hlength : mark.length ≤ front.length)
    (h : afterIgnoringCase? mark (front ++ rest) = none) (more : List Char) :
    afterIgnoringCase? mark (front ++ more) = none := by
  unfold afterIgnoringCase? at h ⊢
  rw [List.take_append_of_le_length hlength] at h ⊢
  split at h
  · cases h
  · next hne => rw [if_neg hne]

/-- A text up to a closing bracket, where the text goes on behind it. -/
theorem exists_bracket (hrest : (cs.dropWhile (· ≠ '>')).drop 1 ≠ []) :
    cs.takeWhile (· ≠ '>') ++ '>' :: (cs.dropWhile (· ≠ '>')).drop 1 = cs := by
  cases hdrop : cs.dropWhile (· ≠ '>') with
  | nil =>
      rw [hdrop] at hrest
      exact absurd rfl hrest
  | cons c tail =>
      have hc := List.head?_dropWhile_not (· ≠ '>') cs
      rw [hdrop] at hc
      obtain rfl : c = '>' := by simpa using hc
      rw [List.drop_one, List.tail_cons, ← hdrop, List.takeWhile_append_dropWhile]

theorem takeWhile_bracket (cs more : List Char) :
    (cs.takeWhile (· ≠ '>') ++ '>' :: more).takeWhile (· ≠ '>') = cs.takeWhile (· ≠ '>') :=
  takeWhile_append_of_head? (fun _ hc => List.mem_takeWhile_imp (p := (· ≠ '>')) hc) (by simp)

theorem dropWhile_bracket (cs more : List Char) :
    (cs.takeWhile (· ≠ '>') ++ '>' :: more).dropWhile (· ≠ '>') = '>' :: more :=
  dropWhile_append_of_head? (fun _ hc => List.mem_takeWhile_imp (p := (· ≠ '>')) hc) (by simp)

end Scanners

namespace Token

/-- What stands between two marks ends in the same place when something else follows it. -/
theorem section_local {opening closing content after : List Char} (hclosing : closing ≠ [])
    (hopening : afterIgnoringCase? opening cs = some after)
    (hbreak : breakOn? closing after = some (content, rest)) :
    ∃ front, opening.length ≤ front.length ∧ front ++ rest = cs ∧
      ∀ more, ∃ after', afterIgnoringCase? opening (front ++ more) = some after' ∧
        breakOn? closing after' = some (content, more) := by
  obtain ⟨front, hlength, rfl, hlocal⟩ := afterIgnoringCase?_local hopening
  have hsplit := append_of_breakOn? hbreak
  refine ⟨front ++ (content ++ closing), ?_, by rw [List.append_assoc, hsplit], fun more => ?_⟩
  · rw [List.length_append, hlength]
    exact Nat.le_add_right _ _
  · have hmore := breakOn?_local hclosing hbreak more
    rw [← List.append_assoc] at hmore
    exact ⟨_, by rw [List.append_assoc, hlocal], hmore⟩

/-- What begins with an exclamation mark ends in the same place when something else follows it. -/
theorem declaration_local (h : declaration cs = (t, rest)) (hrest : rest ≠ []) :
    ∃ front, front ++ rest = cs ∧ ∀ more, declaration (front ++ more) = (t, more) := by
  unfold declaration at h
  split at h
  · next after hmark =>
      split at h
      · next content rest' hbreak =>
          obtain ⟨rfl, rfl⟩ := Prod.mk.inj h
          obtain ⟨front, -, rfl, hlocal⟩ := section_local (by decide) hmark hbreak
          refine ⟨front, rfl, fun more => ?_⟩
          obtain ⟨after', hmark', hbreak'⟩ := hlocal more
          simp only [declaration, hmark', hbreak']
      · cases h
        exact absurd rfl hrest
  · next hcomment =>
      have hcomment := Option.eq_none_iff_forall_ne_some.mpr hcomment
      split at h
      · next after hmark =>
          split at h
          · next content rest' hbreak =>
              obtain ⟨rfl, rfl⟩ := Prod.mk.inj h
              obtain ⟨front, hlength, rfl, hlocal⟩ := section_local (by decide) hmark hbreak
              have hnone := afterIgnoringCase?_local_none (le_trans (by decide) hlength) hcomment
              refine ⟨front, rfl, fun more => ?_⟩
              obtain ⟨after', hmark', hbreak'⟩ := hlocal more
              simp only [declaration, hnone, hmark', hbreak']
          · cases h
            exact absurd rfl hrest
      · next hcdata =>
          have hcdata := Option.eq_none_iff_forall_ne_some.mpr hcdata
          split at h
          · next after hmark =>
              obtain ⟨front, hlength, rfl, hlocal⟩ := afterIgnoringCase?_local hmark
              have hnone := afterIgnoringCase?_local_none (by rw [hlength]; decide) hcomment
              have hnone' := afterIgnoringCase?_local_none (by rw [hlength]; decide) hcdata
              split at h
              · next content rest' hbody =>
                  split at h
                  · cases h
                    exact absurd rfl hrest
                  · next hfilled =>
                      obtain ⟨rfl, rfl⟩ := Prod.mk.inj h
                      obtain ⟨hsplit, hmore⟩ := doctypeBody?_local hbody
                      refine ⟨front ++ (content ++ ['>']), by simp [← hsplit], fun more => ?_⟩
                      simp only [declaration, List.append_assoc, List.singleton_append, hnone,
                        hnone', hlocal, hmore, if_neg hfilled]
              · cases h
                exact absurd rfl hrest
          · cases h
            exact absurd rfl hrest

theorem processing_local (h : processing cs = (t, rest)) (hrest : rest ≠ []) :
    ∃ front, front ++ rest = cs ∧ ∀ more, processing (front ++ more) = (t, more) := by
  unfold processing at h
  dsimp only at h
  split at h
  · next hbody =>
      obtain ⟨rfl, rfl⟩ := Prod.mk.inj h
      refine ⟨cs.takeWhile (· ≠ '>') ++ ['>'], ?_, fun more => ?_⟩
      · rw [List.append_assoc, List.singleton_append, exists_bracket hrest]
      · rw [List.append_assoc, List.singleton_append, processing, takeWhile_bracket,
          dropWhile_bracket, if_pos hbody]
        rfl
  · cases h
    exact absurd rfl hrest

/-- A tag, a section, a note or a declaration that ends before the text does is read from its own
characters alone. -/
theorem markup?_local (h : markup? cs = some (t, rest)) (hrest : rest ≠ []) :
    ∃ front, front ++ rest = cs ∧ ∀ more, markup? (front ++ more) = some (t, more) := by
  unfold markup? at h
  split at h
  · cases h
  · next cs =>
      obtain ⟨front, rfl, hlocal⟩ := declaration_local (Option.some.inj h) hrest
      exact ⟨'!' :: front, rfl, fun more => congrArg some (hlocal more)⟩
  · next cs =>
      obtain ⟨front, rfl, hlocal⟩ := processing_local (Option.some.inj h) hrest
      exact ⟨'?' :: front, rfl, fun more => congrArg some (hlocal more)⟩
  · next cs =>
      obtain ⟨rfl, rfl⟩ := Prod.mk.inj (Option.some.inj h)
      refine ⟨'/' :: (cs.takeWhile (· ≠ '>') ++ ['>']), ?_, fun more => ?_⟩
      · simp only [List.cons_append, List.append_assoc, List.nil_append, exists_bracket hrest]
      · simp only [List.cons_append, List.append_assoc, List.nil_append, markup?, takeWhile_bracket,
          dropWhile_bracket, List.drop_one, List.tail_cons]
  · next hnil hmark hquestion hslash =>
      have h := Option.some.inj h
      split at h
      · next body rest' hbody =>
          obtain ⟨rfl, rfl⟩ := Prod.mk.inj h
          obtain ⟨rfl, hlocal⟩ := tagBody?_local hbody
          refine ⟨body ++ ['>'], by simp, fun more => ?_⟩
          -- The first character is the same, whatever follows the tag.
          obtain ⟨c, hc⟩ : ∃ c, ∀ more, ∃ tail, body ++ '>' :: more = c :: tail := by
            cases body with
            | nil => exact ⟨'>', fun more => ⟨more, rfl⟩⟩
            | cons c body => exact ⟨c, fun more => ⟨body ++ '>' :: more, rfl⟩⟩
          obtain ⟨tail, htail⟩ := hc rest'
          obtain ⟨tail', htail'⟩ := hc more
          rw [htail] at hmark hquestion hslash
          rw [List.append_assoc, List.singleton_append, htail', markup?_cons, ← htail', hlocal]
          · rintro rfl
            exact hmark tail rfl
          · rintro rfl
            exact hquestion tail rfl
          · rintro rfl
            exact hslash tail rfl
      · cases h
        exact absurd rfl hrest

theorem declaration_ne_text (cs raw : List Char) : (declaration cs).1 ≠ .text raw := by
  unfold declaration
  repeat' split
  all_goals exact nofun

theorem processing_ne_text (cs raw : List Char) : (processing cs).1 ≠ .text raw := by
  unfold processing
  dsimp only
  split <;> exact nofun

/-- No character data begins with an opening bracket. -/
theorem ne_text_of_markup? (h : markup? cs = some (t, rest)) (raw : List Char) :
    t ≠ .text raw := by
  unfold markup? at h
  split at h
  · cases h
  · next cs =>
      have hne := declaration_ne_text cs raw
      rwa [Option.some.inj h] at hne
  · next cs =>
      have hne := processing_ne_text cs raw
      rwa [Option.some.inj h] at hne
  · obtain ⟨rfl, -⟩ := Prod.mk.inj (Option.some.inj h)
    exact nofun
  · have h := Option.some.inj h
    split at h
    · obtain ⟨rfl, -⟩ := Prod.mk.inj h
      exact nofun
    · obtain ⟨rfl, -⟩ := Prod.mk.inj h
      exact nofun

/-- A token takes some characters from the front of a text. It is character data up to the next
bracket, or something else, and then what follows it does not matter unless the text is over. -/
theorem exists_of_next? (h : next? cs = some (t, rest)) :
    ∃ front, front ++ rest = cs ∧
      (t = .text front ∧ front ≠ [] ∧ '<' ∉ front ∧ AtTag rest ∨
        (∀ raw, t ≠ .text raw) ∧
          (rest = [] ∨ ∀ more, next? (front ++ more) = some (t, more))) := by
  unfold next? at h
  split at h
  · cases h
  · next cs =>
      have hne := ne_text_of_markup? h
      by_cases hrest : rest = []
      · subst hrest
        exact ⟨_, List.append_nil _, .inr ⟨hne, .inl rfl⟩⟩
      · obtain ⟨front, rfl, hlocal⟩ := markup?_local h hrest
        exact ⟨'<' :: front, rfl, .inr ⟨hne, .inr hlocal⟩⟩
  · next c cs hc =>
      obtain ⟨rfl, rfl⟩ := Prod.mk.inj (Option.some.inj h)
      refine ⟨c :: cs.takeWhile (· ≠ '<'), ?_, .inl ⟨rfl, List.cons_ne_nil _ _, ?_, ?_⟩⟩
      · rw [List.cons_append, List.takeWhile_append_dropWhile]
      · rw [List.mem_cons, not_or]
        refine ⟨fun heq => hc heq.symm, fun hmem => ?_⟩
        simpa using List.mem_takeWhile_imp (p := (· ≠ '<')) hmem
      · intro d hd
        have hstop := List.head?_dropWhile_not (· ≠ '<') cs
        rw [Option.mem_def.mp hd] at hstop
        simpa using hstop

end Token

section Tokens

variable {drops : Token → Bool} {raw : List Char}

theorem Token.join_of_ne_text (h : ∀ raw, t ≠ .text raw) (ts : List Token) :
    t.join ts = t :: ts := by
  unfold join
  split
  · exact absurd rfl (h _)
  · rfl

theorem dropTokens_cons (drops : Token → Bool) (t : Token) (ts : List Token) :
    dropTokens drops (t :: ts) =
      if drops t then dropTokens drops ts else t.join (dropTokens drops ts) := by
  cases h : drops t with
  | true => simp [dropTokens, h]
  | false => simp [dropTokens, h]

theorem Token.join_append_cons (ht : ∀ raw, t ≠ .text raw) (u : Token) (us ts : List Token) :
    u.join (us ++ t :: ts) = u.join us ++ t :: ts := by
  cases us with
  | nil =>
      have halone : u.join [] = [u] := by cases u <;> rfl
      rw [List.nil_append, halone]
      unfold join
      split
      · next heq => exact absurd (List.cons.inj heq).1 (ht _)
      · rfl
  | cons v vs => cases u <;> cases v <;> rfl

/-- What is kept and no character data parts the tokens before it from those after it. -/
theorem dropTokens_append_cons (ht : ∀ raw, t ≠ .text raw) (hkept : drops t = false)
    (us ts : List Token) :
    dropTokens drops (us ++ t :: ts) = dropTokens drops us ++ t :: dropTokens drops ts := by
  induction us with
  | nil =>
      rw [List.nil_append, dropTokens_cons, hkept, Token.join_of_ne_text ht]
      rfl
  | cons u us ih =>
      rw [List.cons_append, dropTokens_cons, dropTokens_cons, ih]
      split
      · rfl
      · exact Token.join_append_cons ht u _ _

/-- So tokens that end with it are apart from all that follow. -/
theorem dropTokens_concat_append (ht : ∀ raw, t ≠ .text raw) (hkept : drops t = false)
    (us ts : List Token) :
    dropTokens drops (us ++ [t] ++ ts) = dropTokens drops (us ++ [t]) ++ dropTokens drops ts := by
  rw [List.append_assoc, List.singleton_append, dropTokens_append_cons ht hkept,
    dropTokens_append_cons ht hkept]
  simp [dropTokens]

theorem tokens_of_none (h : Token.next? cs = none) : tokens cs = [] := by
  rw [tokens]
  split
  · rfl
  · next hsome =>
      rw [h] at hsome
      cases hsome

/-- No character data comes first where a tag does. -/
theorem ne_text_of_atTag (h : AtTag cs) (hts : tokens cs = t :: ts) (raw : List Char) :
    t ≠ .text raw := by
  cases hnext : Token.next? cs with
  | none =>
      rw [tokens_of_none hnext] at hts
      cases hts
  | some taken =>
      obtain ⟨first, rest⟩ := taken
      rw [tokens_of_next? hnext] at hts
      obtain ⟨rfl, -⟩ := List.cons.inj hts
      cases cs with
      | nil => cases hnext
      | cons c cs =>
          obtain rfl := h c rfl
          exact Token.ne_text_of_markup? hnext raw

/-- Character data before a text is joined with what the text begins with. -/
theorem tokens_text_append (hne : raw ≠ []) (hraw : '<' ∉ raw) (cs : List Char) :
    tokens (raw ++ cs) = Token.join (.text raw) (tokens cs) := by
  by_cases htag : AtTag cs
  · rw [tokens_of_next? (Token.next?_text hne hraw htag)]
    cases hts : tokens cs with
    | nil => rfl
    | cons t ts =>
        unfold Token.join
        split
        · next heq => exact absurd (List.cons.inj heq).1 (ne_text_of_atTag htag hts _)
        · rfl
  · obtain ⟨c, tail, rfl, hc⟩ : ∃ c tail, cs = c :: tail ∧ c ≠ '<' := by
      cases cs with
      | nil => exact absurd atTag_nil htag
      | cons c tail => exact ⟨c, tail, rfl, fun heq => htag (heq ▸ atTag_cons tail)⟩
    have hnext : Token.next? (c :: tail) =
        some (.text (c :: tail.takeWhile (· ≠ '<')), tail.dropWhile (· ≠ '<')) := by
      rw [Token.next?]
      exact hc
    obtain ⟨front, hsplit, hcases⟩ := Token.exists_of_next? hnext
    rcases hcases with ⟨ht, -, hfront, htail⟩ | ⟨ht, -⟩
    · obtain rfl := Token.text.inj ht
      have hboth : '<' ∉ raw ++ c :: tail.takeWhile (· ≠ '<') := by
        rw [List.mem_append, not_or]
        exact ⟨hraw, hfront⟩
      have hnext' := Token.next?_text (List.append_ne_nil_of_left_ne_nil hne _) hboth htail
      rw [List.append_assoc, hsplit] at hnext'
      rw [tokens_of_next? hnext, tokens_of_next? hnext']
      rfl
    · exact absurd rfl (ht _)

@[simp] theorem without_nil : without drops [] = [] := by
  rw [without]
  rfl

theorem without_append (h : Token.next? (front ++ rest) = some (t, rest)) :
    without drops (front ++ rest) =
      if drops t then without drops rest else front ++ without drops rest := by
  rw [without]
  split
  · next hnone =>
      rw [h] at hnone
      cases hnone
  · next t' rest' hsome =>
      obtain ⟨rfl, rfl⟩ := Prod.mk.inj (Option.some.inj (h.symm.trans hsome))
      have hfront : (front ++ rest).take ((front ++ rest).length - rest.length) = front := by
        rw [List.length_append, Nat.add_sub_cancel, List.take_left]
      rw [hfront]

theorem without_of_none (h : Token.next? cs = none) : without drops cs = cs := by
  rw [without]
  split
  · rfl
  · next hsome =>
      rw [h] at hsome
      cases hsome

/-- The tokens of a text without some of its tokens. -/
theorem tokens_without (drops : Token → Bool) (cs : List Char) :
    tokens (without drops cs) = dropTokens drops (tokens cs) := by
  cases hnext : Token.next? cs with
  | none =>
      rw [without_of_none hnext, tokens_of_none hnext]
      rfl
  | some taken =>
      obtain ⟨t, rest⟩ := taken
      have ih := tokens_without drops rest
      obtain ⟨front, rfl, hcases⟩ := Token.exists_of_next? hnext
      rw [tokens_of_next? hnext, dropTokens_cons, without_append hnext, ← ih]
      cases drops t with
      | true => rfl
      | false =>
          simp only [Bool.false_eq_true, if_false]
          rcases hcases with ⟨rfl, hne, hraw, -⟩ | ⟨hne, rfl | hlocal⟩
          · exact tokens_text_append hne hraw _
          · rw [without_nil, Token.join_of_ne_text hne]
            exact tokens_of_next? hnext
          · rw [Token.join_of_ne_text hne]
            exact tokens_of_next? (hlocal _)
termination_by cs.length
decreasing_by exact Token.length_of_next? hnext

end Tokens

end MetadataHarvest.Markup
