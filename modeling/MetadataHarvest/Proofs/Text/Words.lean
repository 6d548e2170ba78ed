import MetadataHarvest.Proofs.Text.Trim

/-!
# Words and what joins them

Words that are joined by single spaces are read again from what was joined. A text is made of
its words and of the blanks around them, so joining its words gives it back only when it has no
other blanks than single spaces.
-/

namespace MetadataHarvest.Text

/-- A run of characters none of which is blank. -/
def IsWord (cs : List Char) : Prop := cs ≠ [] ∧ ∀ c ∈ cs, isBlank c = false

section Split

/-- Characters that are not blank go to the word that has begun. -/
theorem wordsFrom_append {front : List Char} (h : ∀ c ∈ front, isBlank c = false)
    (word cs : List Char) :
    wordsFrom word (front ++ cs) = wordsFrom (front.reverse ++ word) cs := by
  induction front generalizing word with
  | nil => rfl
  | cons c front ih =>
      rw [List.forall_mem_cons] at h
      rw [List.cons_append, wordsFrom, if_neg (by simp [h.1]), ih h.2]
      simp

/-- A blank ends a word, and the words after it are those of the rest alone. -/
theorem wordsFrom_append_blank {c : Char} (hc : isBlank c = true) (word cs ds : List Char) :
    wordsFrom word (cs ++ c :: ds) = wordsFrom word cs ++ words ds := by
  induction cs generalizing word with
  | nil =>
      rw [List.nil_append, wordsFrom, wordsFrom, if_pos hc]
      split <;> rfl
  | cons d cs ih =>
      rw [List.cons_append, wordsFrom, wordsFrom]
      split
      · split
        · exact ih []
        · rw [ih [], List.cons_append]
      · exact ih _

theorem words_append_blank {c : Char} (hc : isBlank c = true) (cs ds : List Char) :
    words (cs ++ c :: ds) = words cs ++ words ds :=
  wordsFrom_append_blank hc [] cs ds

/-- Blanks at the end belong to no word. -/
theorem words_append_of_blank {back : List Char} (h : ∀ c ∈ back, isBlank c = true)
    (cs : List Char) : words (cs ++ back) = words cs := by
  induction back generalizing cs with
  | nil => rw [List.append_nil]
  | cons c back ih =>
      rw [List.forall_mem_cons] at h
      rw [words_append_blank h.1]
      have hback := ih h.2 []
      rw [List.nil_append, words_nil] at hback
      rw [hback, List.append_nil]

/-- Nor do those at the beginning. -/
theorem words_blank_append {front : List Char} (h : ∀ c ∈ front, isBlank c = true)
    (cs : List Char) : words (front ++ cs) = words cs := by
  induction front with
  | nil => rfl
  | cons c front ih =>
      rw [List.forall_mem_cons] at h
      rw [List.cons_append, words_cons_blank h.1, ih h.2]

end Split

section Trim

variable {p : Char → Bool} (hp : ∀ c, p c = true → isBlank c = true)

include hp in
theorem isBlank_of_mem_takeWhile {cs : List Char} {c : Char} (h : c ∈ cs.takeWhile p) :
    isBlank c = true :=
  hp c (List.mem_takeWhile_imp h)

include hp in
/-- The words of a text are those of what is left of it without some of its outer blanks. -/
theorem words_trimWhile (cs : List Char) : words (trimWhile p cs) = words cs := by
  have hfront : words (cs.dropWhile p) = words cs := by
    calc
      words (cs.dropWhile p) = words (cs.takeWhile p ++ cs.dropWhile p) :=
        (words_blank_append (fun _ => isBlank_of_mem_takeWhile hp) _).symm
      _ = words cs := by rw [List.takeWhile_append_dropWhile]
  have hback (ds : List Char) : words (dropWhileEnd p ds) = words ds := by
    have hblank : ∀ c ∈ (ds.reverse.takeWhile p).reverse, isBlank c = true := by
      intro c hc
      exact isBlank_of_mem_takeWhile hp (List.mem_reverse.mp hc)
    calc
      words (dropWhileEnd p ds) =
          words (dropWhileEnd p ds ++ (ds.reverse.takeWhile p).reverse) :=
        (words_append_of_blank hblank _).symm
      _ = words ds := by
        rw [dropWhileEnd, ← List.reverse_append, List.takeWhile_append_dropWhile,
          List.reverse_reverse]
  rw [trimWhile, hback, hfront]

end Trim

section Join

theorem words_of_isWord {word : List Char} (h : IsWord word) : words word = [word] := by
  have hwhole := wordsFrom_append h.2 [] []
  rw [List.append_nil, List.append_nil, wordsFrom, if_neg, List.reverse_reverse] at hwhole
  · exact hwhole
  · simpa using h.1

/-- What is read as words are words. -/
theorem isWord_of_mem_wordsFrom {word cs : List Char} (hword : ∀ c ∈ word, isBlank c = false) :
    ∀ w ∈ wordsFrom word cs, IsWord w := by
  have hwhole (hne : ¬word.isEmpty = true) : IsWord word.reverse := by
    rw [List.isEmpty_iff] at hne
    exact ⟨by simpa using hne, fun c hc => hword c (List.mem_reverse.mp hc)⟩
  induction cs generalizing word with
  | nil =>
      intro w hw
      rw [wordsFrom] at hw
      split at hw
      · cases hw
      · next hne => exact List.mem_singleton.mp hw ▸ hwhole hne
  | cons c cs ih =>
      intro w hw
      rw [wordsFrom] at hw
      split at hw
      · have hrest : ∀ w ∈ wordsFrom [] cs, IsWord w := ih (by simp) (by simp)
        split at hw
        · exact hrest w hw
        · next hne =>
            rcases List.mem_cons.mp hw with rfl | hw
            · exact hwhole hne
            · exact hrest w hw
      · next hc =>
          have hmore : ∀ d ∈ c :: word, isBlank d = false := by
            rw [List.forall_mem_cons]
            exact ⟨Bool.eq_false_iff.mpr hc, hword⟩
          refine ih hmore (fun _ => ?_) w hw
          exact ⟨by simp, fun d hd => hmore d (List.mem_reverse.mp hd)⟩

theorem isWord_of_mem_words {cs : List Char} : ∀ w ∈ words cs, IsWord w :=
  isWord_of_mem_wordsFrom (by simp)

theorem joinWords_cons_cons (w w' : List Char) (ws : List (List Char)) :
    joinWords (w :: w' :: ws) = w ++ ' ' :: joinWords (w' :: ws) := by
  simp [joinWords]

/-- Words that were joined are read again. -/
theorem words_joinWords {ws : List (List Char)} (h : ∀ w ∈ ws, IsWord w) :
    words (joinWords ws) = ws := by
  induction ws with
  | nil => rfl
  | cons w ws ih =>
      rw [List.forall_mem_cons] at h
      cases ws with
      | nil =>
          have hsingle : joinWords [w] = w := by simp [joinWords]
          rw [hsingle, words_of_isWord h.1]
      | cons w' ws =>
          rw [joinWords_cons_cons, words_append_blank isBlank_space, words_of_isWord h.1, ih h.2]
          rfl

/-- Joined words are a given text exactly when they are its words and it has no other blanks
than those that join them. -/
theorem joinWords_eq_iff {ws : List (List Char)} (h : ∀ w ∈ ws, IsWord w) {cs : List Char} :
    joinWords ws = cs ↔ ws = words cs ∧ joinWords (words cs) = cs := by
  constructor
  · rintro rfl
    rw [words_joinWords h]
    exact ⟨rfl, rfl⟩
  · rintro ⟨rfl, hjoin⟩
    exact hjoin

theorem joinWords_eq_nil_iff {ws : List (List Char)} (h : ∀ w ∈ ws, IsWord w) :
    joinWords ws = [] ↔ ws = [] := by
  rw [joinWords_eq_iff h, words_nil, joinWords_nil]
  exact and_iff_left rfl

theorem joinWords_append {ws vs : List (List Char)} (hws : ws ≠ []) (hvs : vs ≠ []) :
    joinWords (ws ++ vs) = joinWords ws ++ ' ' :: joinWords vs := by
  induction ws with
  | nil => exact absurd rfl hws
  | cons w ws ih =>
      cases ws with
      | nil =>
          obtain ⟨v, vs, rfl⟩ := List.exists_cons_of_ne_nil hvs
          have hsingle : joinWords [w] = w := by simp [joinWords]
          rw [List.singleton_append, joinWords_cons_cons, hsingle]
      | cons w' ws =>
          have happend := ih (List.cons_ne_nil w' ws)
          rw [List.cons_append] at happend
          rw [List.cons_append, List.cons_append, joinWords_cons_cons, joinWords_cons_cons, happend,
            List.append_assoc, List.cons_append]

/-- Words may be joined group by group, when a group without words is left out. -/
theorem joinWords_flatten {wss : List (List (List Char))} (h : ∀ ws ∈ wss, ∀ w ∈ ws, IsWord w) :
    joinWords wss.flatten = joinWords ((wss.map joinWords).filter (· ≠ [])) := by
  induction wss with
  | nil => rfl
  | cons ws wss ih =>
      rw [List.forall_mem_cons] at h
      have hflatten : ∀ w ∈ wss.flatten, IsWord w := by
        intro w hw
        obtain ⟨ws', hmem, hw⟩ := List.mem_flatten.mp hw
        exact h.2 ws' hmem w hw
      have hrest := ih h.2
      rw [List.flatten_cons, List.map_cons]
      by_cases hws : ws = []
      · subst hws
        rw [List.filter_cons_of_neg (by simp), List.nil_append, hrest]
      have hgroup : joinWords ws ≠ [] := mt (joinWords_eq_nil_iff h.1).mp hws
      rw [List.filter_cons_of_pos (by simpa using hgroup)]
      cases hjoined : (wss.map joinWords).filter (· ≠ []) with
      | nil =>
          rw [hjoined, joinWords_nil, joinWords_eq_nil_iff hflatten] at hrest
          rw [hrest, List.append_nil]
          simp [joinWords]
      | cons group groups =>
          have hne : wss.flatten ≠ [] := by
            intro hnil
            have hall : ∀ ws ∈ wss, ws = [] := List.flatten_eq_nil_iff.mp hnil
            have hnone : (wss.map joinWords).filter (· ≠ []) = [] := by
              rw [List.filter_eq_nil_iff, List.forall_mem_map]
              intro ws' hws'
              simp [hall ws' hws']
            rw [hnone] at hjoined
            cases hjoined
          rw [joinWords_append hws hne, joinWords_cons_cons, hrest, hjoined]

end Join

section Blank

/-- Words have all characters that are not blank, in order. -/
theorem flatten_wordsFrom (word cs : List Char) :
    (wordsFrom word cs).flatten = word.reverse ++ cs.filter (!isBlank ·) := by
  have hended (word : List Char) (h : word.isEmpty = true) : word.reverse = [] := by
    rw [List.isEmpty_iff.mp h, List.reverse_nil]
  induction cs generalizing word with
  | nil =>
      rw [wordsFrom]
      split
      · next h => simp [hended word h]
      · simp
  | cons c cs ih =>
      rw [wordsFrom]
      split
      · next hc =>
          rw [List.filter_cons_of_neg (by simp [hc])]
          split
          · next h => rw [ih, hended word h, List.reverse_nil]
          · rw [List.flatten_cons, ih, List.reverse_nil, List.nil_append]
      · next hc =>
          rw [ih, List.filter_cons_of_pos (by simp [hc])]
          simp

theorem flatten_words (cs : List Char) : (words cs).flatten = cs.filter (!isBlank ·) := by
  rw [words, flatten_wordsFrom, List.reverse_nil, List.nil_append]

theorem filter_joinWords {ws : List (List Char)} (h : ∀ w ∈ ws, IsWord w) :
    (joinWords ws).filter (!isBlank ·) = ws.flatten := by
  rw [← flatten_words, words_joinWords h]

/-- A text of blanks alone is trimmed to nothing. -/
theorem trim_eq_nil {cs : List Char} (h : cs.filter (!isBlank ·) = []) : trim cs = [] := by
  have hblank : ∀ c ∈ cs, isBlank c = true := by
    simpa [List.filter_eq_nil_iff] using h
  have hdrop : cs.dropWhile isBlank = [] := by
    rw [List.dropWhile_eq_nil_iff]
    exact hblank
  rw [trim, trimWhile, hdrop, dropWhileEnd_nil]

end Blank

section Append

/-- Whether the last character of a text belongs to a word. -/
def EndsInWord (cs : List Char) : Prop := ∃ c ∈ cs.getLast?, isBlank c = false

/-- Whether the first character of a text belongs to a word. -/
def BeginsWithWord (cs : List Char) : Prop := ∃ c ∈ cs.head?, isBlank c = false

variable {cs ds word word' : List Char}

theorem endsInWord_append (h : ds ≠ []) : EndsInWord (cs ++ ds) ↔ EndsInWord ds := by
  rw [EndsInWord, List.getLast?_append_of_ne_nil cs h, EndsInWord]

theorem endsInWord_cons {c : Char} (h : cs ≠ []) : EndsInWord (c :: cs) ↔ EndsInWord cs := by
  rw [← List.singleton_append, endsInWord_append h]

theorem EndsInWord.ne_nil (h : EndsInWord cs) : cs ≠ [] := by
  rintro rfl
  obtain ⟨c, hc, -⟩ := h
  cases hc

/-- A text with a word at either end has no outer blanks, and no other text but the empty one. -/
theorem trim_eq_self_iff : trim cs = cs ↔ cs = [] ∨ (BeginsWithWord cs ∧ EndsInWord cs) := by
  have hfront (c : Char) (cs : List Char) (h : isBlank c = false) :
      (c :: cs).dropWhile isBlank = c :: cs :=
    List.dropWhile_cons_of_neg (by simpa using h)
  constructor
  · intro h
    by_cases hne : cs = []
    · exact .inl hne
    · obtain ⟨c, tail, rfl⟩ := List.exists_cons_of_ne_nil hne
      have hdrop : dropWhileEnd isBlank ((c :: tail).dropWhile isBlank) = c :: tail := h
      have hstart := dropWhile_dropWhileEnd_dropWhile isBlank (c :: tail)
      have hend := List.rdropWhile_idempotent isBlank ((c :: tail).dropWhile isBlank)
      rw [hdrop] at hstart
      rw [dropWhileEnd_eq_rdropWhile] at hdrop
      rw [hdrop] at hend
      have hfirst := List.dropWhile_eq_self_iff.mp hstart (Nat.succ_pos _)
      have hlast := List.rdropWhile_eq_self_iff.mp hend hne
      exact .inr ⟨⟨c, rfl, by simpa using hfirst⟩, (c :: tail).getLast hne,
        List.getLast?_eq_some_getLast hne, by simpa using hlast⟩
  · rintro (rfl | ⟨⟨c, hc, hblank⟩, d, hd, hblank'⟩)
    · rfl
    · obtain ⟨tail, rfl⟩ := List.head?_eq_some_iff.mp hc
      obtain ⟨front, hfront'⟩ := List.getLast?_eq_some_iff.mp hd
      rw [trim, trimWhile, hfront c tail hblank, hfront', dropWhileEnd, List.reverse_concat,
        hfront d front.reverse hblank', List.reverse_cons, List.reverse_reverse]

/-- Each text keeps its words when no word goes on from the one to the other. -/
theorem words_append (h : ¬(EndsInWord cs ∧ BeginsWithWord ds)) :
    words (cs ++ ds) = words cs ++ words ds := by
  rcases List.eq_nil_or_concat cs with rfl | ⟨front, c, rfl⟩
  · rfl
  cases ds with
  | nil => simp
  | cons d back =>
      cases hc : isBlank c with
      | true =>
          have hend : words (front ++ [c]) = words front :=
            words_append_of_blank (by simpa using hc) _
          simp [hend, words_append_blank hc]
      | false =>
          have hd : isBlank d = true := by
            by_contra hd
            exact h ⟨⟨c, by simp, hc⟩, d, rfl, by simpa using hd⟩
          rw [words_append_blank hd, words_cons_blank hd]

theorem length_wordsFrom (hword : word ≠ []) (hword' : word' ≠ []) :
    (wordsFrom word cs).length = (wordsFrom word' cs).length := by
  induction cs generalizing word word' with
  | nil => simp [wordsFrom, hword, hword']
  | cons c cs ih =>
      rw [wordsFrom, wordsFrom]
      split
      · simp [hword, hword']
      · exact ih (List.cons_ne_nil _ _) (List.cons_ne_nil _ _)

theorem length_wordsFrom_append (hends : EndsInWord (word.reverse ++ cs))
    (hbegins : BeginsWithWord ds) :
    (wordsFrom word (cs ++ ds)).length + 1 = (wordsFrom word cs).length + (words ds).length := by
  induction cs generalizing word with
  | nil =>
      obtain ⟨d, hd, hblank⟩ := hbegins
      have hword : word ≠ [] := by
        rintro rfl
        obtain ⟨c, hc, -⟩ := hends
        cases hc
      cases ds with
      | nil => cases hd
      | cons d' back =>
          obtain rfl : d' = d := by simpa using hd
          have hlength : (wordsFrom (d' :: word) back).length = (wordsFrom [d'] back).length :=
            length_wordsFrom (List.cons_ne_nil _ _) (List.cons_ne_nil _ _)
          simp [words, wordsFrom, hblank, hword, hlength]
          omega
  | cons c cs ih =>
      rw [List.cons_append, wordsFrom, wordsFrom]
      cases hc : isBlank c with
      | true =>
          -- The last character is not this blank one, so it comes later.
          have hmore : EndsInWord cs := by
            obtain ⟨d, hd, hblank⟩ := hends
            rw [List.getLast?_append_cons, List.getLast?_cons] at hd
            obtain rfl := Option.some.inj hd
            cases hlast : cs.getLast? with
            | none =>
                rw [hlast, Option.getD_none, hc] at hblank
                cases hblank
            | some d =>
                rw [hlast, Option.getD_some] at hblank
                exact ⟨d, hlast, hblank⟩
          have hlength := @ih [] hmore
          simp only [if_true]
          split
          · exact hlength
          · rw [List.length_cons, List.length_cons]
            omega
      | false =>
          simp only [Bool.false_eq_true, if_false]
          apply ih
          simpa using hends

/-- A word that goes on from one text to the next is one word of the two together. -/
theorem length_words_append (hends : EndsInWord cs) (hbegins : BeginsWithWord ds) :
    (words (cs ++ ds)).length + 1 = (words cs).length + (words ds).length :=
  @length_wordsFrom_append cs ds [] hends hbegins

end Append

end MetadataHarvest.Text
