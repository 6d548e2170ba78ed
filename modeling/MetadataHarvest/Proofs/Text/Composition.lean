import MetadataHarvest.Proofs.Text.CompositionTable
import MetadataHarvest.Proofs.Text.MarkOrder
import MetadataHarvest.Proofs.Text.Words

/-!
# The composed normal form

Composing a decomposed text and decomposing it again gives the text back, so that a text in
normal form is its own normal form. What carries the proof is that a mark composes with its base
only past marks of smaller classes, and may as well stand before them. Blanks stand by themselves:
the words of a text in normal form are the normal forms of its words.
-/

namespace MetadataHarvest.Text

variable {base c d : Char} {held rest cs ds : List Char}

section Step

/-- A character composes with the base only past marks of smaller classes. -/
theorem composeAfter_cons (base : Char) (held : List Char) (c : Char) (cs : List Char) :
    composeAfter base held (c :: cs) =
      (if held.head?.all (combiningClass · < combiningClass c) then composePair? base c
        else none).elim
        (if combiningClass c = 0 then base :: held.reverse ++ composeAfter c [] cs
          else composeAfter base (c :: held) cs)
        (composeAfter · held cs) := by
  rw [composeAfter.eq_def]
  cases held with
  | nil => cases h : composePair? base c <;> simp [h]
  | cons last held =>
      by_cases hclass : combiningClass last < combiningClass c
      · cases h : composePair? base c <;> simp [h, hclass, Nat.not_le.mpr hclass]
      · simp [hclass, Nat.not_lt.mp hclass]

/-- What becomes of the next character: it composes with the base, or it starts anew, or it is
held as a mark that did not compose. -/
theorem composeAfter_cases (base : Char) (held : List Char) (c : Char) :
    (∃ composite, (∀ d ∈ held.head?, combiningClass d < combiningClass c) ∧
      composePair? base c = some composite ∧
      ∀ cs, composeAfter base held (c :: cs) = composeAfter composite held cs) ∨
    (combiningClass c = 0 ∧
      ∀ cs, composeAfter base held (c :: cs) = base :: held.reverse ++ composeAfter c [] cs) ∨
    (combiningClass c ≠ 0 ∧
      ∀ cs, composeAfter base held (c :: cs) = composeAfter base (c :: held) cs) := by
  cases hpair : if held.head?.all (combiningClass · < combiningClass c) then composePair? base c
    else none with
  | some composite =>
      obtain ⟨hfree, hcompose⟩ := Option.ite_none_right_eq_some.mp hpair
      refine .inl ⟨composite, fun d hd => ?_, hcompose, fun cs => ?_⟩
      · rw [Option.mem_def.mp hd] at hfree
        exact of_decide_eq_true hfree
      · rw [composeAfter_cons, hpair, Option.elim_some]
  | none =>
      by_cases hc : combiningClass c = 0
      · refine .inr (.inl ⟨hc, fun cs => ?_⟩)
        rw [composeAfter_cons, hpair, Option.elim_none, if_pos hc]
      · refine .inr (.inr ⟨hc, fun cs => ?_⟩)
        rw [composeAfter_cons, hpair, Option.elim_none, if_neg hc]

theorem compose_cons_start (h : combiningClass c = 0) (cs : List Char) :
    compose (c :: cs) = composeAfter c [] cs := by
  rw [compose, if_pos h]

theorem compose_cons_mark (h : combiningClass c ≠ 0) (cs : List Char) :
    compose (c :: cs) = c :: compose cs := by
  rw [compose, if_neg h]

end Step

section Held

/-- Marks that are held, latest first, before the rest of an ordered text. -/
structure IsHeld (held rest : List Char) : Prop where
  positive : ∀ d ∈ held, 0 < combiningClass d
  descending : held.Pairwise fun d e => combiningClass e ≤ combiningClass d
  ordered : IsOrdered rest
  next : ∀ d ∈ held, ∀ c ∈ rest.head?,
    combiningClass c = 0 ∨ combiningClass d ≤ combiningClass c

theorem IsHeld.nil (h : IsOrdered rest) : IsHeld [] rest :=
  ⟨nofun, .nil, h, nofun⟩

/-- The next mark is not blocked when its class is greater than those of all that are held. -/
theorem IsHeld.lt (h : IsHeld held rest)
    (hc : ∀ d ∈ held.head?, combiningClass d < combiningClass c) :
    ∀ d ∈ held, 0 < combiningClass d ∧ combiningClass d < combiningClass c := by
  intro d hd
  refine ⟨h.positive d hd, ?_⟩
  cases held with
  | nil => cases hd
  | cons last held =>
      have hlast := hc last rfl
      rcases List.mem_cons.mp hd with rfl | hd
      · exact hlast
      · have hle := (List.pairwise_cons.mp h.descending).1 d hd
        omega

/-- The next mark composes with the base. -/
theorem IsHeld.composed (h : IsHeld held (c :: rest))
    (hc : ∀ d ∈ held, 0 < combiningClass d ∧ combiningClass d < combiningClass c) :
    IsHeld held rest := by
  refine ⟨h.positive, h.descending, h.ordered.tail, fun d hd e he => ?_⟩
  have hlt := (hc d hd).2
  rcases (List.isChain_cons.mp h.ordered).1 e he with hzero | hle
  · exact .inl hzero
  · exact .inr (by omega)

/-- The next mark is held. -/
theorem IsHeld.push (h : IsHeld held (c :: rest)) (hc : combiningClass c ≠ 0) :
    IsHeld (c :: held) rest := by
  have hbefore : ∀ d ∈ held, combiningClass d ≤ combiningClass c := fun d hd =>
    (h.next d hd c rfl).resolve_left hc
  refine ⟨List.forall_mem_cons.mpr ⟨by omega, h.positive⟩,
    List.pairwise_cons.mpr ⟨hbefore, h.descending⟩, h.ordered.tail, fun d hd e he => ?_⟩
  have hnext := (List.isChain_cons.mp h.ordered).1 e he
  rcases List.mem_cons.mp hd with rfl | hd
  · exact hnext
  · have hle := hbefore d hd
    omega

end Held

section Idempotence

/-- No character decomposes further. -/
def IsDecomposed (cs : List Char) : Prop := ∀ c ∈ cs, decomposeChar c = [c]

theorem IsDecomposed.flatMap_eq (h : IsDecomposed cs) : cs.flatMap decomposeChar = cs := by
  induction cs with
  | nil => rfl
  | cons c cs ih =>
      rw [IsDecomposed, List.forall_mem_cons] at h
      rw [List.flatMap_cons, h.1, ih h.2, List.singleton_append]

theorem isDecomposed_decompose (cs : List Char) : IsDecomposed (decompose cs) := by
  intro d hd
  rw [decompose, (perm_orderMarks _).mem_iff, List.mem_flatMap] at hd
  obtain ⟨c, -, hd⟩ := hd
  exact decomposeChar_of_mem hd

/-- What was composed after a base decomposes into the decomposition of the base, the marks that
were held and the rest. -/
theorem decompose_composeAfter (hheld : IsHeld held rest) (hmarks : IsDecomposed held)
    (hrest : IsDecomposed rest) (base : Char) :
    decompose (composeAfter base held rest) =
      orderMarks (decomposeChar base ++ (held.reverse ++ rest)) := by
  have hreverse (held : List Char) (h : IsDecomposed held) :
      held.reverse.flatMap decomposeChar = held.reverse := by
    apply IsDecomposed.flatMap_eq
    intro d hd
    exact h d (List.mem_reverse.mp hd)
  induction rest generalizing base held with
  | nil =>
      rw [composeAfter, decompose, List.flatMap_cons, hreverse held hmarks, List.append_nil]
  | cons c cs ih =>
      rw [IsDecomposed, List.forall_mem_cons] at hrest
      obtain ⟨hc, hcs⟩ := hrest
      rcases composeAfter_cases base held c with
        ⟨composite, hunblocked, hpair, hstep⟩ | ⟨hstart, hstep⟩ | ⟨hmark, hstep⟩
      · -- The mark may stand before those that are held, next to the base.
        have hlt : ∀ d ∈ held.reverse, 0 < combiningClass d ∧
            combiningClass d < combiningClass c := fun d hd =>
          hheld.lt hunblocked d (List.mem_reverse.mp hd)
        rw [hstep, ih (hheld.composed (hheld.lt hunblocked)) hmarks hcs,
          decomposeChar_of_composePair? hpair, List.append_assoc, List.singleton_append]
        exact orderMarks_append_congr (orderMarks_moved hlt cs) _
      · -- What comes after the new start is put in order by itself.
        have htail := ih (.nil hheld.ordered.tail) nofun hcs c
        rw [List.reverse_nil, List.nil_append, hc, List.singleton_append] at htail
        rw [hstep, decompose, List.cons_append, List.flatMap_cons, List.flatMap_append,
          hreverse held hmarks]
        apply orderMarks_append_congr
        apply orderMarks_append_congr
        rw [← htail, decompose]
      · rw [hstep, ih (hheld.push hmark) (List.forall_mem_cons.mpr ⟨hc, hmarks⟩) hcs,
          List.reverse_cons, List.append_assoc, List.singleton_append]

/-- Decomposing undoes composing. -/
theorem decompose_compose (hd : IsDecomposed cs) (ho : IsOrdered cs) :
    decompose (compose cs) = cs := by
  suffices h : decompose (compose cs) = orderMarks cs from h.trans (orderMarks_of_isOrdered ho)
  induction cs with
  | nil => rfl
  | cons c cs ih =>
      rw [IsDecomposed, List.forall_mem_cons] at hd
      obtain ⟨hc, hcs⟩ := hd
      have ho' : IsOrdered cs := ho.tail
      by_cases hstart : combiningClass c = 0
      · rw [compose_cons_start hstart, decompose_composeAfter (.nil ho') nofun hcs, hc]
        rfl
      · rw [compose_cons_mark hstart, decompose, List.flatMap_cons, hc]
        exact orderMarks_append_congr (ih hcs ho') [c]

/-- A text in normal form is its own normal form. -/
theorem composed_composed (cs : List Char) : composed (composed cs) = composed cs := by
  rw [composed, composed, decompose_compose (isDecomposed_decompose cs) (isOrdered_orderMarks _)]

end Idempotence

section Separate

theorem mem_composeAfter (hc : isSeparate c = true) (h : c = base ∨ c ∈ held ∨ c ∈ cs) :
    c ∈ composeAfter base held cs := by
  induction cs generalizing base held with
  | nil => simpa [composeAfter] using h
  | cons d cs ih =>
      rcases composeAfter_cases base held d with
        ⟨composite, -, hpair, hstep⟩ | ⟨-, hstep⟩ | ⟨-, hstep⟩
      · rw [hstep]
        apply ih
        rcases h with rfl | hheld | hmem
        · rw [composePair?_separate_left hc] at hpair
          cases hpair
        · exact .inr (.inl hheld)
        · rcases List.mem_cons.mp hmem with rfl | hmem
          · rw [composePair?_separate_right hc] at hpair
            cases hpair
          · exact .inr (.inr hmem)
      · rw [hstep]
        rcases h with rfl | hheld | hmem
        · simp
        · simp [hheld]
        · exact List.mem_append_right _ (ih ((List.mem_cons.mp hmem).imp_right .inr))
      · rw [hstep]
        apply ih
        rcases h with rfl | hheld | hmem
        · exact .inl rfl
        · exact .inr (.inl (List.mem_cons_of_mem _ hheld))
        · rcases List.mem_cons.mp hmem with rfl | hmem
          · exact .inr (.inl List.mem_cons_self)
          · exact .inr (.inr hmem)

theorem mem_compose (hc : isSeparate c = true) (h : c ∈ cs) : c ∈ compose cs := by
  induction cs with
  | nil => exact h
  | cons d cs ih =>
      by_cases hstart : combiningClass d = 0
      · rw [compose_cons_start hstart]
        exact mem_composeAfter hc ((List.mem_cons.mp h).imp_right .inr)
      · rw [compose_cons_mark hstart, List.mem_cons]
        exact (List.mem_cons.mp h).imp_right ih

/-- The normal form of a text keeps each character that neither has marks nor is one. -/
theorem mem_composed (hc : isSeparate c = true) (h : c ∈ cs) : c ∈ composed cs := by
  apply mem_compose hc
  rw [decompose, (perm_orderMarks _).mem_iff, List.mem_flatMap]
  refine ⟨c, h, ?_⟩
  rw [decomposeChar_of_ascii (isSeparate_iff.mp hc).1]
  exact List.mem_singleton_self c

end Separate

section Blank

theorem decompose_append_space (cs ds : List Char) :
    decompose (cs ++ ' ' :: ds) = decompose cs ++ ' ' :: decompose ds := by
  rw [decompose, List.flatMap_append, List.flatMap_cons, decomposeChar_of_ascii (by decide),
    List.singleton_append, orderMarks_append combiningClass_space]
  rfl

theorem isSeparate_space : isSeparate ' ' = true := by decide

/-- Nothing composes with a space, so it stays with the marks after it. -/
theorem composeAfter_space (held cs : List Char) :
    composeAfter ' ' held cs = ' ' :: held.reverse ++ compose cs := by
  induction cs generalizing held with
  | nil => rw [composeAfter, compose, List.append_nil]
  | cons c cs ih =>
      rcases composeAfter_cases ' ' held c with
        ⟨composite, -, hpair, -⟩ | ⟨hstart, hstep⟩ | ⟨hmark, hstep⟩
      · rw [composePair?_separate_left isSeparate_space] at hpair
        cases hpair
      · rw [hstep, compose_cons_start hstart]
      · rw [hstep, ih, compose_cons_mark hmark]
        simp

theorem composeAfter_append_space (base : Char) (held cs ds : List Char) :
    composeAfter base held (cs ++ ' ' :: ds) = composeAfter base held cs ++ ' ' :: compose ds := by
  induction cs generalizing base held with
  | nil =>
      rcases composeAfter_cases base held ' ' with
        ⟨composite, -, hpair, -⟩ | ⟨-, hstep⟩ | ⟨hmark, -⟩
      · rw [composePair?_separate_right isSeparate_space] at hpair
        cases hpair
      · rw [List.nil_append, hstep, composeAfter_space, composeAfter]
        rfl
      · exact absurd combiningClass_space hmark
  | cons c cs ih =>
      rcases composeAfter_cases base held c with
        ⟨composite, -, -, hstep⟩ | ⟨-, hstep⟩ | ⟨-, hstep⟩
      · rw [List.cons_append, hstep, hstep, ih]
      · rw [List.cons_append, hstep, hstep, ih, List.append_assoc]
      · rw [List.cons_append, hstep, hstep, ih]

theorem compose_append_space (cs ds : List Char) :
    compose (cs ++ ' ' :: ds) = compose cs ++ ' ' :: compose ds := by
  induction cs with
  | nil =>
      rw [List.nil_append, compose_cons_start combiningClass_space, composeAfter_space]
      rfl
  | cons c cs ih =>
      by_cases hstart : combiningClass c = 0
      · rw [List.cons_append, compose_cons_start hstart, compose_cons_start hstart,
          composeAfter_append_space]
      · rw [List.cons_append, compose_cons_mark hstart, compose_cons_mark hstart, ih,
          List.cons_append]

/-- A space separates what is normalized before and after it. -/
theorem composed_append_space (cs ds : List Char) :
    composed (cs ++ ' ' :: ds) = composed cs ++ ' ' :: composed ds := by
  rw [composed, decompose_append_space, compose_append_space]
  rfl

theorem isBlank_of_mem_composeAfter (hbase : isBlank base = false)
    (hheld : ∀ c ∈ held, isBlank c = false) (hcs : ∀ c ∈ cs, isBlank c = false) :
    ∀ d ∈ composeAfter base held cs, isBlank d = false := by
  induction cs generalizing base held with
  | nil =>
      rw [composeAfter, List.forall_mem_cons]
      exact ⟨hbase, fun d hd => hheld d (List.mem_reverse.mp hd)⟩
  | cons c cs ih =>
      rw [List.forall_mem_cons] at hcs
      rcases composeAfter_cases base held c with
        ⟨composite, -, hpair, hstep⟩ | ⟨-, hstep⟩ | ⟨-, hstep⟩
      · rw [hstep]
        exact ih (isBlank_of_composePair? hpair).2.2 hheld hcs.2
      · rw [hstep, List.forall_mem_append, List.forall_mem_cons]
        exact ⟨⟨hbase, fun d hd => hheld d (List.mem_reverse.mp hd)⟩, ih hcs.1 nofun hcs.2⟩
      · rw [hstep]
        exact ih hbase (List.forall_mem_cons.mpr ⟨hcs.1, hheld⟩) hcs.2

theorem isBlank_of_mem_compose (hcs : ∀ c ∈ cs, isBlank c = false) :
    ∀ d ∈ compose cs, isBlank d = false := by
  induction cs with
  | nil => exact hcs
  | cons c cs ih =>
      rw [List.forall_mem_cons] at hcs
      by_cases hstart : combiningClass c = 0
      · rw [compose_cons_start hstart]
        exact isBlank_of_mem_composeAfter hcs.1 nofun hcs.2
      · rw [compose_cons_mark hstart, List.forall_mem_cons]
        exact ⟨hcs.1, ih hcs.2⟩

theorem composeAfter_ne_nil (base : Char) (held cs : List Char) :
    composeAfter base held cs ≠ [] := by
  induction cs generalizing base held with
  | nil => exact List.cons_ne_nil _ _
  | cons c cs ih =>
      rcases composeAfter_cases base held c with
        ⟨composite, -, -, hstep⟩ | ⟨-, hstep⟩ | ⟨-, hstep⟩
      · exact hstep cs ▸ ih composite held
      · exact hstep cs ▸ List.cons_ne_nil _ _
      · exact hstep cs ▸ ih base (c :: held)

theorem compose_ne_nil (h : cs ≠ []) : compose cs ≠ [] := by
  obtain ⟨c, cs, rfl⟩ := List.exists_cons_of_ne_nil h
  by_cases hstart : combiningClass c = 0
  · rw [compose_cons_start hstart]
    exact composeAfter_ne_nil c [] cs
  · rw [compose_cons_mark hstart]
    exact List.cons_ne_nil _ _

theorem isWord_decompose (h : IsWord cs) : IsWord (decompose cs) := by
  obtain ⟨hne, hcs⟩ := h
  refine ⟨fun hnil => ?_, fun d hd => ?_⟩
  · have hperm := perm_orderMarks (cs.flatMap decomposeChar)
    rw [← decompose, hnil, List.nil_perm, List.flatMap_eq_nil_iff] at hperm
    obtain ⟨c, cs, rfl⟩ := List.exists_cons_of_ne_nil hne
    exact decomposeChar_ne_nil c (hperm c List.mem_cons_self)
  · rw [decompose, (perm_orderMarks _).mem_iff, List.mem_flatMap] at hd
    obtain ⟨c, hc, hd⟩ := hd
    exact isBlank_of_mem_decomposeChar (hcs c hc) hd

/-- The normal form of a word is a word. -/
theorem isWord_composed (h : IsWord cs) : IsWord (composed cs) := by
  obtain ⟨hne, hblank⟩ := isWord_decompose h
  exact ⟨compose_ne_nil hne, isBlank_of_mem_compose hblank⟩

/-- Joined words are normalized one by one. -/
theorem composed_joinWords (ws : List (List Char)) :
    composed (joinWords ws) = joinWords (ws.map composed) := by
  induction ws with
  | nil => rfl
  | cons w ws ih =>
      cases ws with
      | nil => simp [joinWords]
      | cons w' ws =>
          have hjoin (v v' : List Char) (vs : List (List Char)) :
              joinWords (v :: v' :: vs) = v ++ ' ' :: joinWords (v' :: vs) := by
            simp [joinWords]
          rw [hjoin, composed_append_space, ih]
          simp only [List.map_cons, hjoin]

end Blank

end MetadataHarvest.Text
