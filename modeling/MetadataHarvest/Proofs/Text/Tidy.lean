import MetadataHarvest.Proofs.Text.Composition

/-!
# Tidy texts

A text is tidy when something is in it, when its words are separated by single spaces and nothing
else, and when it is in composed normal form. Words that are joined and then normalized make a
tidy text, since normalization keeps words apart.
-/

namespace MetadataHarvest.Text

/-- There are no blanks but spaces, none of them at an end and no two of them together. -/
structure IsCollapsed (cs : List Char) : Prop where
  spaces : ∀ c ∈ cs, isBlank c = true → c = ' '
  head : ∀ c ∈ cs.head?, isBlank c = false
  last : ∀ c ∈ cs.getLast?, isBlank c = false
  apart : cs.IsChain fun c d => isBlank c = false ∨ isBlank d = false

/-- The form in which documents are to hold the texts of records. -/
structure IsTidy (s : String) : Prop where
  nonempty : s ≠ ""
  collapsed : IsCollapsed s.toList
  normal : composed s.toList = s.toList

variable {w cs : List Char} {ws : List (List Char)}

theorem IsCollapsed.of_isWord (h : IsWord w) : IsCollapsed w where
  spaces c hc hblank := absurd hblank (by rw [h.2 c hc]; decide)
  head c hc := h.2 c (List.mem_of_mem_head? hc)
  last c hc := h.2 c (List.mem_of_getLast? hc)
  apart := List.isChain_iff_forall_rel_of_append_cons_cons.mpr fun c d front back heq =>
    .inl (h.2 c (heq ▸ by simp))

/-- A word before a collapsed text, with a space between. -/
theorem IsCollapsed.cons_word (hw : IsWord w) (h : IsCollapsed cs) (hne : cs ≠ []) :
    IsCollapsed (w ++ ' ' :: cs) := by
  have hword := IsCollapsed.of_isWord hw
  obtain ⟨c, rest, rfl⟩ := List.exists_cons_of_ne_nil hne
  have hfirst : isBlank c = false := h.head c rfl
  refine ⟨fun d hd hblank => ?_, fun d hd => ?_, fun d hd => ?_, ?_⟩
  · rw [List.mem_append, List.mem_cons] at hd
    rcases hd with hd | rfl | hd
    · exact hword.spaces d hd hblank
    · rfl
    · exact h.spaces d hd hblank
  · obtain ⟨e, front, rfl⟩ := List.exists_cons_of_ne_nil hw.1
    exact hword.head d hd
  · rw [← List.singleton_append, ← List.append_assoc, List.getLast?_append_of_ne_nil _ hne] at hd
    exact h.last d hd
  · rw [List.isChain_append, List.isChain_cons_cons]
    refine ⟨hword.apart, ⟨.inr hfirst, h.apart⟩, fun d hd e he => ?_⟩
    exact .inl (hword.last d hd)

theorem isCollapsed_joinWords (h : ∀ w ∈ ws, IsWord w) : IsCollapsed (joinWords ws) := by
  induction ws with
  | nil => exact ⟨nofun, nofun, nofun, .nil⟩
  | cons w ws ih =>
      rw [List.forall_mem_cons] at h
      cases ws with
      | nil => simpa [joinWords] using IsCollapsed.of_isWord h.1
      | cons w' ws =>
          rw [joinWords_cons_cons]
          apply IsCollapsed.cons_word h.1 (ih h.2)
          rw [ne_eq, joinWords_eq_nil_iff h.2]
          exact List.cons_ne_nil w' ws

/-- Joined words in normal form make a tidy text. -/
theorem isTidy_of_joinWords (h : ∀ w ∈ ws, IsWord w) {s : String} (hne : s ≠ "")
    (hs : s.toList = composed (joinWords ws)) : IsTidy s := by
  refine ⟨hne, ?_, ?_⟩
  · rw [hs, composed_joinWords]
    apply isCollapsed_joinWords
    rw [List.forall_mem_map]
    exact fun w hw => isWord_composed (h w hw)
  · rw [hs, composed_composed]

end MetadataHarvest.Text
