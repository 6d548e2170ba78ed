import MetadataHarvest.Text.Composition
import Mathlib.Data.List.Chain

/-!
# The order of marks

Marks are put in order by inserting each one before the marks after it. Nothing is lost, a text
whose marks are in order stays as it is, and two neighbouring marks of different classes may
come in either order. A character that starts anew separates what comes before and after it.
-/

namespace MetadataHarvest.Text

/-- No mark is followed by one of a smaller class. -/
def IsOrdered (cs : List Char) : Prop :=
  cs.IsChain fun c d => combiningClass d = 0 ∨ combiningClass c ≤ combiningClass d

variable {a b c d s : Char} {cs ds : List Char}

section Insert

theorem insertMark_cons (c d : Char) (ds : List Char) :
    insertMark c (d :: ds) =
      if 0 < combiningClass d ∧ combiningClass d < combiningClass c then d :: insertMark c ds
      else c :: d :: ds := by
  simp [insertMark]

theorem perm_insertMark (c : Char) (cs : List Char) : (insertMark c cs).Perm (c :: cs) := by
  induction cs with
  | nil => exact .refl _
  | cons d ds ih =>
      rw [insertMark_cons]
      split
      · exact (ih.cons d).trans (.swap c d ds)
      · exact .refl _

/-- A mark does not go past a character that starts anew. -/
theorem insertMark_append (hs : combiningClass s = 0) (c : Char) (cs ds : List Char) :
    insertMark c (cs ++ s :: ds) = insertMark c cs ++ s :: ds := by
  induction cs with
  | nil =>
      rw [List.nil_append, insertMark_cons, if_neg (by omega)]
      rfl
  | cons d cs ih =>
      rw [List.cons_append, insertMark_cons, insertMark_cons, ih]
      split
      · rfl
      · rfl

/-- Marks of different classes may be inserted in either order. -/
theorem insertMark_comm (ha : 0 < combiningClass a) (hab : combiningClass a < combiningClass b)
    (cs : List Char) : insertMark a (insertMark b cs) = insertMark b (insertMark a cs) := by
  induction cs with
  | nil =>
      rw [insertMark, insertMark, insertMark_cons, insertMark_cons, if_neg (by omega),
        if_pos ⟨ha, hab⟩, insertMark]
  | cons d ds ih =>
      by_cases hb : 0 < combiningClass d ∧ combiningClass d < combiningClass b
      · by_cases ha' : combiningClass d < combiningClass a
        · simp only [insertMark_cons, hb, ha', and_self, if_true, ih]
        · simp only [insertMark_cons, hb, ha', ha, hab, and_self, and_false, if_true, if_false]
      · have ha' : ¬(0 < combiningClass d ∧ combiningClass d < combiningClass a) := by omega
        have hba : ¬(0 < combiningClass b ∧ combiningClass b < combiningClass a) := by omega
        simp only [insertMark_cons, hb, ha', hba, ha, hab, and_self, if_true, if_false]

theorem isOrdered_insertMark (h : IsOrdered cs) : IsOrdered (insertMark c cs) := by
  induction cs with
  | nil => exact .singleton c
  | cons d ds ih =>
      rw [insertMark_cons]
      split
      · next hd =>
          have htail : IsOrdered (insertMark c ds) := ih h.tail
          rw [IsOrdered, List.isChain_cons]
          refine ⟨fun e he => ?_, htail⟩
          -- The mark that comes first now is the new one or the one that was first.
          cases ds with
          | nil =>
              obtain rfl := Option.some.inj he
              exact .inr (Nat.le_of_lt hd.2)
          | cons f ds =>
              rw [insertMark_cons] at he
              split at he
              · obtain rfl := Option.some.inj he
                exact h.rel
              · obtain rfl := Option.some.inj he
                exact .inr (Nat.le_of_lt hd.2)
      · next hd =>
          rw [IsOrdered, List.isChain_cons_cons]
          exact ⟨by omega, h⟩

end Insert

section Order

theorem perm_orderMarks (cs : List Char) : (orderMarks cs).Perm cs := by
  induction cs with
  | nil => exact .refl _
  | cons c cs ih =>
      rw [orderMarks]
      split
      · exact ih.cons c
      · exact (perm_insertMark c _).trans (ih.cons c)

theorem isOrdered_orderMarks (cs : List Char) : IsOrdered (orderMarks cs) := by
  induction cs with
  | nil => exact .nil
  | cons c cs ih =>
      rw [orderMarks]
      split
      · next hc =>
          rw [IsOrdered, List.isChain_cons]
          exact ⟨fun d _ => .inr (by omega), ih⟩
      · exact isOrdered_insertMark ih

/-- A text whose marks are in order stays as it is. -/
theorem orderMarks_of_isOrdered (h : IsOrdered cs) : orderMarks cs = cs := by
  induction cs with
  | nil => rfl
  | cons c cs ih =>
      rw [orderMarks, ih h.tail]
      split
      · rfl
      · next hc =>
          cases cs with
          | nil => rfl
          | cons d ds =>
              have hcd := h.rel
              rw [insertMark_cons, if_neg (by omega)]

/-- What is put in front of a text sees the text in order. -/
theorem orderMarks_append_congr (h : orderMarks ds = orderMarks cs) (front : List Char) :
    orderMarks (front ++ ds) = orderMarks (front ++ cs) := by
  induction front with
  | nil => exact h
  | cons c front ih => rw [List.cons_append, List.cons_append, orderMarks, orderMarks, ih]

theorem orderMarks_append (hs : combiningClass s = 0) (cs ds : List Char) :
    orderMarks (cs ++ s :: ds) = orderMarks cs ++ s :: orderMarks ds := by
  induction cs with
  | nil => exact if_pos hs
  | cons c cs ih =>
      rw [List.cons_append, orderMarks, orderMarks, ih, insertMark_append hs]
      split
      · rfl
      · rfl

/-- A mark may stand before marks of smaller classes or after them. -/
theorem orderMarks_moved {marks : List Char}
    (h : ∀ d ∈ marks, 0 < combiningClass d ∧ combiningClass d < combiningClass c)
    (cs : List Char) : orderMarks (c :: (marks ++ cs)) = orderMarks (marks ++ c :: cs) := by
  induction marks with
  | nil => rfl
  | cons d marks ih =>
      rw [List.forall_mem_cons] at h
      obtain ⟨⟨hd, hdc⟩, hmarks⟩ := h
      have hc : ¬combiningClass c = 0 := by omega
      have hd' : ¬combiningClass d = 0 := by omega
      calc orderMarks (c :: (d :: marks ++ cs))
          = insertMark c (insertMark d (orderMarks (marks ++ cs))) := by
            rw [orderMarks, if_neg hc, List.cons_append, orderMarks, if_neg hd']
        _ = insertMark d (insertMark c (orderMarks (marks ++ cs))) :=
            (insertMark_comm hd hdc _).symm
        _ = insertMark d (orderMarks (c :: (marks ++ cs))) := by rw [orderMarks, if_neg hc]
        _ = orderMarks (d :: marks ++ c :: cs) := by
            rw [ih hmarks, List.cons_append, orderMarks, if_neg hd']

end Order

end MetadataHarvest.Text
