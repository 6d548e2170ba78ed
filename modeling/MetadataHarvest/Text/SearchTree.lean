/-!
# Search trees

Rows that are sorted by their keys are kept in a balanced tree. A row is found in it by its key,
or as the last row whose key is not too large.
-/

namespace MetadataHarvest.Text

inductive SearchTree (α : Type) where
  | leaf
  | node (left : SearchTree α) (key : Nat) (value : α) (right : SearchTree α)

namespace SearchTree

variable {α : Type}

/-- The rows, from left to right. -/
def toList : SearchTree α → List (Nat × α)
  | leaf => []
  | node left key value right => left.toList ++ (key, value) :: right.toList

/-- A tree of at most this depth with the first rows in it, and the rows for which there is no
place. -/
def grow : Nat → List (Nat × α) → SearchTree α × List (Nat × α)
  | 0, rows => (leaf, rows)
  | depth + 1, rows =>
    match grow depth rows with
    | (left, []) => (left, [])
    | (left, (key, value) :: more) =>
      match grow depth more with
      | (right, rest) => (node left key value right, rest)

/-- Growing keeps all rows in their order. -/
theorem toList_grow (depth : Nat) (rows : List (Nat × α)) :
    (grow depth rows).1.toList ++ (grow depth rows).2 = rows := by
  induction depth generalizing rows with
  | zero => rfl
  | succ depth ih =>
      have hleft := ih rows
      rw [grow]
      split
      · next left hgrow =>
          rw [hgrow] at hleft
          exact hleft
      · next left key value more hgrow =>
          rw [hgrow] at hleft
          have hright := ih more
          simp only [toList, List.append_assoc, List.cons_append, hright]
          exact hleft

theorem length_grow (depth : Nat) (rows : List (Nat × α)) :
    (grow depth rows).2.length = rows.length - (Nat.pow 2 depth - 1) := by
  rw [Nat.pow_eq]
  induction depth generalizing rows with
  | zero => rfl
  | succ depth ih =>
      have hleft := ih rows
      have hpos : 0 < 2 ^ depth := Nat.two_pow_pos depth
      rw [grow, Nat.pow_succ]
      split
      · next left hgrow =>
          rw [hgrow, List.length_nil] at hleft
          simp only [List.length_nil]
          omega
      · next left key value more hgrow =>
          rw [hgrow, List.length_cons] at hleft
          have hright := ih more
          simp only [hright]
          omega

/-- The tree of rows that are sorted by their keys. -/
def ofSorted (rows : List (Nat × α)) : SearchTree α :=
  (grow (rows.length.log2 + 1) rows).1

/-- The tree is deep enough for all rows. -/
@[simp] theorem toList_ofSorted (rows : List (Nat × α)) : (ofSorted rows).toList = rows := by
  have hlength := length_grow (rows.length.log2 + 1) rows
  rw [Nat.pow_eq] at hlength
  have hlog : rows.length < 2 ^ (rows.length.log2 + 1) := Nat.lt_log2_self
  have hrest : (grow (rows.length.log2 + 1) rows).2 = [] :=
    List.length_eq_zero_iff.mp (by omega)
  have hrows := toList_grow (rows.length.log2 + 1) rows
  rwa [hrest, List.append_nil] at hrows

/-- The value in the row with this key. -/
def find? (n : Nat) : SearchTree α → Option α
  | leaf => none
  | node left key value right =>
    if n = key then some value else if n < key then left.find? n else right.find? n

theorem mem_toList_of_find? {n : Nat} {value : α} {t : SearchTree α}
    (h : t.find? n = some value) : (n, value) ∈ t.toList := by
  induction t with
  | leaf => cases h
  | node left key v right ihLeft ihRight =>
      rw [find?] at h
      rw [toList, List.mem_append, List.mem_cons]
      split at h
      · next hkey =>
          obtain rfl := Option.some.inj h
          exact .inr (.inl (by rw [hkey]))
      · split at h
        · exact .inl (ihLeft h)
        · exact .inr (.inr (ihRight h))

/-- The last row whose key is at most `n`. -/
def floor? (n : Nat) : SearchTree α → Option (Nat × α)
  | leaf => none
  | node left key value right =>
    if n < key then left.floor? n else (right.floor? n).or (some (key, value))

theorem mem_toList_of_floor? {n : Nat} {row : Nat × α} {t : SearchTree α}
    (h : t.floor? n = some row) : row ∈ t.toList ∧ row.1 ≤ n := by
  induction t with
  | leaf => cases h
  | node left key value right ihLeft ihRight =>
      rw [floor?] at h
      rw [toList, List.mem_append, List.mem_cons]
      split at h
      · exact ⟨.inl (ihLeft h).1, (ihLeft h).2⟩
      · next hkey =>
          rcases Option.or_eq_some_iff.mp h with h | ⟨-, h⟩
          · exact ⟨.inr (.inr (ihRight h).1), (ihRight h).2⟩
          · obtain rfl := Option.some.inj h
            exact ⟨.inr (.inl rfl), Nat.le_of_not_lt hkey⟩

end SearchTree

end MetadataHarvest.Text
