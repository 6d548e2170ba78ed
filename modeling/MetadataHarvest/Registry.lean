/-!
# Registries

A registry keeps values under distinct keys, in the order in which the keys first came. A
key that comes again keeps its place and takes the new value.
-/

namespace MetadataHarvest

structure Registry (α : Type) where
  entries : List (String × α)
  nodup : (entries.map (·.1)).Nodup

namespace Registry

variable {α : Type}

/-- Puts a value under a key, in its old place or at the end. -/
def put (key : String) (value : α) : List (String × α) → List (String × α)
  | [] => [(key, value)]
  | entry :: entries =>
    if entry.1 = key then (key, value) :: entries else entry :: put key value entries

theorem mem_keys_put {key k : String} {value : α} {entries : List (String × α)} :
    k ∈ (put key value entries).map (·.1) ↔ k = key ∨ k ∈ entries.map (·.1) := by
  induction entries with
  | nil => simp [put]
  | cons entry entries ih =>
      simp only [put]
      split
      · next h => simp [h]
      · simp only [List.map_cons, List.mem_cons, ih]
        exact ⟨fun h => by rcases h with h | h | h <;> simp [h],
          fun h => by rcases h with h | h | h <;> simp [h]⟩

theorem nodup_put {key : String} {value : α} {entries : List (String × α)}
    (h : (entries.map (·.1)).Nodup) : ((put key value entries).map (·.1)).Nodup := by
  induction entries with
  | nil => simp [put]
  | cons entry entries ih =>
      simp only [List.map_cons, List.nodup_cons] at h
      simp only [put]
      split
      · next hk => simpa [hk] using h
      · next hk =>
          simp only [List.map_cons, List.nodup_cons, mem_keys_put, not_or]
          exact ⟨⟨hk, h.1⟩, ih h.2⟩

/-- A key that comes again keeps its place, and a new one comes to the end. -/
theorem keys_put (key : String) (value : α) (entries : List (String × α)) :
    (put key value entries).map (·.1) =
      if key ∈ entries.map (·.1) then entries.map (·.1) else entries.map (·.1) ++ [key] := by
  induction entries with
  | nil => rfl
  | cons entry entries ih =>
      rw [put]
      by_cases heq : entry.1 = key
      · rw [if_pos heq, List.map_cons, List.map_cons, heq, if_pos List.mem_cons_self]
      · rw [if_neg heq, List.map_cons, List.map_cons, ih]
        by_cases hmem : key ∈ entries.map (·.1)
        · rw [if_pos hmem, if_pos (List.mem_cons_of_mem _ hmem)]
        · have hnew : key ∉ entry.1 :: entries.map (·.1) := by
            rw [List.mem_cons, not_or]
            exact ⟨Ne.symm heq, hmem⟩
          rw [if_neg hmem, if_neg hnew, List.cons_append]

theorem mem_keys_of_lookup {key : String} {value : α} {entries : List (String × α)}
    (h : entries.lookup key = some value) : key ∈ entries.map (·.1) := by
  obtain ⟨entry, hmem, hkey⟩ := List.lookup_isSome_iff.mp (Option.isSome_of_eq_some h)
  rw [eq_of_beq hkey]
  exact List.mem_map_of_mem hmem

theorem lookup_put_self {key : String} {value : α} {entries : List (String × α)} :
    (put key value entries).lookup key = some value := by
  induction entries with
  | nil => simp [put]
  | cons entry entries ih =>
      simp only [put]
      split
      · simp
      · next h => rw [List.lookup_cons, beq_false_of_ne (Ne.symm h), ih]

theorem lookup_put_of_ne {key k : String} (h : k ≠ key) {value : α}
    {entries : List (String × α)} : (put key value entries).lookup k = entries.lookup k := by
  have hk : (k == key) = false := beq_false_of_ne h
  induction entries with
  | nil => simp [put, List.lookup_cons, hk]
  | cons entry entries ih =>
      obtain ⟨k', v⟩ := entry
      simp only [put]
      split
      · next he =>
          subst he
          simp [List.lookup_cons, hk]
      · simp only [List.lookup_cons, ih]

def empty : Registry α := ⟨[], List.nodup_nil⟩

instance : Inhabited (Registry α) := ⟨empty⟩

def insert (r : Registry α) (key : String) (value : α) : Registry α :=
  ⟨put key value r.entries, nodup_put r.nodup⟩

/-- The registry that keeps these entries, one after the other. -/
def ofList (entries : List (String × α)) : Registry α :=
  entries.foldl (fun r entry => r.insert entry.1 entry.2) empty

def get? (r : Registry α) (key : String) : Option α := r.entries.lookup key

def contains (r : Registry α) (key : String) : Bool := (r.get? key).isSome

/-- The keys, in the order in which they first came. -/
def keys (r : Registry α) : List String := r.entries.map (·.1)

def size (r : Registry α) : Nat := r.entries.length

def isEmpty (r : Registry α) : Bool := r.entries.isEmpty

@[simp] theorem entries_insert (r : Registry α) (key : String) (value : α) :
    (r.insert key value).entries = put key value r.entries := rfl

@[simp] theorem get?_insert_self (r : Registry α) (key : String) (value : α) :
    (r.insert key value).get? key = some value :=
  lookup_put_self

theorem get?_insert_of_ne {key k : String} (h : k ≠ key) (r : Registry α) (value : α) :
    (r.insert key value).get? k = r.get? k :=
  lookup_put_of_ne h

/-- A key has the value with which it is entered, since it is entered once. -/
theorem get?_of_mem {r : Registry α} {key : String} {value : α}
    (h : (key, value) ∈ r.entries) : r.get? key = some value := by
  obtain ⟨before, after, hsplit⟩ := List.append_of_mem h
  have hnodup := r.nodup
  rw [hsplit, List.map_append, List.nodup_append] at hnodup
  refine List.lookup_eq_some_iff.mpr ⟨before, after, hsplit, ?_⟩
  intro entry hmem
  apply bne_iff_ne.mpr
  apply Ne.symm
  exact hnodup.2.2 _ (List.mem_map_of_mem hmem) _ (List.mem_map_of_mem List.mem_cons_self)

end Registry

end MetadataHarvest
