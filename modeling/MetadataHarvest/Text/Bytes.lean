/-!
# Byte positions in a text

A text has a length in bytes of its UTF-8 form, and it can be cut at a byte position
only where a character ends.
-/

namespace MetadataHarvest.Text

/-- The number of bytes of the UTF-8 form of `cs`. -/
def byteLength : List Char → Nat
  | [] => 0
  | c :: cs => c.utf8Size + byteLength cs

@[simp] theorem byteLength_nil : byteLength [] = 0 := rfl

@[simp] theorem byteLength_cons (c : Char) (cs : List Char) :
    byteLength (c :: cs) = c.utf8Size + byteLength cs := rfl

/-- The two parts of `cs` around byte position `n`, when a character ends there. -/
def splitAtByte? : Nat → List Char → Option (List Char × List Char)
  | 0, cs => some ([], cs)
  | _ + 1, [] => none
  | n + 1, c :: cs =>
    if c.utf8Size ≤ n + 1 then
      (splitAtByte? (n + 1 - c.utf8Size) cs).map fun parts => (c :: parts.1, parts.2)
    else none

@[simp] theorem splitAtByte?_zero (cs : List Char) : splitAtByte? 0 cs = some ([], cs) := by
  cases cs <;> rfl

theorem append_of_splitAtByte? {n : Nat} {cs front back : List Char}
    (h : splitAtByte? n cs = some (front, back)) : front ++ back = cs := by
  induction cs generalizing n front with
  | nil => cases n <;> simp_all [splitAtByte?]
  | cons c cs ih =>
      cases n with
      | zero => simp_all [splitAtByte?]
      | succ n =>
          simp only [splitAtByte?] at h
          split at h
          · simp only [Option.map_eq_some_iff] at h
            obtain ⟨⟨a, b⟩, hab, he⟩ := h
            simp only [Prod.mk.injEq] at he
            obtain ⟨rfl, rfl⟩ := he
            simp [ih hab]
          · simp at h

theorem byteLength_of_splitAtByte? {n : Nat} {cs front back : List Char}
    (h : splitAtByte? n cs = some (front, back)) : byteLength front = n := by
  induction cs generalizing n front with
  | nil => cases n <;> simp_all [splitAtByte?]
  | cons c cs ih =>
      cases n with
      | zero => simp_all [splitAtByte?]
      | succ n =>
          simp only [splitAtByte?] at h
          split at h
          · simp only [Option.map_eq_some_iff] at h
            obtain ⟨⟨a, b⟩, hab, he⟩ := h
            simp only [Prod.mk.injEq] at he
            obtain ⟨rfl, rfl⟩ := he
            have := ih hab
            simp only [byteLength_cons]
            omega
          · simp at h

@[simp] theorem byteLength_append (cs ds : List Char) :
    byteLength (cs ++ ds) = byteLength cs + byteLength ds := by
  induction cs with
  | nil => rw [List.nil_append, byteLength_nil, Nat.zero_add]
  | cons c cs ih => rw [List.cons_append, byteLength_cons, ih, byteLength_cons, Nat.add_assoc]

/-- A text is cut where a part of it ends. -/
theorem splitAtByte?_byteLength (front back : List Char) :
    splitAtByte? (byteLength front) (front ++ back) = some (front, back) := by
  induction front with
  | nil => exact splitAtByte?_zero back
  | cons c front ih =>
      obtain ⟨size, hsize⟩ := Nat.exists_eq_succ_of_ne_zero (Nat.pos_iff_ne_zero.mp c.utf8Size_pos)
      have htotal : byteLength (c :: front) = (size + byteLength front) + 1 := by
        rw [byteLength_cons, hsize, Nat.succ_add]
      have hrest : size + byteLength front + 1 - c.utf8Size = byteLength front := by omega
      rw [htotal, List.cons_append, splitAtByte?, if_pos (by omega), hrest, ih]
      rfl

/-- The bytes of the UTF-8 form of `cs`. -/
def utf8 (cs : List Char) : List UInt8 := cs.flatMap String.utf8EncodeChar

/-- The text whose UTF-8 form is `bytes`, if there is one. -/
def ofUtf8? (bytes : List UInt8) : Option String :=
  String.fromUTF8? ⟨bytes.toArray⟩

end MetadataHarvest.Text
