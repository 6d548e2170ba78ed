/-!
# Scanning text

Small steps from which readers are built. Each says what it takes from the front of a
text and what follows; what follows is a suffix, so that a reader which always takes
something comes to an end.
-/

namespace MetadataHarvest.Text

/-- The text before the first occurrence of `mark` and the text after it. -/
def breakOn? (mark : List Char) : List Char → Option (List Char × List Char)
  | [] => none
  | c :: cs =>
    if mark.isPrefixOf (c :: cs) then some ([], (c :: cs).drop mark.length)
    else (breakOn? mark cs).map fun parts => (c :: parts.1, parts.2)

theorem append_of_breakOn? {mark cs front back : List Char}
    (h : breakOn? mark cs = some (front, back)) : front ++ mark ++ back = cs := by
  induction cs generalizing front with
  | nil => simp [breakOn?] at h
  | cons c cs ih =>
      simp only [breakOn?] at h
      split at h
      · next hp =>
          obtain ⟨rest, hrest⟩ := List.isPrefixOf_iff_prefix.mp hp
          simp only [Option.some.injEq, Prod.mk.injEq] at h
          obtain ⟨rfl, rfl⟩ := h
          rw [← hrest]
          simp
      · simp only [Option.map_eq_some_iff] at h
        obtain ⟨⟨a, b⟩, hab, he⟩ := h
        simp only [Prod.mk.injEq] at he
        obtain ⟨rfl, rfl⟩ := he
        simp [← ih hab]

theorem length_of_breakOn? {mark cs front back : List Char}
    (h : breakOn? mark cs = some (front, back)) :
    front.length + mark.length + back.length = cs.length := by
  rw [← append_of_breakOn? h]
  simp only [List.length_append]

theorem length_dropWhile_le (p : Char → Bool) (cs : List Char) :
    (cs.dropWhile p).length ≤ cs.length :=
  (List.dropWhile_suffix p).length_le

/-- What follows `mark` at the front of `cs`, ASCII letters of either case being equal. -/
def afterIgnoringCase? (mark : List Char) (cs : List Char) : Option (List Char) :=
  if (cs.take mark.length).map Char.toLower = mark.map Char.toLower then
    some (cs.drop mark.length)
  else none

end MetadataHarvest.Text
