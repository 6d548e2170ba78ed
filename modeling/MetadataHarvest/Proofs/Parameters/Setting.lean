import MetadataHarvest.Parameters.Basic
import MetadataHarvest.Proofs.Text.Trim

/-!
# What setting a parameter keeps

A value that is kept is trimmed, not empty, and an address where one is wanted; it would be
kept as it is if it were set again. Parameters that were set one by one hold no other
values.
-/

namespace MetadataHarvest.Parameters

variable {p : Parameters} {key : ParameterKey} {value v : String}

theorem checkValue_eq_ok_iff :
    checkValue key value = .ok () ↔
      (key.isAddress = true → ∃ address, Url.Address.read value = .ok address) := by
  unfold checkValue
  split
  · next haddress =>
      cases Url.Address.read value with
      | error fault => simp [haddress]
      | ok address => simp
  · next haddress => simp [haddress]

/-- A value is kept trimmed, when it is not blank and may be what it is set for. -/
theorem keptValue_eq_some_iff :
    keptValue key value = .ok (some v) ↔
      Text.nonBlank? value = some v ∧ checkValue key v = .ok () := by
  unfold keptValue
  cases Text.nonBlank? value with
  | none => simp
  | some t =>
      constructor
      · intro h
        dsimp only at h
        cases hcheck : checkValue key t with
        | error cause =>
            rw [hcheck] at h
            cases h
        | ok _ =>
            rw [hcheck] at h
            obtain rfl : t = v := Option.some.inj (Except.ok.inj h)
            exact ⟨rfl, hcheck⟩
      · rintro ⟨hv, hcheck⟩
        obtain rfl : t = v := Option.some.inj hv
        dsimp only
        rw [hcheck]
        rfl

/-- What is kept of a value is the value without its outer blanks, if something is left. -/
theorem eq_nonBlank?_of_keptValue {kept : Option String} (h : keptValue key value = .ok kept) :
    kept = Text.nonBlank? value := by
  cases kept with
  | some v => exact (keptValue_eq_some_iff.mp h).1.symm
  | none =>
      cases hvalue : Text.nonBlank? value with
      | none => rfl
      | some v =>
          simp only [keptValue, hvalue] at h
          cases hcheck : checkValue key v with
          | error cause =>
              rw [hcheck] at h
              cases h
          | ok _ =>
              rw [hcheck] at h
              cases h

/-- What was kept of a value is kept again. -/
theorem keptValue_of_kept (h : keptValue key value = .ok (some v)) :
    keptValue key v = .ok (some v) := by
  obtain ⟨hvalue, hcheck⟩ := keptValue_eq_some_iff.mp h
  exact keptValue_eq_some_iff.mpr ⟨Text.nonBlank?_of_nonBlank? hvalue, hcheck⟩

/-- Any prefix may be kept. -/
theorem keptValue_metadataPrefix (value : String) :
    keptValue .metadataPrefix value = .ok (Text.nonBlank? value) := by
  unfold keptValue
  cases Text.nonBlank? value with
  | none => rfl
  | some t => rfl

theorem set_of_keptValue {kept : Option String} (h : keptValue key value = .ok kept) :
    p.set key value = .ok (p.put kept key, p.get? key != kept) := by
  simp only [set, h]
  rfl

theorem set_of_keptValue_error {cause : ConfigurationError}
    (h : keptValue key value = .error cause) : p.set key value = .error cause := by
  simp only [set, h]
  rfl

@[simp] theorem put_get? (p : Parameters) (key : ParameterKey) :
    p.put (p.get? key) key = p := by
  cases key <;> rfl

/-- Every value is one that setting it keeps. -/
def Kept (p : Parameters) : Prop :=
  ∀ key value, p.get? key = some value → keptValue key value = .ok (some value)

theorem kept_empty : Kept {} := by
  intro key value h
  cases key <;> cases h

/-- Setting one parameter leaves only values that setting keeps. -/
theorem Kept.put (hp : p.Kept) {kept : Option String} (h : keptValue key value = .ok kept) :
    (p.put kept key).Kept := by
  intro k v hget
  by_cases hk : k = key
  · subst hk
    rw [get?_put_self] at hget
    rw [hget] at h
    exact keptValue_of_kept h
  · rw [get?_put_of_ne hk] at hget
    exact hp k v hget

/-- A value that was set is trimmed, not empty, and an address where one is wanted. -/
theorem Kept.isTrimmed (hp : p.Kept) (key : ParameterKey) (hget : p.get? key = some value) :
    Text.trimmed value = value ∧ value ≠ "" ∧
      (key.isAddress = true → ∃ address, Url.Address.read value = .ok address) := by
  obtain ⟨hvalue, hcheck⟩ := keptValue_eq_some_iff.mp (hp key value hget)
  obtain ⟨htrim, hne⟩ := Text.nonBlank?_eq_some_iff.mp hvalue
  exact ⟨htrim, hne, checkValue_eq_ok_iff.mp hcheck⟩

end MetadataHarvest.Parameters
