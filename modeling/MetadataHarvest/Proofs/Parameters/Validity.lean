import MetadataHarvest.Proofs.Parameters.Setting

/-!
# Parameters that could be set

Setting a parameter touches no other one, and a value that is refused changes nothing. Whether a
value is refused does not depend on the other parameters, so that parameters are valid exactly when
each of them could be set, and stay valid whatever is set after that.
-/

namespace MetadataHarvest

section Traversal

variable {α ε : Type} {f : α → Except ε Unit} {as : List α} {e : ε}

end Traversal

namespace Parameters

variable {p : Parameters} {key : ParameterKey} {value : String} {cause : ConfigurationError}

section Attempt

end Attempt

section Validate

/-- What is kept of a parameter when it is set again. -/
def keptEntry (p : Parameters) (key : ParameterKey) : Except ConfigurationError (Option String) :=
  match p.get? key with
  | none => .ok none
  | some value => keptValue key value

theorem keptEntry_eq_error (h : p.keptEntry key = .error cause) :
    ∃ value, p.get? key = some value ∧ keptValue key value = .error cause := by
  rw [keptEntry] at h
  cases hget : p.get? key with
  | none =>
      rw [hget] at h
      cases h
  | some value =>
      rw [hget] at h
      exact ⟨value, rfl, h⟩

end Validate

section Entry

/-- A parameter without its outer blanks, if something is left. -/
def tidy? (p : Parameters) (key : ParameterKey) : Option String :=
  (p.get? key).bind Text.nonBlank?

/-- Whether a parameter is an address, unless it is missing or blank. -/
def HoldsAddress (p : Parameters) (key : ParameterKey) : Prop :=
  ∀ value, p.tidy? key = some value → ∃ address, Url.Address.read value = .ok address

theorem checkValue_of_fault {value : String} {fault : Url.Fault} (haddress : key.isAddress = true)
    (hfault : Url.Address.read value = .error fault) :
    checkValue key value = .error (.invalidAddress key value fault) := by
  rw [checkValue, if_pos haddress, hfault]

theorem keptEntry_of_not_isAddress (h : key.isAddress = false) :
    p.keptEntry key = .ok (p.tidy? key) := by
  rw [keptEntry, tidy?]
  cases p.get? key with
  | none => rfl
  | some value =>
      simp only [Option.bind_some, keptValue]
      cases Text.nonBlank? value with
      | none => rfl
      | some v => simp [checkValue, h, Except.map]

/-- A parameter that has to be an address may be kept when it is one. -/
theorem keptEntry_eq_ok_iff (haddress : key.isAddress = true) :
    p.keptEntry key = .ok (p.tidy? key) ↔ p.HoldsAddress key := by
  rw [HoldsAddress, keptEntry, tidy?]
  cases p.get? key with
  | none => simp
  | some value =>
      simp only [Option.bind_some, keptValue]
      cases Text.nonBlank? value with
      | none => simp
      | some v =>
          cases hread : Url.Address.read v with
          | error fault => simp [checkValue_of_fault haddress hread, hread, Except.map]
          | ok address => simp [checkValue, hread, Except.map]

/-- What is refused otherwise is the text that is no address. -/
theorem keptEntry_eq_error_iff (haddress : key.isAddress = true) :
    p.keptEntry key = .error cause ↔
      ∃ value fault, p.tidy? key = some value ∧ Url.Address.read value = .error fault ∧
        cause = .invalidAddress key value fault := by
  rw [keptEntry, tidy?]
  cases p.get? key with
  | none => simp
  | some value =>
      simp only [Option.bind_some, keptValue]
      cases Text.nonBlank? value with
      | none => simp
      | some v =>
          cases hread : Url.Address.read v with
          | error fault =>
              simp [checkValue_of_fault haddress hread, hread, Except.map, eq_comm]
          | ok address => simp [checkValue, hread, Except.map]

theorem exists_fault_of_not_holdsAddress (h : ¬p.HoldsAddress key) :
    ∃ value fault, p.tidy? key = some value ∧ Url.Address.read value = .error fault := by
  simp only [HoldsAddress, not_forall] at h
  obtain ⟨value, hvalue, hnot⟩ := h
  cases hread : Url.Address.read value with
  | error fault => exact ⟨value, fault, hvalue, hread⟩
  | ok address => exact absurd ⟨address, hread⟩ hnot

end Entry

end Parameters

end MetadataHarvest
