import MetadataHarvest.Error
import MetadataHarvest.Parameters.Settings
import MetadataHarvest.Text.Blank
import MetadataHarvest.Text.Bytes
import MetadataHarvest.Url.Address

/-!
# Harvest parameters

What to harvest and from where. A parameter that is set keeps its value without outer
blanks; a blank value unsets it, and where an address is wanted anything else is refused.
Parameters may also be made with any values and checked as a whole.
-/

namespace MetadataHarvest

structure Parameters where
  since : Option String := none
  upTo : Option String := none
  hostUrl : Option String := none
  metadataPrefix : Option String := none
  logoUrl : Option String := none
  deriving DecidableEq

namespace Parameters

instance : Inhabited Parameters := ⟨{}⟩

def get? (p : Parameters) : ParameterKey → Option String
  | .from => p.since
  | .until => p.upTo
  | .hostUrl => p.hostUrl
  | .metadataPrefix => p.metadataPrefix
  | .logoUrl => p.logoUrl

/-- The parameters with one of them replaced, whatever the value. -/
def put (p : Parameters) (value : Option String) : ParameterKey → Parameters
  | .from => { p with since := value }
  | .until => { p with upTo := value }
  | .hostUrl => { p with hostUrl := value }
  | .metadataPrefix => { p with metadataPrefix := value }
  | .logoUrl => { p with logoUrl := value }

@[simp] theorem get?_put_self (p : Parameters) (value : Option String) (key : ParameterKey) :
    (p.put value key).get? key = value := by
  cases key <;> rfl

theorem get?_put_of_ne {key k : ParameterKey} (h : k ≠ key) (p : Parameters)
    (value : Option String) : (p.put value key).get? k = p.get? k := by
  cases key <;> cases k <;> first | rfl | exact absurd rfl h

/-- Refuses a value that has to be an address and is none. -/
def checkValue (key : ParameterKey) (value : String) : Except ConfigurationError Unit :=
  if key.isAddress then
    match Url.Address.read value with
    | .ok _ => .ok ()
    | .error fault => .error (.invalidAddress key value fault)
  else .ok ()

/-- A value as it is kept, when it may be. -/
def keptValue (key : ParameterKey) (value : String) :
    Except ConfigurationError (Option String) :=
  match Text.nonBlank? value with
  | none => .ok none
  | some v => (checkValue key v).map fun _ => some v

/-- Sets a parameter, and says whether that changes it. -/
def set (p : Parameters) (key : ParameterKey) (value : String) :
    Except ConfigurationError (Parameters × Bool) := do
  let value ← keptValue key value
  return (p.put value key, p.get? key != value)

/-- Refuses the first value, in the order of the keys, that could not be set. -/
def validate (p : Parameters) : Except ConfigurationError Unit :=
  ParameterKey.all.forM fun key =>
    match (p.get? key).bind Text.nonBlank? with
    | none => .ok ()
    | some value => checkValue key value

/-- The parameters of a settings file: no name may be unknown or occur twice. -/
def ofEntries? (entries : List (String × String)) : Option Parameters :=
  if (entries.map (·.1)).Nodup then
    entries.foldlM (fun p entry =>
      (ParameterKey.all.find? (·.name = entry.1)).map fun key => p.put (some entry.2) key) {}
  else none

/-- The parameters in the text of a settings file. -/
def ofSettings (source : String) : Except HarvestError Parameters :=
  match (Settings.read? source).bind ofEntries? with
  | none => .error .settings
  | some p =>
    match p.validate with
    | .error cause => .error (.configuration cause)
    | .ok _ => .ok p

/-- The parameters in the bytes of a settings file, when there is one. -/
def ofFile (bytes : Option (List UInt8)) : Except HarvestError Parameters :=
  match bytes.bind Text.ofUtf8? with
  | none => .error .file
  | some source => ofSettings source

end Parameters

end MetadataHarvest
