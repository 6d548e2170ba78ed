/-!
# Parameter names

The parameters of a harvest by name. Names are compared without regard to the case of
ASCII letters.
-/

namespace MetadataHarvest

inductive ParameterKey where
  | from
  | until
  | hostUrl
  | metadataPrefix
  | logoUrl
  deriving DecidableEq

namespace ParameterKey

def name : ParameterKey → String
  | .from => "from"
  | .until => "until"
  | hostUrl => "hostUrl"
  | metadataPrefix => "metadataPrefix"
  | logoUrl => "logoUrl"

/-- All keys, in the order in which they are checked. -/
def all : List ParameterKey := [.from, .until, hostUrl, metadataPrefix, logoUrl]

/-- Whether the value of a parameter has to be an address. -/
def isAddress : ParameterKey → Bool
  | hostUrl | logoUrl => true
  | .from | .until | metadataPrefix => false

/-- The key with a name, letters of either case being equal. -/
def ofName? (s : String) : Option ParameterKey :=
  all.find? fun key => key.name.toList.map Char.toLower = s.toList.map Char.toLower

@[simp] theorem ofName?_name (key : ParameterKey) : ofName? key.name = some key := by
  cases key <;> decide

end ParameterKey

end MetadataHarvest
