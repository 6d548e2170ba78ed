import MetadataHarvest.Document.Json
import MetadataHarvest.Harvester

/-!
# The command line

A command lists the formats of a repository, tells its name, or harvests its records as
one document per line. Options name a settings file and parameters that go before it, and
the index of saved responses from which the repository answers.
-/

namespace MetadataHarvest.CommandLine

inductive Action where
  | formats
  | identify
  | harvest
  deriving DecidableEq

namespace Action

def name : Action → String
  | formats => "formats"
  | identify => "identify"
  | harvest => "harvest"

def all : List Action := [formats, identify, harvest]

end Action

inductive OptionKey where
  | settings
  | responses
  | hostUrl
  | metadataPrefix
  | from
  | until
  | repositoryIdentifier
  | output
  deriving DecidableEq

namespace OptionKey

/-- The spellings of an option. -/
def names : OptionKey → List String
  | settings => ["--config", "-c"]
  | responses => ["--responses", "-r"]
  | hostUrl => ["--host-url"]
  | metadataPrefix => ["--metadata-prefix", "-m"]
  | .from => ["--from"]
  | .until => ["--until"]
  | repositoryIdentifier => ["--repository-identifier"]
  | output => ["--output", "-o"]

def all : List OptionKey :=
  [settings, responses, hostUrl, metadataPrefix, .from, .until, repositoryIdentifier, output]

def ofName? (name : String) : Option OptionKey := all.find? (·.names.contains name)

/-- The parameter that an option sets. -/
def parameter? : OptionKey → Option ParameterKey
  | hostUrl => some .hostUrl
  | metadataPrefix => some .metadataPrefix
  | .from => some .from
  | .until => some .until
  | _ => none

end OptionKey

/-- Why arguments are no command. -/
inductive UsageError where
  | unknown (argument : String)
  | missingValue (option : String)
  | missingAction
  deriving DecidableEq

namespace UsageError

def message : UsageError → String
  | unknown argument => s!"unexpected argument '{argument}'"
  | missingValue option => s!"a value is required for '{option}'"
  | missingAction => "one of formats, identify and harvest is required"

end UsageError

structure Command where
  action : Action
  options : List (OptionKey × String)

namespace Command

/-- The value of an option; of several the last counts. -/
def option? (c : Command) (key : OptionKey) : Option String := c.options.reverse.lookup key

/-- Reads arguments, with what was read of them so far. -/
def readFrom (action : Option Action) (options : List (OptionKey × String)) :
    List String → Except UsageError Command
  | [] => match action with
    | some action => .ok ⟨action, options.reverse⟩
    | none => .error .missingAction
  | argument :: arguments =>
    match OptionKey.ofName? argument with
    | some key => match arguments with
      | [] => .error (.missingValue argument)
      | value :: arguments => readFrom action ((key, value) :: options) arguments
    | none =>
      match action, Action.all.find? (·.name = argument) with
      | none, some a => readFrom (some a) options arguments
      | _, _ => .error (.unknown argument)

/-- The command that arguments give. -/
def read (arguments : List String) : Except UsageError Command := readFrom none [] arguments

/-- The parameters of a settings file with those that the options set. -/
def parameters (c : Command) (settings : Parameters) : Except ConfigurationError Parameters :=
  OptionKey.all.foldlM (fun p option =>
    match option.parameter?, c.option? option with
    | some key, some value => (p.set key value).map (·.1)
    | _, _ => .ok p) settings

/-- The catalog of formats that the command uses. -/
def catalog (c : Command) : Catalog :=
  match c.option? .repositoryIdentifier with
  | some id => .ofRepository id
  | none => .standard

end Command

/-- The saved responses that an index lists, an address and a file on each line. -/
def indexEntries (index : String) : List (String × String) :=
  ((Url.Form.splitOn '\n' index.toList).map (Url.Form.splitOn '\t')).filterMap fun
    | [address, file] => some (String.ofList address, String.ofList (Text.trim file))
    | _ => none

/-- The lines that list formats; a star marks those that can be harvested. -/
def formatLines (catalog : Catalog) (formats : AdvertisedFormats) : List String :=
  formats.toList.map fun (metadataPrefix, schema) =>
    (if catalog.supports schema then "* " else "  ") ++ metadataPrefix ++ "\t" ++ schema

/-- The line that sums up a harvest. -/
def summaryLine (name : String) (s : Summary) : String :=
  s!"{name}: {s.records} records, {s.documents} documents, {s.skipped} skipped"

/-- The number of pages after which a harvest stops. -/
def pageLimit : Nat := 1000000

/-- What a command has to say: lines of output, and a last remark or the failure. -/
structure Report where
  lines : List String
  remark : Except String (Option String)

namespace Report

/-- The report of a failure. -/
def ofError (e : HarvestError) : Report := ⟨[], .error e.message⟩

end Report

/-- The message of an interruption. -/
def interruptionMessage : Interruption → String
  | .failed e => e.message
  | .outOfPages => s!"stopped after {pageLimit} pages"

/-- Lists the formats of a repository. -/
def reportFormats (catalog : Catalog) (r : Repository) (hostUrl : String) : Session Report := do
  match ← r.advertised hostUrl with
  | .error e => return .ofError e
  | .ok formats => return ⟨formatLines catalog formats, .ok none⟩

/-- Harvests a repository. -/
def reportHarvest (catalog : Catalog) (r : Repository) (parameters : Parameters) :
    Session Report := do
  match ← Harvester.ofParameters catalog r parameters with
  | .error cause => return .ofError (.configuration cause)
  | .ok harvester => do
    let (outcome, documents) ← harvester.harvest r (fun _ _ => .ok ()) pageLimit
    let lines := documents.map Document.line
    match outcome with
    | .error e => return ⟨lines, .error (interruptionMessage e)⟩
    | .ok summary => do
      let name ← harvester.repositoryName r
      return ⟨lines, .ok (some (summaryLine name summary))⟩

/-- Carries out a command. -/
def Command.report (c : Command) (r : Repository) (settings : Parameters) : Session Report :=
  match c.parameters settings with
  | .error cause => return .ofError (.configuration cause)
  | .ok parameters =>
    match parameters.hostUrl with
    | none => return .ofError (.configuration .missingHostUrl)
    | some hostUrl =>
      match c.action with
      | .formats => reportFormats c.catalog r hostUrl
      | .identify => do return ⟨[← r.name hostUrl], .ok none⟩
      | .harvest => reportHarvest c.catalog r parameters

end MetadataHarvest.CommandLine
