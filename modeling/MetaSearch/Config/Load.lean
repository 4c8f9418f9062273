import MetaSearch.Config.Basic
import MetaSearch.Config.Variables
import MetaSearch.Site.Reader

/-!
# Loading configurations

A configuration is what four layers make: the defaults, a file, the variables of the environment, and what was said
on the command line, each over the ones before. A file of variables adds to the environment first.
-/

namespace MetaSearch.Config

/-- A file that may be named. -/
inductive Source where
  /-- No file is named. -/
  | unnamed
  /-- The named file does not exist. -/
  | missing
  | bytes (content : List UInt8)
  deriving DecidableEq, Repr, Inhabited

/-- Why there is no configuration. -/
inductive Refusal where
  /-- A named file does not exist. -/
  | missingFile
  /-- A file holds no text. -/
  | undecodable
  /-- A file holds no document. -/
  | malformed
  /-- A file holds something else than settings. -/
  | notSettings
  /-- The settings do not fit. -/
  | unfit (complaints : List Complaint)
  | fault (f : Fault)
  deriving DecidableEq, Repr, Inhabited

/-- What a reading of settings comes to. -/
def settle {α : Type} : Shaped α → Except Refusal α
  | .good a => .ok a
  | .bad complaints => .error (.unfit complaints)
  | .broken f => .error (.fault f)

/-- An operation that only faults, as one that may also refuse. -/
def orRefuse {α : Type} : Except Fault α → Except Refusal α
  | .ok a => .ok a
  | .error f => .error (.fault f)

/-- The layer of defaults. -/
def defaultLayer : Entries :=
  match (({} : Config).document).entries? with
  | some entries =>
    -- the format of the log is left to the stage
    Layer.put "logging" "format" .null entries
  | none => []

/-- The settings that the text of a file holds; none where it holds nothing. -/
def fileEntries (text : String) : Except Refusal Entries :=
  match Yaml.read text with
  | .error .malformed => .error .malformed
  | .error (.fault f) => .error (.fault f)
  | .ok .null => .ok []
  | .ok (.map entries) => .ok entries
  | .ok _ => .error .notSettings

/-- The layer that a file makes. -/
def fileLayer : Source → Except Refusal Entries
  | .unnamed => .ok []
  | .missing => .error .missingFile
  | .bytes content => do
    match fileText? content with
    | none => .error .undecodable
    | some text => orRefuse (Layer.sectioned (← fileEntries text))

/-- An environment with what a file of variables adds. -/
def withVariableFile (vars : Variables) : Source → Except Refusal Variables
  | .unnamed => .ok vars
  | .missing => .error .missingFile
  | .bytes content =>
    match fileText? content with
    | none => .error .undecodable
    | some text => .ok (EnvFile.extend vars text)

/-- The configuration that a file, the variables of an environment with a file of more of them, and the command line
make. -/
def load (file variableFile : Source) (vars : Variables) (commandLine : Entries) : Except Refusal Config := do
  let vars ← withVariableFile vars variableFile
  let file ← fileLayer file
  let environment ← settle (variableLayer vars)
  let commandLine ← orRefuse (Layer.sectioned commandLine)
  settle (shape (homeOf? vars) (.map (Layer.stacked defaultLayer [file, environment, commandLine])))

end MetaSearch.Config
