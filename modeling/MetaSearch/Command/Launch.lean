import MetaSearch.Command.Options
import MetaSearch.Config.Load

/-!
# Launches

What the command line, the environment and the configuration files make of a start of the service: the address that
it listens on, its title and its configuration.
-/

namespace MetaSearch.Command

/-- A service about to run. -/
structure Launch where
  host : String
  port : Int
  title : String := "Trawlarr"
  config : Config
  deriving Repr, Inhabited

/-- A launch as a document. -/
def Launch.document (l : Launch) : Datum :=
  .object [("host", .text l.host), ("port", .int l.port), ("title", .text l.title), ("config", l.config.document)]

/-- Why no service is launched. -/
inductive NoLaunch where
  | stop (s : Stop)
  /-- The port in the environment is no number. -/
  | badPort
  | refused (r : Config.Refusal)
  deriving DecidableEq, Repr, Inhabited

/-- What is said when no service is launched. -/
def NoLaunch.message : NoLaunch → String
  | .stop _ => usage
  | .badPort => "the port in the environment is no number"
  | .refused .missingFile => "a configuration file does not exist"
  | .refused .undecodable => "a configuration file holds no text"
  | .refused .malformed => "a configuration file holds no document"
  | .refused .notSettings => "a configuration file holds no settings"
  | .refused (.unfit complaints) => "\n".intercalate (complaints.map (Complaint.text · ""))
  | .refused (.fault _) => "a setting is of the wrong kind"

/-- The code that the program ends with when no service is launched. -/
def NoLaunch.code : NoLaunch → UInt32
  | .stop .help => 0
  | .stop .misuse => 2
  | _ => 1

/-- A text unless it is empty. -/
def unlessEmpty (s : Option String) : Option String :=
  s.filter fun s => !s.isEmpty

/-- The layer of settings that options make. -/
def Options.layer (o : Options) : Config.Entries :=
  [("definitions_dir", o.definitionsDirectory), ("log_level", o.logLevel), ("log_format", o.logFormat)].filterMap
    fun (name, value) => (unlessEmpty value).map fun v => (Datum.text name, Datum.text v)

/-- The port to listen on: that of the options unless it is zero, else that of the environment. -/
def port (o : Options) (vars : Variables) : Option Int :=
  match o.port.filter (· ≠ 0) with
  | some n => some n
  | none => Numeral.int? ((vars.reverse.lookup "PORT").getD "7979")

/-- A service launched by a command line; `file` tells what is in the file of a name. -/
def launch (args : List String) (vars : Variables) (file : String → Config.Source) : Except NoLaunch Launch := do
  let o ← (Options.ofArgs args).mapError .stop
  let host := (unlessEmpty o.host).getD ((vars.reverse.lookup "HOST").getD "0.0.0.0")
  match port o vars with
  | none => throw .badPort
  | some port =>
    let source := fun name => ((unlessEmpty name).map file).getD .unnamed
    let config ← (Config.load (source o.config) (source o.dotenv) vars o.layer).mapError .refused
    return { host, port, config }

end MetaSearch.Command
