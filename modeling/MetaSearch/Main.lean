import MetaSearch.Command.Launch
import MetaSearch.Datum.Json

/-!
# The program

Reads the command line, the environment and the files that they name, and prints the launch that they make.
-/

namespace MetaSearch.Command

/-- What is in the file of a name. -/
def readSource (name : String) : IO Config.Source := do
  try return .bytes (← IO.FS.readBinFile name).toList
  catch _ => return .missing

/-- The files among some names, read. -/
def readSources (names : List String) : IO (List (String × Config.Source)) :=
  names.mapM fun name => do return (name, ← readSource name)

/-- The variables of the environment that set something. -/
def readVariables : IO Variables := do
  let names := ["HOME", "HOST", "PORT"] ++ Config.variableNames.map Text.upper
  let found ← names.mapM fun name => do return (← IO.getEnv name).map (name, ·)
  return found.filterMap id

end MetaSearch.Command

open MetaSearch Command in
/-- Prints the launch that the command line makes. -/
def main (args : List String) : IO UInt32 := do
  let options := (Options.ofArgs args).toOption.getD {}
  let sources ← readSources (options.config.toList ++ options.dotenv.toList)
  match launch args (← readVariables) fun name => (sources.lookup name).getD .missing with
  | .ok l =>
    IO.println (Json.render l.document)
    return 0
  | .error e =>
    IO.eprintln e.message
    return e.code
