import MetaSearch.Number.Numeral
import MetaSearch.Text.Basic
import MetaSearch.Text.Letter

/-!
# Options

The words of a command line, read as options with values. The name of an option may be cut short as long as it says
which one is meant; a value stands behind the name, or in the same word behind an equal sign. Words are read in
order, and the first that asks for help or makes no sense ends the reading.
-/

namespace MetaSearch.Command

/-- What an option sets. -/
inductive OptionName where
  | help | host | port | config | dotenv | definitionsDirectory | logLevel | logFormat
  deriving DecidableEq, Repr, Inhabited

/-- The options and how they are written. -/
def optionNames : List (String × OptionName) :=
  [("-h", .help), ("--help", .help), ("--host", .host), ("--port", .port), ("--config", .config),
   ("--dotenv", .dotenv), ("--definitions-dir", .definitionsDirectory), ("--log-level", .logLevel),
   ("--log-format", .logFormat)]

/-- What the options set. -/
structure Options where
  host : Option String := none
  port : Option Int := none
  config : Option String := none
  dotenv : Option String := none
  definitionsDirectory : Option String := none
  logLevel : Option String := none
  logFormat : Option String := none
  deriving DecidableEq, Repr, Inhabited

/-- Why reading a command line ends early. -/
inductive Stop where
  /-- Help is asked for. -/
  | help
  /-- The words make no sense. -/
  | misuse
  deriving DecidableEq, Repr, Inhabited

/-- What a word of a command line is. -/
inductive Word where
  | value (s : String)
  /-- The name of an option, maybe with a value in the same word. -/
  | option (name : OptionName) (value : Option String)
  /-- A name that may be that of several options. -/
  | ambiguous
  /-- Two hyphens, or a name that no option has. -/
  | stray
  deriving DecidableEq, Repr, Inhabited

/-- The options that a name means: the one of that name, else all whose names start with it. -/
def meant (name : String) : List OptionName :=
  match optionNames.lookup name with
  | some o => [o]
  | none =>
    if Text.startsWith name "--" then (optionNames.filter fun o => Text.startsWith o.1 name).map (·.2) else []

/-- Whether a word is a negative number. -/
def isNegativeNumber (s : String) : Bool :=
  match s.toList with
  | '-' :: cs =>
    let whole := cs.takeWhile Text.isDecimal
    match cs.drop whole.length with
    | [] => !whole.isEmpty
    | '.' :: places => !places.isEmpty && places.all Text.isDecimal
    | _ => false
  | _ => false

/-- What a word that starts with a hyphen is. -/
def hyphenWord (s : String) : Word :=
  match optionNames.lookup s, Text.cutAt? "=" s with
  | some o, _ => .option o none
  | none, cut =>
    let (name, value) : String × Option String :=
      match cut with
      | some (name, value) => (name, some value)
      | none => (s, none)
    match meant name with
    | [o] => .option o value
    | _ :: _ => .ambiguous
    | [] =>
      -- letters run together behind one hyphen
      if Text.startsWith s "-h" then
        .option .help (if (s.toList.drop 1).all (· == 'h') then none else some (Text.drop 2 s))
      else if isNegativeNumber s || Text.contains s " " then .value s
      else .stray

/-- What a word is. -/
def word (s : String) : Word :=
  if s == "--" then .stray
  else if s == "-" || !Text.startsWith s "-" then .value s
  else hyphenWord s

/-- What the words are; behind two hyphens all are values. -/
def words (args : List String) : List Word :=
  let before := args.takeWhile (· != "--")
  before.map word ++ (args.drop before.length).map fun s => if s == "--" then .stray else .value s

/-- One of some words. -/
def oneOf (choices : List String) (s : String) : Except Stop String :=
  if choices.contains s then .ok s else .error .misuse

/-- An option set to a value. -/
def Options.assign (o : Options) (name : OptionName) (value : String) : Except Stop Options :=
  match name with
  | .help => .error .help
  | .host => .ok { o with host := some value }
  | .port =>
    match Numeral.int? value with
    | some n => .ok { o with port := some n }
    | none => .error .misuse
  | .config => .ok { o with config := some value }
  | .dotenv => .ok { o with dotenv := some value }
  | .definitionsDirectory => .ok { o with definitionsDirectory := some value }
  | .logLevel => (oneOf ["DEBUG", "INFO", "WARNING", "ERROR"] value).map fun v => { o with logLevel := some v }
  | .logFormat => (oneOf ["json", "console"] value).map fun v => { o with logFormat := some v }

/-- Words read one after the other; `sound` is whether all words so far made sense. -/
def readWords (o : Options) (sound : Bool) : List Word → Except Stop Options
  | [] => if sound then .ok o else .error .misuse
  | .ambiguous :: _ => .error .misuse
  | .value _ :: rest | .stray :: rest => readWords o false rest
  | .option .help none :: _ => .error .help
  | .option .help (some _) :: _ => .error .misuse
  | .option name (some value) :: rest => do readWords (← o.assign name value) sound rest
  | .option name none :: .value value :: rest => do readWords (← o.assign name value) sound rest
  | .option _ none :: _ => .error .misuse

/-- How the command line is used. -/
def usage : String :=
  "usage: trawlarr [-h] [--host HOST] [--port PORT] [--config CONFIG] [--dotenv DOTENV]\n" ++
  "                [--definitions-dir DEFINITIONS_DIR] [--log-level LOG_LEVEL] [--log-format LOG_FORMAT]"

/-- The options that a command line sets. -/
def Options.ofArgs (args : List String) : Except Stop Options :=
  readWords {} true (words args)

end MetaSearch.Command
