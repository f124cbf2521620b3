import ScriptTags.Error
import ScriptTags.Files.Path
import ScriptTags.Record.Check

/-!
# Arguments

The command line is the name of a command and its arguments. Options may stand anywhere among them:
long ones, whose value may follow an equals sign, and short ones, several of which may share one
dash. After two dashes nothing is an option any more. Of an option given twice the last one counts.
-/

namespace ScriptTags

namespace Command

inductive Flag where
  | output
  | concurrency
  | config
  | verbose
  | help
  deriving DecidableEq, Repr

namespace Flag

def long : Flag → String
  | .output => "--output"
  | .concurrency => "--concurrency"
  | .config => "--config"
  | .verbose => "--verbose"
  | .help => "--help"

def short? : Flag → Option Char
  | .output => some 'f'
  | .concurrency => some 'j'
  | .verbose => some 'v'
  | .config | .help => none

def takesValue : Flag → Bool
  | .output | .concurrency | .config => true
  | .verbose | .help => false

end Flag

structure Given where
  /-- The options in their order; an option without a value has the empty one. -/
  options : List (Flag × String) := []
  arguments : List String := []
  deriving DecidableEq, Repr

namespace Given

def value? (g : Given) (flag : Flag) : Option String :=
  (g.options.reverse.find? (·.1 == flag)).map (·.2)

def has (g : Given) (flag : Flag) : Bool := (g.value? flag).isSome

end Given

/-- Options read off one argument, and the option whose value is the next argument. -/
abbrev Reading := List (Flag × String) × Option Flag

/-- Short options behind one dash. What follows one that takes a value is the value. -/
def readCluster (flags : List Flag) : List Char → Option Reading
  | [] => some ([], none)
  | c :: cs =>
    match flags.find? (·.short? == some c) with
    | none => none
    | some flag =>
      if flag.takesValue then
        if cs.isEmpty then some ([], some flag) else some ([(flag, String.ofList cs)], none)
      else (readCluster flags cs).map fun (options, waiting) => ((flag, "") :: options, waiting)

def readOption (flags : List Flag) (arg : String) : Option Reading :=
  let cs := arg.toList
  let name := cs.takeWhile (· != '=')
  let explicit :=
    if name.length < cs.length then some (String.ofList (cs.drop (name.length + 1))) else none
  match flags.find? (·.long == String.ofList name) with
  | some flag =>
    match flag.takesValue, explicit with
    | true, some value => some ([(flag, value)], none)
    | true, none => some ([], some flag)
    | false, none => some ([(flag, "")], none)
    | false, some _ => none
  | none => if arg.startsWith "--" then none else readCluster flags (cs.drop 1)

/-- A dash by itself is no option. -/
def isOption (arg : String) : Bool := arg.startsWith "-" && arg != "-"

def Given.ofArguments (flags : List Flag) (args : List String) : Option Given :=
  match args with
  | [] => some {}
  | arg :: rest =>
    if arg = "--" then some { arguments := rest }
    else if isOption arg then
      match readOption flags arg, rest with
      | none, _ => none
      | some (options, none), rest =>
        (ofArguments flags rest).map fun g => { g with options := options ++ g.options }
      | some (_, some _), [] => none
      | some (options, some flag), value :: rest =>
        (ofArguments flags rest).map fun g =>
          { g with options := options ++ (flag, value) :: g.options }
    else (ofArguments flags rest).map fun g => { g with arguments := arg :: g.arguments }
termination_by args.length

/-- The whole number that a text spells, unless it has too many digits. -/
def wholeNumber? (text : String) : Option Int :=
  let (negative, cs) := Record.Value.unsigned (Text.trimBlanks text.toList)
  if Text.Decimal.maxDigits < (cs.filter Char.isDigit).length then none
  else (Record.Value.digits? cs).map fun n => if negative then -(n : Int) else n

structure TagOptions where
  paths : List String
  output : Option String := none
  concurrency : Option Nat := none
  config : Option String := none
  verbose : Bool := false
  deriving DecidableEq, Repr

end Command

inductive Command where
  /-- Write the tags of files. -/
  | tag (options : Command.TagOptions)
  /-- Show all settings, or one. -/
  | showSettings (key config : Option String)
  /-- Show the version of the program. -/
  | version
  deriving DecidableEq, Repr

namespace Command

/-- Why the command line names no command to run. -/
inductive Refusal where
  | usage
  | help
  | fatal (fault : Fault)
  deriving DecidableEq, Repr

/-- The number of files to read at the same time, which is at least one. -/
def concurrency (g : Given) : Except Refusal (Option Nat) :=
  match g.value? .concurrency with
  | none => .ok none
  | some text =>
    match wholeNumber? text with
    | some n => if 1 ≤ n then .ok (some n.toNat) else .error .usage
    | none => .error .usage

/-- The path of a settings file, which is looked up before the command runs. -/
def config (g : Given) : Except Refusal (Option String) :=
  match g.value? .config with
  | none => .ok none
  | some path =>
    if Files.Path.hasNull path then .error (.fatal (.nullInSearch "stat")) else .ok (some path)

def ofArguments (name : String) (args : List String) : Except Refusal Command :=
  let given (flags : List Flag) : Except Refusal Given :=
    match Given.ofArguments flags args with
    | none => .error .usage
    | some g => if g.has .help then .error .help else .ok g
  match name with
  | "tag" => do
    let g ← given [.output, .concurrency, .config, .verbose, .help]
    let concurrency ← concurrency g
    let config ← config g
    let options : TagOptions :=
      { paths := g.arguments, output := g.value? .output, concurrency, config,
        verbose := g.has .verbose }
    if g.arguments.isEmpty then .error .usage else return .tag options
  | "config" => do
    let g ← given [.config, .help]
    let config ← config g
    match g.arguments with
    | [] => return .showSettings none config
    | [key] => return .showSettings (some key) config
    | _ => .error .usage
  | "version" => do
    let g ← given [.help]
    if g.arguments.isEmpty then return .version else .error .usage
  | _ => .error .usage

def parse (args : List String) : Except Refusal Command :=
  match args with
  | "--" :: name :: rest => ofArguments name rest
  | name :: rest =>
    if name = "--help" then .error .help
    else if isOption name then .error .usage
    else ofArguments name rest
  | [] => .error .usage

end Command

end ScriptTags
