import Kindred.Text.Basic

/-!
# Command lines

A command line has options, a command, and the arguments and options of that command. The options
that hold for all commands may stand before the command or behind it. An option with a value takes
it after an equals sign or from the next argument; two dashes alone end the options.

`CommandLine.read` goes from left to right, and what it meets first decides: a request for help or
for the version, or a fault.
-/

namespace Kindred

/-- When output is coloured. -/
inductive ColorWhen
  /-- When it goes to a terminal. -/
  | auto
  | always
  | never
  deriving DecidableEq, Repr

/-- A command with its arguments and options. -/
inductive Command
  /-- Print the phrase for each code. -/
  | format (codes : List Text) (data : Option Text) (json : Bool)
  /-- Show how a code is broken down. -/
  | explain (code : Text) (data : Option Text) (json : Bool)
  /-- Read and check vocabulary files. -/
  | check (files : List Text) (json strict : Bool)
  deriving DecidableEq, Repr

/-- The paths of the files that a command reads. -/
def Command.paths : Command → List Text
  | .format _ data _ => data.toList
  | .explain _ data _ => data.toList
  | .check files _ _ => files

/-- A command line that can be followed. -/
inductive CommandLine
  /-- Run a command. -/
  | run (command : Command) (color : ColorWhen) (verbose : Bool)
  /-- Say how the program is used. -/
  | help
  /-- Say which version the program is. -/
  | version
  deriving DecidableEq, Repr

/-- Why a command line cannot be followed. -/
inductive UsageError
  /-- An option is not known where it stands. -/
  | unknownOption (option : Text)
  /-- An option is given twice. -/
  | repeatedOption (option : Text)
  /-- An option has no value. -/
  | missingValue (option : Text)
  /-- An option has a value that it cannot have. -/
  | badValue (option value : Text)
  /-- There is no command of that name. -/
  | unknownCommand (name : Text)
  /-- No command is given. -/
  | missingCommand
  /-- A command lacks an argument. -/
  | missingArgument
  /-- A command has an argument too many. -/
  | extraArgument (argument : Text)
  deriving DecidableEq, Repr

namespace CommandLine

/-! ## Options -/

/-- The options there are. -/
inductive Opt
  | color
  | verbose
  | help
  | version
  | data
  | json
  | strict
  deriving DecidableEq, Repr

/-- The name of an option behind two dashes. -/
def Opt.name : Opt → Text
  | .color => "color".toList
  | .verbose => "verbose".toList
  | .help => "help".toList
  | .version => "version".toList
  | .data => "data".toList
  | .json => "json".toList
  | .strict => "strict".toList

/-- The letter of an option behind one dash. -/
def Opt.letter? : Opt → Option Char
  | .verbose => some 'v'
  | .help => some 'h'
  | .version => some 'V'
  | _ => none

/-- Whether an option has a value. -/
def Opt.hasValue : Opt → Bool
  | .color | .data => true
  | _ => false

/-- Where options may stand. -/
structure Level where
  /-- The options that are known there. -/
  options : List Opt
  /-- How many arguments may stand there; `none` for any number. -/
  capacity : Option Nat
  /-- Whether an argument may be empty. -/
  allowsEmpty : Bool

/-- What has been read at a level. -/
structure Given where
  /-- The options given, with their values; the last one first. -/
  options : List (Opt × Text)
  /-- The arguments given, the last one first. -/
  arguments : List Text

namespace Given

/-- Nothing is given. -/
def nothing : Given := ⟨[], []⟩

/-- Whether an option is given. -/
def has (given : Given) (option : Opt) : Bool := given.options.any fun (o, _) => o == option

/-- The value of an option that is given. -/
def value? (given : Given) (option : Opt) : Option Text :=
  (given.options.find? fun (o, _) => o == option).map Prod.snd

end Given

/-- What an option with its value leads to. -/
inductive Step
  /-- Reading goes on. -/
  | next (given : Given)
  /-- The command line asks for something else. -/
  | stop (line : CommandLine)

/-- The colours that can be asked for. -/
def colorNamed? (name : Text) : Option ColorWhen :=
  if name = "auto".toList then some .auto
  else if name = "always".toList then some .always
  else if name = "never".toList then some .never
  else none

/-- Notes an option that is given with a value, which is empty if it has none. -/
def note (given : Given) (option : Opt) (value : Text) : Except UsageError Step :=
  if option = .help then .ok (.stop .help)
  else if option = .version then .ok (.stop .version)
  else if given.has option then .error (.repeatedOption option.name)
  else if option = .color ∧ colorNamed? value = none then .error (.badValue option.name value)
  else if option = .data ∧ value = [] then .error (.missingValue option.name)
  else .ok (.next { given with options := (option, value) :: given.options })

/-- Notes the options of a run of letters behind one dash. -/
def noteLetters (level : Level) (given : Given) : Text → Except UsageError Step
  | [] => .ok (.next given)
  | letter :: rest =>
    match level.options.find? fun o => o.letter? == some letter with
    | none => .error (.unknownOption [letter])
    | some option =>
      match note given option [] with
      | .ok (.next given) => noteLetters level given rest
      | result => result

/-- Notes an argument. -/
def noteArgument (level : Level) (given : Given) (argument : Text) : Except UsageError Given :=
  if level.capacity.any (· ≤ given.arguments.length) then .error (.extraArgument argument)
  else if argument.isEmpty && !level.allowsEmpty then .error .missingArgument
  else .ok { given with arguments := argument :: given.arguments }

/-- How an argument is meant. -/
inductive Shape
  /-- Two dashes alone. -/
  | dashes
  /-- An option by its name, with a value after an equals sign if there is one. -/
  | long (name : Text) (value : Option Text)
  /-- Options by their letters. -/
  | short (letters : Text)
  /-- An argument. -/
  | plain
  deriving DecidableEq, Repr

/-- The shape of an argument. -/
def Shape.of (argument : Text) : Shape :=
  match argument with
  | ['-', '-'] => .dashes
  | '-' :: '-' :: name =>
    match Text.splitAtMark '=' name with
    | some (name, value) => .long name (some value)
    | none => .long name none
  | '-' :: letter :: letters => .short (letter :: letters)
  | _ => .plain

/-- The arguments of a command behind two dashes alone. -/
def readPlain (level : Level) (given : Given) : List Text → Except UsageError Given
  | [] => .ok given
  | argument :: rest => do readPlain level (← noteArgument level given argument) rest

/-- What is read up to the end of a command line or, at a level without arguments, up to the first
argument, which is then given with the rest. -/
inductive Reading
  /-- The command line has ended. -/
  | ended (given : Given)
  /-- An argument is met at a level without arguments. -/
  | met (given : Given) (argument : Text) (rest : List Text)
  /-- The command line asks for something else. -/
  | stopped (line : CommandLine)

/-- The option of a name, and its value if the argument that names it holds one. -/
def findOption (level : Level) (name : Text) (value : Option Text) : Except UsageError Opt :=
  match level.options.find? fun o => o.name == name with
  | none => .error (.unknownOption name)
  | some option =>
    match value with
    | none => .ok option
    | some value => if option.hasValue then .ok option else .error (.badValue name value)

/-- Reads at a level. An option that waits for its value is `pending`. -/
def readLevel (level : Level) (given : Given) (pending : Option Opt) :
    List Text → Except UsageError Reading
  | [] =>
    match pending with
    | none => .ok (.ended given)
    | some option => .error (.missingValue option.name)
  | argument :: rest =>
    let go (step : Except UsageError Step) : Except UsageError Reading :=
      match step with
      | .error e => .error e
      | .ok (.stop line) => .ok (.stopped line)
      | .ok (.next given) => readLevel level given none rest
    match pending with
    | some option =>
      if Shape.of argument = .plain then go (note given option argument)
      else .error (.missingValue option.name)
    | none =>
      match Shape.of argument with
      | .dashes => (readPlain level given rest).map .ended
      | .short letters => go (noteLetters level given letters)
      | .plain =>
        if level.capacity = some 0 then .ok (.met given argument rest)
        else go ((noteArgument level given argument).map .next)
      | .long name value =>
        match findOption level name value with
        | .error e => .error e
        | .ok option =>
          if option.hasValue && value.isNone then readLevel level given (some option) rest
          else go (note given option (value.getD []))

/-! ## Commands -/

/-- The level before the command. -/
def outerLevel : Level := ⟨[.color, .verbose, .help, .version], some 0, true⟩

/-- The level of `format`. -/
def formatLevel : Level := ⟨[.color, .verbose, .help, .data, .json], none, true⟩

/-- The level of `explain`. -/
def explainLevel : Level := ⟨[.color, .verbose, .help, .data, .json], some 1, true⟩

/-- The level of `check`. -/
def checkLevel : Level := ⟨[.color, .verbose, .help, .json, .strict], none, false⟩

/-- The names of the commands. -/
def commandNames : List Text := ["format", "explain", "check", "help"].map String.toList

/-- Reads the arguments of the command `help`: at most the name of a command. -/
def readHelp : List Text → Except UsageError CommandLine
  | [] => .ok .help
  | [name] => if commandNames.contains name then .ok .help else .error (.unknownCommand name)
  | name :: other :: _ =>
    .error (.unknownCommand (if commandNames.contains name then other else name))

/-- The path of the vocabulary: that of the option, or else the default one, which may not be
empty. -/
def dataPath (given : Given) (fallback : Option Text) : Except UsageError (Option Text) :=
  match given.value? .data with
  | some path => .ok (some path)
  | none => if fallback = some [] then .error (.missingValue Opt.data.name) else .ok fallback

/-- Reads what stands behind a command and completes it with the options before it. -/
def readCommand (outer : Given) (level : Level) (rest : List Text)
    (complete : Given → Except UsageError Command) : Except UsageError CommandLine := do
  match ← readLevel level .nothing none rest with
  | .stopped line => return line
  | .met _ argument _ => .error (.extraArgument argument)
  | .ended given =>
    let command ← complete { given with arguments := given.arguments.reverse }
    let color := ((given.value? .color).or (outer.value? .color)).bind colorNamed?
    return .run command (color.getD .auto) (given.has .verbose || outer.has .verbose)

/-- The command line that arguments denote, where `data` is the path of the vocabulary if no option
names one. -/
def read (data : Option Text) (arguments : List Text) : Except UsageError CommandLine := do
  match ← readLevel outerLevel .nothing none arguments with
  | .stopped line => return line
  | .ended _ => .error .missingCommand
  | .met outer name rest =>
    if name = "format".toList then
      readCommand outer formatLevel rest fun given =>
        if given.arguments.isEmpty then .error .missingArgument
        else return .format given.arguments (← dataPath given data) (given.has .json)
    else if name = "explain".toList then
      readCommand outer explainLevel rest fun given =>
        match given.arguments with
        | [] => .error .missingArgument
        | code :: _ => return .explain code (← dataPath given data) (given.has .json)
    else if name = "check".toList then
      readCommand outer checkLevel rest fun given =>
        if given.arguments.isEmpty then .error .missingArgument
        else return .check given.arguments (given.has .json) (given.has .strict)
    else if name = "help".toList then readHelp rest
    else .error (.unknownCommand name)

end CommandLine

end Kindred
