import Kindred.Command.Arguments
import Kindred.Lint
import Kindred.Report.Diagnostic
import Kindred.Report.Json
import Kindred.Report.Table
import Kindred.Vocabulary.Loading

/-!
# Running commands

What a command does is a function of the command line and of the files it reads: an exit code and
the texts written to the two output streams. `format` and `explain` need a vocabulary, the English
one if none is named; `check` reads and checks each file on its own and fails if one of them fails,
or under `--strict` if one of them has a warning.
-/

namespace Kindred

/-- What the program finds around it. -/
structure Environment where
  /-- What is found under a path. -/
  file : Text → FileContent
  /-- The path of the vocabulary to use if no option names one. -/
  data : Option Text
  /-- The dialect of the patterns in vocabularies. -/
  dialect : Pattern.Dialect

/-- What a run of the program comes to. -/
structure RunResult where
  /-- The exit code. -/
  exit : Nat
  /-- The text written to the standard output. -/
  stdout : Text
  /-- The lines written to the standard error output. -/
  stderr : List Text
  deriving DecidableEq, Repr

namespace RunResult

/-- The exit code of a run without faults. -/
def success : Nat := 0

/-- The exit code for a command line that cannot be followed. -/
def usageFault : Nat := 2

/-- The exit code for a check that fails. -/
def dataFault : Nat := 65

/-- The exit code for a vocabulary that cannot be used. -/
def loadFault : Nat := 70

end RunResult

namespace Command

/-! ## Colours -/

/-- The colours of output. -/
inductive Color
  | green
  | yellow
  deriving DecidableEq, Repr

/-- A word, in colour if `colored`. -/
def paint (colored : Bool) (color : Color) (word : Text) : Text :=
  let number := match color with
    | .green => "32".toList
    | .yellow => "33".toList
  if colored then '\x1b' :: '[' :: number ++ 'm' :: word ++ "\x1b[39m".toList else word

/-- Whether output that does not go to a terminal is coloured. -/
def isColored : ColorWhen → Bool
  | .always => true
  | _ => false

/-! ## Messages -/

/-- A warning for a file as it is written. -/
def warningLine (colored : Bool) (path message : Text) : Text :=
  paint colored .yellow "warning".toList ++ ": ".toList ++ path ++ ": ".toList ++ message

/-- The report of a fault. Its lines behind the first are indented, so that none of them can be
taken for a warning. -/
def faultLine (message : Text) : Text :=
  "error: ".toList ++ message.flatMap fun c => if c = '\n' then "\n  ".toList else [c]

/-! ## Vocabularies -/

/-- The report that a file to check cannot be read. -/
def unreadable (path reason : Text) : Text :=
  "Failed to read ".toList ++ path ++ ": ".toList ++ reason

/-- The report that the file of a vocabulary to use cannot be read. -/
def unreadableVocabulary (path reason : Text) : Text :=
  "Failed to read vocabulary file ".toList ++ path ++ ": ".toList ++ reason

/-- The result of loading a vocabulary: the formatter or the report of a fault, after the lines
that are written on the way. -/
structure Loaded where
  /-- The lines written on the way. -/
  lines : List Text
  /-- The formatter, or what is reported. -/
  result : Except Text Formatter

/-- Loads the vocabulary of a path, or the English one. With `verbose` the vocabulary is named and
the warnings for it are written, but not before it could be read. -/
def loadFormatter (environment : Environment) (data : Option Text) (colored verbose : Bool) :
    Loaded :=
  match data with
  | none =>
    ⟨if verbose then ["Using the bundled English vocabulary".toList] else [],
      .ok (.ofTables (Vocabulary.English.tablesIn environment.dialect))⟩
  | some path =>
    match (environment.file path).read with
    | .error reason => ⟨[], .error (unreadableVocabulary path reason)⟩
    | .ok text =>
      match Vocabulary.read text with
      | .error e => ⟨[], .error (Diagnostic.ofSyntaxError path text e).message⟩
      | .ok definitions =>
        let lines :=
          if verbose then
            ("Using vocabulary ".toList ++ path) ::
              (Lint.warnings environment.dialect definitions).map fun w =>
                warningLine colored path w.message
          else []
        match Vocabulary.loadDefinitions environment.dialect path definitions with
        | .error e => ⟨lines, .error e.message⟩
        | .ok tables => ⟨lines, .ok (.ofTables tables)⟩

/-- Runs what needs a formatter, or reports why there is none. -/
def withFormatter (loaded : Loaded) (print : Formatter → Text) : RunResult :=
  match loaded.result with
  | .ok formatter => ⟨RunResult.success, print formatter, loaded.lines⟩
  | .error report => ⟨RunResult.loadFault, [], loaded.lines ++ [faultLine report]⟩

/-! ## The commands -/

/-- A line of output. -/
def line (text : Text) : Text := text ++ ['\n']

/-- The output of `format`. -/
def formatOutput (formatter : Formatter) (codes : List Text) (json verbose : Bool) : Text :=
  if json then
    line (Json.render 0 (.array (codes.map fun code =>
      .object [("code", .string code), ("phrase", .string (formatter.format (some code)))])))
  else
    codes.flatMap fun code =>
      let phrase := formatter.format (some code)
      line (if verbose then code ++ '\t' :: phrase else phrase)

/-- The output of `explain`. -/
def explainOutput (formatter : Formatter) (code : Text) (json : Bool) : Text :=
  let explanation := formatter.explain (some code)
  if json then line (Json.render 0 (Json.ofExplanation explanation))
  else if explanation.valid then
    (Table.ofExplanation explanation).flatMap line ++ line explanation.output
  else
    line (Warning.quote code ++ " is not a kinship code".toList) ++ line explanation.output

/-- What the check of a file comes to. -/
structure FileCheck where
  /-- The numbers of terms and rules, or what is reported. -/
  result : Except Text (Nat × Nat)
  /-- The warnings for the file. -/
  warnings : List Text

namespace FileCheck

/-- Whether a file can be loaded. -/
def ok (check : FileCheck) : Bool := check.result.isOk

/-- Reads, checks and loads a file. -/
def ofFile (environment : Environment) (path : Text) : FileCheck :=
  match (environment.file path).read with
  | .error reason => ⟨.error (unreadable path reason), []⟩
  | .ok text =>
    match Vocabulary.read text with
    | .error e => ⟨.error (Diagnostic.ofSyntaxError path text e).message, []⟩
    | .ok definitions =>
      let warnings := (Lint.warnings environment.dialect definitions).map Warning.message
      match Vocabulary.loadDefinitions environment.dialect path definitions with
      | .error e => ⟨.error e.message, warnings⟩
      | .ok tables => ⟨.ok (tables.terms.size, tables.rules.length), warnings⟩

/-- The check of a file as JSON. -/
def toJson (path : Text) (check : FileCheck) : Json :=
  .object [("file", .string path), ("ok", .bool check.ok),
    ("error", match check.result with
      | .ok _ => .null
      | .error report => .string report),
    ("warnings", .array (check.warnings.map .string))]

/-- The line that says that a file can be loaded; with `verbose` it counts terms and rules. -/
def output (colored verbose : Bool) (path : Text) (check : FileCheck) : Text :=
  match check.result with
  | .error _ => []
  | .ok (terms, rules) =>
    let counts :=
      if verbose then
        " (".toList ++ Text.numeral terms ++ " terms, ".toList ++ Text.numeral rules ++
          " rules)".toList
      else []
    line (paint colored .green "ok".toList ++ ' ' :: path ++ counts)

/-- The warnings for a file, and the report if it cannot be loaded. -/
def messages (colored : Bool) (path : Text) (check : FileCheck) : List Text :=
  check.warnings.map (warningLine colored path) ++
    match check.result with
    | .ok _ => []
    | .error report => [faultLine report]

end FileCheck

/-- The exit code of `check`. -/
def checkExit (checks : List FileCheck) (strict : Bool) : Nat :=
  if checks.any (!·.ok) || (strict && checks.any (!·.warnings.isEmpty)) then RunResult.dataFault
  else RunResult.success

/-- What `check` comes to. -/
def runCheck (environment : Environment) (files : List Text) (json strict colored verbose : Bool) :
    RunResult :=
  let checks := files.map fun path => (path, FileCheck.ofFile environment path)
  let exit := checkExit (checks.map Prod.snd) strict
  if json then
    ⟨exit, line (Json.render 0 (.array (checks.map fun (path, file) => file.toJson path))), []⟩
  else
    ⟨exit, checks.flatMap fun (path, file) => file.output colored verbose path,
      checks.flatMap fun (path, file) => file.messages colored path⟩

/-- What a command comes to. -/
def run (environment : Environment) (command : Command) (color : ColorWhen) (verbose : Bool) :
    RunResult :=
  let colored := isColored color
  match command with
  | .format codes data json =>
    withFormatter (loadFormatter environment data colored verbose) fun formatter =>
      formatOutput formatter codes json verbose
  | .explain code data json =>
    withFormatter (loadFormatter environment data colored verbose) fun formatter =>
      explainOutput formatter code json
  | .check files json strict => runCheck environment files json strict colored verbose

end Command

namespace CommandLine

/-- The name of the program and its version. -/
def versionText : Text := "kinship 0.1.0\n".toList

/-- How the program is used. -/
def usageText : Text :=
  ("Usage: kinship [--color auto|always|never] [--verbose] COMMAND\n\n" ++
    "Commands:\n" ++
    "  format CODE... [--data FILE] [--json]    print the phrase for each code\n" ++
    "  explain CODE [--data FILE] [--json]      show how a code is broken down\n" ++
    "  check FILE... [--json] [--strict]        read and check vocabulary files\n").toList

/-- What a run of the program with the given arguments comes to. -/
def runArguments (environment : Environment) (arguments : List Text) : RunResult :=
  match read environment.data arguments with
  | .error _ => ⟨RunResult.usageFault, [], [usageText]⟩
  | .ok .help => ⟨RunResult.success, usageText, []⟩
  | .ok .version => ⟨RunResult.success, versionText, []⟩
  | .ok (.run command color verbose) => command.run environment color verbose

end CommandLine

end Kindred
