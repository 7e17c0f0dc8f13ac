import Kindred.Command.Run
import Kindred.Proofs.Command.Settings
import Mathlib.Data.List.Basic

/-!
# Verdicts on files

Three ways lead from a path to tables: loading alone (`Environment.load`), the formatter of a command
(`Command.loadFormatter`) and the check of a file (`Command.FileCheck.ofFile`). They report differently
what goes wrong, but they come to the same tables (`Command.toOption_loadFormatter`,
`Command.FileCheck.toOption_ofFile`).

**`CommandLine.verdicts_agree` is the main statement.** The exit codes of `check` and `format` say
whether the file can be loaded, whatever else the command line asks for, and the exit code of `check`
depends on the files as a set.
-/

namespace Kindred

namespace Environment

/-- The tables of the file under a path. -/
def load (environment : Environment) (path : Text) : Except LoadError Tables :=
  Vocabulary.loadFile environment.dialect path (environment.file path)

/-- The file under a path holds definitions, and there is a warning for them. -/
def HasWarning (environment : Environment) (path : Text) : Prop :=
  ∃ text definitions, (environment.file path).read = .ok text ∧
    Vocabulary.read text = .ok definitions ∧ Lint.warnings environment.dialect definitions ≠ []

end Environment

namespace Command

variable {environment : Environment} {path : Text} {files others : List Text} {tables : Tables}
  {strict : Bool}

/-! ## Loading -/

/-- The formatter of a command is that of the tables, and there is one if there are tables. -/
theorem toOption_loadFormatter (environment : Environment) (path : Text) (colored verbose : Bool) :
    (loadFormatter environment (some path) colored verbose).result.toOption =
      (environment.load path).toOption.map Formatter.ofTables := by
  unfold loadFormatter Environment.load Vocabulary.loadFile Vocabulary.loadText
  cases hfile : (environment.file path).read with
  | error reason => simp only [hfile, Except.toOption, Option.map_none]
  | ok text =>
    cases hread : Vocabulary.read text with
    | error e => simp only [hfile, hread, Except.toOption, Option.map_none]
    | ok definitions =>
      simp only [hfile, hread]
      cases Vocabulary.loadDefinitions environment.dialect path definitions <;> rfl

/-- Without `verbose` nothing is written on the way. -/
theorem lines_loadFormatter (environment : Environment) (data : Option Text) (colored : Bool) :
    (loadFormatter environment data colored false).lines = [] := by
  unfold loadFormatter
  split
  · rfl
  · split
    · rfl
    · split
      · rfl
      · dsimp only
        split <;> rfl

namespace FileCheck

/-- The check of a file counts the terms and rules of the tables, if there are tables. -/
theorem toOption_ofFile (environment : Environment) (path : Text) :
    (ofFile environment path).result.toOption =
      (environment.load path).toOption.map fun tables => (tables.terms.size, tables.rules.length) := by
  unfold ofFile Environment.load Vocabulary.loadFile Vocabulary.loadText
  cases (environment.file path).read with
  | error reason => rfl
  | ok text =>
    cases hread : Vocabulary.read text with
    | error e => simp only [hread, Except.toOption, Option.map_none]
    | ok definitions =>
      simp only [hread]
      cases Vocabulary.loadDefinitions environment.dialect path definitions <;> rfl

theorem warnings_ofFile (environment : Environment) (path : Text) :
    (ofFile environment path).warnings ≠ [] ↔ environment.HasWarning path := by
  unfold ofFile Environment.HasWarning
  cases (environment.file path).read with
  | error reason => simp
  | ok text =>
    cases hread : Vocabulary.read text with
    | error e => simp [hread]
    | ok definitions =>
      simp only [hread]
      cases Vocabulary.loadDefinitions environment.dialect path definitions <;> simp [hread]

end FileCheck

/-! ## Exit codes -/

/-- A result that is the same up to what is made of it has the same verdict. -/
theorem isOk_eq_of_toOption {ε ε' α β : Type} {result : Except ε α} {other : Except ε' β} {f : β → α}
    (h : result.toOption = other.toOption.map f) : result.isOk = other.isOk := by
  cases result <;> cases other <;> simp_all [Except.toOption, Except.isOk, Except.toBool]

theorem FileCheck.ok_ofFile (environment : Environment) (path : Text) :
    (ofFile environment path).ok = (environment.load path).isOk :=
  isOk_eq_of_toOption (toOption_ofFile environment path)

theorem exit_format (environment : Environment) (codes : List Text) (path : Text) (json : Bool)
    (color : ColorWhen) (verbose : Bool) :
    (run environment (.format codes (some path) json) color verbose).exit =
      if (environment.load path).isOk then 0 else 70 := by
  have hload := isOk_eq_of_toOption
    (toOption_loadFormatter environment path (isColored color) verbose)
  rw [← hload, run, withFormatter]
  cases (loadFormatter environment (some path) (isColored color) verbose).result <;> rfl

theorem run_format (codes : List Text) (color : ColorWhen) (h : environment.load path = .ok tables) :
    run environment (.format codes (some path) false) color false =
      ⟨0, codes.flatMap fun code => (Formatter.ofTables tables).format (some code) ++ ['\n'], []⟩ := by
  have hload := toOption_loadFormatter environment path (isColored color) false
  rw [run, withFormatter, lines_loadFormatter]
  rw [h] at hload
  cases hresult : (loadFormatter environment (some path) (isColored color) false).result with
  | error report =>
    rw [hresult] at hload
    cases hload
  | ok formatter =>
    rw [hresult] at hload
    obtain rfl := Option.some.inj hload
    rfl

/-- The check fails: a file cannot be loaded or, if warnings count, has a warning. -/
def CheckFails (environment : Environment) (files : List Text) (strict : Bool) : Prop :=
  (∃ path ∈ files, (environment.load path).isOk = false) ∨
    strict = true ∧ ∃ path ∈ files, environment.HasWarning path

instance (environment : Environment) (path : Text) : Decidable (environment.HasWarning path) :=
  decidable_of_iff _ (FileCheck.warnings_ofFile environment path)

instance (environment : Environment) (files : List Text) (strict : Bool) :
    Decidable (CheckFails environment files strict) := inferInstanceAs (Decidable (_ ∨ _))

theorem CheckFails.congr (h : ∀ path, path ∈ files ↔ path ∈ others) :
    CheckFails environment files strict ↔ CheckFails environment others strict := by
  simp only [CheckFails, h]

theorem checkFails_singleton :
    CheckFails environment [path] false ↔ (environment.load path).isOk = false := by
  simp [CheckFails]

/-- However its findings are written, a check fails for what it finds. -/
theorem exit_check (environment : Environment) (files : List Text) (json strict : Bool)
    (color : ColorWhen) (verbose : Bool) :
    (run environment (.check files json strict) color verbose).exit =
      if CheckFails environment files strict then 65 else 0 := by
  have hexit : (run environment (.check files json strict) color verbose).exit =
      checkExit (files.map (FileCheck.ofFile environment)) strict := by
    -- with and without JSON the exit code is computed from the same checks
    have hchecks : (files.map fun path => (path, FileCheck.ofFile environment path)).map Prod.snd =
        files.map (FileCheck.ofFile environment) := by simp
    rw [run, runCheck, hchecks]
    cases json <;> rfl
  have hfails : ((files.map (FileCheck.ofFile environment)).any (!·.ok) ||
      (strict && (files.map (FileCheck.ofFile environment)).any (!·.warnings.isEmpty))) = true ↔
        CheckFails environment files strict := by
    simp [CheckFails, FileCheck.ok_ofFile, ← FileCheck.warnings_ofFile]
  rw [hexit, checkExit]
  simp only [hfails]
  rfl

end Command

namespace CommandLine

/-! ## Command lines -/

theorem runArguments_of_read {environment : Environment} {arguments : List Text} {command : Command}
    {color : ColorWhen} {verbose : Bool}
    (h : read environment.data arguments = .ok (.run command color verbose)) :
    runArguments environment arguments = command.run environment color verbose := by
  simp only [runArguments, h]

/-- **The ways to load a file agree.** A check of one file succeeds exactly if the file can be loaded,
and so does a command that formats by it. What is formatted is then written code by code, and nothing
else. A check of several files fails exactly if one of them cannot be loaded or, if warnings count, has
a warning; it does not matter how its findings are written, nor in which order or how often a file is
named. Every file and every list of files can be named. -/
theorem verdicts_agree (environment : Environment) :
    (∀ arguments path json color verbose,
      read environment.data arguments = .ok (.run (.check [path] json false) color verbose) →
      (runArguments environment arguments).exit = if (environment.load path).isOk then 0 else 65) ∧
    (∀ arguments codes path json color verbose,
      read environment.data arguments = .ok (.run (.format codes (some path) json) color verbose) →
      (runArguments environment arguments).exit = if (environment.load path).isOk then 0 else 70) ∧
    (∀ arguments codes path color tables,
      read environment.data arguments = .ok (.run (.format codes (some path) false) color false) →
      environment.load path = .ok tables →
      runArguments environment arguments =
        ⟨0, codes.flatMap fun code => (Formatter.ofTables tables).format (some code) ++ ['\n'], []⟩) ∧
    (∀ arguments files json strict color verbose,
      read environment.data arguments = .ok (.run (.check files json strict) color verbose) →
      ((runArguments environment arguments).exit = 65 ↔
        (∃ path ∈ files, (environment.load path).isOk = false) ∨
          strict = true ∧ ∃ path ∈ files, environment.HasWarning path) ∧
      ((runArguments environment arguments).exit ≠ 65 →
        (runArguments environment arguments).exit = 0)) ∧
    (∀ arguments others files otherFiles json otherJson strict color otherColor verbose otherVerbose,
      read environment.data arguments = .ok (.run (.check files json strict) color verbose) →
      read environment.data others =
        .ok (.run (.check otherFiles otherJson strict) otherColor otherVerbose) →
      (∀ path, path ∈ files ↔ path ∈ otherFiles) →
      (runArguments environment arguments).exit = (runArguments environment others).exit) ∧
    (∀ files json strict color verbose, files ≠ [] → [] ∉ files →
      ∃ arguments, read environment.data arguments = .ok (.run (.check files json strict) color verbose)) ∧
    ∀ codes path json color verbose, codes ≠ [] → path ≠ [] →
      ∃ arguments,
        read environment.data arguments = .ok (.run (.format codes (some path) json) color verbose) := by
  refine ⟨?_, ?_, ?_, ?_, ?_,
    fun files json strict color verbose hfiles hempty =>
      exists_read_check environment.data hfiles hempty json strict color verbose,
    fun codes path json color verbose hcodes hpath =>
      exists_read_format environment.data hcodes hpath json color verbose⟩
  · intro arguments path json color verbose hread
    rw [runArguments_of_read hread, Command.exit_check]
    simp only [Command.checkFails_singleton]
    cases (environment.load path).isOk <;> rfl
  · intro arguments codes path json color verbose hread
    rw [runArguments_of_read hread, Command.exit_format]
  · intro arguments codes path color tables hread hload
    rw [runArguments_of_read hread, Command.run_format codes color hload]
  · intro arguments files json strict color verbose hread
    rw [runArguments_of_read hread, Command.exit_check]
    split
    · rename_i hfails
      exact ⟨iff_of_true rfl hfails, fun h => absurd rfl h⟩
    · rename_i hfails
      exact ⟨iff_of_false (by decide) hfails, fun _ => rfl⟩
  · intro arguments others files otherFiles json otherJson strict color otherColor verbose
      otherVerbose hread hother hsame
    rw [runArguments_of_read hread, runArguments_of_read hother, Command.exit_check,
      Command.exit_check]
    simp only [Command.CheckFails.congr hsame]

/-- One file, for which there is a warning, and nothing under every other path. -/
def shelf : Environment where
  file path :=
    if path = "a.kin".toList then .text "term F = \"dad\"; term F = \"father\";".toList else .missing
  data := none
  dialect := .builtIn

theorem verdicts_agree_shelf :
    (runArguments shelf ["check".toList, "a.kin".toList]).exit = 0 ∧
      (runArguments shelf ["check".toList, "--json".toList, "b.kin".toList]).exit = 65 ∧
      runArguments shelf ["format".toList, "F".toList, "--data=a.kin".toList] =
        ⟨0, "father\n".toList, []⟩ ∧
      (runArguments shelf ["format".toList, "--data".toList, "b.kin".toList, "F".toList]).exit = 70 ∧
      (runArguments shelf ["check".toList, "--strict".toList, "a.kin".toList]).exit = 65 ∧
      (runArguments shelf ["-v".toList, "check".toList, "a.kin".toList, "b.kin".toList]).exit =
        (runArguments shelf
          ["check".toList, "b.kin".toList, "a.kin".toList, "--json".toList, "b.kin".toList]).exit ∧
      ∃ arguments, read shelf.data arguments =
        .ok (.run (.check ["--json".toList] true false) .always false) := by
  obtain ⟨hcheck, hformat, houtput, hfails, hfiles, hchecked, -⟩ := verdicts_agree shelf
  have hpresent : (shelf.load "a.kin".toList).isOk = true := by decide +kernel
  have habsent : (shelf.load "b.kin".toList).isOk = false := by decide +kernel
  have hwarning : shelf.HasWarning "a.kin".toList := by decide +kernel
  have hphrase : ((shelf.load "a.kin".toList).toOption.map fun tables =>
      (Formatter.ofTables tables).format (some ['F'])) = some "father".toList := by decide +kernel
  refine ⟨?_, ?_, ?_, ?_, ?_, ?_, hchecked _ true false .always false (by decide) (by decide)⟩
  · rw [hcheck _ "a.kin".toList false .auto false rfl, hpresent, if_pos rfl]
  · rw [hcheck _ "b.kin".toList true .auto false rfl, habsent, if_neg Bool.false_ne_true]
  · cases hload : shelf.load "a.kin".toList with
    | error e =>
      rw [hload] at hpresent
      cases hpresent
    | ok tables =>
      rw [hload] at hphrase
      have hfather : (Formatter.ofTables tables).format (some ['F']) = "father".toList :=
        Option.some.inj hphrase
      rw [houtput _ [['F']] "a.kin".toList .auto tables rfl hload, List.flatMap_singleton, hfather]
      rfl
  · rw [hformat _ [['F']] "b.kin".toList false .auto false rfl, habsent, if_neg Bool.false_ne_true]
  · exact (hfails _ ["a.kin".toList] false true .auto false rfl).1.2
      (.inr ⟨rfl, _, List.mem_singleton_self _, hwarning⟩)
  · refine hfiles _ _ ["a.kin".toList, "b.kin".toList] ["b.kin".toList, "a.kin".toList, "b.kin".toList]
      false true false .auto .auto true false rfl rfl fun path => ?_
    simp only [List.mem_cons, List.not_mem_nil, or_false]
    constructor
    · rintro (h | h)
      · exact .inr (.inl h)
      · exact .inl h
    · rintro (h | h | h)
      · exact .inr h
      · exact .inl h
      · exact .inr h

end CommandLine

end Kindred
