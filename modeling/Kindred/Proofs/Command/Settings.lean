import Kindred.Command.Arguments

/-!
# Command lines as they are written

A command may be given by its name, its options in any order, two dashes and then its arguments, which
are taken as they are. An option is written with its value behind an equals sign (`argument`). Options
are read one after the other (`readLevel_settings`), so that every choice of files and options is that
of some command line (`exists_read_check`, `exists_read_format`).
-/

namespace Kindred

namespace CommandLine

variable {level : Level} {given : Given} {option : Opt} {setting : Opt × Text}
  {settings : List (Opt × Text)}

/-! ## Options -/

/-- An option as an argument: its name behind two dashes, and its value behind an equals sign. -/
def argument (setting : Opt × Text) : Text :=
  '-' :: '-' :: (setting.1.name ++ if setting.1.hasValue then '=' :: setting.2 else [])

/-- An option that is known at a level, with a value that it may have. -/
structure IsSetting (level : Level) (setting : Opt × Text) : Prop where
  known : setting.1 ∈ level.options
  not_help : setting.1 ≠ .help
  not_version : setting.1 ≠ .version
  color : setting.1 = .color → colorNamed? setting.2 ≠ none
  data : setting.1 = .data → setting.2 ≠ []
  flag : setting.1.hasValue = false → setting.2 = []

theorem Opt.name_injective {option other : Opt} (h : option.name = other.name) : option = other := by
  cases option <;> cases other <;> first | rfl | exact absurd h (by decide)

theorem Shape.of_long {name : Text} (hne : name ≠ []) :
    Shape.of ('-' :: '-' :: name) =
      ((Text.splitAtMark '=' name).map fun parts => Shape.long parts.1 (some parts.2)).getD
        (.long name none) := by
  obtain ⟨c, name, rfl⟩ := List.exists_cons_of_ne_nil hne
  rw [Shape.of]
  · cases Text.splitAtMark '=' (c :: name) <;> rfl
  · exact fun h => nomatch h

theorem Shape.of_argument (setting : Opt × Text) :
    Shape.of (argument setting) =
      .long setting.1.name (if setting.1.hasValue then some setting.2 else none) := by
  obtain ⟨option, value⟩ := setting
  have hne : option.name ≠ [] := by cases option <;> decide
  have hequals : '=' ∉ option.name := by cases option <;> decide
  rw [argument, Shape.of_long (List.append_ne_nil_of_left_ne_nil hne _)]
  cases option.hasValue with
  | true =>
    simp only [if_true, Text.splitAtMark_append_mark hequals, Option.map_some, Option.getD_some]
  | false =>
    simp only [if_false, Bool.false_eq_true, List.append_nil, Text.splitAtMark_eq_none hequals,
      Option.map_none, Option.getD_none]

theorem findOption_name {value : Option Text} (hknown : option ∈ level.options)
    (hvalue : value ≠ none → option.hasValue = true) :
    findOption level option.name value = .ok option := by
  have hfind : (level.options.find? fun o => o.name == option.name) = some option := by
    cases hfound : level.options.find? fun o => o.name == option.name with
    | none => exact absurd (List.find?_eq_none.1 hfound option hknown) (by simp)
    | some other =>
      have hname := List.find?_some hfound
      rw [Opt.name_injective (beq_iff_eq.1 hname)]
  rw [findOption]
  simp only [hfind]
  cases value with
  | none => rfl
  | some value => simp only [hvalue (Option.some_ne_none value), if_true]

theorem note_setting (hsetting : IsSetting level setting) (hnew : given.has setting.1 = false) :
    note given setting.1 setting.2 =
      .ok (.next { given with options := setting :: given.options }) := by
  have hcolor : ¬(setting.1 = .color ∧ colorNamed? setting.2 = none) := fun h => hsetting.color h.1 h.2
  have hdata : ¬(setting.1 = .data ∧ setting.2 = []) := fun h => hsetting.data h.1 h.2
  simp only [note, hsetting.not_help, hsetting.not_version, hnew, hcolor, hdata, if_false,
    Bool.false_eq_true]

theorem readLevel_argument (hsetting : IsSetting level setting) (hnew : given.has setting.1 = false)
    (rest : List Text) :
    readLevel level given none (argument setting :: rest) =
      readLevel level { given with options := setting :: given.options } none rest := by
  have hnote := note_setting hsetting hnew
  rw [readLevel]
  simp only [Shape.of_argument]
  cases hvalue : setting.1.hasValue with
  | true =>
    have hfind : findOption level setting.1.name (some setting.2) = .ok setting.1 :=
      findOption_name hsetting.known fun _ => hvalue
    simp [hfind, hvalue, hnote]
  | false =>
    have hfind : findOption level setting.1.name none = .ok setting.1 :=
      findOption_name hsetting.known fun h => absurd rfl h
    rw [hsetting.flag hvalue] at hnote
    simp [hfind, hvalue, hnote]

/-- Options are read one after the other. -/
theorem readLevel_settings (hsettings : ∀ setting ∈ settings, IsSetting level setting)
    (hdistinct : (settings.map Prod.fst).Nodup)
    (hnew : ∀ setting ∈ settings, given.has setting.1 = false) (rest : List Text) :
    readLevel level given none (settings.map argument ++ rest) =
      readLevel level { given with options := settings.reverse ++ given.options } none rest := by
  induction settings generalizing given with
  | nil => rfl
  | cons setting settings ih =>
    obtain ⟨hsetting, hsettings⟩ := List.forall_mem_cons.1 hsettings
    obtain ⟨hfirst, hnew⟩ := List.forall_mem_cons.1 hnew
    obtain ⟨hother, hdistinct⟩ := List.nodup_cons.1 hdistinct
    -- no later option is the one that has just been noted
    have hlater : ∀ other ∈ settings,
        ({ given with options := setting :: given.options } : Given).has other.1 = false := by
      intro other hmem
      have hne : setting.1 ≠ other.1 := fun h => hother (h ▸ List.mem_map_of_mem hmem)
      have hgiven := hnew other hmem
      simp only [Given.has] at hgiven ⊢
      rw [List.any_cons, hgiven, Bool.or_false, beq_eq_false_iff_ne]
      exact hne
    rw [List.map_cons, List.cons_append, readLevel_argument hsetting hfirst,
      ih hsettings hdistinct hlater, List.reverse_cons, List.append_assoc]
    rfl

/-! ## Arguments -/

theorem readPlain_eq (hcapacity : level.capacity = none) {arguments : List Text}
    (hempty : level.allowsEmpty = true ∨ [] ∉ arguments) :
    readPlain level given arguments =
      .ok { given with arguments := arguments.reverse ++ given.arguments } := by
  induction arguments generalizing given with
  | nil => rfl
  | cons first rest ih =>
    have hfirst : noteArgument level given first =
        .ok { given with arguments := first :: given.arguments } := by
      have hnonempty : (first.isEmpty && !level.allowsEmpty) = false := by
        obtain hempty | hmem := hempty
        · rw [hempty, Bool.not_true, Bool.and_false]
        · have hne : first ≠ [] := fun h => hmem (h ▸ List.mem_cons_self)
          rw [List.isEmpty_eq_false_iff.2 hne, Bool.false_and]
      simp only [noteArgument, hcapacity, Option.any_none, hnonempty, Bool.false_eq_true, if_false]
    have hrest : level.allowsEmpty = true ∨ [] ∉ rest :=
      hempty.imp_right fun h hmem => h (List.mem_cons_of_mem _ hmem)
    rw [readPlain, hfirst]
    show readPlain level _ rest = _
    rw [ih hrest, List.reverse_cons, List.append_assoc]
    rfl

/-- The arguments behind a command: its options, two dashes, and what is taken as it is. -/
def written (settings : List (Opt × Text)) (arguments : List Text) : List Text :=
  settings.map argument ++ ['-', '-'] :: arguments

theorem readLevel_written (hsettings : ∀ setting ∈ settings, IsSetting level setting)
    (hdistinct : (settings.map Prod.fst).Nodup) (hcapacity : level.capacity = none)
    {arguments : List Text} (hempty : level.allowsEmpty = true ∨ [] ∉ arguments) :
    readLevel level .nothing none (written settings arguments) =
      .ok (.ended ⟨settings.reverse, arguments.reverse⟩) := by
  rw [written, readLevel_settings hsettings hdistinct (fun _ _ => rfl), readLevel]
  have hshape : Shape.of ['-', '-'] = .dashes := rfl
  simp only [hshape, readPlain_eq hcapacity hempty, Except.map, Given.nothing, List.append_nil]

/-! ## Commands -/

theorem readLevel_name {name : Text} (h : Shape.of name = .plain) (rest : List Text) :
    readLevel outerLevel .nothing none (name :: rest) = .ok (.met .nothing name rest) := by
  rw [readLevel]
  simp only [h, outerLevel, if_true]

/-- The colours that are asked for. -/
def Given.color (given : Given) : ColorWhen :=
  ((given.value? .color).bind colorNamed?).getD .auto

theorem readCommand_of_ended {rest : List Text} {command : Command}
    {complete : Given → Except UsageError Command}
    (hlevel : readLevel level .nothing none rest = .ok (.ended given))
    (hcomplete : complete { given with arguments := given.arguments.reverse } = .ok command) :
    readCommand .nothing level rest complete =
      .ok (.run command given.color (given.has .verbose)) := by
  have hcolor : (given.value? .color).or (Given.nothing.value? .color) = given.value? .color :=
    Option.or_none
  have hverbose : (given.has .verbose || Given.nothing.has .verbose) = given.has .verbose :=
    Bool.or_false _
  rw [readCommand, hlevel]
  show (complete _ >>= _) = _
  rw [hcomplete]
  simp only [hcolor, hverbose]
  rfl

theorem read_check {data : Option Text} {rest : List Text}
    (hlevel : readLevel checkLevel .nothing none rest = .ok (.ended given))
    (harguments : given.arguments ≠ []) :
    read data ("check".toList :: rest) =
      .ok (.run (.check given.arguments.reverse (given.has .json) (given.has .strict)) given.color
        (given.has .verbose)) := by
  have hcommand : read data ("check".toList :: rest) =
      readCommand .nothing checkLevel rest fun given =>
        if given.arguments.isEmpty then .error .missingArgument
        else .ok (.check given.arguments (given.has .json) (given.has .strict)) := by
    rw [read, readLevel_name (by decide)]
    rfl
  have hsome : given.arguments.reverse.isEmpty = false := by simpa using harguments
  rw [hcommand]
  refine readCommand_of_ended hlevel ?_
  simp only [hsome, Bool.false_eq_true, if_false]
  rfl

theorem read_format {data : Option Text} {rest : List Text} {path : Text}
    (hlevel : readLevel formatLevel .nothing none rest = .ok (.ended given))
    (harguments : given.arguments ≠ []) (hpath : given.value? .data = some path) :
    read data ("format".toList :: rest) =
      .ok (.run (.format given.arguments.reverse (some path) (given.has .json)) given.color
        (given.has .verbose)) := by
  have hsome : given.arguments.reverse.isEmpty = false := by simpa using harguments
  have hdata : dataPath { given with arguments := given.arguments.reverse } data = .ok (some path) := by
    unfold dataPath
    simp only [Given.value?] at hpath ⊢
    simp only [hpath]
  have hcommand : read data ("format".toList :: rest) =
      readCommand .nothing formatLevel rest fun given =>
        if given.arguments.isEmpty then .error .missingArgument
        else do return .format given.arguments (← dataPath given data) (given.has .json) := by
    rw [read, readLevel_name (by decide)]
    rfl
  rw [hcommand]
  refine readCommand_of_ended hlevel ?_
  simp only [hsome, hdata, Bool.false_eq_true, if_false]
  rfl

/-! ## Choices -/

/-- The colours that are asked for by a name. -/
def colorName : ColorWhen → Text
  | .auto => "auto".toList
  | .always => "always".toList
  | .never => "never".toList

theorem colorNamed?_colorName (color : ColorWhen) : colorNamed? (colorName color) = some color := by
  cases color <;> rfl

/-- An option without a value, if it is chosen. -/
def flag (option : Opt) (chosen : Bool) : List (Opt × Text) := if chosen then [(option, [])] else []

theorem isSetting_of_mem_flag {chosen : Bool} (hknown : option ∈ level.options)
    (hoption : option ∈ [Opt.verbose, .json, .strict]) :
    ∀ setting ∈ flag option chosen, IsSetting level setting := by
  intro setting hmem
  unfold flag at hmem
  split at hmem
  · obtain rfl := List.mem_singleton.1 hmem
    simp only [List.mem_cons, List.not_mem_nil, or_false] at hoption
    obtain rfl | rfl | rfl := hoption <;>
      exact ⟨hknown, nofun, nofun, nofun, nofun, fun _ => rfl⟩
  · cases hmem

theorem isSetting_color (hknown : .color ∈ level.options) (color : ColorWhen) :
    IsSetting level (.color, colorName color) := by
  refine ⟨hknown, nofun, nofun, fun _ h => ?_, nofun, nofun⟩
  rw [colorNamed?_colorName] at h
  cases h

theorem isSetting_data (hknown : .data ∈ level.options) {path : Text} (hpath : path ≠ []) :
    IsSetting level (.data, path) :=
  ⟨hknown, nofun, nofun, nofun, fun _ => hpath, nofun⟩

/-- Every list of files can be checked, with every choice of options. -/
theorem exists_read_check (data : Option Text) {files : List Text} (hfiles : files ≠ [])
    (hempty : [] ∉ files) (json strict : Bool) (color : ColorWhen) (verbose : Bool) :
    ∃ arguments, read data arguments = .ok (.run (.check files json strict) color verbose) := by
  let settings := (.color, colorName color) ::
    (flag .json json ++ (flag .strict strict ++ flag .verbose verbose))
  have hsettings : ∀ setting ∈ settings, IsSetting checkLevel setting := by
    simp only [settings, List.forall_mem_cons, List.forall_mem_append]
    exact ⟨isSetting_color (by decide) color, isSetting_of_mem_flag (by decide) (by decide),
      isSetting_of_mem_flag (by decide) (by decide), isSetting_of_mem_flag (by decide) (by decide)⟩
  have hdistinct : (settings.map Prod.fst).Nodup := by
    cases json <;> cases strict <;> cases verbose <;> simp [settings, flag]
  have hlevel : readLevel checkLevel .nothing none (written settings files) =
      .ok (.ended ⟨settings.reverse, files.reverse⟩) :=
    readLevel_written hsettings hdistinct rfl (.inr hempty)
  refine ⟨"check".toList :: written settings files, ?_⟩
  rw [read_check hlevel (by simpa using hfiles), List.reverse_reverse]
  cases color <;> cases json <;> cases strict <;> cases verbose <;> rfl

/-- Every list of codes can be formatted by the vocabulary of every path, with every choice of
options. -/
theorem exists_read_format (data : Option Text) {codes : List Text} {path : Text}
    (hcodes : codes ≠ []) (hpath : path ≠ []) (json : Bool) (color : ColorWhen) (verbose : Bool) :
    ∃ arguments,
      read data arguments = .ok (.run (.format codes (some path) json) color verbose) := by
  let settings := (.color, colorName color) ::
    (flag .json json ++ (flag .verbose verbose ++ [(.data, path)]))
  have hsettings : ∀ setting ∈ settings, IsSetting formatLevel setting := by
    simp only [settings, List.forall_mem_cons, List.forall_mem_append]
    exact ⟨isSetting_color (by decide) color, isSetting_of_mem_flag (by decide) (by decide),
      isSetting_of_mem_flag (by decide) (by decide),
      isSetting_data (by decide) hpath, nofun⟩
  have hdistinct : (settings.map Prod.fst).Nodup := by
    cases json <;> cases verbose <;> simp [settings, flag]
  have hlevel : readLevel formatLevel .nothing none (written settings codes) =
      .ok (.ended ⟨settings.reverse, codes.reverse⟩) :=
    readLevel_written hsettings hdistinct rfl (.inl rfl)
  have hdata : (⟨settings.reverse, codes.reverse⟩ : Given).value? .data = some path := by
    cases json <;> cases verbose <;> rfl
  refine ⟨"format".toList :: written settings codes, ?_⟩
  rw [read_format hlevel (by simpa using hcodes) hdata, List.reverse_reverse]
  cases color <;> cases json <;> cases verbose <;> rfl

end CommandLine

end Kindred
