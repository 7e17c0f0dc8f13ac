import Kindred.Pattern.Reader
import Kindred.Proofs.Tables.Definitions

/-!
# Changed tables are defined tables

**Tables that were loaded and then changed are the tables of the definitions with one more for each
change that was made** (`Tables.ofDefinitions_callAll`). A call reads a text and then changes the
tables, so that it comes to one of two things (`Tables.call_cases`): it adds its definition, or the
text cannot be read and the tables are left as they are. A run of calls adds one definition after
the other, and it comes to the same without the calls that are refused (`Tables.callAll_accepted`),
which are known from their texts alone (`Tables.accepted_eq_filter`).
-/

namespace Kindred

/-- A call that changes tables, with the texts that it is given. -/
inductive Change
  /-- Gives the phrase of a key. -/
  | insertTerm (key template : Text)
  /-- Puts a rule behind the others. -/
  | pushRule (pattern template : Text)
  /-- Gives the possessive form of a word. -/
  | insertGenitive (word template : Text)
  /-- Gives the default possessive form. -/
  | setDefaultGenitive (template : Text)
  /-- Gives all suffixes of ordinals. -/
  | setOrdinals (ordinals : OrdinalSuffixes)
  /-- Gives the phrase for what is no code. -/
  | setUnrelated (phrase : Text)
  deriving DecidableEq, Repr

/-- Why a call is refused. -/
inductive ChangeError
  /-- The text of a template cannot be read. -/
  | template (error : SyntaxError)
  /-- The text of a pattern cannot be read, and this is said of it. -/
  | pattern (message : Text)
  deriving DecidableEq, Repr

namespace Change

/-- What a call does to tables. -/
def action (dialect : Pattern.Dialect) : Change → Tables.Action ChangeError Unit
  | .insertTerm key template => (Tables.insertTerm key template).adapt .template
  | .pushRule pattern template => (Tables.pushRule dialect pattern template).adapt .pattern
  | .insertGenitive word template => (Tables.insertGenitive word template).adapt .template
  | .setDefaultGenitive template => (Tables.setDefaultGenitive template).adapt .template
  | .setOrdinals ordinals => Tables.setOrdinals ordinals
  | .setUnrelated phrase => Tables.setUnrelated phrase

/-- The definition that a call stands for, if the text of its template can be read. -/
def definition? : Change → Option Definition
  | .insertTerm key text => (Template.parse text).toOption.map (Definition.term key)
  | .pushRule pattern text => some (.rule pattern (.read text))
  | .insertGenitive word text =>
    (Template.parse text).toOption.map (Definition.genitive (.word word))
  | .setDefaultGenitive text => (Template.parse text).toOption.map (Definition.genitive .default)
  | .setOrdinals ordinals => some (.ordinals
      [⟨.one, ordinals.one⟩, ⟨.two, ordinals.two⟩, ⟨.few, ordinals.few⟩, ⟨.other, ordinals.other⟩])
  | .setUnrelated phrase => some (.unrelated phrase)

/-- The text that a call has to read can be read: that of a template, or of the pattern of a
rule. -/
def isReadable (dialect : Pattern.Dialect) : Change → Bool
  | .insertTerm _ text => (Template.parse text).isOk
  | .pushRule pattern _ => (dialect.read pattern).isOk
  | .insertGenitive _ text => (Template.parse text).isOk
  | .setDefaultGenitive text => (Template.parse text).isOk
  | .setOrdinals _ => true
  | .setUnrelated _ => true

end Change

namespace Tables

/-! ## Calls -/

/-- What a call comes to, and the tables that it leaves. -/
def call (dialect : Pattern.Dialect) (tables : Tables) (change : Change) :
    Except ChangeError Unit × Tables :=
  (change.action dialect).run.run tables

/-- The tables after a run of calls. -/
def callAll (dialect : Pattern.Dialect) (tables : Tables) (changes : List Change) : Tables :=
  changes.foldl (fun tables change => (tables.call dialect change).2) tables

/-- The calls of a run that are not refused. -/
def accepted (dialect : Pattern.Dialect) : Tables → List Change → List Change
  | _, [] => []
  | tables, change :: changes =>
    let (result, after) := tables.call dialect change
    if result.isOk then change :: accepted dialect after changes
    else accepted dialect after changes

variable {dialect : Pattern.Dialect} {tables after : Tables} {change : Change}
  {changes : List Change} {definitions : List Definition} {e : ChangeError}

/-- An action that reads a text before it changes anything adds the definition of what is read, or
leaves the tables as they are. -/
theorem run_adapt_cases {ε α : Type} (read : Except ε α) (make : α → Definition)
    (f : α → Tables → Tables) (refuse : ε → ChangeError)
    (hmake : ∀ value, read = .ok value →
      tables.define dialect (make value) = .ok (f value tables)) :
    let action : Action ε Unit := do
      let value ← read
      modify (f value)
    (read.isOk = true ∧ ∃ definition after, read.toOption.map make = some definition ∧
      tables.define dialect definition = .ok after ∧
        (action.adapt refuse).run.run tables = (.ok (), after)) ∨
    read.isOk = false ∧ ∃ e, (action.adapt refuse).run.run tables = (.error e, tables) := by
  cases read with
  | ok value => exact .inl ⟨rfl, make value, f value tables, rfl, hmake value rfl, rfl⟩
  | error e => exact .inr ⟨rfl, refuse e, rfl⟩

/-- **What a call comes to.** It adds its definition, or its text cannot be read and it leaves the
tables as they are. -/
theorem call_cases (dialect : Pattern.Dialect) (tables : Tables) (change : Change) :
    (change.isReadable dialect = true ∧ ∃ definition after,
      change.definition? = some definition ∧ tables.define dialect definition = .ok after ∧
        tables.call dialect change = (.ok (), after)) ∨
    change.isReadable dialect = false ∧ ∃ e, tables.call dialect change = (.error e, tables) := by
  cases change with
  | insertTerm key text =>
    exact run_adapt_cases (Template.parse text) (.term key)
      (fun template tables => { tables with terms := tables.terms.insert key template })
      .template fun _ _ => rfl
  | pushRule pattern text =>
    have hcases := run_adapt_cases (Rule.ofText dialect pattern (.read text))
      (fun _ => .rule pattern (.read text)) (fun rule tables => tables.addRule rule) .pattern
      fun rule hrule => show tables.define dialect (.rule pattern (.read text)) = _ by
        simp only [define, hrule]
    rw [Rule.isOk_ofText] at hcases
    obtain ⟨hok, definition, after, hmade, hdefine, hcall⟩ | hrefused := hcases
    · -- the definition of a rule has the text of the pattern, whether it can be read or not
      obtain ⟨-, -, rfl⟩ := Option.map_eq_some_iff.1 hmade
      exact .inl ⟨hok, _, after, rfl, hdefine, hcall⟩
    · exact .inr hrefused
  | insertGenitive word text =>
    exact run_adapt_cases (Template.parse text) (.genitive (.word word))
      (fun template tables => { tables with genitives := { tables.genitives with
        words := tables.genitives.words.insert word template } })
      .template fun _ _ => rfl
  | setDefaultGenitive text =>
    exact run_adapt_cases (Template.parse text) (.genitive .default)
      (fun template tables =>
        { tables with genitives := { tables.genitives with default := template } })
      .template fun _ _ => rfl
  | setOrdinals ordinals => exact .inl ⟨rfl, _, _, rfl, rfl, rfl⟩
  | setUnrelated phrase => exact .inl ⟨rfl, _, _, rfl, rfl, rfl⟩

/-- A refused call leaves the tables as they are. -/
theorem call_of_refused (h : (tables.call dialect change).1 = .error e) :
    (tables.call dialect change).2 = tables := by
  obtain ⟨-, _, _, -, -, hcall⟩ | ⟨-, _, hcall⟩ := call_cases dialect tables change
  · rw [hcall] at h
    cases h
  · rw [hcall]

/-! ## Runs of calls -/

theorem callAll_cons (dialect : Pattern.Dialect) (tables : Tables) (change : Change)
    (changes : List Change) :
    tables.callAll dialect (change :: changes) =
      (tables.call dialect change).2.callAll dialect changes := rfl

theorem accepted_cons_of_ok (h : tables.call dialect change = (.ok (), after)) :
    tables.accepted dialect (change :: changes) = change :: after.accepted dialect changes := by
  rw [accepted, h]
  rfl

theorem accepted_cons_of_error (h : tables.call dialect change = (.error e, after)) :
    tables.accepted dialect (change :: changes) = after.accepted dialect changes := by
  rw [accepted, h]
  rfl

/-- The calls that are not refused are those whose texts can be read. -/
theorem accepted_eq_filter (dialect : Pattern.Dialect) (tables : Tables) (changes : List Change) :
    tables.accepted dialect changes = changes.filter (Change.isReadable dialect) := by
  induction changes generalizing tables with
  | nil => rfl
  | cons change changes ih =>
    obtain ⟨hreadable, _, _, -, -, hcall⟩ | ⟨hreadable, _, hcall⟩ :=
      call_cases dialect tables change
    · rw [accepted_cons_of_ok hcall, ih, List.filter_cons_of_pos hreadable]
    · rw [accepted_cons_of_error hcall, ih, List.filter_cons_of_neg (by rw [hreadable]; decide)]

/-- A run comes to the same without the calls that are refused. -/
theorem callAll_accepted (dialect : Pattern.Dialect) (tables : Tables) (changes : List Change) :
    tables.callAll dialect (tables.accepted dialect changes) = tables.callAll dialect changes := by
  induction changes generalizing tables with
  | nil => rfl
  | cons change changes ih =>
    rw [callAll_cons]
    obtain ⟨-, _, _, -, -, hcall⟩ | ⟨-, _, hcall⟩ := call_cases dialect tables change
    · rw [accepted_cons_of_ok hcall, callAll_cons, hcall, ih]
    · rw [accepted_cons_of_error hcall, hcall, ih]

/-- One more definition is added to the tables of the others. -/
theorem ofDefinitions_append_singleton {definition : Definition}
    (h : ofDefinitions dialect definitions = .ok tables) :
    ofDefinitions dialect (definitions ++ [definition]) = tables.define dialect definition := by
  rw [ofDefinitions, defineAll] at h ⊢
  rw [List.foldlM_append, h]
  exact bind_pure (tables.define dialect definition)

/-- The calls of a run that are not refused have definitions, and the tables after the run are those
of all definitions. -/
theorem ofDefinitions_append_made (h : ofDefinitions dialect definitions = .ok tables)
    (changes : List Change) :
    ∃ made, (tables.accepted dialect changes).map Change.definition? = made.map some ∧
      ofDefinitions dialect (definitions ++ made) = .ok (tables.callAll dialect changes) := by
  induction changes generalizing tables definitions with
  | nil => exact ⟨[], rfl, by rw [List.append_nil]; exact h⟩
  | cons change changes ih =>
    rw [callAll_cons]
    obtain ⟨-, definition, middle, hdefinition, hdefine, hcall⟩ | ⟨-, _, hcall⟩ :=
      call_cases dialect tables change
    · obtain ⟨made, hmade, htables⟩ := ih ((ofDefinitions_append_singleton h).trans hdefine)
      refine ⟨definition :: made, ?_, ?_⟩
      · rw [accepted_cons_of_ok hcall, List.map_cons, List.map_cons, hdefinition, hmade]
      · rw [hcall, ← htables, List.append_assoc, List.singleton_append]
    · rw [accepted_cons_of_error hcall, hcall]
      exact ih h

/-- **Tables that were loaded and then changed are the tables of the definitions with one more for
each call that was not refused.** A call is refused only if a text of it cannot be read; it leaves
the tables as they are, and the run comes to the same without it. -/
theorem ofDefinitions_callAll (h : ofDefinitions dialect definitions = .ok tables)
    (changes : List Change) :
    (∃ made, (tables.accepted dialect changes).map Change.definition? = made.map some ∧
      ofDefinitions dialect (definitions ++ made) = .ok (tables.callAll dialect changes)) ∧
    (∀ before change later, changes = before ++ change :: later →
      ∀ e, ((tables.callAll dialect before).call dialect change).1 = .error e →
        ((tables.callAll dialect before).call dialect change).2 = tables.callAll dialect before) ∧
    tables.accepted dialect changes = changes.filter (Change.isReadable dialect) ∧
    tables.callAll dialect (tables.accepted dialect changes) = tables.callAll dialect changes := by
  have hrefused : ∀ before change later, changes = before ++ change :: later →
      ∀ e, ((tables.callAll dialect before).call dialect change).1 = .error e →
        ((tables.callAll dialect before).call dialect change).2 = tables.callAll dialect before :=
    fun _ _ _ _ _ hcall => call_of_refused hcall
  exact ⟨ofDefinitions_append_made h changes, hrefused, accepted_eq_filter dialect tables changes,
    callAll_accepted dialect tables changes⟩

/-- Tables without phrases that have a text of their own for what is no code. -/
def nobody : Tables := { empty with unrelated := "nobody".toList }

/-- Four calls, of which the texts of the second and of the third cannot be read. -/
def mixedChanges : List Change :=
  [.insertTerm ['P'] "parent".toList, .insertTerm ['F'] "\x7b".toList,
    .pushRule "(".toList ['P'], .setUnrelated "stranger".toList]

/-- The first and the last of the four calls come to two more definitions, and the refused third
call finds and leaves the tables of the first. -/
theorem ofDefinitions_callAll_nobody :
    ofDefinitions .builtIn [.unrelated "nobody".toList] = .ok nobody ∧
      nobody.accepted .builtIn mixedChanges =
        [.insertTerm ['P'] "parent".toList, .setUnrelated "stranger".toList] ∧
      (∃ made, (nobody.accepted .builtIn mixedChanges).map Change.definition? = made.map some ∧
        ofDefinitions .builtIn (.unrelated "nobody".toList :: made) =
          .ok (nobody.callAll .builtIn mixedChanges)) ∧
      ((nobody.callAll .builtIn (mixedChanges.take 2)).call .builtIn
          (.pushRule "(".toList ['P'])).1 = .error (.pattern "unclosed group".toList) ∧
      ((nobody.callAll .builtIn (mixedChanges.take 2)).call .builtIn
          (.pushRule "(".toList ['P'])).2 = nobody.callAll .builtIn (mixedChanges.take 2) := by
  have h : ofDefinitions .builtIn [.unrelated "nobody".toList] = .ok nobody := rfl
  have hrefused : ((nobody.callAll .builtIn (mixedChanges.take 2)).call .builtIn
      (.pushRule "(".toList ['P'])).1 = .error (.pattern "unclosed group".toList) := by
    rfl
  obtain ⟨hmade, hframe, -⟩ := ofDefinitions_callAll h mixedChanges
  exact ⟨h, by decide +kernel, hmade, hrefused,
    hframe _ _ [.setUnrelated "stranger".toList] rfl _ hrefused⟩

end Tables

end Kindred
