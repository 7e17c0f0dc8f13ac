import Kindred.Proofs.Code.Hops
import Kindred.Proofs.Template.Filling
import Kindred.Rule.Application
import Kindred.Vocabulary.Loading

/-!
# The English vocabulary loads

The text of the English vocabulary is read and made into tables without an error. What is looked up
in them for relatives in the direct line and for cousins is written down here as rules, templates
and keys (`lineRule`, `cousinRule`, `distantPhrases`), and `tables_facts` says that this is what the
text comes to. The tables have a phrase for the neutral letter of every hop
(`term?_neutralLetter_isSome`), and ordinals are those of English (`format_english`).
-/

namespace Kindred

namespace Vocabulary.English

/-! ## Ordinals -/

/-- The ordinal of a number in English: its numeral, and behind it `th` for the teens and otherwise
what the last digit asks for. -/
def ordinal (n : Nat) : Text :=
  Text.numeral n ++
    if n / 10 % 10 = 1 then "th".toList
    else if n % 10 = 1 then "st".toList
    else if n % 10 = 2 then "nd".toList
    else if n % 10 = 3 then "rd".toList
    else "th".toList

theorem format_english (n : Nat) : OrdinalSuffixes.english.format n = ordinal n := by
  have hcategory : OrdinalCategory.ofInt n =
      if n / 10 % 10 = 1 then .other
      else if n % 10 = 1 then .one
      else if n % 10 = 2 then .two
      else if n % 10 = 3 then .few
      else .other := by
    simp only [OrdinalCategory.ofInt, Int.natAbs_natCast]
    by_cases hteen : n / 10 % 10 = 1
    · rw [if_pos hteen]
      split
      · rfl
      · rw [if_neg (by omega), if_neg (by omega), if_neg (by omega)]
    · rw [if_neg hteen, if_neg (by omega)]
  rw [OrdinalSuffixes.format, hcategory, ordinal]
  congr 1
  repeat' split
  all_goals rfl

example : ordinal 22 = "22nd".toList ∧ ordinal 113 = "113th".toList := by decide

/-! ## Rules -/

/-- The letters of a hop as a set of characters. -/
def letterSet (hop : Hop) : Ranges := .ofList (hop.letters.flatMap Ranges.single)

theorem contains_letterSet (hop : Hop) {letter : Char} {other : Hop}
    (h : Hop.ofLetter? letter = some other) :
    (letterSet hop).contains letter = decide (hop = other) := by
  have hall : other.letters.all (fun letter =>
      (letterSet hop).contains letter == decide (hop = other)) = true := by
    cases hop <;> cases other <;> decide
  exact eq_of_beq (List.all_eq_true.1 hall letter (Hop.ofLetter?_eq_some_iff.1 h))

theorem contains_letterSet_self {hop : Hop} {letter : Char} (h : Hop.ofLetter? letter = some hop) :
    (letterSet hop).contains letter = true := by
  rw [contains_letterSet hop h, decide_eq_true rfl]

/-- The pattern of a whole code of four or more hops of one kind; the last letter is a group. -/
def lineExpr (hop : Hop) : Pattern.Expr :=
  .seq (.look .textStart)
    (.seq (.repeated 3 none true (.one (letterSet hop)))
      (.seq (.group 1 (.one (letterSet hop))) (.look .textEnd)))

/-- The rule for distant ancestors or descendants: the last letter tells the sex, and degrees are
measured against three hops. -/
def lineRule (hop : Hop) (source : Text) : Rule where
  pattern := ⟨source, lineExpr hop, []⟩
  template := .direct [.literal [hop.neutralLetter, '+'], .group (.index 1),
    .literal ('#' :: List.replicate 3 hop.neutralLetter)]

/-- The pattern of the rule for distant ancestors, as it is written. -/
def ancestorPattern : Text := "^[PMF]\x7b3,\x7d([PMF])$".toList

/-- The pattern of the rule for distant descendants, as it is written. -/
def descendantPattern : Text := "^[CSD]\x7b3,\x7d([CSD])$".toList

/-- The pattern of a cousin: up, across and down. -/
def cousinExpr : Pattern.Expr :=
  .seq (.repeated 1 none true (.one (letterSet .parent)))
    (.seq (.one (letterSet .sibling)) (.repeated 1 none true (.one (letterSet .child))))

/-- The key of a first cousin, against whom the degrees of all cousins are measured. -/
def firstCousin : Text := ['P', 'G', 'C']

/-- The replacement that gives a key and measures degrees against a first cousin. -/
def cousinReplacement (key : Text) : Replacement := [.literal (key ++ '#' :: firstCousin)]

/-- The branches of the rule for cousins, which tell the key by the balance. -/
def cousinBranches : List Branch :=
  [⟨.equal, cousinReplacement ['P', 'G', 'C']⟩, ⟨.exact 1, cousinReplacement ['P', 'P', 'G', 'C']⟩,
    ⟨.exact (-1), cousinReplacement ['P', 'G', 'C', 'C']⟩,
    ⟨.greater, cousinReplacement ['P', '+', 'G', 'C']⟩,
    ⟨.less, cousinReplacement ['P', 'G', 'C', '+']⟩]

/-- The rule for cousins. -/
def cousinRule : Rule where
  pattern := ⟨"[PMF]+[BZG][CSD]+".toList, cousinExpr, []⟩
  template := .conditional cousinBranches []

/-- The word for an ancestor or a descendant of whom the last letter of the code tells the sex. -/
def lineNoun : (last : Char) → Text
  | 'F' => "grandfather".toList
  | 'M' => "grandmother".toList
  | 'S' => "grandson".toList
  | 'D' => "granddaughter".toList
  | 'C' => "grandchild".toList
  | _ => "grandparent".toList

/-- The phrase of a distant ancestor or descendant. -/
def lineTemplate (last : Char) : Template :=
  [.placeholder 0 none, .literal (" great-".toList ++ lineNoun last)]

/-- The phrase of a cousin who is not of the same generation by one. -/
def onceRemoved : Template := [.placeholder 1 none, .literal " cousin once removed".toList]

/-- The phrase of a cousin who is not of the same generation by more than one. -/
def timesRemoved : Template :=
  [.placeholder 1 none, .literal " cousin ".toList, .placeholder 4 none,
    .literal " times removed".toList]

/-- The phrases of relatives at a distance that is not fixed, by their keys. -/
def distantPhrases : List (Text × Template) :=
  ['P', 'F', 'M'].map (fun last => (['P', '+', last], lineTemplate last)) ++
    ['C', 'S', 'D'].map (fun last => (['C', '+', last], lineTemplate last)) ++
      [(['P', 'G', 'C'], [.placeholder 1 none, .literal " cousin".toList]),
        (['P', 'P', 'G', 'C'], onceRemoved), (['P', 'G', 'C', 'C'], onceRemoved),
        (['P', '+', 'G', 'C'], timesRemoved), (['P', 'G', 'C', '+'], timesRemoved)]

/-- What there is to look up: the rules, the ordinals, the phrases and keys of relatives in the direct
line and of cousins, the gaps and letters of all phrases, and the possessive forms. -/
theorem tables_facts :
    tables.rules = [lineRule .parent ancestorPattern, lineRule .child descendantPattern,
        cousinRule] ∧
      tables.ordinals = .english ∧
      (∀ entry ∈ distantPhrases, tables.term? entry.1 = some entry.2) ∧
      (∀ hop ∈ [Hop.parent, .child, .sibling, .spouse], (tables.term? [hop.neutralLetter]).isSome) ∧
      (∀ hop ∈ [Hop.parent, .child], ∀ key ∈ tables.terms.keys,
        key.all (Code.makes hop) → key.length ≤ 3) ∧
      (∀ key ∈ tables.terms.keys,
        (∀ hop ∈ [Hop.parent, .sibling, .child], some hop ∈ key.map Hop.ofLetter?) →
          none ∉ key.map Hop.ofLetter? →
            key ∈ [['P', 'G', 'C'], ['P', 'P', 'G', 'C'], ['P', 'G', 'C', 'C']]) ∧
      (∀ entry ∈ tables.terms.entries, 'I' ∉ entry.2.literals ∧
        ∀ index ∈ entry.2.indices, index < Degrees.count) ∧
      tables.genitives.words.keys = [['I']] ∧
      tables.genitives.default = GenitiveTable.english.default := by
  unfold tables tablesIn source general immediateFamily lineage collaterals inLaws rules
    distantPhrases ancestorPattern descendantPattern cousinRule
  simp only [List.cons_append, List.nil_append, List.flatMap_cons, List.flatMap_nil]
  -- the characters of each line are put in place first, as decoding a literal is slow
  repeat rw [String.toList_ofList]
  decide +kernel

/-- Ancestors come before descendants and these before cousins. -/
theorem firstResolved?_tables (code : Text) :
    tables.firstResolved? code =
      ((lineRule .parent ancestorPattern).resolve? 1 tables code).or
        (((lineRule .child descendantPattern).resolve? 2 tables code).or
          (cousinRule.resolve? 3 tables code)) := by
  have hrules : tables.rules =
      [lineRule .parent ancestorPattern, lineRule .child descendantPattern, cousinRule] :=
    And.left tables_facts
  rw [Tables.firstResolved?, hrules]
  simp only [List.zipIdx_cons, List.zipIdx_nil, List.findSome?_cons, List.findSome?_nil,
    Nat.zero_add, Nat.reduceAdd]
  cases (lineRule .parent ancestorPattern).resolve? 1 tables code with
  | some found => rfl
  | none =>
    cases (lineRule .child descendantPattern).resolve? 2 tables code with
    | some found => rfl
    | none => cases cousinRule.resolve? 3 tables code <;> rfl

theorem ordinals_tables : tables.ordinals = .english := tables_facts.2.1

theorem term?_of_mem {key : Text} {template : Template} (h : (key, template) ∈ distantPhrases) :
    tables.term? key = some template :=
  tables_facts.2.2.1 (key, template) h

/-- Every hop has an English phrase. Had the text not loaded, there would be no phrases at all. -/
theorem term?_neutralLetter_isSome (hop : Hop) : (tables.term? [hop.neutralLetter]).isSome :=
  tables_facts.2.2.2.1 hop (by cases hop <;> simp)

/-- A key of hops of one kind, up or down, has at most three. -/
theorem length_le_of_mem_keys {hop : Hop} (hhop : hop = .parent ∨ hop = .child) {key : Text}
    (hkey : key ∈ tables.terms.keys) (hline : ∀ letter ∈ key, Hop.ofLetter? letter = some hop) :
    key.length ≤ 3 :=
  tables_facts.2.2.2.2.1 hop (by simpa using hhop) key hkey
    (List.all_eq_true.2 fun letter hletter => beq_iff_eq.2 (hline letter hletter))

/-- The keys of cousins that are written in letters are three. -/
theorem mem_of_cousin_mem_keys {key : Text} (hkey : key ∈ tables.terms.keys)
    (hhops : ∀ hop ∈ [Hop.parent, .sibling, .child], some hop ∈ key.map Hop.ofLetter?)
    (hall : none ∉ key.map Hop.ofLetter?) :
    key ∈ [['P', 'G', 'C'], ['P', 'P', 'G', 'C'], ['P', 'G', 'C', 'C']] :=
  tables_facts.2.2.2.2.2.1 key hkey hhops hall

/-- No phrase has the letter `I` outside its gaps, and there are degrees for all gaps. -/
theorem phrase_of_term? {key : Text} {template : Template} (h : tables.term? key = some template) :
    'I' ∉ template.literals ∧ ∀ index ∈ template.indices, index < Degrees.count :=
  tables_facts.2.2.2.2.2.2.1 (key, template) (Dictionary.mem_entries_of_get? h)

/-- One word has a possessive form of its own. -/
theorem keys_genitives : tables.genitives.words.keys = [['I']] := tables_facts.2.2.2.2.2.2.2.1

theorem default_genitives : tables.genitives.default = GenitiveTable.english.default :=
  tables_facts.2.2.2.2.2.2.2.2

end Vocabulary.English

end Kindred
