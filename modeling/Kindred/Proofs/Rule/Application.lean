import Kindred.Formatter
import Kindred.Proofs.Code.Hops

/-!
# Codes that are one term

Where a rule matches a whole code and its replacement gives a key with a phrase and a base, the code
is one term: its phrase is filled with the degrees of the code measured against the base
(`Rule.resolve?_of_whole`). A code that is one term is formatted as the phrase of that term
(`Formatter.format_of_single`).
-/

namespace Kindred

namespace Replacement

theorem splitKey_append {key base : Text} (hkey : '#' ∉ key) (hbase : '#' ∉ base) :
    splitKey (key ++ '#' :: base) = (key, some base) := by
  rw [splitKey, Text.splitAtMark_append_mark hkey]
  simp only [Text.splitAtMark_eq_none hbase]

end Replacement

namespace Rule

variable {rule : Rule} {number : Nat} {tables : Tables} {code key base : Text}

theorem resolve?_of_search?_eq_none (h : rule.pattern.search? code = none) :
    rule.resolve? number tables code = none := by
  rw [resolve?, apply, h]
  rfl

theorem resolve?_of_whole {groups : List (Nat × Text)} {template : Template}
    (hsearch : rule.pattern.search? code = some ⟨[], code, [], groups⟩)
    (htext : rule.replacementText ⟨[], code, [], groups⟩ = key ++ '#' :: base) (hkey : '#' ∉ key)
    (hbase : '#' ∉ base) (hterm : tables.term? key = some template) :
    rule.resolve? number tables code = some ([],
      ⟨code, template.fillDegrees (.between code base) tables.ordinals, .rule number key⟩, []) := by
  have htermOf : rule.termOf? number tables ⟨[], code, [], groups⟩ =
      some ⟨code, template.fillDegrees (.between code base) tables.ordinals, .rule number key⟩ := by
    rw [termOf?, htext, Replacement.splitKey_append hkey hbase]
    simp only [hterm, Option.map_some, Option.getD_some]
  rw [resolve?, apply, hsearch, Option.map_some, htermOf]

end Rule

namespace Tables

variable {tables : Tables} {code : Text}

/-- The keys of a code make its hops. -/
theorem map_ofLetter?_of_mem_directKeys {key : Text} (h : key ∈ directKeys code) :
    key.map Hop.ofLetter? = code.map Hop.ofLetter? := by
  simp only [directKeys, List.mem_cons, List.not_mem_nil, or_false] at h
  obtain rfl | rfl | rfl := h
  · rfl
  · exact Code.map_ofLetter?_neutralize code _
  · exact Code.map_ofLetter?_neutralize code _

/-- A code has no phrase of its own if no key that makes the same hops has one. -/
theorem direct?_eq_none (h : ∀ key : Text, key.map Hop.ofLetter? = code.map Hop.ofLetter? →
    key ∉ tables.terms.keys) : tables.direct? code = none := by
  rw [direct?, List.findSome?_eq_none_iff]
  intro key hkey
  rw [term?, (Dictionary.get?_eq_none_iff _ _).2 (h key (map_ofLetter?_of_mem_directKeys hkey)),
    Option.map_none]

/-- A code has the phrase of one of its keys if no other key that makes the same hops has one. -/
theorem direct?_of_unique {key : Text} {template : Template} (hkey : key ∈ directKeys code)
    (hterm : tables.term? key = some template)
    (hunique : ∀ other : Text, other.map Hop.ofLetter? = code.map Hop.ofLetter? →
      other ∈ tables.terms.keys → other = key) :
    tables.direct? code = some
      ⟨code, template.fillDegrees (.between code code) tables.ordinals, .direct key⟩ := by
  cases h : tables.direct? code with
  | none =>
    have hnone := List.findSome?_eq_none_iff.1 h key hkey
    rw [hterm] at hnone
    cases hnone
  | some term =>
    obtain ⟨other, hother, hfound⟩ := List.exists_of_findSome?_eq_some h
    obtain ⟨found, hother', rfl⟩ := Option.map_eq_some_iff.1 hfound
    obtain rfl : other = key :=
      hunique other (map_ofLetter?_of_mem_directKeys hother) (Dictionary.mem_keys_of_get? hother')
    obtain rfl : template = found := Option.some.inj (hterm.symm.trans hother')
    rfl

end Tables

namespace Formatter

variable {tables : Tables} {code : Text} {term : Term}

theorem format_of_single {formatter : Formatter} (hcode : Code.isCode code = true)
    (h : formatter.tables.decompose formatter.bound true code = [term]) :
    formatter.format (some code) = term.phrase := by
  have hdecompose : formatter.decompose? (some code) = some [term] := by
    rw [decompose?, Option.filter_some, if_pos hcode, Option.map_some, h]
  rw [format, hdecompose]
  exact List.append_nil term.phrase

theorem format_of_direct? (hcode : Code.isCode code = true) (h : tables.direct? code = some term) :
    (ofTables tables).format (some code) = term.phrase := by
  refine format_of_single hcode ?_
  rw [ofTables, Tables.defaultBound, Tables.decompose_succ tables 63 true (Code.ne_nil hcode),
    Tables.resolve, h]

theorem format_of_firstResolved? (hcode : Code.isCode code = true)
    (hdirect : tables.direct? code = none) (h : tables.firstResolved? code = some ([], term, [])) :
    (ofTables tables).format (some code) = term.phrase := by
  refine format_of_single hcode ?_
  rw [ofTables, Tables.defaultBound, Tables.decompose_succ tables 63 true (Code.ne_nil hcode),
    Tables.resolve, hdirect, if_pos rfl, h]
  simp

end Formatter

end Kindred
