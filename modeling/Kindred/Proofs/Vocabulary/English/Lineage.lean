import Kindred.Proofs.Pattern.Greedy
import Kindred.Proofs.Rule.Application
import Kindred.Proofs.Vocabulary.English

/-!
# Distant ancestors and descendants in English

**A code of four or more hops up, or of four or more hops down, is a great-grandparent or a
great-grandchild** (`format_line`): the ordinal is two less than the number of hops, and the noun
hangs on the last letter alone.

No key has four such letters, so that the code is left to the rules. The pattern of a line matches
the whole code and keeps the last letter as its group: the repetition would take all letters, and
gives back one (`search?_lineExpr`). It matches no code with a letter of another kind
(`search?_lineExpr_eq_none`).
-/

namespace Kindred

namespace Vocabulary.English

open Pattern

/-! ## The pattern of a line -/

section Line

variable {hop : Hop} {written front : Text} {last : Char}

/-- The repetition gives back one letter, which is kept as the group. -/
theorem endsAt_lineExpr {s : Place} (hstart : s.previous = none) (hrest : s.rest = front ++ [last])
    (hline : ∀ letter ∈ front ++ [last], (letterSet hop).contains letter = true)
    (hlength : 3 ≤ front.length) :
    (Pattern.run (lineExpr hop) 0 .stop).EndsAt 0 s
      ((s.behind front).keep 1 (s.behind (front ++ [last]))) := by
  have hlast : (s.behind front).rest = [last] := Place.rest_behind hrest
  have hend : (s.behind (front ++ [last])).rest = [] := Place.rest_behind (by simp [hrest])
  have hrun : IsRun (letterSet hop) s front [last] [] := ⟨by simp [hrest], hline, by simp⟩
  -- behind the whole run there is no letter left for the group
  have hfails : FailsBeyond
      (Pattern.run (.seq (.group 1 (.one (letterSet hop))) (.look .textEnd)) 5 .stop)
      s front [last] :=
    failsBeyond_singleton (Way.failsAt_across (by simp [hend]))
  have hgroup : (Pattern.run (.seq (.group 1 (.one (letterSet hop))) (.look .textEnd)) 5
      .stop).EndsAt 4 (s.behind front) ((s.behind front).keep 1 (s.behind (front ++ [last]))) := by
    refine Way.endsAt_across hlast (hline last (by simp)) ?_
    rw [Place.behind_behind]
    exact (Way.endsAt_past (by simp [Look.holds, Place.keep, hend]) (Way.endsAt_stop _ _)).keep
  refine Way.endsAt_past (by simp [Look.holds, hstart]) ?_
  exact endsAt_run_repeated hrun (by omega) hlength hfails hgroup

theorem search?_lineExpr (hline : ∀ letter ∈ front ++ [last], Hop.ofLetter? letter = some hop)
    (hlength : 3 ≤ front.length) :
    (lineRule hop written).pattern.search? (front ++ [last]) =
      some ⟨[], front ++ [last], [], [(1, [last])]⟩ := by
  have hset : ∀ letter ∈ front ++ [last], (letterSet hop).contains letter = true :=
    fun letter hletter => contains_letterSet_self (hline letter hletter)
  have hend := endsAt_lineExpr (s := .start (front ++ [last])) rfl rfl hset hlength
  rw [search?_eq_some_of_endsAt (by simp) hend (by simp [Place.keep, Place.start])]
  simp [Place.keep, Place.start, piece]

/-- The pattern of a line matches no code with a letter that is not in its set. -/
theorem search?_lineExpr_eq_none {code : Text} {letter : Char} (hletter : letter ∈ code)
    (hset : (letterSet hop).contains letter = false) :
    (lineRule hop written).pattern.search? code = none := by
  cases h : (lineRule hop written).pattern.search? code with
  | none => rfl
  | some m =>
    exfalso
    have hin : code = m.before ++ m.text ++ m.after := search?_isIn h
    obtain ⟨t, ⟨_, ⟨hstart, rfl⟩, u, ⟨count, -, -, hrounds⟩, v, ⟨w, hstep, rfl⟩, hend, rfl⟩, -⟩ :=
      search?_leads h
    obtain ⟨passed, hrest, hpassed⟩ := hrounds.passed
    obtain ⟨last, hlast, hc, -⟩ := Place.step?_eq_some hstep
    have hbefore : m.before = [] := by simpa [Look.holds] using hstart
    have hdone : w.rest = [] := by simpa [Look.holds, Place.keep] using hend
    have hcode : code = passed ++ [last] := by
      rw [hin, hbefore, List.nil_append]
      exact hrest.trans (by rw [hlast, hdone])
    have hall : ∀ c ∈ code, (letterSet hop).contains c = true := by
      rw [hcode]
      simpa [or_imp, forall_and, hc] using hpassed
    rw [hall letter hletter] at hset
    cases hset

end Line

/-! ## Codes in the direct line -/

/-- A code makes four or more hops, all up or all down. -/
structure IsLine (hop : Hop) (code : Text) : Prop where
  hop_eq : hop = .parent ∨ hop = .child
  hops : ∀ letter ∈ code, Hop.ofLetter? letter = some hop
  four_le : 4 ≤ code.length

/-- A path that only goes up or only goes down has as many generations as letters. -/
theorem natAbs_balance {hop : Hop} {code : Text} (hhop : hop = .parent ∨ hop = .child)
    (hhops : ∀ letter ∈ code, Hop.ofLetter? letter = some hop) :
    (Legs.ofCode code).balance.natAbs = code.length := by
  rw [Legs.ofCode_of_hops (Code.map_ofLetter?_eq_replicate hhops)]
  obtain rfl | rfl := hhop
  · simp [Legs.balance, List.count_replicate]
  · simp [Legs.balance, List.count_replicate]

namespace IsLine

variable {hop : Hop} {code front : Text} {last : Char}

theorem direct?_eq_none (h : IsLine hop code) : tables.direct? code = none := by
  refine Tables.direct?_eq_none fun key hhops hkey => ?_
  have hlength : key.length = code.length := by simpa using congrArg List.length hhops
  have hline : ∀ letter ∈ key, Hop.ofLetter? letter = some hop := by
    intro letter hletter
    have hmem : Hop.ofLetter? letter ∈ code.map Hop.ofLetter? := hhops ▸ List.mem_map_of_mem hletter
    obtain ⟨other, hother, heq⟩ := List.mem_map.1 hmem
    rw [← heq, h.hops other hother]
  have hshort := length_le_of_mem_keys h.hop_eq hkey hline
  have hfour := h.four_le
  omega

/-- Against three hops of the same kind, the vertical degree is two less than the number of hops. -/
theorem vertical (h : IsLine hop code) :
    (Degrees.between code (List.replicate 3 hop.neutralLetter)).vertical =
      (code.length - 2 : Nat) := by
  have hbase : (Legs.ofCode (List.replicate 3 hop.neutralLetter)).balance.natAbs = 3 :=
    natAbs_balance h.hop_eq (by simp)
  have hfour := h.four_le
  calc (Degrees.between code (List.replicate 3 hop.neutralLetter)).vertical
      = ((Legs.ofCode code).balance.natAbs -
          (Legs.ofCode (List.replicate 3 hop.neutralLetter)).balance.natAbs : Int) + 1 := rfl
    _ = (code.length - 3 : Int) + 1 := by rw [natAbs_balance h.hop_eq h.hops, hbase]; rfl
    _ = (code.length - 2 : Nat) := by omega

/-- The phrase of a line, filled with the degrees of a code against three hops. -/
theorem fillDegrees (h : IsLine hop code) (last : Char) :
    (lineTemplate last).fillDegrees (.between code (List.replicate 3 hop.neutralLetter))
        tables.ordinals = ordinal (code.length - 2) ++ " great-".toList ++ lineNoun last := by
  have hvertical : Template.writeNumber tables.ordinals .ordinal
      (Degrees.between code (List.replicate 3 hop.neutralLetter)).vertical =
        ordinal (code.length - 2) := by
    rw [h.vertical, ordinals_tables, Template.writeNumber, format_english]
  simpa [lineTemplate, Template.fillDegrees, Degrees.get?, Template.defaultStyle] using hvertical

theorem resolve?_lineRule (h : IsLine hop (front ++ [last])) (written : Text) (number : Nat) :
    (lineRule hop written).resolve? number tables (front ++ [last]) =
      some ([], ⟨front ++ [last], ordinal ((front ++ [last]).length - 2) ++ " great-".toList ++
        lineNoun last, .rule number [hop.neutralLetter, '+', last]⟩, []) := by
  have hfront : 3 ≤ front.length := by simpa using h.four_le
  have hlast : last ∈ hop.letters := Hop.ofLetter?_eq_some_iff.1 (h.hops last (by simp))
  have hterm : tables.term? [hop.neutralLetter, '+', last] = some (lineTemplate last) := by
    refine term?_of_mem ?_
    obtain rfl | rfl := h.hop_eq
    · exact List.mem_append_left _ (List.mem_append_left _ (List.mem_map.2 ⟨last, hlast, rfl⟩))
    · exact List.mem_append_left _ (List.mem_append_right _ (List.mem_map.2 ⟨last, hlast, rfl⟩))
  have hkey : '#' ∉ [hop.neutralLetter, '+', last] := by
    have hmark : '#' ∉ hop.letters ∧ '#' ≠ hop.neutralLetter := by cases hop <;> decide
    simp only [List.mem_cons, List.not_mem_nil, or_false, not_or]
    exact ⟨hmark.2, by decide, fun hmem => hmark.1 (hmem ▸ hlast)⟩
  have htext : (lineRule hop written).replacementText ⟨[], front ++ [last], [], [(1, [last])]⟩ =
      [hop.neutralLetter, '+', last] ++ '#' :: List.replicate 3 hop.neutralLetter := by
    simp [Rule.replacementText, lineRule, RuleTemplate.select?, Replacement.expand, Rule.groupText,
      Match.group?]
  have hbase : '#' ∉ List.replicate 3 hop.neutralLetter := by cases hop <;> decide
  rw [Rule.resolve?_of_whole (search?_lineExpr h.hops hfront) htext hkey hbase hterm,
    h.fillDegrees last]

/-- The first rule resolves codes that only go up. It matches no code that goes down, so that these
are left to the second. -/
theorem firstResolved? (h : IsLine hop (front ++ [last])) :
    ∃ number, tables.firstResolved? (front ++ [last]) =
      some ([], ⟨front ++ [last], ordinal ((front ++ [last]).length - 2) ++ " great-".toList ++
        lineNoun last, .rule number [hop.neutralLetter, '+', last]⟩, []) := by
  rw [firstResolved?_tables]
  obtain rfl | rfl := h.hop_eq
  · exact ⟨1, by rw [h.resolve?_lineRule, Option.some_or]⟩
  · refine ⟨2, ?_⟩
    have hother : (letterSet .parent).contains last = false := by
      rw [contains_letterSet .parent (h.hops last (by simp))]
      rfl
    rw [Rule.resolve?_of_search?_eq_none (search?_lineExpr_eq_none (by simp) hother),
      Option.none_or, h.resolve?_lineRule, Option.some_or]

end IsLine

/-- **A code of four or more hops up, or of four or more hops down,** is formatted as the ordinal of
two less than the number of hops, `great-` and the noun of the last letter. -/
theorem format_line (front : Text) (last : Char)
    (hline : (∀ letter ∈ front ++ [last], letter ∈ ['P', 'F', 'M']) ∨
      ∀ letter ∈ front ++ [last], letter ∈ ['C', 'S', 'D'])
    (hlength : 4 ≤ (front ++ [last]).length) :
    (Formatter.ofTables tables).format (some (front ++ [last])) =
      ordinal ((front ++ [last]).length - 2) ++ " great-".toList ++ lineNoun last := by
  obtain ⟨hop, h⟩ : ∃ hop, IsLine hop (front ++ [last]) := by
    obtain hup | hdown := hline
    · exact ⟨.parent, .inl rfl, fun c hc => Hop.ofLetter?_eq_some_iff.2 (hup c hc), hlength⟩
    · exact ⟨.child, .inr rfl, fun c hc => Hop.ofLetter?_eq_some_iff.2 (hdown c hc), hlength⟩
  have hcode : Code.isCode (front ++ [last]) = true :=
    Code.isCode_of_hops (Code.map_ofLetter?_eq_replicate h.hops) (by simp)
  obtain ⟨number, hresolved⟩ := h.firstResolved?
  exact Formatter.format_of_firstResolved? hcode h.direct?_eq_none hresolved

/-- Eleven greats, whatever stands before the last letter. -/
theorem format_line_grandfather :
    4 ≤ "FMPPMPPPPPPPF".length ∧
      (Formatter.ofTables tables).format (some "FMPPMPPPPPPPF".toList) =
        "11th great-grandfather".toList :=
  ⟨by decide,
    (format_line "FMPPMPPPPPPP".toList 'F' (.inl (by simp)) (by decide)).trans (by decide)⟩

end Vocabulary.English

end Kindred
