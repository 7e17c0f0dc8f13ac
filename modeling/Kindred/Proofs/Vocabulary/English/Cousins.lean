import Kindred.Proofs.Vocabulary.English.Lineage

/-!
# Cousins in English

**A code that goes up, across and down is a cousin** (`format_cousin`): the ordinal is the length of
the shorter leg, and the difference between the legs tells how often the cousin is removed.

Codes with three hops up and down at most have a key of letters and are measured against themselves
(`IsCousin.direct?_near`). All others are left to the rule for cousins, which matches the whole
code, selects a key by the balance and measures the code against a first cousin
(`IsCousin.firstResolved?_cousin`). Both give the same phrase, since in both the leg of the base
that counts has one hop (`fillDegrees_cousinTemplate`).
-/

namespace Kindred

namespace Vocabulary.English

open Pattern

/-! ## Phrases -/

/-- How often a cousin is removed whose legs differ by a number of hops. -/
def removal (difference : Nat) : Text :=
  if difference = 0 then []
  else if difference = 1 then " once removed".toList
  else " ".toList ++ Text.numeral difference ++ " times removed".toList

/-- The phrase of a cousin with legs of `up` and `down` hops. -/
def cousinPhrase (up down : Nat) : Text :=
  ordinal (min up down) ++ " cousin".toList ++ removal (up - down : Int).natAbs

/-- The key of a cousin by the balance of the legs. -/
def cousinKey (balance : Int) : Text :=
  if balance = 0 then ['P', 'G', 'C']
  else if balance = 1 then ['P', 'P', 'G', 'C']
  else if balance = -1 then ['P', 'G', 'C', 'C']
  else if 0 < balance then ['P', '+', 'G', 'C']
  else ['P', 'G', 'C', '+']

/-- The template of a cousin by the difference between the legs. -/
def cousinTemplate (difference : Nat) : Template :=
  if difference = 0 then [.placeholder 1 none, .literal " cousin".toList]
  else if difference = 1 then onceRemoved
  else timesRemoved

/-- The branches that name a balance come first, and the sign of the balance selects the others. -/
theorem select?_cousinRule (balance : Int) :
    cousinRule.template.select? balance = some (cousinReplacement (cousinKey balance)) := by
  by_cases hzero : balance = 0
  · subst hzero
    rfl
  by_cases hone : balance = 1
  · subst hone
    rfl
  by_cases hminus : balance = -1
  · subst hminus
    rfl
  have hexact : RuleTemplate.branch? cousinBranches (.exact balance) = none := by
    simp [cousinBranches, RuleTemplate.branch?, Ne.symm hone, Ne.symm hminus]
  have hsign : RuleTemplate.branch? cousinBranches (.ofSign balance) =
      some (cousinReplacement (cousinKey balance)) := by
    rw [cousinKey, if_neg hzero, if_neg hone, if_neg hminus, BranchKey.ofSign, if_neg hzero]
    by_cases hpositive : 0 < balance
    · rw [if_neg (by omega), if_pos hpositive]
      rfl
    · rw [if_pos (by omega), if_neg hpositive]
      rfl
  calc cousinRule.template.select? balance
      = (RuleTemplate.branch? cousinBranches (.exact balance)).orElse
          fun _ => RuleTemplate.branch? cousinBranches (.ofSign balance) := rfl
    _ = RuleTemplate.branch? cousinBranches (.ofSign balance) := by
      rw [hexact]
      rfl
    _ = some (cousinReplacement (cousinKey balance)) := hsign

theorem term?_cousinKey (balance : Int) :
    tables.term? (cousinKey balance) = some (cousinTemplate balance.natAbs) := by
  refine term?_of_mem (List.mem_append_right _ ?_)
  rw [cousinKey, cousinTemplate]
  repeat' split
  all_goals first | omega | simp

/-- Measured against a base of which the leg that counts has one hop, the horizontal degree is the
length of the shorter leg. -/
theorem horizontal_ofLegs {up down : Nat} {base : Legs}
    (hbase : (if down < up then base.down else base.up) = 1) :
    (Degrees.ofLegs ⟨up, down⟩ base).horizontal = (min up down : Nat) := by
  by_cases h : down < up
  · rw [if_pos h] at hbase
    have hhorizontal : (Degrees.ofLegs ⟨up, down⟩ base).horizontal = down - base.down + 1 :=
      Degrees.horizontal_of_lt base h
    omega
  · rw [if_neg h] at hbase
    have hhorizontal : (Degrees.ofLegs ⟨up, down⟩ base).horizontal = up - base.up + 1 :=
      Degrees.horizontal_of_le base (Nat.not_lt.1 h)
    omega

theorem fillDegrees_cousinTemplate {up down : Nat} {base : Legs}
    (hbase : (if down < up then base.down else base.up) = 1) :
    (cousinTemplate (up - down : Int).natAbs).fillDegrees (.ofLegs ⟨up, down⟩ base) .english =
      cousinPhrase up down := by
  have hphrase (text : Text) (rest : Template) :
      Template.fillDegrees (.placeholder 1 none :: .literal text :: rest)
          (.ofLegs ⟨up, down⟩ base) .english =
        ordinal (min up down) ++ text ++ rest.fillDegrees (.ofLegs ⟨up, down⟩ base) .english := by
    rw [← format_english, ← horizontal_ofLegs hbase]
    simp [Template.fillDegrees, Degrees.get?, Template.defaultStyle, Template.writeNumber]
  have htimes (text : Text) :
      Template.fillDegrees [.placeholder 4 none, .literal text] (.ofLegs ⟨up, down⟩ base) .english =
        Text.numeral (up - down : Int).natAbs ++ text := by
    have hnumeral : Template.writeNumber .english .cardinal (Degrees.ofLegs ⟨up, down⟩ base).diff =
        Text.numeral (up - down : Int).natAbs := rfl
    rw [← hnumeral]
    simp [Template.fillDegrees, Degrees.get?, Template.defaultStyle]
  rw [cousinPhrase, cousinTemplate, removal]
  generalize (up - down : Int).natAbs = difference at htimes
  split
  · rw [hphrase]
    rfl
  split
  · rw [onceRemoved, hphrase, List.append_assoc, List.append_assoc]
    rfl
  · rw [timesRemoved, hphrase, htimes]
    simp only [List.append_assoc]
    rfl

/-! ## Codes that go up, across and down -/

/-- A code goes up, then across to a sibling, and then down. -/
structure IsCousin (up : Text) (sibling : Char) (down : Text) : Prop where
  up_ne_nil : up ≠ []
  up_hops : ∀ letter ∈ up, Hop.ofLetter? letter = some .parent
  sibling_hop : Hop.ofLetter? sibling = some .sibling
  down_ne_nil : down ≠ []
  down_hops : ∀ letter ∈ down, Hop.ofLetter? letter = some .child

namespace IsCousin

variable {up down : Text} {sibling : Char}

/-- The hops of a cousin. -/
theorem hops (h : IsCousin up sibling down) :
    (up ++ sibling :: down).map Hop.ofLetter? =
      (List.replicate up.length Hop.parent ++ Hop.sibling ::
        List.replicate down.length Hop.child).map some := by
  simp only [List.map_append, List.map_cons, h.sibling_hop,
    Code.map_ofLetter?_eq_replicate h.up_hops, Code.map_ofLetter?_eq_replicate h.down_hops]

/-- Keys that make the hops of a cousin have the legs of the cousin. -/
theorem ofCode (h : IsCousin up sibling down) {key : Text}
    (hkey : key.map Hop.ofLetter? = (up ++ sibling :: down).map Hop.ofLetter?) :
    Legs.ofCode key = ⟨up.length, down.length⟩ := by
  rw [Legs.ofCode_of_hops (hkey.trans h.hops)]
  simp [List.count_replicate]

/-! ### The match -/

/-- The two repetitions take all letters that go up and all letters that go down. -/
theorem endsAt_cousinExpr (h : IsCousin up sibling down) {s : Place}
    (hrest : s.rest = up ++ sibling :: down) :
    (Pattern.run cousinExpr 0 .stop).EndsAt 0 s (s.behind (up ++ sibling :: down)) := by
  have hup : IsRun (letterSet .parent) s up [] (sibling :: down) :=
    { rest_eq := by simp [hrest]
      contains := fun letter hletter =>
        contains_letterSet_self (h.up_hops letter (by simpa using hletter))
      maximal := by simp [contains_letterSet .parent h.sibling_hop] }
  have hsibling : (s.behind up).rest = sibling :: down := Place.rest_behind hrest
  have hdown : IsRun (letterSet .child) ((s.behind up).behind [sibling]) down [] [] :=
    { rest_eq := by simpa using Place.rest_behind_singleton hsibling
      contains := fun letter hletter =>
        contains_letterSet_self (h.down_hops letter (by simpa using hletter))
      maximal := by simp }
  have hend : s.behind (up ++ sibling :: down) =
      ((s.behind up).behind [sibling]).behind down := by
    simp [Place.behind_behind]
  rw [hend]
  refine endsAt_run_repeated hup (by omega) (List.length_pos_iff.2 h.up_ne_nil)
    (failsBeyond_nil _ _ _) (Way.EndsAt.mono ?_ (by omega : 2 ≤ 3))
  refine Way.endsAt_across hsibling (contains_letterSet_self h.sibling_hop) ?_
  exact endsAt_run_repeated hdown (by omega) (List.length_pos_iff.2 h.down_ne_nil)
    (failsBeyond_nil _ _ _) (Way.endsAt_stop _ _)

theorem search?_cousinExpr (h : IsCousin up sibling down) :
    cousinRule.pattern.search? (up ++ sibling :: down) =
      some ⟨[], up ++ sibling :: down, [], []⟩ := by
  have hend := h.endsAt_cousinExpr (s := .start (up ++ sibling :: down)) rfl
  rw [search?_eq_some_of_endsAt (by simp) hend (by simp [Place.start])]
  simp [Place.start]

/-- The rules for the direct line match no code with a sibling in it, and the rule for cousins
resolves the whole code. -/
theorem firstResolved?_cousin (h : IsCousin up sibling down) :
    tables.firstResolved? (up ++ sibling :: down) = some ([],
      ⟨up ++ sibling :: down, cousinPhrase up.length down.length,
        .rule 3 (cousinKey (up.length - down.length))⟩, []) := by
  have hnone (hop : Hop) (hhop : hop ≠ .sibling) (written : Text) (number : Nat) :
      (lineRule hop written).resolve? number tables (up ++ sibling :: down) = none := by
    have hin : sibling ∈ up ++ sibling :: down := by simp
    refine Rule.resolve?_of_search?_eq_none (search?_lineExpr_eq_none hin ?_)
    rw [contains_letterSet hop h.sibling_hop, decide_eq_false hhop]
  have hlegs := h.ofCode rfl
  have hbase : Legs.ofCode firstCousin = ⟨1, 1⟩ := by decide
  have hphrase : (cousinTemplate (up.length - down.length : Int).natAbs).fillDegrees
      (.between (up ++ sibling :: down) firstCousin) tables.ordinals =
        cousinPhrase up.length down.length := by
    rw [ordinals_tables, Degrees.between, hlegs, hbase]
    exact fillDegrees_cousinTemplate (ite_self 1)
  have htext : cousinRule.replacementText ⟨[], up ++ sibling :: down, [], []⟩ =
      cousinKey (up.length - down.length) ++ '#' :: firstCousin := by
    rw [Rule.replacementText, hlegs, select?_cousinRule]
    exact List.append_nil _
  have hkey : '#' ∉ cousinKey (up.length - down.length) := by
    unfold cousinKey
    repeat' split
    all_goals decide
  rw [firstResolved?_tables, hnone .parent (by decide), hnone .child (by decide), Option.none_or,
    Option.none_or, Rule.resolve?_of_whole h.search?_cousinExpr htext hkey (by decide)
      (term?_cousinKey _), hphrase]

/-! ### Direct phrases -/

/-- Only cousins with at most three hops to go up and down have a key of letters, and it is that of
the rule. -/
theorem eq_cousinKey (h : IsCousin up sibling down) {key : Text} (hkey : key ∈ tables.terms.keys)
    (hhops : key.map Hop.ofLetter? = (up ++ sibling :: down).map Hop.ofLetter?) :
    key = cousinKey (up.length - down.length) ∧ up.length + down.length ≤ 3 := by
  have hlegs := h.ofCode hhops
  rw [h.hops] at hhops
  have hmem : key ∈ [['P', 'G', 'C'], ['P', 'P', 'G', 'C'], ['P', 'G', 'C', 'C']] := by
    refine mem_of_cousin_mem_keys hkey ?_ ?_
    · rw [hhops]
      simp [h.up_ne_nil, h.down_ne_nil]
    · rw [hhops]
      simp
  simp only [List.mem_cons, List.not_mem_nil, or_false] at hmem
  obtain rfl | rfl | rfl := hmem
  all_goals
    obtain ⟨hup, hdown⟩ := Legs.mk.inj hlegs
    rw [← hup, ← hdown]
    decide

theorem direct?_near (h : IsCousin up sibling down) (hnear : up.length + down.length ≤ 3) :
    tables.direct? (up ++ sibling :: down) = some
      ⟨up ++ sibling :: down, cousinPhrase up.length down.length,
        .direct (cousinKey (up.length - down.length))⟩ := by
  have hup : 0 < up.length := List.length_pos_iff.2 h.up_ne_nil
  have hdown : 0 < down.length := List.length_pos_iff.2 h.down_ne_nil
  -- a parent's sibling's child, or one more hop up or down
  obtain ⟨hneutral, hshorter⟩ : cousinKey (up.length - down.length) =
      (List.replicate up.length Hop.parent ++ Hop.sibling ::
        List.replicate down.length Hop.child).map Hop.neutralLetter ∧
      (if down.length < up.length then down.length else up.length) = 1 := by
    obtain ⟨hup, hdown⟩ | ⟨hup, hdown⟩ | ⟨hup, hdown⟩ :
        (up.length = 1 ∧ down.length = 1) ∨ (up.length = 2 ∧ down.length = 1) ∨
          (up.length = 1 ∧ down.length = 2) := by omega
    all_goals
      rw [hup, hdown]
      decide
  have hkey : cousinKey (up.length - down.length) ∈ Tables.directKeys (up ++ sibling :: down) := by
    rw [hneutral, ← Code.neutralize_of_hops h.hops, Tables.directKeys]
    simp
  have hphrase : (cousinTemplate (up.length - down.length : Int).natAbs).fillDegrees
      (.between (up ++ sibling :: down) (up ++ sibling :: down)) tables.ordinals =
        cousinPhrase up.length down.length := by
    rw [ordinals_tables, Degrees.between, h.ofCode rfl]
    exact fillDegrees_cousinTemplate hshorter
  rw [Tables.direct?_of_unique hkey (term?_cousinKey _)
    fun other hhops hother => (h.eq_cousinKey hother hhops).1, hphrase]

theorem direct?_far (h : IsCousin up sibling down) (hfar : 3 < up.length + down.length) :
    tables.direct? (up ++ sibling :: down) = none :=
  Tables.direct?_eq_none fun _ hhops hkey => by
    have hnear := (h.eq_cousinKey hkey hhops).2
    omega

end IsCousin

/-- **A code that goes up, across and down** is formatted as a cousin, whose ordinal is the length
of the shorter leg and who is removed as often as the legs differ. -/
theorem format_cousin (up : Text) (sibling : Char) (down : Text) (hup : up ≠ [])
    (hparents : ∀ letter ∈ up, letter ∈ ['P', 'F', 'M']) (hsibling : sibling ∈ ['B', 'Z', 'G'])
    (hdown : down ≠ []) (hchildren : ∀ letter ∈ down, letter ∈ ['C', 'S', 'D']) :
    (Formatter.ofTables tables).format (some (up ++ sibling :: down)) =
      cousinPhrase up.length down.length := by
  have h : IsCousin up sibling down := by
    refine ⟨hup, fun letter hletter => Hop.ofLetter?_eq_some_iff.2 (hparents letter hletter),
      Hop.ofLetter?_eq_some_iff.2 ?_, hdown,
      fun letter hletter => Hop.ofLetter?_eq_some_iff.2 (hchildren letter hletter)⟩
    simpa [Hop.letters, or_comm, or_left_comm] using hsibling
  have hcode : Code.isCode (up ++ sibling :: down) = true := Code.isCode_of_hops h.hops (by simp)
  by_cases hnear : up.length + down.length ≤ 3
  · exact Formatter.format_of_direct? hcode (h.direct?_near hnear)
  · exact Formatter.format_of_firstResolved? hcode (h.direct?_far (by omega))
      h.firstResolved?_cousin

/-- Two hops up and seven down. -/
theorem format_cousin_removed :
    (Formatter.ofTables tables).format (some "FMBSCSDDDD".toList) =
      "2nd cousin 5 times removed".toList :=
  (format_cousin "FM".toList 'B' "SCSDDDD".toList (by decide) (by simp) (by decide) (by decide)
    (by simp)).trans (by decide)

end Vocabulary.English

end Kindred
