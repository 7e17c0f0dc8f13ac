import Kindred.Proofs.Pattern.Meaning

/-!
# Matches are pieces of the text

An expression only leads forward (`Expr.Leads.reaches`), and between two places there is a piece of
the text. For a search this means that the match it reports is a piece of the text searched, with
the text before it and the text after it, and that it is not empty (`search?_isIn`,
`search?_text_ne_nil`). The expression leads from the start of the match to its end
(`search?_leads`), so that a text in which it leads nowhere has no match.
-/

namespace Kindred

namespace Pattern

/-! ## Places further on -/

namespace Place

/-- The second place is the first or further on in the same text. -/
def Reaches (s t : Place) : Prop :=
  ∃ passed, s.rest = passed ++ t.rest ∧ t.position = s.position + passed.length

theorem Reaches.refl (s : Place) : s.Reaches s := ⟨[], rfl, rfl⟩

theorem Reaches.trans {s t u : Place} (hst : s.Reaches t) (htu : t.Reaches u) : s.Reaches u := by
  obtain ⟨first, hrest, hpos⟩ := hst
  obtain ⟨second, hrest', hpos'⟩ := htu
  refine ⟨first ++ second, ?_, ?_⟩
  · rw [hrest, hrest', List.append_assoc]
  · rw [hpos', hpos, List.length_append]
    omega

theorem step?_eq_some {set : Ranges} {s t : Place} (h : s.step? set = some t) :
    ∃ c, s.rest = c :: t.rest ∧ set.contains c = true ∧ t.position = s.position + 1 := by
  unfold step? at h
  split at h
  · simp at h
  · rename_i c rest hrest
    split at h
    · rename_i hc
      obtain rfl := Option.some.inj h
      exact ⟨c, hrest, hc, rfl⟩
    · simp at h

theorem reaches_of_step? {set : Ranges} {s t : Place} (h : s.step? set = some t) : s.Reaches t := by
  obtain ⟨c, hrest, -, hposition⟩ := step?_eq_some h
  exact ⟨[c], hrest, hposition⟩

theorem reaches_keep (index : Nat) (first last : Place) : last.Reaches (keep index first last) :=
  ⟨[], rfl, rfl⟩

end Place

/-! ## Where expressions lead -/

theorem Rounds.reaches {step : Place → Place → Prop} (hstep : ∀ s t, step s t → s.Reaches t)
    {count : Nat} {s t : Place} (h : Rounds step count s t) : s.Reaches t := by
  induction count generalizing s with
  | zero =>
    obtain rfl : t = s := h
    exact .refl t
  | succ count ih =>
    obtain ⟨u, hsu, hut⟩ := h
    exact (hstep s u hsu).trans (ih hut)

/-- Rounds through a set pass characters of the set. -/
theorem Rounds.passed {set : Ranges} {count : Nat} {s t : Place}
    (h : Rounds (Expr.one set).Leads count s t) :
    ∃ passed, s.rest = passed ++ t.rest ∧ ∀ c ∈ passed, set.contains c = true := by
  induction count generalizing s with
  | zero =>
    obtain rfl : t = s := h
    exact ⟨[], rfl, by simp⟩
  | succ count ih =>
    obtain ⟨u, hsu, hut⟩ := h
    obtain ⟨c, hrest, hc, -⟩ := Place.step?_eq_some hsu
    obtain ⟨passed, hu, hpassed⟩ := ih hut
    exact ⟨c :: passed, by rw [hrest, hu]; rfl, by simpa [hc] using hpassed⟩

/-- **An expression only leads forward.** -/
theorem Expr.Leads.reaches {e : Expr} {s t : Place} (h : e.Leads s t) : s.Reaches t := by
  induction e generalizing s t with
  | empty =>
    obtain rfl : t = s := h
    exact .refl t
  | one set => exact Place.reaches_of_step? h
  | look test =>
    obtain ⟨-, rfl⟩ := h
    exact .refl t
  | seq a b iha ihb =>
    obtain ⟨u, hsu, hut⟩ := h
    exact (iha hsu).trans (ihb hut)
  | alt a b iha ihb =>
    cases h with
    | inl h => exact iha h
    | inr h => exact ihb h
  | repeated least most greedy body ih =>
    obtain ⟨count, -, -, h⟩ := h
    exact h.reaches fun s t => ih
  | group index body ih =>
    obtain ⟨u, hsu, rfl⟩ := h
    exact (ih hsu).trans (Place.reaches_keep index s u)

/-! ## Searches -/

/-- A search skips a piece of the text, and what it matches behind it is not empty. -/
theorem searchFrom_eq_some {p : Pattern} {text : Text} {met : Met} {position start : Nat}
    {previous : Option Char} {s : Place}
    (h : p.searchFrom met position previous text = some (start, s)) :
    ∃ skipped matched, text = skipped ++ matched ++ s.rest ∧ matched ≠ [] ∧
      start = position + skipped.length ∧ s.position = start + matched.length ∧
        p.expr.Leads ⟨start, skipped.getLast?.or previous, matched ++ s.rest, []⟩ s := by
  obtain ⟨skipped, rest, rfl, hstart, hmoved, hleads⟩ := searchFrom_leads h
  obtain ⟨matched, hrest, hpos⟩ := hleads.reaches
  change rest = matched ++ s.rest at hrest
  change s.position = start + matched.length at hpos
  subst hrest
  refine ⟨skipped, matched, (List.append_assoc _ _ _).symm, ?_, hstart, hpos, hleads⟩
  rintro rfl
  exact hmoved hpos

theorem matchOf_append (skipped matched : Text) {s : Place}
    (hs : s.position = skipped.length + matched.length) :
    matchOf (skipped ++ matched ++ s.rest) skipped.length s =
      ⟨skipped, matched, s.rest, s.groups.map fun (index, i, j) =>
        (index, piece (skipped ++ matched ++ s.rest) i j)⟩ := by
  have hmax : max skipped.length s.position = (skipped ++ matched).length := by
    rw [hs, List.length_append]
    omega
  simp only [matchOf, hmax, List.drop_left]
  simp [piece, hs]

/-- A reported match is a piece of the text searched and not empty, and the expression leads from
its start to its end. -/
theorem search?_eq_some {p : Pattern} {text : Text} {m : Match} (h : p.search? text = some m) :
    m.IsIn text ∧ m.text ≠ [] ∧
      ∃ t, p.expr.Leads ⟨m.before.length, m.before.getLast?, m.text ++ m.after, []⟩ t ∧
        t.rest = m.after := by
  obtain ⟨⟨start, s⟩, hs, rfl⟩ := Option.map_eq_some_iff.1 h
  obtain ⟨skipped, matched, rfl, hne, rfl, hend, hleads⟩ := searchFrom_eq_some hs
  rw [Nat.zero_add] at hend hleads ⊢
  rw [Option.or_none] at hleads
  simp only [matchOf_append skipped matched hend]
  exact ⟨rfl, hne, s, hleads, rfl⟩

theorem search?_isIn {p : Pattern} {text : Text} {m : Match} (h : p.search? text = some m) :
    m.IsIn text :=
  (search?_eq_some h).1

theorem search?_text_ne_nil {p : Pattern} {text : Text} {m : Match}
    (h : p.search? text = some m) : m.text ≠ [] :=
  (search?_eq_some h).2.1

theorem search?_leads {p : Pattern} {text : Text} {m : Match} (h : p.search? text = some m) :
    ∃ t, p.expr.Leads ⟨m.before.length, m.before.getLast?, m.text ++ m.after, []⟩ t ∧
      t.rest = m.after :=
  (search?_eq_some h).2.2

theorem piece_subset (text : Text) (first last : Nat) : piece text first last ⊆ text :=
  fun _ hc => List.mem_of_mem_drop (List.mem_of_mem_take hc)

/-- The texts of the groups of a match are made of characters of the text searched. -/
theorem group?_subset {p : Pattern} {text found : Text} {m : Match} {index : Nat}
    (h : p.search? text = some m) (hfound : m.group? index = some found) : found ⊆ text := by
  obtain ⟨⟨first, s⟩, -, rfl⟩ := Option.map_eq_some_iff.1 h
  unfold Match.group? at hfound
  split at hfound
  · obtain rfl := Option.some.inj hfound
    exact piece_subset text first s.position
  · obtain ⟨⟨number, _⟩, hgroup, rfl⟩ := Option.map_eq_some_iff.1 hfound
    obtain ⟨⟨_, i, j⟩, -, hpiece⟩ := List.mem_map.1 (List.mem_of_find?_eq_some hgroup)
    obtain ⟨-, rfl⟩ := Prod.mk.inj hpiece
    exact piece_subset text i j

end Pattern

end Kindred
