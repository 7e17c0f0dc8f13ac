import Kindred.Pattern.Basic

/-!
# What a pattern matches

An expression leads from a place of a text to a place further on. `Expr.Leads` says so without
regard to which choice is preferred and which choices were met before, by recursion on the
expression: a sequence leads through a place in between, a repetition through as many as it has
rounds.

The matcher only goes where the expression leads (`run_leads`): where a way through the expression
ends, the expression leads to some place from which the way on ends there. Each combinator of ways
keeps this, whatever its body does with the way on from behind it. A search only reports ends to
which the expression leads (`searchFrom_leads`).
-/

namespace Kindred

namespace Pattern

/-! ## Where an expression leads -/

/-- So many steps of a relation, one after the other. -/
def Rounds (step : Place → Place → Prop) : (count : Nat) → Place → Place → Prop
  | 0, s, t => t = s
  | count + 1, s, t => ∃ u, step s u ∧ Rounds step count u t

theorem Rounds.append {step : Place → Place → Prop} {m n : Nat} {s t u : Place}
    (hst : Rounds step m s t) (htu : Rounds step n t u) : Rounds step (m + n) s u := by
  induction m generalizing s with
  | zero =>
    obtain rfl : t = s := hst
    rwa [Nat.zero_add]
  | succ m ih =>
    obtain ⟨v, hsv, hvt⟩ := hst
    rw [Nat.succ_add]
    exact ⟨v, hsv, ih hvt⟩

/-- An expression leads from the first place to the second. -/
def Expr.Leads : Expr → Place → Place → Prop
  | .empty, s, t => t = s
  | .one set, s, t => s.step? set = some t
  | .look test, s, t => test.holds s.previous s.rest.head? = true ∧ t = s
  | .seq a b, s, t => ∃ u, a.Leads s u ∧ b.Leads u t
  | .alt a b, s, t => a.Leads s t ∨ b.Leads s t
  | .repeated least most _ body, s, t =>
    ∃ count, least ≤ count ∧ (∀ n, most = some n → count ≤ max least n) ∧
      Rounds body.Leads count s t
  | .group index body, s, t => ∃ u, body.Leads s u ∧ t = s.keep index u

/-! ## Ways that go through a relation -/

/-- Where the way `w` ends, it has gone to a related place, and from there the way `next`. -/
def Way.Through (step : Place → Place → Prop) (next w : Way) : Prop :=
  ∀ met s t, (w met s).2 = some t → ∃ u met', step s u ∧ (next met' u).2 = some t

namespace Way.Through

variable {step other : Place → Place → Prop} {first second mid next w : Way}

theorem mono (h : Way.Through step next w) (hstep : ∀ s u, step s u → other s u) :
    Way.Through other next w := by
  intro met s t ht
  obtain ⟨u, met', hu, hnext⟩ := h met s t ht
  exact ⟨u, met', hstep s u hu, hnext⟩

theorem comp (h : Way.Through step mid w) (hmid : Way.Through other next mid) :
    Way.Through (fun s t => ∃ u, step s u ∧ other u t) next w := by
  intro met s t ht
  obtain ⟨u, met', hu, hrest⟩ := h met s t ht
  obtain ⟨v, met'', hv, hnext⟩ := hmid met' u t hrest
  exact ⟨v, met'', ⟨u, hu, hv⟩, hnext⟩

theorem refl (next : Way) : Way.Through (fun s t => t = s) next next :=
  fun met s _ ht => ⟨s, met, rfl, ht⟩

theorem across (set : Ranges) (next : Way) :
    Way.Through (fun s t => s.step? set = some t) next (Way.across set next) := by
  intro met s t ht
  unfold Way.across at ht
  split at ht
  · rename_i u hu
    exact ⟨u, met, hu, ht⟩
  · cases ht

theorem past (look : Look) (next : Way) :
    Way.Through (fun s t => look.holds s.previous s.rest.head? = true ∧ t = s) next
      (Way.past look next) := by
  intro met s t ht
  unfold Way.past at ht
  split at ht
  · rename_i hlook
    exact ⟨s, met, ⟨hlook, rfl⟩, ht⟩
  · cases ht

theorem orElse (number : Nat) (hfirst : Way.Through step next first)
    (hsecond : Way.Through step next second) :
    Way.Through step next (Way.orElse number first second) := by
  intro met s t ht
  unfold Way.orElse at ht
  split at ht
  · cases ht
  · split at ht
    · rename_i met' u hu
      obtain rfl := Option.some.inj ht
      exact hfirst _ s u (by rw [hu])
    · exact hsecond _ s t ht

theorem prefer (number : Nat) (greedy : Bool) (hfirst : Way.Through step next first)
    (hsecond : Way.Through step next second) :
    Way.Through step next (Way.prefer number greedy first second) := by
  intro met s t ht
  cases greedy with
  | true => exact hfirst.orElse number hsecond met s t ht
  | false => exact hsecond.orElse number hfirst met s t ht

section Loops

variable {body : Way → Way} (hbody : ∀ w : Way, Way.Through step w (body w))

include hbody

theorem loop (number : Nat) (greedy : Bool) (next : Way) (rounds : Nat) :
    Way.Through (fun s t => ∃ count, Rounds step count s t) next
      (Way.loop number greedy body next rounds) := by
  induction rounds with
  | zero =>
    intro met s t ht
    cases ht
  | succ rounds ih =>
    have hmore : Way.Through (fun s t => ∃ count, Rounds step count s t) next
        (body (Way.loop number greedy body next rounds)) :=
      ((hbody _).comp ih).mono fun s t ⟨u, hsu, count, hut⟩ => ⟨count + 1, u, hsu, hut⟩
    have hdone : Way.Through (fun s t => ∃ count, Rounds step count s t) next next :=
      (refl next).mono fun s t hst => ⟨0, hst⟩
    exact fun met s t ht => hmore.prefer number greedy hdone met s t ht

theorem anyNumber (number : Nat) (greedy : Bool) (next : Way) :
    Way.Through (fun s t => ∃ count, Rounds step count s t) next
      (Way.anyNumber number greedy body next) :=
  fun met s t ht => loop hbody number greedy next _ met s t ht

theorem onceOrMore (number : Nat) (greedy : Bool) (next : Way) :
    Way.Through (fun s t => ∃ count, Rounds step (count + 1) s t) next
      (Way.onceOrMore number greedy body next) := by
  intro met s t ht
  have hmore := (hbody _).comp (loop hbody number greedy next (s.rest.length + 1))
  obtain ⟨u, met', ⟨v, hsv, count, hvu⟩, hnext⟩ := hmore met s t ht
  exact ⟨u, met', ⟨count, v, hsv, hvu⟩, hnext⟩

end Loops

section Copies

variable {copy : Nat → Way → Way} (hcopy : ∀ i (w : Way), Way.Through step w (copy i w))

include hcopy

theorem times (next : Way) (i count : Nat) :
    Way.Through (Rounds step count) next (Way.times copy next i count) := by
  induction count generalizing i with
  | zero => exact fun met s t ht => refl next met s t ht
  | succ count ih => exact fun met s t ht => (hcopy i _).comp (ih (i + 1)) met s t ht

theorem upTo (number : Nat → Nat) (greedy : Bool) (next : Way) (i count : Nat) :
    Way.Through (fun s t => ∃ n ≤ count, Rounds step n s t) next
      (Way.upTo copy number greedy next i count) := by
  induction count generalizing i with
  | zero =>
    have hdone : Way.Through (fun s t => ∃ n ≤ 0, Rounds step n s t) next next :=
      (refl next).mono fun s t hst => ⟨0, Nat.le_refl 0, hst⟩
    exact fun met s t ht => hdone met s t ht
  | succ count ih =>
    have hmore : Way.Through (fun s t => ∃ n ≤ count + 1, Rounds step n s t) next
        (copy i (Way.upTo copy number greedy next (i + 1) count)) :=
      ((hcopy i _).comp (ih (i + 1))).mono fun s t ⟨u, hsu, n, hn, hut⟩ =>
        ⟨n + 1, by omega, u, hsu, hut⟩
    have hdone : Way.Through (fun s t => ∃ n ≤ count + 1, Rounds step n s t) next next :=
      (refl next).mono fun s t hst => ⟨0, by omega, hst⟩
    exact fun met s t ht => hmore.prefer (number i) greedy hdone met s t ht

end Copies

end Way.Through

/-! ## Where the matcher goes -/

section Repetitions

variable {body : Expr} (hbody : ∀ number (w : Way), Way.Through body.Leads w (run body number w))

include hbody

/-- Copies up to the least number of rounds have to be gone through, the others may be. -/
theorem through_repeated_most (least most : Nat) (greedy : Bool) (first : Nat) (next : Way) :
    Way.Through (Expr.repeated least (some most) greedy body).Leads next
      (run (.repeated least (some most) greedy body) first next) := by
  have hleast := Way.Through.times (fun i w => hbody (first + 1 + i * (body.choices + 1) + 1) w)
    (.upTo (fun i => run body (first + 1 + i * (body.choices + 1) + 1))
      (fun i => first + 1 + i * (body.choices + 1)) greedy next least (most - least)) 0 least
  have hmore := Way.Through.upTo (fun i w => hbody (first + 1 + i * (body.choices + 1) + 1) w)
    (fun i => first + 1 + i * (body.choices + 1)) greedy next least (most - least)
  refine (hleast.comp hmore).mono ?_
  rintro s t ⟨u, hsu, n, hn, hut⟩
  refine ⟨least + n, by omega, ?_, hsu.append hut⟩
  intro m hm
  obtain rfl := Option.some.inj hm
  omega

/-- A loop from no round on. If its body may be empty, it is a loop from one round on or nothing. -/
theorem through_repeated_zero (greedy : Bool) (first : Nat) (next : Way) :
    Way.Through (Expr.repeated 0 none greedy body).Leads next
      (run (.repeated 0 none greedy body) first next) := by
  by_cases hempty : body.mayBeEmpty = true
  · rw [run, if_pos rfl, if_pos hempty]
    refine .prefer first greedy
      ((Way.Through.onceOrMore (hbody _) _ greedy next).mono ?_) ((Way.Through.refl next).mono ?_)
    · rintro s t ⟨count, hst⟩
      exact ⟨count + 1, by omega, by simp, hst⟩
    · rintro s t hst
      exact ⟨0, by omega, by simp, hst⟩
  · rw [run, if_pos rfl, if_neg hempty]
    refine (Way.Through.anyNumber (hbody _) _ greedy next).mono ?_
    rintro s t ⟨count, hst⟩
    exact ⟨count, by omega, by simp, hst⟩

/-- A loop from a positive number of rounds on is copies of the body and then a loop. -/
theorem through_repeated_succ (least : Nat) (greedy : Bool) (first : Nat) (next : Way) :
    Way.Through (Expr.repeated (least + 1) none greedy body).Leads next
      (run (.repeated (least + 1) none greedy body) first next) := by
  rw [run, if_neg (by omega)]
  refine ((Way.Through.times (fun i w => hbody _ w) _ 0 least).comp
    (Way.Through.onceOrMore (hbody _) _ greedy next)).mono ?_
  rintro s t ⟨u, hsu, count, hut⟩
  exact ⟨least + (count + 1), by omega, by simp, hsu.append hut⟩

end Repetitions

/-- **The matcher only goes where the expression leads.** -/
theorem run_leads (e : Expr) (first : Nat) (next : Way) :
    Way.Through e.Leads next (run e first next) := by
  induction e generalizing first next with
  | empty => exact .refl next
  | one set => exact .across set next
  | look test => exact .past test next
  | seq a b iha ihb => exact (iha first _).comp (ihb _ next)
  | alt a b iha ihb =>
    exact .orElse first ((iha _ next).mono fun s t => .inl) ((ihb _ next).mono fun s t => .inr)
  | repeated least most greedy body ih =>
    cases most with
    | some most => exact through_repeated_most ih least most greedy first next
    | none =>
      cases least with
      | zero => exact through_repeated_zero ih greedy first next
      | succ least => exact through_repeated_succ ih least greedy first next
  | group index body ih =>
    intro met s t ht
    obtain ⟨u, met', hu, hnext⟩ := ih first (fun met t => next met (s.keep index t)) met s t ht
    exact ⟨s.keep index u, met', ⟨u, hu, rfl⟩, hnext⟩

/-! ## Searches -/

/-- A search skips a piece of the text, and the expression leads from the place behind it to another
place. -/
theorem searchFrom_leads {p : Pattern} {text : Text} {met : Met} {position start : Nat}
    {previous : Option Char} {t : Place}
    (h : p.searchFrom met position previous text = some (start, t)) :
    ∃ skipped rest, text = skipped ++ rest ∧ start = position + skipped.length ∧
      t.position ≠ start ∧ p.expr.Leads ⟨start, skipped.getLast?.or previous, rest, []⟩ t := by
  induction text generalizing met position previous with
  | nil => simp [searchFrom] at h
  | cons c rest ih =>
    -- further right, the character is one more of those that are skipped
    have further : ∀ {met}, p.searchFrom met (position + 1) (some c) rest = some (start, t) →
        ∃ skipped rest', c :: rest = skipped ++ rest' ∧ start = position + skipped.length ∧
          t.position ≠ start ∧ p.expr.Leads ⟨start, skipped.getLast?.or previous, rest', []⟩ t := by
      intro met h
      obtain ⟨skipped, rest', htext, hstart, hmoved, hleads⟩ := ih h
      refine ⟨c :: skipped, rest', by rw [htext]; rfl, ?_, hmoved, ?_⟩
      · rw [hstart, List.length_cons]
        omega
      · have hlast : (c :: skipped).getLast?.or previous = skipped.getLast?.or (some c) := by
          cases hskipped : skipped.getLast? <;> simp [List.getLast?_cons, hskipped]
        rwa [hlast]
    unfold searchFrom at h
    split at h
    · rename_i met' u hu
      split at h
      · exact further h
      · rename_i hmoved
        obtain ⟨rfl, rfl⟩ := Prod.mk.inj (Option.some.inj h)
        obtain ⟨v, met'', hleads, hstop⟩ :=
          run_leads p.expr 0 .stop met ⟨position, previous, c :: rest, []⟩ u (by
            rw [← matchFrom, hu])
        obtain rfl := Option.some.inj hstop
        exact ⟨[], c :: rest, rfl, rfl, hmoved, hleads⟩
    · exact further h

end Pattern

end Kindred
