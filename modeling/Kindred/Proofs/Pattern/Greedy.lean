import Kindred.Proofs.Pattern.Span

/-!
# Greedy repetitions of a set

A greedy repetition of a set of characters takes the longest run of them and gives back as few as
it must. `endsAt_loop` says where its loop ends: where the way on ends from behind the characters
kept, if it fails behind every longer part of the run. That holds as long as the choices from the
loop on have not been met from the place on (`Free`), since a choice that is met again is given up.

`endsAt_run_repeated` says so of the whole repetition, and `search?_eq_some_of_endsAt` says what a
search reports for an expression that ends at the end of the text.
-/

namespace Kindred

namespace Pattern

/-! ## Places behind a piece of text -/

/-- The place behind a piece of text with which the text goes on. -/
def Place.behind (s : Place) (passed : Text) : Place :=
  ⟨s.position + passed.length, passed.getLast?.or s.previous, s.rest.drop passed.length, s.groups⟩

@[simp] theorem Place.position_behind (s : Place) (passed : Text) :
    (s.behind passed).position = s.position + passed.length := rfl

@[simp] theorem Place.groups_behind (s : Place) (passed : Text) :
    (s.behind passed).groups = s.groups := rfl

theorem Place.behind_behind (s : Place) (a b : Text) :
    (s.behind a).behind b = s.behind (a ++ b) := by
  simp only [behind, List.length_append, List.drop_drop, List.getLast?_append, Option.or_assoc,
    Nat.add_assoc]

theorem Place.rest_behind {s : Place} {passed rest : Text} (h : s.rest = passed ++ rest) :
    (s.behind passed).rest = rest := by
  simp [behind, h]

theorem Place.rest_behind_singleton {s : Place} {c : Char} {rest : Text} (h : s.rest = c :: rest) :
    (s.behind [c]).rest = rest :=
  rest_behind (List.singleton_append.symm ▸ h)

theorem Place.step?_eq_behind {s : Place} {set : Ranges} {c : Char} {rest : Text}
    (hrest : s.rest = c :: rest) (hc : set.contains c = true) :
    s.step? set = some (s.behind [c]) := by
  simp [step?, behind, hrest, hc]

theorem Place.step?_eq_none {s : Place} {set : Ranges}
    (h : ∀ c ∈ s.rest.head?, set.contains c = false) : s.step? set = none := by
  unfold step?
  cases hrest : s.rest with
  | nil => rfl
  | cons c rest => simp [h c (by simp [hrest])]

/-! ## Choices that were not met -/

/-- No choice from the number `first` on was met at a place or further on. -/
def Free (met : Met) (first : Nat) (s : Place) : Prop :=
  ∀ number position, first ≤ number → s.position ≤ position →
    met.contains (number, position) = false

theorem contains_insert (met : Met) (a b : Nat × Nat) :
    (met.insert a).contains b = (a == b || met.contains b) := by
  have hcompare : (compareLex (compareOn Prod.fst) (compareOn Prod.snd) a b == .eq) = (a == b) := by
    rw [Bool.eq_iff_iff]
    simp [compareLex, compareOn, Ordering.then_eq_eq, Prod.ext_iff]
  rw [Std.TreeSet.contains_insert, hcompare]

theorem contains_insert_of_ne (met : Met) {a b : Nat × Nat} (h : a ≠ b) :
    (met.insert a).contains b = met.contains b := by
  rw [contains_insert, beq_eq_false_iff_ne.2 h, Bool.false_or]

namespace Free

variable {met : Met} {first : Nat} {s : Place}

theorem empty (first : Nat) (s : Place) : Free ∅ first s :=
  fun _ _ _ _ => Std.TreeSet.contains_emptyc

theorem mono (h : Free met first s) {later : Nat} {t : Place} (hfirst : first ≤ later)
    (hposition : s.position ≤ t.position) : Free met later t :=
  fun number position hnumber hp => h number position (by omega) (by omega)

/-- A choice that is numbered lower, or was met before the place, does not count. -/
theorem insert (h : Free met first s) {number position : Nat}
    (hbefore : number < first ∨ position < s.position) :
    Free (met.insert (number, position)) first s := by
  intro number' position' hnumber hposition
  have hne : (number, position) ≠ (number', position') := by
    intro heq
    obtain ⟨rfl, rfl⟩ := Prod.mk.inj heq
    omega
  rw [contains_insert_of_ne met hne, h number' position' hnumber hposition]

end Free

/-! ## Ways that end, and ways that fail at once -/

namespace Way

/-- From the place `s` a way ends at the place `t`, as long as no choice from the number `first` on
was met from there on. -/
def EndsAt (w : Way) (first : Nat) (s t : Place) : Prop :=
  ∀ met, Free met first s → (w met s).2 = some t

/-- From a place a way leads nowhere, and no choice is met. -/
def FailsAt (w : Way) (s : Place) : Prop := ∀ met, w met s = (met, none)

variable {next w : Way} {first : Nat} {s t : Place} {set : Ranges}

theorem EndsAt.mono {later : Nat} (h : w.EndsAt later s t) (hfirst : first ≤ later) :
    w.EndsAt first s t :=
  fun met hmet => h met (hmet.mono hfirst (Nat.le_refl _))

theorem endsAt_stop (first : Nat) (s : Place) : Way.stop.EndsAt first s s := fun _ _ => rfl

theorem endsAt_across {c : Char} {rest : Text} (hrest : s.rest = c :: rest)
    (hc : set.contains c = true) (hnext : next.EndsAt first (s.behind [c]) t) :
    (Way.across set next).EndsAt first s t := by
  intro met hmet
  rw [Way.across, Place.step?_eq_behind hrest hc]
  exact hnext met (hmet.mono (Nat.le_refl _) (by simp))

theorem endsAt_past {look : Look} (hlook : look.holds s.previous s.rest.head? = true)
    (hnext : next.EndsAt first s t) : (Way.past look next).EndsAt first s t := by
  intro met hmet
  rw [Way.past, if_pos hlook]
  exact hnext met hmet

theorem failsAt_across (hhead : ∀ c ∈ s.rest.head?, set.contains c = false) :
    (Way.across set next).FailsAt s := by
  intro met
  rw [Way.across, Place.step?_eq_none hhead]

/-- A group that is kept on the way does not count among the choices met. -/
theorem EndsAt.keep {index : Nat} {start : Place} (h : next.EndsAt first (start.keep index s) t) :
    Way.EndsAt (fun met u => next met (start.keep index u)) first s t :=
  fun met hmet => h met hmet

end Way

/-! ## Loops over a set -/

/-- From a place on, the longest run of characters of a set is made of those kept and those given
back, and the text goes on with `rest`. -/
structure IsRun (set : Ranges) (s : Place) (kept given rest : Text) : Prop where
  rest_eq : s.rest = kept ++ given ++ rest
  contains : ∀ c ∈ kept ++ given, set.contains c = true
  maximal : ∀ c ∈ rest.head?, set.contains c = false

/-- The way on fails behind every part of a run that is longer than what is kept. -/
def FailsBeyond (next : Way) (s : Place) (kept given : Text) : Prop :=
  ∀ more, more ≠ [] → more <+: given → next.FailsAt (s.behind (kept ++ more))

section Runs

variable {set : Ranges} {s t : Place} {kept given rest : Text} {c : Char} {next : Way}
  {number rounds : Nat}

theorem IsRun.tail (h : IsRun set s (c :: kept) given rest) :
    IsRun set (s.behind [c]) kept given rest where
  rest_eq := Place.rest_behind_singleton h.rest_eq
  contains := fun d hd => h.contains d (List.mem_cons_of_mem c hd)
  maximal := h.maximal

theorem FailsBeyond.tail (h : FailsBeyond next s (c :: kept) given) :
    FailsBeyond next (s.behind [c]) kept given := by
  intro more hne hmore
  rw [Place.behind_behind]
  exact h more hne hmore

/-- Where nothing is given back, no part of the run is longer than what is kept. -/
theorem failsBeyond_nil (next : Way) (s : Place) (kept : Text) : FailsBeyond next s kept [] :=
  fun _ hne hmore => absurd (List.prefix_nil.1 hmore) hne

theorem failsBeyond_singleton (h : next.FailsAt (s.behind (kept ++ [c]))) :
    FailsBeyond next s kept [c] := by
  intro more hne hmore
  obtain rfl : more = [c] := by simpa [List.prefix_cons_iff, hne] using hmore
  exact h

/-- A greedy choice that was not met takes the first way, or the second if that leads nowhere. -/
theorem loop_succ {body : Way → Way} {met : Met}
    (hmet : met.contains (number, s.position) = false) :
    Way.loop number true body next (rounds + 1) met s =
      match body (Way.loop number true body next rounds) (met.insert (number, s.position)) s with
      | (met, some t) => (met, some t)
      | (met, none) => next met s := by
  rw [Way.loop, Way.prefer, if_pos rfl, Way.orElse, hmet]
  rfl

/-- Where the way on fails behind every part of a run, going along the run leads nowhere, and only
the choice of the loop itself is met. -/
theorem across_loop_fails {met : Met} (hrun : IsRun set s [] given rest)
    (hfails : FailsBeyond next s [] given) (hrounds : given.length ≤ rounds)
    (hmet : ∀ position, s.position < position → met.contains (number, position) = false) :
    ∃ met', Way.across set (Way.loop number true (Way.across set) next rounds) met s =
        (met', none) ∧
      ∀ n position, n ≠ number → met'.contains (n, position) = met.contains (n, position) := by
  induction given generalizing s rounds met with
  | nil =>
    refine ⟨met, Way.failsAt_across ?_ met, fun _ _ _ => rfl⟩
    rw [hrun.rest_eq]
    exact hrun.maximal
  | cons c given ih =>
    obtain ⟨rounds, rfl⟩ : ∃ n, rounds = n + 1 :=
      ⟨rounds - 1, by rw [List.length_cons] at hrounds; omega⟩
    -- the characters given back are those kept by a run of which nothing is given back
    have hkept : IsRun set s (c :: given) [] rest :=
      ⟨by simp [hrun.rest_eq], fun d hd => hrun.contains d (by simpa using hd), hrun.maximal⟩
    have hrun' : IsRun set (s.behind [c]) [] given rest :=
      ⟨by simp [hkept.tail.rest_eq], fun d hd => hkept.tail.contains d (by simpa using hd),
        hrun.maximal⟩
    have hfails' : FailsBeyond next (s.behind [c]) [] given := by
      intro more hne hmore
      rw [Place.behind_behind]
      exact hfails (c :: more) (by simp) (List.cons_prefix_cons.2 ⟨rfl, hmore⟩)
    have hmet' : ∀ position, (s.behind [c]).position < position →
        (met.insert (number, s.position + 1)).contains (number, position) = false := by
      intro position hposition
      rw [Place.position_behind, List.length_singleton] at hposition
      rw [contains_insert_of_ne met (by simp; omega)]
      exact hmet position (by omega)
    obtain ⟨met', hfurther, hsame⟩ := ih hrun' hfails' (Nat.le_of_succ_le_succ hrounds) hmet'
    refine ⟨met', ?_, ?_⟩
    · rw [Way.across, Place.step?_eq_behind hkept.rest_eq (hrun.contains c (by simp))]
      simp only
      rw [loop_succ (hmet _ (by simp)), Place.position_behind, List.length_singleton, hfurther]
      exact hfails [c] (by simp) (by simp) met'
    · intro n position hn
      rw [hsame n position hn, contains_insert_of_ne met (by simp [Ne.symm hn])]

/-- **A greedy loop over a set ends where the way on ends** from behind the characters kept, if the
way on fails behind every longer part of the run. -/
theorem endsAt_loop (hrun : IsRun set s kept given rest) (hfails : FailsBeyond next s kept given)
    (hrounds : (kept ++ given).length < rounds)
    (hnext : next.EndsAt (number + 1) (s.behind kept) t) :
    (Way.loop number true (Way.across set) next rounds).EndsAt number s t := by
  induction kept generalizing s rounds with
  | nil =>
    intro met hmet
    obtain ⟨rounds, rfl⟩ : ∃ n, rounds = n + 1 := ⟨rounds - 1, by omega⟩
    have hmet' : ∀ position, s.position < position →
        (met.insert (number, s.position)).contains (number, position) = false := by
      intro position hposition
      rw [contains_insert_of_ne met (by simp; omega)]
      exact hmet number position (by omega) (by omega)
    obtain ⟨met', hfurther, hsame⟩ :=
      across_loop_fails hrun hfails (Nat.le_of_lt_succ hrounds) hmet'
    rw [loop_succ (hmet _ _ (Nat.le_refl _) (Nat.le_refl _)), hfurther]
    refine hnext met' ?_
    intro n position hn hposition
    rw [hsame n position (by omega), contains_insert_of_ne met (by simp; omega)]
    exact hmet n position (by omega) hposition
  | cons c kept ih =>
    intro met hmet
    obtain ⟨rounds, rfl⟩ : ∃ n, rounds = n + 1 := ⟨rounds - 1, by omega⟩
    have hloop := ih hrun.tail hfails.tail (Nat.lt_of_succ_lt_succ hrounds)
      (by rwa [Place.behind_behind])
    have hmet' : Free (met.insert (number, s.position)) number (s.behind [c]) :=
      (hmet.mono (Nat.le_refl _) (by simp)).insert (.inr (by simp))
    have hend := hloop _ hmet'
    rw [loop_succ (hmet _ _ (Nat.le_refl _) (Nat.le_refl _)), Way.across,
      Place.step?_eq_behind hrun.rest_eq (hrun.contains c (by simp))]
    simp only
    split
    · rename_i hsome
      rw [hsome] at hend
      exact hend
    · rename_i hnone
      rw [hnone] at hend
      cases hend

theorem endsAt_onceOrMore (hrun : IsRun set s (c :: kept) given rest)
    (hfails : FailsBeyond next s (c :: kept) given)
    (hnext : next.EndsAt (number + 1) (s.behind (c :: kept)) t) :
    (Way.onceOrMore number true (Way.across set) next).EndsAt number s t := by
  have hloop : (Way.loop number true (Way.across set) next (s.rest.length + 1)).EndsAt number
      (s.behind [c]) t := by
    refine endsAt_loop hrun.tail hfails.tail ?_ (by rwa [Place.behind_behind])
    simp only [hrun.rest_eq, List.length_append, List.length_cons]
    omega
  exact fun met hmet =>
    Way.endsAt_across hrun.rest_eq (hrun.contains c (by simp)) hloop met hmet

/-- Through a set so many times, along characters that are kept. -/
theorem endsAt_times {first : Nat} {w : Way} (i : Nat) {passed : Text}
    (hrun : IsRun set s (passed ++ kept) given rest) (hw : w.EndsAt first (s.behind passed) t) :
    (Way.times (fun _ => Way.across set) w i passed.length).EndsAt first s t := by
  induction passed generalizing s i with
  | nil => exact fun met hmet => hw met hmet
  | cons c passed ih =>
    have hfurther := ih (i + 1) hrun.tail (by rwa [Place.behind_behind])
    exact fun met hmet =>
      Way.endsAt_across hrun.rest_eq (hrun.contains c (by simp))
        (fun met hmet => hfurther met hmet) met hmet

/-! ## Repetitions of a set -/

/-- **A greedy repetition of a set ends where the way on ends** from behind the characters kept, if
there are enough of them and the way on fails behind every longer part of the run. -/
theorem endsAt_run_repeated {least first : Nat} (hrun : IsRun set s kept given rest)
    (hpositive : 0 < least) (hleast : least ≤ kept.length) (hfails : FailsBeyond next s kept given)
    (hnext : next.EndsAt (first + least + 1) (s.behind kept) t) :
    (run (.repeated least none true (.one set)) first next).EndsAt first s t := by
  obtain ⟨least, rfl⟩ : ∃ n, least = n + 1 := ⟨least - 1, by omega⟩
  obtain ⟨front, c, last, rfl, hfront⟩ :
      ∃ front c last, kept = front ++ c :: last ∧ front.length = least :=
    ⟨kept.take least, kept[least], kept.drop (least + 1), by simp, by simp; omega⟩
  subst hfront
  have hrun' : IsRun set (s.behind front) (c :: last) given rest :=
    ⟨Place.rest_behind (by simp [hrun.rest_eq]),
      fun d hd => hrun.contains d (by simpa using Or.inr (by simpa using hd)), hrun.maximal⟩
  have hfails' : FailsBeyond next (s.behind front) (c :: last) given := by
    intro more hne hprefix
    rw [Place.behind_behind]
    simpa using hfails more hne hprefix
  have hmore : (Way.onceOrMore (first + 1 + front.length) true (Way.across set) next).EndsAt
      (first + 1 + front.length) (s.behind front) t :=
    endsAt_onceOrMore hrun' hfails' (by
      rw [Place.behind_behind]
      exact hnext.mono (by omega))
  rw [run, if_neg (by omega)]
  simp only [Expr.choices, Nat.add_sub_cancel, Nat.zero_add, Nat.mul_one]
  exact (endsAt_times 0 hrun hmore).mono (by omega)

end Runs

/-! ## Searches -/

/-- A search reports the end of the expression from the start of a text, if that is the end of the
text. -/
theorem search?_eq_some_of_endsAt {p : Pattern} {text : Text} {t : Place} (hne : text ≠ [])
    (h : (run p.expr 0 .stop).EndsAt 0 (.start text) t) (ht : t.position = text.length) :
    p.search? text =
      some ⟨[], text, [], t.groups.map fun (index, i, j) => (index, piece text i j)⟩ := by
  have hmatch : matchOf text 0 t =
      ⟨[], text, [], t.groups.map fun (index, i, j) => (index, piece text i j)⟩ := by
    simp [matchOf, piece, ht]
  have hend : (p.matchFrom ∅ (.start text)).2 = some t := h ∅ (.empty 0 _)
  cases text with
  | nil => exact absurd rfl hne
  | cons c rest =>
    obtain ⟨met, hfound⟩ : ∃ met, p.matchFrom ∅ ⟨0, none, c :: rest, []⟩ = (met, some t) :=
      ⟨_, Prod.ext rfl hend⟩
    have hmoved : t.position ≠ 0 := by simp [ht]
    have hfrom : p.searchFrom ∅ 0 none (c :: rest) = some (0, t) := by
      simp only [searchFrom, hfound, if_neg hmoved]
    rw [search?, hfrom, Option.map_some]
    exact congrArg some hmatch

end Pattern

end Kindred
