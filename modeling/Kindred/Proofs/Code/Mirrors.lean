import Kindred.Proofs.Code.Hops
import Mathlib.Tactic.SplitIfs

/-!
# Paths of the same legs and mirrored paths

All degrees are read off the legs of a path and of its base. So the order of the letters plays no
part in them, and letters that stay on a generation may be put in anywhere (`Legs.ofCode_perm`,
`Legs.ofCode_of_isWidened`). A path is mirrored by making each hop to a parent one to a child and
each hop to a child one to a parent; that exchanges its legs (`Legs.ofCode_of_isMirror`).

Only the horizontal degree takes one leg before the other: it measures the shorter leg, and of two
that are as long the one that climbs, against the same leg of the base. Mirrored paths have the same
horizontal degree but where the path has legs as long as each other and its base has not
(`horizontal_mirror_iff`). **`between_laws` is the main statement.**
-/

namespace Kindred

namespace Hop

/-- The hop in the other direction of the generations. -/
def mirror : Hop → Hop
  | .parent => .child
  | .child => .parent
  | .sibling => .sibling
  | .spouse => .spouse

theorem map_mirror_eq_some_iff {made : Option Hop} {hop : Hop} :
    made.map mirror = some hop ↔ made = some hop.mirror := by
  cases made with
  | none => simp
  | some made => cases made <;> cases hop <;> decide

end Hop

namespace Code

variable {code other : Text}

/-! ## Letters that stay on a generation -/

/-- Whether a letter makes a hop to another generation, to a parent or to a child. The letters for
siblings and spouses do not, nor does `I` or what is no letter of a code. -/
def changesGeneration (letter : Char) : Bool := makes .parent letter || makes .child letter

theorem makes_eq_false {letter : Char} (h : changesGeneration letter = false) :
    makes .parent letter = false ∧ makes .child letter = false :=
  Bool.or_eq_false_iff.1 h

/-- The second text is the first with letters put in that stay on a generation. -/
inductive IsWidened : Text → Text → Prop
  /-- Nothing is put in. -/
  | nil : IsWidened [] []
  /-- A letter of the first text stays. -/
  | keep (letter : Char) {code wider : Text} :
    IsWidened code wider → IsWidened (letter :: code) (letter :: wider)
  /-- A letter is put in. -/
  | insert {letter : Char} {code wider : Text} :
    changesGeneration letter = false → IsWidened code wider → IsWidened code (letter :: wider)

theorem IsWidened.refl (code : Text) : IsWidened code code := by
  induction code with
  | nil => exact .nil
  | cons letter code ih => exact ih.keep letter

/-- Each leg is a part of the letters that change the generation. -/
theorem countP_changesGeneration (code : Text) :
    code.countP changesGeneration = code.countP (makes .parent) + code.countP (makes .child) := by
  induction code with
  | nil => rfl
  | cons letter code ih =>
    have hletter : (if changesGeneration letter then 1 else 0) =
        (if makes .parent letter then 1 else 0) + if makes .child letter then 1 else 0 := by
      unfold changesGeneration makes
      cases Hop.ofLetter? letter with
      | none => rfl
      | some hop => cases hop <;> rfl
    rw [List.countP_cons, List.countP_cons, List.countP_cons, ih, hletter]
    omega

/-! ## Mirrors -/

/-- The second path mirrors the first: letter by letter, it makes the hop in the other direction of
the generations. -/
def IsMirror (code other : Text) : Prop :=
  other.map Hop.ofLetter? = code.map fun letter => (Hop.ofLetter? letter).map Hop.mirror

/-- The letter for the mirrored hop that names the same sex. -/
def mirrorLetter (letter : Char) : Char :=
  if letter = 'P' then 'C' else if letter = 'F' then 'S' else if letter = 'M' then 'D'
  else if letter = 'C' then 'P' else if letter = 'S' then 'F' else if letter = 'D' then 'M'
  else letter

theorem ofLetter?_mirrorLetter (letter : Char) :
    Hop.ofLetter? (mirrorLetter letter) = (Hop.ofLetter? letter).map Hop.mirror := by
  unfold mirrorLetter
  split_ifs with hP hF hM hC hS hD
  · subst hP; rfl
  · subst hF; rfl
  · subst hM; rfl
  · subst hC; rfl
  · subst hS; rfl
  · subst hD; rfl
  · cases hmade : Hop.ofLetter? letter with
    | none => rfl
    | some hop =>
      have hmem := Hop.ofLetter?_eq_some_iff.1 hmade
      cases hop with
      | parent => simp [Hop.letters, hP, hF, hM] at hmem
      | child => simp [Hop.letters, hC, hS, hD] at hmem
      | sibling => rfl
      | spouse => rfl

/-- Every path has a mirror. -/
theorem isMirror_map_mirrorLetter (code : Text) : IsMirror code (code.map mirrorLetter) := by
  rw [IsMirror, List.map_map]
  exact List.map_congr_left fun letter _ => ofLetter?_mirrorLetter letter

theorem IsMirror.countP_makes (h : IsMirror code other) (hop : Hop) :
    other.countP (makes hop) = code.countP (makes hop.mirror) := by
  rw [Legs.countP_makes, h, List.countP_map]
  refine List.countP_congr fun letter _ => ?_
  simp only [Function.comp_apply, makes, beq_iff_eq, Hop.map_mirror_eq_some_iff]

end Code

/-! ## Legs -/

namespace Legs

variable {code other : Text}

/-- The legs of the mirrored path. -/
def mirror (legs : Legs) : Legs := ⟨legs.down, legs.up⟩

theorem ofCode_perm (h : code.Perm other) : ofCode code = ofCode other := by
  rw [ofCode, h.countP_eq, h.countP_eq, ofCode]

theorem ofCode_of_isWidened (h : Code.IsWidened code other) : ofCode other = ofCode code := by
  simp only [ofCode, mk.injEq]
  induction h with
  | nil => exact ⟨rfl, rfl⟩
  | keep letter _ ih => simp only [List.countP_cons, ih, and_self]
  | insert hletter _ ih =>
    obtain ⟨hparent, hchild⟩ := Code.makes_eq_false hletter
    simp [hparent, hchild, ih]

theorem ofCode_of_isMirror (h : Code.IsMirror code other) :
    ofCode other = (ofCode code).mirror := by
  rw [ofCode, h.countP_makes, h.countP_makes]
  rfl

end Legs

/-! ## Degrees -/

namespace Degrees

variable (path base : Legs)

theorem min_le_max_ofLegs : (ofLegs path base).min ≤ (ofLegs path base).max := by
  simp only [ofLegs]
  omega

theorem max_sub_min_ofLegs :
    (ofLegs path base).max - (ofLegs path base).min = (ofLegs path base).diff := by
  simp only [ofLegs, Legs.balance]
  omega

theorem min_add_max_ofLegs :
    (ofLegs path base).min + (ofLegs path base).max = (path.up + path.down : Nat) := by
  simp only [ofLegs]
  omega

theorem vertical_ofLegs_self : (ofLegs path path).vertical = 1 := by
  simp [ofLegs]

theorem horizontal_ofLegs_self : (ofLegs path path).horizontal = 1 := by
  simp [ofLegs]

/-- A mirror keeps all degrees but the horizontal one. -/
theorem ofLegs_mirror :
    (ofLegs path.mirror base.mirror).vertical = (ofLegs path base).vertical ∧
    (ofLegs path.mirror base.mirror).min = (ofLegs path base).min ∧
    (ofLegs path.mirror base.mirror).max = (ofLegs path base).max ∧
    (ofLegs path.mirror base.mirror).diff = (ofLegs path base).diff := by
  simp only [ofLegs, Legs.mirror, Legs.balance]
  omega

/-- A mirror keeps the horizontal degree but where a path with legs as long as each other is
measured against a base whose legs are not. -/
theorem horizontal_mirror_iff :
    (ofLegs path.mirror base.mirror).horizontal = (ofLegs path base).horizontal ↔
      path.up ≠ path.down ∨ base.up = base.down := by
  obtain hlt | heq | hgt := Nat.lt_trichotomy path.up path.down
  · have hmirror : path.mirror.down < path.mirror.up := hlt
    rw [horizontal_of_le base (Nat.le_of_lt hlt), horizontal_of_lt base.mirror hmirror]
    exact iff_of_true rfl (.inl (Nat.ne_of_lt hlt))
  · -- of legs as long as each other it is always the one that climbs that is measured
    have hmirror : path.mirror.up ≤ path.mirror.down := Nat.le_of_eq heq.symm
    rw [horizontal_of_le base (Nat.le_of_eq heq), horizontal_of_le base.mirror hmirror]
    simp only [Legs.mirror]
    omega
  · have hmirror : path.mirror.up ≤ path.mirror.down := Nat.le_of_lt hgt
    rw [horizontal_of_lt base hgt, horizontal_of_le base.mirror hmirror]
    exact iff_of_true rfl (.inl (Nat.ne_of_gt hgt))

/-- **The degrees are consistent with each other and symmetric.** The shorter leg is no longer than
the longer one, they differ by the difference, and together they are the letters that lead to
another generation. The order of the letters plays no part, nor do letters that stay on a
generation. A path measured against itself has vertical and horizontal degree one. Mirroring the
path and its base keeps all degrees but the horizontal one, and keeps that one too unless the path
has legs as long as each other and the base has not. -/
theorem between_laws (matched base : Text) :
    (between matched base).min ≤ (between matched base).max ∧
    (between matched base).max - (between matched base).min = (between matched base).diff ∧
    (between matched base).min + (between matched base).max =
      matched.countP Code.changesGeneration ∧
    (∀ matched' base', matched.Perm matched' → base.Perm base' →
      between matched' base' = between matched base) ∧
    (∀ matched' base', Code.IsWidened matched matched' → Code.IsWidened base base' →
      between matched' base' = between matched base) ∧
    (between matched matched).vertical = 1 ∧ (between matched matched).horizontal = 1 ∧
    ∀ matched' base', Code.IsMirror matched matched' → Code.IsMirror base base' →
      (between matched' base').vertical = (between matched base).vertical ∧
      (between matched' base').min = (between matched base).min ∧
      (between matched' base').max = (between matched base).max ∧
      (between matched' base').diff = (between matched base).diff ∧
      ((between matched' base').horizontal = (between matched base).horizontal ↔
        (Legs.ofCode matched).up ≠ (Legs.ofCode matched).down ∨
          (Legs.ofCode base).up = (Legs.ofCode base).down) := by
  refine ⟨min_le_max_ofLegs _ _, max_sub_min_ofLegs _ _, ?_, fun matched' base' hm hb => ?_,
    fun matched' base' hm hb => ?_, vertical_ofLegs_self _, horizontal_ofLegs_self _,
    fun matched' base' hm hb => ?_⟩
  · rw [Code.countP_changesGeneration]
    exact min_add_max_ofLegs _ _
  · rw [between, between, Legs.ofCode_perm hm, Legs.ofCode_perm hb]
  · rw [between, between, Legs.ofCode_of_isWidened hm, Legs.ofCode_of_isWidened hb]
  · rw [between, between, Legs.ofCode_of_isMirror hm, Legs.ofCode_of_isMirror hb]
    obtain ⟨hvertical, hmin, hmax, hdiff⟩ := ofLegs_mirror (.ofCode matched) (.ofCode base)
    exact ⟨hvertical, hmin, hmax, hdiff, horizontal_mirror_iff _ _⟩

/-- The son of a father's brother, measured against a parent: his letters in another order, his wife
instead of him, and the mirrored path, which has another horizontal degree. -/
theorem between_laws_cousin :
    "FBS".toList.Perm "SFB".toList ∧ Code.IsWidened "FBS".toList "FBISW".toList ∧
    Code.IsMirror "FBS".toList "SBF".toList ∧ Code.IsMirror "P".toList "C".toList ∧
    between "SFB".toList "P".toList = between "FBS".toList "P".toList ∧
    between "FBISW".toList "P".toList = between "FBS".toList "P".toList ∧
    (between "SBF".toList "C".toList).vertical = (between "FBS".toList "P".toList).vertical ∧
    (between "SBF".toList "C".toList).horizontal ≠
      (between "FBS".toList "P".toList).horizontal := by
  have hperm : "FBS".toList.Perm "SFB".toList := by decide
  have hwidened : Code.IsWidened "FBS".toList "FBISW".toList :=
    .keep 'F' (.keep 'B' (.insert rfl (.keep 'S' (.insert rfl .nil))))
  have hmirror : Code.IsMirror "FBS".toList "SBF".toList :=
    Code.isMirror_map_mirrorLetter "FBS".toList
  have hbase : Code.IsMirror "P".toList "C".toList := Code.isMirror_map_mirrorLetter "P".toList
  obtain ⟨-, -, -, hsame, hwide, -, -, hmirrored⟩ := between_laws "FBS".toList "P".toList
  obtain ⟨hvertical, -, -, -, hhorizontal⟩ := hmirrored _ _ hmirror hbase
  exact ⟨hperm, hwidened, hmirror, hbase, hsame _ _ hperm (.refl _),
    hwide _ _ hwidened (.refl _), hvertical, fun h => absurd (hhorizontal.1 h) (by decide)⟩

end Degrees

end Kindred
