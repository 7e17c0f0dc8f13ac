import Kindred.Proofs.Rule.Markers
import Mathlib.Data.List.DropRight
import Mathlib.Data.Nat.Find

/-!
# Reading rule templates

What a reader finds in a text is said here without one. The markers of a text are the leftmost one,
then the leftmost one behind it, and so on (`RuleTemplate.Divides`). What is outside the markers loses
the blanks before each of them and the separator behind each of them (`RuleTemplate.outside`).

**`RuleTemplate.read_finds_markers` is the main statement**: a text without a marker is one
replacement, every other text is the branches of its markers, and branches that are printed with
semicolons between them are read back.
-/

namespace Kindred

/-- What ends a text that has more than characters of a kind is dropped behind its first character. -/
theorem Text.rdropWhile_cons {kind : Char → Bool} {c : Char} {text : Text}
    (h : ¬∀ d ∈ c :: text, kind d = true) :
    (c :: text).rdropWhile kind = c :: text.rdropWhile kind := by
  rw [List.rdropWhile, List.reverse_cons, List.dropWhile_append]
  split
  · rename_i hempty
    have htext := List.dropWhile_eq_nil_iff.1 (List.isEmpty_iff.1 hempty)
    have hc : ¬kind c = true := fun hc => h (List.forall_mem_cons.2
      ⟨hc, fun d hd => htext d (List.mem_reverse.2 hd)⟩)
    rw [List.rdropWhile, List.isEmpty_iff.1 hempty, List.dropWhile_cons_of_neg hc]
    rfl
  · rw [List.reverse_append, List.rdropWhile]
    rfl

namespace RuleTemplate

variable {text rest marker after before first : Text} {branch : Branch}
  {found : List (Branch × Text)} {limit : Nat}

/-! ## The markers of a text -/

/-- A text that is some branch as it may be written. -/
def IsMarker (text : Text) : Prop := ∃ branch : Branch, branch.Written text

/-- Every marker in the text starts behind its front `before`. -/
def StartBehind (before text : Text) : Prop :=
  ∀ front marker after, IsMarker marker → text = front ++ (marker ++ after) →
    before.length ≤ front.length

/-- The markers of a text, found from left to right: the text before the first one, and the branch of
each one with the text between it and the next. -/
inductive Divides : Text → Text → List (Branch × Text) → Prop
  | none {text : Text} (h : ∀ marker, IsMarker marker → ¬marker <:+: text) : Divides text text []
  | some {before marker after next : Text} {branch : Branch} {found : List (Branch × Text)}
      (hmarker : branch.Written marker) (hleftmost : StartBehind before (before ++ (marker ++ after)))
      (hafter : Divides after next found) :
      Divides (before ++ (marker ++ after)) before ((branch, next) :: found)

/-- What is outside the markers, without the blanks before each of them and the separator behind. -/
def outside : Text → List (Branch × Text) → Text
  | gap, [] => gap
  | gap, (_, next) :: found => gap.rdropWhile Text.isBlank ++ outside (dropSeparator next) found

theorem StartBehind.of_append (dropped : Text)
    (h : StartBehind (dropped ++ before) (dropped ++ text)) : StartBehind before text := by
  rintro front marker after hmarker rfl
  have hlength := h (dropped ++ front) marker after hmarker (List.append_assoc ..).symm
  simp only [List.length_append] at hlength
  omega

/-- Every text has its markers: the leftmost one comes first, and the search goes on behind it. -/
theorem exists_divides (text : Text) : ∃ first found, Divides text first found := by
  induction hlength : text.length using Nat.strong_induction_on generalizing text with
  | _ n ih =>
  subst hlength
  by_cases h : ∃ n front marker after,
      IsMarker marker ∧ text = front ++ (marker ++ after) ∧ front.length = n
  -- of all places at which a marker starts, take the first one
  · classical
    obtain ⟨front, marker, after, ⟨branch, hmarker⟩, rfl, hfront⟩ := Nat.find_spec h
    have hleftmost : StartBehind front (front ++ (marker ++ after)) :=
      fun other more behind hmore htext =>
        hfront ▸ Nat.find_min' h ⟨other, more, behind, hmore, htext, rfl⟩
    have hshorter : after.length < (front ++ (marker ++ after)).length := by
      obtain ⟨c, rest, rfl, -⟩ := hmarker.exists_cons
      simp only [List.length_append, List.length_cons]
      omega
    obtain ⟨next, found, hafter⟩ := ih _ hshorter after rfl
    exact ⟨front, _, .some hmarker hleftmost hafter⟩
  · refine ⟨text, [], .none ?_⟩
    rintro marker hmarker ⟨front, after, rfl⟩
    exact h ⟨_, front, marker, after, hmarker, List.append_assoc .., rfl⟩

/-- Dropping a separator from the front of a text drops no part of a marker. -/
theorem Divides.dropSeparator (h : Divides text first found) :
    Divides (dropSeparator text) (dropSeparator first) found := by
  cases h with
  | none h =>
    exact .none fun marker hmarker hinside =>
      h marker hmarker (hinside.trans (dropSeparator_suffix _).isInfix)
  | @some before marker after next branch found hmarker hleftmost hafter =>
    obtain ⟨dropped, hdropped⟩ := dropSeparator_suffix first
    rw [dropSeparator_append first (hmarker.head?_append after)]
    refine .some hmarker (.of_append dropped ?_) hafter
    rwa [← List.append_assoc, hdropped]

/-! ## The search of the reader -/

theorem length_of_readSpacedBranch? (h : readSpacedBranch? text = some (branch, rest)) :
    rest.length < text.length := by
  obtain ⟨blanks, marker, after, -, rfl, hmarker, rfl⟩ := readSpacedBranch?_eq_some_iff.1 h
  obtain ⟨c, marker, rfl, -⟩ := hmarker.exists_cons
  have hlength := (dropSeparator_suffix after).length_le
  simp only [List.length_append, List.length_cons]
  omega

/-- Any limit that is not below the length of the text gives the same branches. -/
theorem readUpTo_add (h : text.length ≤ limit) (extra : Nat) :
    readUpTo (extra + limit) text = readUpTo limit text := by
  induction limit generalizing text with
  | zero =>
    obtain rfl := List.length_eq_zero_iff.1 (Nat.le_zero.1 h)
    cases extra <;> rfl
  | succ limit ih =>
    cases text with
    | nil => rfl
    | cons c text =>
      rw [Nat.add_succ, readUpTo, readUpTo]
      cases hbranch : readSpacedBranch? (c :: text) with
      | none => simp only [ih (Nat.le_of_succ_le_succ h)]
      | some result =>
        obtain ⟨branch, rest⟩ := result
        have hrest := length_of_readSpacedBranch? hbranch
        simp only [ih (by omega : rest.length ≤ limit)]

/-- The branches of a text and the characters outside them. -/
def pieces (text : Text) : List Branch × Text := readUpTo text.length text

theorem readUpTo_eq_pieces (h : text.length ≤ limit) : readUpTo limit text = pieces text := by
  obtain ⟨extra, rfl⟩ := Nat.exists_eq_add_of_le' h
  exact readUpTo_add (Nat.le_refl _) extra

theorem pieces_of_some (h : readSpacedBranch? text = some (branch, rest)) :
    pieces text = (branch :: (pieces rest).1, (pieces rest).2) := by
  have hlength := length_of_readSpacedBranch? h
  cases text with
  | nil => exact (Nat.not_lt_zero _ hlength).elim
  | cons c text =>
    rw [pieces, List.length_cons, readUpTo]
    simp only [h, readUpTo_eq_pieces (Nat.le_of_lt_succ hlength)]

theorem pieces_of_none {c : Char} (h : readSpacedBranch? (c :: text) = none) :
    pieces (c :: text) = ((pieces text).1, c :: (pieces text).2) := by
  rw [pieces, List.length_cons, readUpTo]
  simp only [h, pieces]

theorem pieces_eq_of_no_marker (h : ∀ marker, IsMarker marker → ¬marker <:+: text) :
    pieces text = ([], text) := by
  induction text with
  | nil => rfl
  | cons c text ih =>
    have hnone : readSpacedBranch? (c :: text) = none := by
      refine Option.eq_none_iff_forall_ne_some.2 fun result hresult => ?_
      obtain ⟨blanks, marker, after, -, htext, hmarker, -⟩ := readSpacedBranch?_eq_some_iff.1 hresult
      exact h marker ⟨_, hmarker⟩ ⟨blanks, after, by rw [htext, List.append_assoc]⟩
    rw [pieces_of_none hnone, ih fun marker hmarker hinside =>
      h marker hmarker (hinside.trans (List.suffix_cons ..).isInfix)]

/-- The search finds the leftmost marker: the characters before it are outside, but for the blanks next
to it. -/
theorem pieces_of_leftmost (hmarker : branch.Written marker)
    (hleftmost : StartBehind before (before ++ (marker ++ after))) :
    pieces (before ++ (marker ++ after)) =
      (branch :: (pieces (dropSeparator after)).1,
        before.rdropWhile Text.isBlank ++ (pieces (dropSeparator after)).2) := by
  induction before with
  | nil =>
    exact pieces_of_some (readSpacedBranch?_eq_some_iff.2
      ⟨[], marker, after, (fun _ h => nomatch h), rfl, hmarker, rfl⟩)
  | cons c before ih =>
    by_cases hblanks : ∀ d ∈ c :: before, Text.isBlank d = true
    -- only blanks are in front of the marker, and the reader takes them with it
    · rw [List.rdropWhile_eq_nil_iff.2 hblanks, List.nil_append]
      exact pieces_of_some (readSpacedBranch?_eq_some_iff.2
        ⟨c :: before, marker, after, hblanks, rfl, hmarker, rfl⟩)
    · have hnone : readSpacedBranch? (c :: (before ++ (marker ++ after))) = none := by
        -- a marker behind blanks would start before the leftmost one
        refine Option.eq_none_iff_forall_ne_some.2 fun result hresult => hblanks ?_
        obtain ⟨blanks, other, behind, hblank, htext, hother, -⟩ :=
          readSpacedBranch?_eq_some_iff.1 hresult
        have hlength := hleftmost blanks other behind ⟨_, hother⟩ htext
        have hprefix : c :: before <+: blanks ++ (other ++ behind) :=
          htext ▸ List.prefix_append (c :: before) (marker ++ after)
        have hfront := List.prefix_of_prefix_length_le hprefix (List.prefix_append ..) hlength
        exact fun d hd => hblank d (hfront.subset hd)
      rw [List.cons_append, pieces_of_none hnone, ih (.of_append [c] hleftmost),
        Text.rdropWhile_cons hblanks, List.cons_append]

/-! ## Reading -/

/-- Branch by branch, the search of the reader is the search for the leftmost marker. -/
theorem pieces_of_divides (h : Divides text first found) :
    pieces text = (found.map Prod.fst, outside first found) := by
  induction found generalizing text first with
  | nil =>
    cases h with
    | none h => exact pieces_eq_of_no_marker h
  | cons head found ih =>
    cases h with
    | some hmarker hleftmost hafter =>
      rw [pieces_of_leftmost hmarker hleftmost, ih hafter.dropSeparator]
      rfl

theorem Divides.eq_nil_iff (h : Divides text first found) :
    found = [] ↔ ∀ marker, IsMarker marker → ¬marker <:+: text := by
  cases h with
  | none h => exact iff_of_true rfl h
  | @some _ marker after _ _ _ hmarker _ _ =>
    refine iff_of_false (List.cons_ne_nil _ _) fun h => h marker ⟨_, hmarker⟩ ?_
    exact ⟨first, after, List.append_assoc ..⟩

theorem read_of_no_marker (h : ∀ marker, IsMarker marker → ¬marker <:+: text) :
    read text = .direct (.read text) := by
  have hpieces : readUpTo text.length text = ([], text) := pieces_eq_of_no_marker h
  simp only [read, hpieces]

theorem read_of_branches {branches : List Branch} {outside : Text} (hne : branches ≠ [])
    (h : pieces text = (branches, outside)) : read text = .conditional branches (Text.trim outside) := by
  obtain ⟨branch, branches, rfl⟩ := List.exists_cons_of_ne_nil hne
  rw [pieces] at h
  simp only [read, h]

theorem read_of_divides (h : Divides text first found) (hne : found ≠ []) :
    read text = .conditional (found.map Prod.fst) (Text.trim (outside first found)) :=
  read_of_branches (by simpa using hne) (pieces_of_divides h)

/-! ## Reading what is printed -/

/-- Branches as they are printed, with semicolons between them. -/
def renderBranches (branches : List Branch) : Text :=
  [';'].intercalate (branches.map Branch.render)

theorem exists_renderBranches (branch : Branch) (branches : List Branch) :
    ∃ behind, renderBranches (branch :: branches) = branch.render ++ behind ∧
      (branches = [] ∧ behind = [] ∨ behind = ';' :: renderBranches branches) := by
  cases branches with
  | nil => exact ⟨[], by simp [renderBranches], .inl ⟨rfl, rfl⟩⟩
  | cons other branches => exact ⟨_, by simp [renderBranches], .inr rfl⟩

/-- What is printed for branches starts with a marker, if with anything. -/
theorem head?_renderBranches {branches : List Branch} (h : ∀ branch ∈ branches, branch.IsCanonical) :
    ∀ c ∈ (renderBranches branches).head?, Text.isBlank c = false ∧ c ≠ ';' := by
  cases branches with
  | nil => exact fun _ h => nomatch h
  | cons branch branches =>
    obtain ⟨behind, htext, -⟩ := exists_renderBranches branch branches
    rw [htext]
    exact (h branch List.mem_cons_self).written_render.head?_append behind

theorem pieces_renderBranches {branches : List Branch}
    (h : ∀ branch ∈ branches, branch.IsCanonical) : pieces (renderBranches branches) = (branches, []) := by
  induction branches with
  | nil => rfl
  | cons branch branches ih =>
    obtain ⟨hbranch, hbranches⟩ := List.forall_mem_cons.1 h
    obtain ⟨behind, htext, hsemicolon⟩ := exists_renderBranches branch branches
    have hbehind : dropSeparator behind = renderBranches branches := by
      obtain ⟨rfl, rfl⟩ | rfl := hsemicolon
      · rfl
      · exact dropSeparator_append [';'] (head?_renderBranches hbranches)
    have hread : readSpacedBranch? (branch.render ++ behind) = some (branch, dropSeparator behind) :=
      readSpacedBranch?_eq_some_iff.2
        ⟨[], branch.render, behind, (fun _ h => nomatch h), rfl, hbranch.written_render, rfl⟩
    rw [htext, pieces_of_some hread, hbehind, ih hbranches]

/-- **The branches of a text are its markers.** A text without a marker is one replacement. Of every
other text the leftmost marker is a branch, then the leftmost one behind it, and so on, and what is
outside them is trimmed. Branches that are printed with semicolons between them are read back. -/
theorem read_finds_markers :
    (∀ text replacement, read text = .direct replacement ↔
      (∀ marker, IsMarker marker → ¬marker <:+: text) ∧ replacement = .read text) ∧
    (∀ text branches ignored, read text = .conditional branches ignored ↔
      ∃ first found, Divides text first found ∧ found ≠ [] ∧ branches = found.map Prod.fst ∧
        ignored = Text.trim (outside first found)) ∧
    ∀ branches : List Branch, branches ≠ [] → (∀ branch ∈ branches, branch.IsCanonical) →
      read (renderBranches branches) = .conditional branches [] := by
  refine ⟨fun text replacement => ?_, fun text branches ignored => ?_, fun branches hne h => ?_⟩
  · constructor
    · intro h
      obtain ⟨first, found, hdivides⟩ := exists_divides text
      by_cases hfound : found = []
      · have hnone := hdivides.eq_nil_iff.1 hfound
        rw [read_of_no_marker hnone] at h
        exact ⟨hnone, (RuleTemplate.direct.inj h).symm⟩
      · rw [read_of_divides hdivides hfound] at h
        cases h
    · rintro ⟨hnone, rfl⟩
      exact read_of_no_marker hnone
  · constructor
    · intro h
      obtain ⟨first, found, hdivides⟩ := exists_divides text
      by_cases hfound : found = []
      · rw [read_of_no_marker (hdivides.eq_nil_iff.1 hfound)] at h
        cases h
      · rw [read_of_divides hdivides hfound] at h
        obtain ⟨hbranches, hignored⟩ := RuleTemplate.conditional.inj h
        exact ⟨first, found, hdivides, hfound, hbranches.symm, hignored.symm⟩
    · rintro ⟨first, found, hdivides, hfound, rfl, rfl⟩
      exact read_of_divides hdivides hfound
  · exact read_of_branches hne (pieces_renderBranches h)

/-- A branch whose text looks like a marker, and one that names its group. -/
def printed : List Branch :=
  [⟨.exact (-1), [.literal "EQ($".toList, .group (.index 1)]⟩, ⟨.greater, [.group (.name "up".toList)]⟩]

theorem read_finds_markers_printed :
    printed ≠ [] ∧ (∀ branch ∈ printed, branch.IsCanonical) ∧
      renderBranches printed = "-1(EQ($$${1});GT(${up})".toList ∧
      read "-1(EQ($$${1});GT(${up})".toList = .conditional printed [] := by
  have hindex : (GroupRef.index 1).IsWritable := by
    show 1 < Text.indexBound
    decide
  have hname : (GroupRef.name "up".toList).IsWritable := by
    refine ⟨by decide, List.all_eq_true.1 rfl, fun h => ?_⟩
    exact absurd (h.1 'u' List.mem_cons_self) (by decide)
  have hcanonical : ∀ branch ∈ printed, branch.IsCanonical := by
    refine List.forall_mem_cons.2 ⟨⟨⟨by decide, by decide⟩, ?_, ?_, ?_⟩,
      List.forall_mem_singleton.2 ⟨trivial, trivial, ?_, ?_⟩⟩
    · simp [Replacement.IsNormal]
    · exact List.forall_mem_singleton.2 hindex
    · simp
    · exact List.forall_mem_singleton.2 hname
    · simp
  have hrender : renderBranches printed = "-1(EQ($$${1});GT(${up})".toList := by decide +kernel
  refine ⟨by decide, hcanonical, hrender, ?_⟩
  rw [← hrender]
  exact read_finds_markers.2.2 printed (by decide) hcanonical

/-- A marker may start inside a number that no key can name: its first digits are outside. -/
example : read "9999999999999999999(P) ; ".toList =
    .conditional [⟨.exact 999999999999999999, [.literal ['P']]⟩] ['9'] := by
  decide +kernel

end RuleTemplate

end Kindred
