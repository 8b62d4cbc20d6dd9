import Mathlib.Data.List.Chain
import EntityGraph.Text.Join
/-!
# Texts joined and split again

The parts of a text between the places where a separator stands. Parts that were
joined by a separator are found again when the text is split at it, provided that
the separator starts in none of them (`parts_join`). Two laws say when that is
so: when a part does not have the first character of the separator, and when the
first character is nowhere followed by the second (`Avoids`).
-/

namespace EntityGraph.Text

open String.Slice.Pattern (toList_splitToSubslice_eq_modelSplit)
open String.Slice.Pattern.Model (IsLongestMatchAt MatchesAt StrictPatternModel split split_endPos
  split_eq_of_isLongestMatchAt split_eq_of_not_matchesAt)
open String.Slice.Pattern.Model.ForwardStringSearcher (isLongestMatchAt_iff_splits
  lawfulToForwardSearcherModel matchesAt_iff_splits strictPatternModel)

/-- What holds of each part, and is kept when two texts are put together with the
separator between them, holds of the joined text. -/
theorem join_induction {P : String → Prop} {sep : String} {parts : List String} (hnil : P "")
    (happend : ∀ s t, P s → P t → P (s ++ sep ++ t)) (h : ∀ part ∈ parts, P part) :
    P (join sep parts) := by
  induction parts with
  | nil => exact hnil
  | cons part more ih =>
    have hpart := h part List.mem_cons_self
    have hmore := ih fun p hp => h p (List.mem_cons_of_mem part hp)
    cases more with
    | nil => exact hpart
    | cons next more => exact happend _ _ hpart hmore

/-! ### Splitting -/

/-- The parts of a text between the places where a separator stands, which are
found from the left. -/
def parts (sep text : String) : List String :=
  (text.split sep).toList.map (·.copy)

/-- A text in which a separator does not start: none of its ends but the empty
one, with the separator behind it, starts with the separator. -/
def IsPart (sep part : String) : Prop :=
  ∀ last : List Char, last <:+ part.toList → sep.toList <+: last ++ sep.toList → last = []

/-! ### Positions -/

section Positions

variable {sep : String} {s : String.Slice}

/-- The separator matches nowhere before the end of a part that it follows. -/
theorem not_matchesAt_of_isPart {part rest before : String} {first middle p : s.Pos}
    (hpart : IsPart sep part) (hfirst : first.Splits before (part ++ (sep ++ rest)))
    (hmiddle : middle.Splits (before ++ part) (sep ++ rest)) (hle : first ≤ p) (hlt : p < middle) :
    ¬ MatchesAt sep p := by
  intro hmatch
  obtain ⟨t₁, t₂, hp⟩ := matchesAt_iff_splits.1 hmatch
  obtain ⟨skipped, rfl, -⟩ := (hfirst.le_iff_exists_eq_append hp).1 hle
  obtain ⟨last, hlast, hskipped, hmeet⟩ := (hp.lt_iff_exists_eq_append hmiddle).1 hlt
  rw [String.append_assoc, String.append_right_inj] at hskipped
  have hmeet : sep.toList ++ t₂.toList = last.toList ++ sep.toList ++ rest.toList := by
    simpa using congrArg String.toList hmeet
  have hstarts : sep.toList <+: last.toList ++ sep.toList :=
    List.prefix_of_prefix_length_le ⟨_, hmeet⟩ (List.prefix_append _ _) (by simp)
  have hends : last.toList <:+ part.toList :=
    ⟨skipped.toList, by rw [hskipped, String.toList_append]⟩
  exact hlast (String.toList_eq_nil_iff.1 (hpart _ hends hstarts))

/-- It matches nowhere in a part that nothing follows. -/
theorem not_matchesAt_of_isPart_last (hsep : sep ≠ "") {part before : String} {first p : s.Pos}
    (hpart : IsPart sep part) (hfirst : first.Splits before part) (hle : first ≤ p) :
    ¬ MatchesAt sep p := by
  intro hmatch
  obtain ⟨t₁, t₂, hp⟩ := matchesAt_iff_splits.1 hmatch
  obtain ⟨skipped, -, rfl⟩ := (hfirst.le_iff_exists_eq_append hp).1 hle
  have hnil : sep.toList ++ t₂.toList = [] :=
    hpart _ ⟨skipped.toList, by simp⟩ (by rw [List.append_assoc]; exact List.prefix_append _ _)
  exact hsep (String.toList_eq_nil_iff.1 (List.append_eq_nil_iff.1 hnil).1)

theorem copy_subslice {first middle : s.Pos} (hle : first ≤ middle) {before part rest : String}
    (hfirst : first.Splits before (part ++ rest)) (hmiddle : middle.Splits (before ++ part) rest) :
    (s.subslice first middle hle).toSlice.copy = part := by
  obtain ⟨_, hcopy⟩ := String.Slice.copy_slice_eq_iff_splits.2 ⟨before, rest, hfirst, hmiddle⟩
  rw [String.Slice.toSlice_subslice, hcopy]

/-- From a position on where a part starts, the slices between the separators
are the parts. -/
theorem copy_split_join [StrictPatternModel sep] (hsep : sep ≠ "") {first : s.Pos}
    {before part : String} {more : List String} (hparts : ∀ p ∈ part :: more, IsPart sep p)
    (hfirst : first.Splits before (join sep (part :: more))) :
    (split sep first first (String.Slice.Pos.le_refl first)).map (·.toSlice.copy) =
      part :: more := by
  have hpart : IsPart sep part := hparts part List.mem_cons_self
  induction more generalizing first before part with
  | nil =>
    have hfirst : first.Splits before (part ++ "") := by simpa [join] using hfirst
    have hno : ∀ p : s.Pos, first ≤ p → p < s.endPos → ¬ MatchesAt sep p := fun p hle _ =>
      not_matchesAt_of_isPart_last hsep hpart (by simpa using hfirst) hle
    have hend : s.endPos.Splits (before ++ part) "" :=
      s.splits_endPos.of_eq (by simpa using hfirst.eq_append) rfl
    rw [split_eq_of_not_matchesAt s.endPos (String.Slice.Pos.le_endPos _) hno, split_endPos,
      List.map_singleton, copy_subslice _ hfirst hend]
  | cons next more ih =>
    have hfirst : first.Splits before (part ++ (sep ++ join sep (next :: more))) :=
      hfirst.of_eq rfl (by rw [join, String.append_assoc])
    -- Where the part ends, and where the separator behind it does.
    have hmiddle := hfirst.splits_rotateRight
    have hnext := hmiddle.splits_rotateRight
    have hle : first ≤ hfirst.rotateRight :=
      (hfirst.le_iff_exists_eq_append hmiddle).2 ⟨part, rfl, rfl⟩
    have hmatch : IsLongestMatchAt sep hfirst.rotateRight hmiddle.rotateRight :=
      isLongestMatchAt_iff_splits.2 ⟨_, _, hmiddle, hnext⟩
    rw [split_eq_of_not_matchesAt hfirst.rotateRight hle fun p hle hlt =>
        not_matchesAt_of_isPart hpart hfirst hmiddle hle hlt,
      split_eq_of_isLongestMatchAt hmatch, List.map_cons, copy_subslice _ hfirst hmiddle,
      ih (fun p hp => hparts p (List.mem_cons_of_mem part hp)) hnext (hparts next (by simp))]

end Positions

/-- **Parts are found again when a text is split** at what joins them. -/
theorem parts_join {sep : String} (hsep : sep ≠ "") {first : String} {more : List String}
    (h : ∀ part ∈ first :: more, IsPart sep part) :
    parts sep (join sep (first :: more)) = first :: more := by
  have := strictPatternModel hsep
  have := lawfulToForwardSearcherModel hsep
  rw [parts, String.split_eq_split_toSlice, String.Slice.toList_split_eq_splitToSubslice,
    toList_splitToSubslice_eq_modelSplit, List.map_map]
  exact copy_split_join hsep h ((String.Slice.splits_startPos _).of_eq rfl String.copy_toSlice)

/-! ### What a separator does not start in -/

/-- A separator does not start where its first character is not. -/
theorem isPart_of_not_mem {sep part : String} {a : Char} {rest : List Char}
    (hsep : sep.toList = a :: rest) (h : a ∉ part.toList) : IsPart sep part := by
  intro last hends hstarts
  cases last with
  | nil => rfl
  | cons c last =>
    rw [hsep, List.cons_append, List.cons_prefix_cons] at hstarts
    exact absurd (hends.subset (hstarts.1 ▸ List.mem_cons_self)) h

/-- In a text with one more `b` behind it, no `a` comes right before a `b`. -/
def Avoids (a b : Char) (s : String) : Prop :=
  (s.toList ++ [b]).IsChain fun c d => c = a → d ≠ b

instance (a b : Char) (s : String) : Decidable (Avoids a b s) :=
  inferInstanceAs (Decidable (List.IsChain _ _))

theorem avoids_of_not_mem {a : Char} (b : Char) {s : String} (h : a ∉ s.toList) :
    Avoids a b s := by
  unfold Avoids
  generalize s.toList = cs at h
  induction cs with
  | nil => exact .singleton b
  | cons c cs ih =>
    have hc : c ≠ a := fun heq => h (heq ▸ List.mem_cons_self)
    have htail := ih fun hmem => h (List.mem_cons_of_mem c hmem)
    cases cs with
    | nil => exact .cons_cons (fun heq => absurd heq hc) htail
    | cons d cs => exact .cons_cons (fun heq => absurd heq hc) htail

/-- The last character of the first text is no `a`, so nothing is made of the two
where they meet. -/
theorem Avoids.append {a b : Char} {s t : String} (hs : Avoids a b s) (ht : Avoids a b t) :
    Avoids a b (s ++ t) := by
  unfold Avoids at *
  obtain ⟨hchain, -, hlast⟩ := List.isChain_append.1 hs
  rw [String.toList_append, List.append_assoc]
  refine List.isChain_append.2 ⟨hchain, ht, fun c hc d _ heq => ?_⟩
  exact absurd rfl (hlast c hc b rfl heq)

/-- A joined text, and that text behind the separator: where a separator meets
the part behind it, the two are looked at together. -/
theorem avoids_join {a b : Char} {sep first : String} {more : List String}
    (h : ∀ part ∈ first :: more, Avoids a b part ∧ Avoids a b (sep ++ part)) :
    Avoids a b (join sep (first :: more)) ∧ Avoids a b (sep ++ join sep (first :: more)) := by
  obtain ⟨hfirst, hbehind⟩ := h first List.mem_cons_self
  induction more generalizing first with
  | nil => exact ⟨hfirst, hbehind⟩
  | cons next more ih =>
    obtain ⟨hnext, hnextBehind⟩ := h next (by simp)
    obtain ⟨-, hrest⟩ := ih (fun p hp => h p (List.mem_cons_of_mem first hp)) hnext hnextBehind
    have hall := hbehind.append hrest
    rw [String.append_assoc] at hall
    rw [join, String.append_assoc]
    exact ⟨hfirst.append hrest, hall⟩

/-- A separator of which the first two characters are `a` and `b`. -/
theorem Avoids.isPart {sep part : String} {a b : Char} {rest : List Char}
    (hsep : sep.toList = a :: b :: rest) (h : Avoids a b part) : IsPart sep part := by
  intro last hends hstarts
  cases last with
  | nil => rfl
  | cons c last =>
    obtain ⟨before, hbefore⟩ := hends
    rw [Avoids, ← hbefore, List.append_assoc] at h
    have hchain := (List.isChain_append.1 h).2.1
    rw [hsep, List.cons_append, List.cons_prefix_cons] at hstarts
    cases last with
    | nil => exact absurd rfl (hchain.rel hstarts.1.symm)
    | cons d last =>
      rw [List.cons_append, List.cons_prefix_cons] at hstarts
      exact absurd hstarts.2.1.symm (hchain.rel hstarts.1.symm)

/-! ### Lines -/

/-- The lines of a text are found again in it. -/
theorem parts_unlines {first : String} {more : List String}
    (h : ∀ line ∈ first :: more, '\n' ∉ line.toList) :
    parts "\n" (unlines (first :: more)) = first :: more :=
  parts_join (by decide) fun line hline => isPart_of_not_mem rfl (h line hline)

end EntityGraph.Text
