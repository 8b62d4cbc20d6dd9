import EntityGraph.Proofs.Config.Reading
import EntityGraph.Proofs.Number.Spelled
/-!
# The forms of values

The value of a variable is read as it stands, unless it has the form of a truth
value, a number, a quoted text, a list or a table (`read_eq_text_iff`). The forms
exclude no more than they say: a text that only starts like one of them, or has
something behind it, stands for itself. A text between quotes never does, for
what it stands for is shorter.
-/

namespace EntityGraph

/-! ### Texts without white space at their ends -/

namespace Text

theorem stopsBefore_of_dropWhile {p : Char → Bool} {cs : List Char} (h : cs.dropWhile p = cs) :
    StopsBefore p cs := by
  cases cs with
  | nil => exact stopsBefore_nil p
  | cons c cs =>
    rw [stopsBefore_cons, Bool.eq_false_iff]
    intro hc
    rw [List.dropWhile_cons_of_pos hc] at h
    have hlength := (List.dropWhile_suffix (l := cs) p).length_le
    rw [h, List.length_cons] at hlength
    omega

/-- Where nothing is taken off, neither end is white space. -/
theorem stopsBefore_of_trimChars {cs : List Char} (h : trimChars cs = cs) :
    StopsBefore isBlankChar cs ∧ StopsBefore isBlankChar cs.reverse := by
  have hfront := List.dropWhile_suffix (l := cs) isBlankChar
  have hback := List.dropWhile_suffix (l := (dropBlanks cs).reverse) isBlankChar
  have hlength := congrArg List.length h
  rw [trimChars, List.length_reverse] at hlength
  have hdrop : dropBlanks cs = cs := hfront.eq_of_length_le (by
    simpa [← hlength, dropBlanks] using hback.length_le)
  refine ⟨stopsBefore_of_dropWhile hdrop, stopsBefore_of_dropWhile ?_⟩
  rw [trimChars, hdrop] at h
  exact List.reverse_eq_iff.1 h

end Text

namespace Config.Variable

open Number (isNumberChar)

/-- **The forms of values** that are read as something else than plain text. -/
inductive HasForm (s : String) : Prop where
  | truth (h : s = "true" ∨ s = "false")
  | integer (n : Int) (h : Number.readWord64 s = .ok n ∨ Number.readInt64 s = .ok n)
  /-- A number with a point. -/
  | float (x : Number.Binary64) (hpoint : '.' ∈ s.toList) (h : Number.readFloat s = .ok x)
  /-- A text between double quotes. -/
  | quoted (meant : String) (rest : List Char) (hs : s.toList = '"' :: rest)
      (h : readQuoted rest = some (meant, []))
  /-- A character between apostrophes. -/
  | character (c : Char) (hs : s.toList = ['\'', c, '\''])
  | list (depth : Nat) (items : List Setting) (rest : List Char) (hs : s.toList = '[' :: rest)
      (h : readItems depth rest = some (items, []))
  | table (depth : Nat) (pairs : Table) (rest : List Char) (hs : s.toList = '\x7b' :: rest)
      (h : readPairs depth rest = some (pairs, []))

/-! ### Reading all of a text -/

section Whole

variable {s : String}

theorem isBlankChar_of_isGap {c : Char} (h : isGap c = true) : Text.isBlankChar c = true := by
  simp only [isGap, Bool.or_eq_true, beq_iff_eq] at h
  rcases h with (((rfl | rfl) | rfl) | rfl) | rfl <;> decide

/-- Nothing but blanks after a value means that nothing comes after it. -/
theorem eq_nil_of_skipGap {cs rest : List Char} (h : Text.StopsBefore Text.isBlankChar cs.reverse)
    (hsuffix : rest <:+ cs) (hskip : skipGap rest = []) : rest = [] := by
  rcases List.eq_nil_or_concat rest with rfl | ⟨init, last, rfl⟩
  · rfl
  · have hgap : isGap last = true :=
      List.dropWhile_eq_nil_iff.1 hskip last (by simp)
    obtain ⟨before, rfl⟩ := hsuffix
    have hlast := h last (by simp)
    rw [isBlankChar_of_isGap hgap] at hlast
    cases hlast

/-- The reader of the value that a text begins with. -/
def readWhole (s : String) : Option (Setting × List Char) :=
  readFront (readItems (2 * s.length + 1)) (readPairs (2 * s.length + 1)) s.toList

/-- A text is the value that all of it is read as, or else it is plain. -/
theorem read_eq (h : Text.trim s = s) {setting : Setting} : read s = setting ↔
    readWhole s = some (setting, []) ∨
      (setting = .text s ∧ ∀ other, readWhole s ≠ some (other, [])) := by
  have htrim : Text.trimChars s.toList = s.toList := by
    simpa [Text.trim] using congrArg String.toList h
  obtain ⟨hfirst, hlast⟩ := Text.stopsBefore_of_trimChars htrim
  have hskip : skipGap s.toList = s.toList := by
    have hstop := hfirst.mono fun c hc => isBlankChar_of_isGap hc
    exact Text.dropWhile_append_stop (List.forall_mem_nil _) hstop
  have hread : readValue (2 * s.length + 2) s.toList =
      (readWhole s).map (Prod.map id skipGap) := by
    rw [readValue_succ, hskip, readWhole]
  simp only [read, h, hread]
  cases hwhole : readWhole s with
  | none => simp [eq_comm]
  | some found =>
    obtain ⟨value, rest⟩ := found
    obtain ⟨-, hitems, hpairs⟩ := takesFront_read (2 * s.length + 1)
    have hsuffix : rest <:+ s.toList := hitems.front hpairs _ _ _ hwhole
    cases rest with
    | nil => simp [skipGap]
    | cons c rest =>
      have hrest : skipGap (c :: rest) ≠ [] := fun hnil =>
        absurd (eq_nil_of_skipGap hlast hsuffix hnil) (List.cons_ne_nil _ _)
      obtain ⟨d, more, hmore⟩ := List.exists_cons_of_ne_nil hrest
      simp [hmore, eq_comm]

/-! ### What has a form -/

theorem not_endsWord_of_isNumberChar {c : Char} (h : isNumberChar c = true) :
    endsWord c = false := by
  rw [Bool.eq_false_iff]
  intro hends
  simp only [endsWord, Bool.or_eq_true, beq_iff_eq] at hends
  rcases hends with (((rfl | rfl) | rfl) | rfl) | rfl <;> exact absurd h (by decide)

/-- A number is read as one word: none of its characters starts another form or
ends the word. -/
theorem readWhole_of_isNumberChar (htrim : Text.trim s = s)
    (h : ∀ c ∈ s.toList, isNumberChar c = true) : readWhole s = some (plain s, []) := by
  have hmem {c : Char} (hc : isNumberChar c = false) : c ∉ s.toList := fun hmem => by
    simp [h c hmem] at hc
  have hword : readPlain s.toList = (plain s, []) := by
    have hall : ∀ c ∈ s.toList, (!endsWord c) = true := fun c hc => by
      simp [not_endsWord_of_isNumberChar (h c hc)]
    rw [readPlain, List.takeWhile_eq_self_iff.2 hall, List.dropWhile_eq_nil_iff.2 hall]
    exact congrArg (fun word => (plain word, [])) htrim
  unfold readWhole readFront
  split
  · next hs => exact absurd (by simp [hs]) (hmem (c := 'r') (by decide))
  · next hs => exact absurd (by simp [hs]) (hmem (c := 'l') (by decide))
  · next hs => exact absurd (by simp [hs]) (hmem (c := '\x7b') (by decide))
  · next hs => exact absurd (by simp [hs]) (hmem (c := '[') (by decide))
  · next hs => exact absurd (by simp [hs]) (hmem (c := '"') (by decide))
  · next hs => exact absurd (by simp [hs]) (hmem (c := '\'') (by decide))
  · next hs => exact absurd (by simp [hs]) (hmem (c := '\'') (by decide))
  · rw [hword]

/-- A word is plain unless it is a number. -/
theorem plain_eq_text_iff : plain s = .text s ↔
    ¬(∃ n, Number.readWord64 s = .ok n ∨ Number.readInt64 s = .ok n) ∧
      ¬('.' ∈ s.toList ∧ ∃ x, Number.readFloat s = .ok x) := by
  simp only [plain, List.contains_iff_mem]
  by_cases hpoint : '.' ∈ s.toList
  · cases Number.readFloat s with
    | ok x => simp [hpoint]
    | error _ =>
      cases Number.readWord64 s <;> cases Number.readInt64 s <;> simp [hpoint]
  · cases Number.readWord64 s <;> cases Number.readInt64 s <;> simp [hpoint]

/-- What an escape stands for is no longer than the escape. -/
theorem length_of_unescape {severalLines : Bool} {cs meant : List Char}
    (h : unescape severalLines cs = some meant) : meant.length ≤ cs.length := by
  fun_induction unescape severalLines cs generalizing meant with
  | case1 =>
    cases h
    exact Nat.le_refl _
  | case2 c cs _ _ ih =>
    obtain ⟨more, hmore, rfl⟩ := Option.map_eq_some_iff.1 h
    exact Nat.succ_le_succ (ih hmore)
  | case5 _ _ _ cs d _ ih =>
    obtain ⟨more, hmore, rfl⟩ := Option.map_eq_some_iff.1 h
    exact (Nat.succ_le_succ (ih hmore)).trans (Nat.le_succ _)
  | case6 =>
    rename_i ih
    obtain ⟨d, -, h⟩ := Option.bind_eq_some_iff.1 h
    obtain ⟨more, hmore, hmeant⟩ := Option.bind_eq_some_iff.1 h
    obtain rfl := Option.some.inj hmeant
    have hlength := ih hmore
    simp only [List.length_drop, List.length_cons] at hlength ⊢
    omega
  | case7 =>
    rename_i hafter ih
    exact (ih h).trans ((continued?_length hafter).trans (Nat.le_succ _))
  | case3 | case4 | case8 | case9 => cases h

theorem length_of_readQuoted {cs rest : List Char} {meant : String}
    (h : readQuoted cs = some (meant, rest)) : meant.toList.length < cs.length := by
  obtain ⟨⟨body, rest'⟩, hsplit, h⟩ := Option.bind_eq_some_iff.1 h
  obtain ⟨text, htext, hx⟩ := Option.bind_eq_some_iff.1 h
  obtain ⟨rfl, rfl⟩ := Prod.mk.inj (Option.some.inj hx)
  have hbody := (suffix_of_splitQuoted hsplit).2
  have hmeant := length_of_unescape htext
  rw [String.toList_ofList]
  omega

/-- What is read at some depth behind an opening bracket or brace is read in the
whole text. -/
theorem readBy_whole {c : Char} {rest : List Char} (hs : s.toList = c :: rest) (depth : Nat) :
    (∀ x, readItems depth rest = some x → readItems (2 * s.length + 1) rest = some x) ∧
      ∀ x, readPairs depth rest = some x → readPairs (2 * s.length + 1) rest = some x := by
  have hlength : 2 * rest.length + 2 ≤ 2 * s.length + 1 := by
    rw [← String.length_toList, hs, List.length_cons]
    omega
  obtain ⟨-, hitems, hpairs⟩ := readBy_of_le depth
  exact ⟨hitems _ _ hlength rest (Nat.le_refl _), hpairs _ _ hlength rest (Nat.le_refl _)⟩

/-- A value that has a form is read as something else. -/
theorem HasForm.read_ne_text (h : HasForm s) (htrim : Text.trim s = s) : read s ≠ .text s := by
  intro hread
  -- The whole text is read as something that it does not say.
  suffices hother : ∃ setting, readWhole s = some (setting, []) ∧ setting ≠ .text s by
    obtain ⟨setting, hsetting, hne⟩ := hother
    exact hne (((read_eq htrim).2 (.inl hsetting)).symm.trans hread)
  cases h with
  | truth h =>
    rcases h with rfl | rfl
    · exact ⟨.bool true, rfl, by simp⟩
    · exact ⟨.bool false, rfl, by simp⟩
  | integer n h =>
    have hchars : ∀ c ∈ s.toList, isNumberChar c = true :=
      h.elim Number.isNumberChar_of_readInt Number.isNumberChar_of_readInt
    exact ⟨_, readWhole_of_isNumberChar htrim hchars, fun hplain =>
      (plain_eq_text_iff.1 hplain).1 ⟨n, h⟩⟩
  | float x hpoint h =>
    exact ⟨_, readWhole_of_isNumberChar htrim (Number.isNumberChar_of_readFloat h), fun hplain =>
      (plain_eq_text_iff.1 hplain).2 ⟨hpoint, x, h⟩⟩
  | quoted meant rest hs h =>
    refine ⟨.text meant, by simp [readWhole, readFront, hs, h], fun hmeant => ?_⟩
    have hlength := length_of_readQuoted h
    rw [Setting.text.inj hmeant, hs, List.length_cons] at hlength
    omega
  | character c hs =>
    refine ⟨.text (String.singleton c), by simp [readWhole, readFront, hs], fun hmeant => ?_⟩
    have hlength := congrArg String.toList (Setting.text.inj hmeant)
    simp [hs] at hlength
  | list depth items rest hs h =>
    exact ⟨.list items, by simp [readWhole, readFront, hs, (readBy_whole hs depth).1 _ h], by simp⟩
  | table depth pairs rest hs h =>
    exact ⟨_, by simp [readWhole, readFront, hs, (readBy_whole hs depth).2 _ h]; rfl, by simp⟩

/-- A value that is read as something else has a form. -/
theorem hasForm_of_readWhole {setting : Setting} (htrim : Text.trim s = s)
    (h : readWhole s = some (setting, [])) (hne : setting ≠ .text s) : HasForm s := by
  unfold readWhole readFront at h
  split at h
  · next hs =>
    cases h
    exact .truth (.inl (String.toList_inj.1 hs))
  · next hs =>
    cases h
    exact .truth (.inr (String.toList_inj.1 hs))
  · next hs =>
    obtain ⟨⟨pairs, rest⟩, hpairs, hx⟩ := Option.map_eq_some_iff.1 h
    obtain ⟨-, rfl⟩ := Prod.mk.inj hx
    exact .table _ pairs _ hs hpairs
  · next hs =>
    obtain ⟨⟨items, rest⟩, hitems, hx⟩ := Option.map_eq_some_iff.1 h
    obtain ⟨-, rfl⟩ := Prod.mk.inj hx
    exact .list _ items _ hs hitems
  · next hs =>
    obtain ⟨⟨meant, rest⟩, hmeant, hx⟩ := Option.map_eq_some_iff.1 h
    obtain ⟨-, rfl⟩ := Prod.mk.inj hx
    exact .quoted meant _ hs hmeant
  · next c _ hs =>
    cases h
    exact .character c hs
  · cases h
  · -- A plain word that is read to its end is all of the text.
    obtain ⟨hplain, hrest⟩ := Prod.mk.inj (Option.some.inj h)
    have hword : s.toList.takeWhile (!endsWord ·) = s.toList :=
      List.takeWhile_eq_self_iff.2 (List.dropWhile_eq_nil_iff.1 hrest)
    rw [hword] at hplain
    have hs : String.ofList (Text.trimChars s.toList) = s := htrim
    rw [hs] at hplain
    by_contra hform
    refine hne (hplain ▸ plain_eq_text_iff.2 ⟨?_, ?_⟩)
    · rintro ⟨n, hn⟩
      exact hform (.integer n hn)
    · rintro ⟨hpoint, x, hx⟩
      exact hform (.float x hpoint hx)

/-- **A value is read as it stands exactly when it has none of the forms.** -/
theorem read_eq_text_iff (htrim : Text.trim s = s) : read s = .text s ↔ ¬HasForm s := by
  constructor
  · intro hread hform
    exact hform.read_ne_text htrim hread
  · intro hform
    rw [read_eq htrim]
    by_cases hwhole : ∃ other, readWhole s = some (other, [])
    · obtain ⟨other, hother⟩ := hwhole
      refine .inl ?_
      by_cases hne : other = .text s
      · rw [hother, hne]
      · exact absurd (hasForm_of_readWhole htrim hother hne) hform
    · exact .inr ⟨rfl, fun other hother => hwhole ⟨other, hother⟩⟩

end Whole

end Config.Variable

end EntityGraph
