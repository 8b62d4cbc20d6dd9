import EntityGraph.Text.Case
/-!
# Small letters

No ASCII capital is left in a text in small letters, whatever letters it had
before. Outside ASCII this is a fact about the table of offsets: none of its
runs leads back to the capitals of ASCII. A text of ASCII has its letters made
small one by one, wherever they stand (`lower_eq_lowerAscii`).
-/

namespace EntityGraph.Text

theorem isUpper_iff_toNat {c : Char} : c.isUpper = true ↔ 65 ≤ c.toNat ∧ c.toNat ≤ 90 := by
  show decide (c.val ≥ 'A'.val ∧ c.val ≤ 'Z'.val) = true ↔ _
  simp only [decide_eq_true_eq, ge_iff_le, UInt32.le_iff_toNat_le]
  rfl

theorem toLower_eq_self {c : Char} (h : c.isUpper = false) : c.toLower = c := by
  have hnot : ¬ (c.val ≥ 'A'.val ∧ c.val ≤ 'Z'.val) := by
    intro hc
    have hupper : c.isUpper = true := decide_eq_true hc
    simp [hupper] at h
  exact dif_neg hnot

/-- A capital of ASCII is as far before its small letter as `A` is before `a`. -/
theorem toNat_toLower {c : Char} (h : c.isUpper = true) : c.toLower.toNat = c.toNat + 32 := by
  have hc := isUpper_iff_toNat.1 h
  have hval : c.val ≥ 'A'.val ∧ c.val ≤ 'Z'.val := of_decide_eq_true h
  have hsmall : c.toLower = ⟨c.val + 32, _⟩ := dif_pos hval
  rw [hsmall]
  show (c.val + 32).toNat = c.val.toNat + 32
  rw [UInt32.toNat_add, Nat.mod_eq_of_lt]
  · rfl
  · have : c.val.toNat ≤ 90 := hc.2
    simp
    omega

theorem isUpper_toLower (c : Char) : c.toLower.isUpper = false := by
  cases h : c.isUpper with
  | false => rw [toLower_eq_self h, h]
  | true =>
    have hc := isUpper_iff_toNat.1 h
    have hnat := toNat_toLower h
    rw [Bool.eq_false_iff, ne_eq, isUpper_iff_toNat]
    omega

theorem isUpper_ofNat {n : Nat} (h : 91 ≤ n) : (Char.ofNat n).isUpper = false := by
  rw [Bool.eq_false_iff, ne_eq, isUpper_iff_toNat]
  -- A number that is no code point gives the null character.
  by_cases hvalid : n.isValidChar
  · have hnat : (Char.ofNat n).toNat = n := by
      have hofNat : Char.ofNat n = Char.ofNatAux n hvalid := dif_pos hvalid
      rw [hofNat]
      rfl
    omega
  · have hofNat : Char.ofNat n = '\x00' := dif_neg hvalid
    rw [hofNat]
    decide

/-- The offsets lead to code points past the capitals of ASCII. -/
theorem lt_of_mem_lowerOffsets {run : Run} {offset : Int}
    (h : (run, offset) ∈ CaseTable.lowerOffsets) : 91 ≤ (run.first : Int) + offset := by
  have hall : CaseTable.lowerOffsets.all
      (fun p => decide (91 ≤ (p.1.first : Int) + p.2)) = true := by
    decide +kernel
  simpa using List.all_eq_true.1 hall _ h

theorem isUpper_of_mem_lowerChar {c d : Char} (h : d ∈ lowerChar c) : d.isUpper = false := by
  unfold lowerChar at h
  split at h
  · obtain rfl := List.mem_singleton.1 h
    exact isUpper_toLower c
  · next hascii =>
    split at h
    · rcases List.mem_cons.1 h with rfl | h
      · decide
      · obtain rfl := List.mem_singleton.1 h
        decide
    -- Outside ASCII the letter comes from the table, or is the character itself.
    · split at h
      · next run offset hfind =>
        obtain rfl := List.mem_singleton.1 h
        have hoffset := lt_of_mem_lowerOffsets (List.mem_of_find?_eq_some hfind)
        have hrun : run.first ≤ c.toNat := by
          have hcontains := List.find?_some hfind
          simp only [Run.contains, Bool.and_eq_true, decide_eq_true_eq] at hcontains
          exact hcontains.1.1
        exact isUpper_ofNat (by omega)
      · obtain rfl := List.mem_singleton.1 h
        rw [Bool.eq_false_iff, ne_eq, isUpper_iff_toNat]
        omega

/-- **A text in small letters has no ASCII capital.** -/
theorem isUpper_of_mem_lower {s : String} {d : Char} (h : d ∈ (lower s).toList) :
    d.isUpper = false := by
  have hafter : ∀ cs before, d ∈ lowerAfter before cs → d.isUpper = false := by
    -- What stands before a character changes along the text.
    intro cs
    induction cs with
    | nil => simp [lowerAfter]
    | cons c cs ih =>
      intro before hd
      rw [lowerAfter, List.mem_append] at hd
      rcases hd with hd | hd
      · split at hd
        · obtain rfl := List.mem_singleton.1 hd
          split <;> decide
        · exact isUpper_of_mem_lowerChar hd
      · exact ih _ hd
  exact hafter s.toList [] (by simpa [lower] using h)

/-- Making ASCII capitals small changes nothing in it. -/
theorem toLower_lower (s : String) : (lower s).toList.map Char.toLower = (lower s).toList := by
  conv => rhs; rw [← List.map_id (lower s).toList]
  exact List.map_congr_left fun c hc => toLower_eq_self (isUpper_of_mem_lower hc)

/-! ### Texts of ASCII -/

/-- A text of ASCII characters only. -/
def IsAscii (s : String) : Prop :=
  ∀ c ∈ s.toList, c.toNat < 128

instance (s : String) : Decidable (IsAscii s) :=
  List.decidableBAll _ s.toList

theorem toNat_toLower_lt {c : Char} (h : c.toNat < 128) : c.toLower.toNat < 128 := by
  cases hc : c.isUpper with
  | false => rwa [toLower_eq_self hc]
  | true =>
    have hcapital := isUpper_iff_toNat.1 hc
    rw [toNat_toLower hc]
    omega

theorem isCapital_eq_isUpper {c : Char} (h : c.toNat < 128) : isCapital c = c.isUpper :=
  if_pos h

theorem lowerChar_eq_singleton {c : Char} (h : c.toNat < 128) : lowerChar c = [c.toLower] :=
  if_pos h

theorem lowerAfter_eq_map {cs : List Char} (h : ∀ c ∈ cs, c.toNat < 128) (before : List Char) :
    lowerAfter before cs = cs.map Char.toLower := by
  induction cs generalizing before with
  | nil => rfl
  | cons c cs ih =>
    obtain ⟨hc, hcs⟩ := List.forall_mem_cons.1 h
    have hsigma : (c == 'Σ') = false := by
      rw [beq_eq_false_iff_ne]
      rintro rfl
      exact absurd hc (by decide)
    rw [lowerAfter, hsigma, if_neg Bool.false_ne_true, lowerChar_eq_singleton hc, ih hcs]
    rfl

/-- No letter of ASCII is made small in another way at the end of a word. -/
theorem lower_eq_lowerAscii {s : String} (h : IsAscii s) : lower s = lowerAscii s := by
  rw [lower, lowerAscii, lowerAfter_eq_map h]

end EntityGraph.Text
