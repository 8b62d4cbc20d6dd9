import EntityGraph.Number.Numeral
/-!
# Digits of fixed number

A natural that is written with a fixed number of digits is known by them as
far as they go (`ofDigits_padded`), and nothing but digits is written.
-/

namespace EntityGraph.Number

theorem digitValue_digitChar {d : Nat} (h : d < 10) : digitValue (Nat.digitChar d) = d := by
  rw [digitValue, Nat.toNat_digitChar_of_lt_ten h]
  exact Nat.add_sub_cancel_left ..

theorem isDigit_digitChar {d : Nat} (h : d < 10) : (Nat.digitChar d).isDigit = true := by
  have hall : (List.range 10).all (fun e => (Nat.digitChar e).isDigit) = true := by decide
  exact List.all_eq_true.1 hall d (List.mem_range.2 h)

@[simp] theorem length_padded (width n : Nat) : (padded width n).length = width := by
  induction width generalizing n with
  | zero => rfl
  | succ width ih => rw [padded, List.length_append, ih, List.length_singleton]

theorem isDigit_of_mem_padded {width n : Nat} {c : Char} (h : c ∈ padded width n) :
    c.isDigit = true := by
  induction width generalizing n with
  | zero => simp [padded] at h
  | succ width ih =>
    rw [padded, List.mem_append, List.mem_singleton] at h
    rcases h with h | rfl
    · exact ih h
    · exact isDigit_digitChar (Nat.mod_lt _ (by decide))

/-- **The digits that are written are read as the number,** less what would
have needed more of them. -/
theorem ofDigits_padded (width n : Nat) : ofDigits 0 (padded width n) = n % Nat.pow 10 width := by
  induction width generalizing n with
  | zero => exact (Nat.mod_one n).symm
  | succ width ih =>
    have hsplit : ofDigits 0 (padded width (n / 10) ++ [Nat.digitChar (n % 10)]) =
        10 * ofDigits 0 (padded width (n / 10)) + digitValue (Nat.digitChar (n % 10)) := by
      simp [ofDigits]
    have hpow : Nat.pow 10 (width + 1) = 10 * Nat.pow 10 width := Nat.mul_comm _ _
    rw [padded, hsplit, ih, digitValue_digitChar (Nat.mod_lt _ (by decide)), hpow, Nat.mod_mul,
      Nat.add_comm]

theorem ofDigits_padded_of_lt {width n : Nat} (h : n < Nat.pow 10 width) :
    ofDigits 0 (padded width n) = n := by
  rw [ofDigits_padded, Nat.mod_eq_of_lt h]

/-! ### Digits that are read -/

theorem digitValue_lt {c : Char} (h : c.isDigit = true) : digitValue c < 10 := by
  simp only [Char.isDigit, Bool.and_eq_true, decide_eq_true_eq, ge_iff_le,
    UInt32.le_iff_toNat_le] at h
  have hlow : 48 ≤ c.toNat := h.1
  have hhigh : c.toNat ≤ 57 := h.2
  show c.toNat - 48 < 10
  omega

/-- Digits after a number make it as much longer, and no more. -/
theorem ofDigits_lt {cs : List Char} (h : ∀ c ∈ cs, c.isDigit = true) (acc : Nat) :
    ofDigits acc cs < (acc + 1) * Nat.pow 10 cs.length := by
  induction cs generalizing acc with
  | nil => exact (Nat.mul_one (acc + 1)).symm ▸ Nat.lt_succ_self acc
  | cons c cs ih =>
    have hdigit := digitValue_lt (h c List.mem_cons_self)
    have hstep : 10 * acc + digitValue c + 1 ≤ (acc + 1) * 10 := by omega
    have hpow : Nat.pow 10 (cs.length + 1) = 10 * Nat.pow 10 cs.length := Nat.mul_comm _ _
    calc ofDigits acc (c :: cs)
        < (10 * acc + digitValue c + 1) * Nat.pow 10 cs.length :=
          ih (fun d hd => h d (List.mem_cons_of_mem c hd)) _
      _ ≤ (acc + 1) * 10 * Nat.pow 10 cs.length := Nat.mul_le_mul_right _ hstep
      _ = (acc + 1) * Nat.pow 10 (c :: cs).length := by
          rw [List.length_cons, hpow, Nat.mul_assoc]

end EntityGraph.Number
