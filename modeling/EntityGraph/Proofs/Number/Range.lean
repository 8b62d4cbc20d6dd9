import EntityGraph.Number.Numeral
/-!
# Integers in range

Every way to an integer ends in the signed 64-bit range: rounding a
floating-point number goes to the nearer end from outside of it
(`isInt64_round`), and a text whose number is outside is no integer
(`isInt64_of_readInt64`).
-/

namespace EntityGraph.Number

theorem isInt64_iff {n : Int} : isInt64 n = true ↔ int64Min ≤ n ∧ n ≤ int64Max := by
  rw [isInt64, Bool.and_eq_true, decide_eq_true_eq, decide_eq_true_eq]

theorem isInt64_clamp (n : Int) : isInt64 (clamp int64Min int64Max n) = true := by
  rw [isInt64_iff, clamp]
  have hends : int64Min ≤ int64Max := by decide
  omega

theorem Binary64.isInt64_saturate (x : Binary64) (magnitude : Nat) :
    isInt64 (x.saturate magnitude) = true := by
  unfold Binary64.saturate
  split
  · decide
  split
  · exact isInt64_clamp _
  split
  · decide
  · decide

theorem Binary64.isInt64_round (x : Binary64) : isInt64 x.round = true :=
  x.isInt64_saturate _

theorem bounds_of_within {lo hi n m : Int} (h : within lo hi n = .ok m) : lo ≤ m ∧ m ≤ hi := by
  unfold within at h
  split at h
  · simp at h
  split at h
  · simp at h
  · obtain rfl := Except.ok.inj h
    omega

theorem bounds_of_readDigits {lo hi n : Int} {signed : Nat → Int} {cs : List Char}
    (h : readDigits lo hi signed cs = .ok n) : lo ≤ n ∧ n ≤ hi := by
  unfold readDigits at h
  split at h
  · simp at h
  · next m hm =>
    split at h
    · simp at h
    · obtain rfl := Except.ok.inj h
      exact bounds_of_within hm

theorem bounds_of_readInt {lo hi n : Int} {s : String} (h : readInt lo hi s = .ok n) :
    lo ≤ n ∧ n ≤ hi := by
  unfold readInt at h
  split at h
  · simp at h
  · split at h
    · simp at h
    · exact bounds_of_readDigits h
  · exact bounds_of_readDigits h
  · exact bounds_of_readDigits h

/-- **An integer that is read from a text is in range.** -/
theorem isInt64_of_readInt64 {s : String} {n : Int} (h : readInt64 s = .ok n) : isInt64 n = true :=
  isInt64_iff.2 (bounds_of_readInt h)

end EntityGraph.Number
