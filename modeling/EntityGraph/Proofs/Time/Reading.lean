import EntityGraph.Proofs.Time.Stamp
/-!
# Moments that are read

Every moment that is read of a text is a proper one (`isProper_of_read?`): it
has a full second of nanoseconds more only where second 60 was written, and
that is at the end of a minute in every zone, since offsets are whole minutes.
-/

namespace EntityGraph.Time

open Number (ofDigits ofDigits_lt)

/-! ### Fractions and offsets -/

theorem isDigit_of_mem_spanDigits {max : Nat} {cs : List Char} :
    ∀ c ∈ (spanDigits max cs).1, c.isDigit = true := by
  induction max generalizing cs with
  | zero => simp [spanDigits]
  | succ max ih =>
    cases cs with
    | nil => simp [spanDigits]
    | cons c cs =>
      rw [spanDigits]
      split
      · next hc => exact List.forall_mem_cons.2 ⟨hc, ih⟩
      · simp

theorem length_spanDigits_le (max : Nat) (cs : List Char) : (spanDigits max cs).1.length ≤ max := by
  induction max generalizing cs with
  | zero => simp [spanDigits]
  | succ max ih =>
    cases cs with
    | nil => simp [spanDigits]
    | cons c cs =>
      rw [spanDigits]
      split
      · exact Nat.succ_le_succ (ih cs)
      · simp

/-- A fraction is less than a second. -/
theorem fraction?_lt {cs rest : List Char} {nanos : Nat} (h : fraction? cs = some (nanos, rest)) :
    nanos < nanosPerSecond := by
  unfold fraction? at h
  split at h
  · next ds =>
    dsimp only at h
    split at h
    · simp at h
    · obtain ⟨rfl, -⟩ := Prod.mk.inj (Option.some.inj h)
      have hall : ∀ c ∈ (spanDigits 9 ds).1, c.isDigit = true := isDigit_of_mem_spanDigits
      have hlength := length_spanDigits_le 9 ds
      have hpositive : 0 < Nat.pow 10 (9 - (spanDigits 9 ds).1.length) := Nat.pow_pos (by decide)
      have hpow : Nat.pow 10 (spanDigits 9 ds).1.length *
          Nat.pow 10 (9 - (spanDigits 9 ds).1.length) = Nat.pow 10 9 :=
        (Nat.pow_add ..).symm.trans (congrArg (Nat.pow 10) (Nat.add_sub_cancel' hlength))
      have hdigits := ofDigits_lt hall 0
      rw [Nat.zero_add, Nat.one_mul] at hdigits
      calc ofDigits 0 (spanDigits 9 ds).1 * Nat.pow 10 (9 - (spanDigits 9 ds).1.length)
          < Nat.pow 10 (spanDigits 9 ds).1.length * Nat.pow 10 (9 - (spanDigits 9 ds).1.length) :=
            Nat.mul_lt_mul_of_pos_right hdigits hpositive
        _ = Nat.pow 10 9 := hpow
  · obtain ⟨rfl, -⟩ := Prod.mk.inj (Option.some.inj h)
    decide

/-- An offset is a number of whole minutes. -/
theorem offset?_emod {cs rest : List Char} {offset : Int} (h : offset? cs = some (offset, rest)) :
    offset % 60 = 0 := by
  unfold offset? at h
  split at h
  · simp at h
  · split at h
    · obtain ⟨rfl, -⟩ := Prod.mk.inj (Option.some.inj h)
      rfl
    split at h
    · simp only [Option.bind_eq_bind, Option.bind_eq_some_iff] at h
      obtain ⟨⟨hours, afterHours⟩, -, afterColon, -, ⟨minutes, afterMinutes⟩, -, h⟩ := h
      dsimp only at h
      split at h
      · obtain ⟨rfl, -⟩ := Prod.mk.inj (Option.some.inj h)
        split <;> omega
      · simp at h
    · simp at h

/-! ### Moments -/

/-- Fields name a proper moment in every zone: second 60 is counted as the one
before it. -/
theorem Fields.isProper_toInstant {f : Fields} {offset : Int} (hnanos : f.nanos < nanosPerSecond)
    (hoffset : offset % 60 = 0) : (f.toInstant offset).IsProper := by
  unfold Fields.toInstant Instant.IsProper secondsPerDay nanosPerSecond at *
  dsimp only
  split <;> omega

theorem isProper_of_strict? {cs : List Char} {t : Instant} (h : strict? cs = some t) :
    t.IsProper := by
  simp only [strict?, Option.bind_eq_bind, Option.bind_eq_some_iff] at h
  obtain ⟨⟨year, cs⟩, -, cs, -, ⟨month, cs⟩, -, cs, -, ⟨day, cs⟩, -, cs, -, ⟨hour, cs⟩, -, cs, -,
    ⟨minute, cs⟩, -, cs, -, ⟨second, cs⟩, -, ⟨nanos, cs⟩, hnanos, ⟨offset, cs⟩, hoffset, h⟩ := h
  dsimp only at h
  split at h
  · obtain rfl := Option.some.inj h
    exact Fields.isProper_toInstant (fraction?_lt hnanos) (offset?_emod hoffset)
  · simp at h

/-- A piece leaves the nanoseconds alone or sets them to those of a
fraction. -/
theorem nanos_lt_of_read? {piece : Piece} {f g : Fields} {cs rest : List Char}
    (hf : f.nanos < nanosPerSecond) (h : piece.read? f cs = some (g, rest)) :
    g.nanos < nanosPerSecond := by
  cases piece with
  | fraction =>
    obtain ⟨⟨n, after⟩, hn, hg⟩ := Option.map_eq_some_iff.1 h
    obtain ⟨rfl, -⟩ := Prod.mk.inj hg
    exact fraction?_lt hn
  | gap =>
    obtain ⟨rfl, -⟩ := Prod.mk.inj (Option.some.inj h)
    exact hf
  | year | month | day | hour | minute | second | letter =>
    obtain ⟨read, -, hg⟩ := Option.map_eq_some_iff.1 h
    obtain ⟨rfl, -⟩ := Prod.mk.inj hg
    exact hf

theorem nanos_lt_of_readPieces? {pieces : List Piece} {f g : Fields} {cs : List Char}
    (hf : f.nanos < nanosPerSecond) (h : readPieces? pieces f cs = some g) :
    g.nanos < nanosPerSecond := by
  induction pieces generalizing f cs with
  | nil =>
    rw [readPieces?] at h
    split at h
    · obtain rfl := Option.some.inj h
      exact hf
    · simp at h
  | cons piece pieces ih =>
    rw [readPieces?] at h
    split at h
    · next hread => exact ih (nanos_lt_of_read? hf hread) h
    · simp at h

theorem isProper_of_lenient? {cs : List Char} {pieces : List Piece} {t : Instant}
    (h : lenient? cs pieces = some t) : t.IsProper := by
  simp only [lenient?, Option.bind_eq_bind, Option.bind_eq_some_iff] at h
  obtain ⟨f, hread, h⟩ := h
  split at h
  · obtain rfl := Option.some.inj h
    exact Fields.isProper_toInstant (nanos_lt_of_readPieces? (by decide) hread) rfl
  · simp at h

/-- **Every moment that is read is a proper one.** -/
theorem Instant.isProper_of_read? {text : String} {t : Instant} (h : Instant.read? text = some t) :
    t.IsProper := by
  unfold Instant.read? at h
  dsimp only at h
  cases hstrict : strict? (stampChars text) with
  | some u =>
    rw [hstrict] at h
    obtain rfl := Option.some.inj h
    exact isProper_of_strict? hstrict
  | none =>
    rw [hstrict] at h
    obtain ⟨pieces, -, hlenient⟩ := List.exists_of_findSome?_eq_some h
    exact isProper_of_lenient? hlenient

end EntityGraph.Time
