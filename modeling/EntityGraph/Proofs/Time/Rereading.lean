import EntityGraph.Proofs.Time.Reading
/-!
# Moments in far years

A year that has not four digits is written with a sign in front, and such a text
is read in no form: the strict one starts with a digit, and a lenient one ends
without an offset (`Instant.read?_toText_of_far`). The second half needs no look
at what a lenient form reads. Behind the year it reads white space, digits,
points and its own letters, so the plus sign of the offset, like any other mark, is
never passed over (`readPieces?_of_mark_mem`). With the moments of four-digit years,
which are read back, this says of every moment what its text is read as
(`Instant.read?_toText_eq`).

Nanoseconds that fill a second in the middle of a minute are no leap second. They
are written as part of the second after it and read as that
(`Instant.IsOverfull.read?_toText`), so the moments that come back are the proper ones
in years of four digits and no others (`Instant.read?_toText_eq_self_iff`).
-/

namespace EntityGraph.Time

open Number (padded)
open Text (dropBlanks isBlankChar)

/-! ### What is not passed over -/

theorem append_of_spanDigits (max : Nat) (cs : List Char) :
    (spanDigits max cs).1 ++ (spanDigits max cs).2 = cs := by
  induction max generalizing cs with
  | zero => rfl
  | succ max ih =>
    cases cs with
    | nil => rfl
    | cons c cs =>
      rw [spanDigits]
      split
      · exact congrArg (c :: ·) (ih cs)
      · rfl

theorem mem_snd_spanDigits {max : Nat} {c : Char} {cs : List Char} (hc : c.isDigit = false)
    (hmem : c ∈ cs) : c ∈ (spanDigits max cs).2 := by
  rw [← append_of_spanDigits max cs, List.mem_append] at hmem
  rcases hmem with hdigit | hrest
  · rw [isDigit_of_mem_spanDigits c hdigit] at hc
    contradiction
  · exact hrest

/-- What a class of characters does not have is not dropped with it. -/
theorem mem_dropWhile {p : Char → Bool} {c : Char} {cs : List Char} (hc : p c = false)
    (hmem : c ∈ cs) : c ∈ cs.dropWhile p := by
  rw [← List.takeWhile_append_dropWhile (p := p) (l := cs), List.mem_append] at hmem
  rcases hmem with hrun | hrest
  · rw [List.mem_takeWhile_imp hrun] at hc
    contradiction
  · exact hrest

section Marks

variable {mark : Char} {cs rest : List Char}

/-- A character that is read as nothing but itself: neither a digit nor white
space nor the point of a fraction. -/
structure IsMark (mark : Char) : Prop where
  not_digit : mark.isDigit = false := by decide
  not_blank : isBlankChar mark = false := by decide
  ne_point : mark ≠ '.' := by decide

theorem mark_mem_of_number? (hmark : IsMark mark) {max n : Nat}
    (h : number? max cs = some (n, rest)) (hmem : mark ∈ cs) : mark ∈ rest := by
  rw [number?] at h
  dsimp only at h
  split at h
  · contradiction
  · obtain ⟨-, rfl⟩ := Prod.mk.inj (Option.some.inj h)
    exact mem_snd_spanDigits hmark.not_digit hmem

theorem mark_mem_of_fraction? (hmark : IsMark mark) {n : Nat}
    (h : fraction? cs = some (n, rest)) (hmem : mark ∈ cs) : mark ∈ rest := by
  unfold fraction? at h
  split at h
  · next ds =>
    dsimp only at h
    split at h
    · contradiction
    · obtain ⟨-, rfl⟩ := Prod.mk.inj (Option.some.inj h)
      have hds : mark ∈ ds := (List.mem_cons.1 hmem).resolve_left hmark.ne_point
      exact mem_dropWhile hmark.not_digit (mem_snd_spanDigits hmark.not_digit hds)
  · obtain ⟨-, rfl⟩ := Prod.mk.inj (Option.some.inj h)
    exact hmem

theorem mark_mem_of_char? {c : Char} (hc : c ≠ mark) (h : char? c cs = some rest)
    (hmem : mark ∈ cs) : mark ∈ rest := by
  cases cs with
  | nil => simp at hmem
  | cons d cs =>
    rw [char?] at h
    split at h
    · next hd =>
      obtain rfl := Option.some.inj h
      obtain rfl := eq_of_beq hd
      rcases List.mem_cons.1 hmem with hsame | hmem
      · exact absurd hsame.symm hc
      · exact hmem
    · contradiction

/-- A piece that may stand behind the year and is not the mark itself. -/
def Piece.IsInner (mark : Char) (piece : Piece) : Prop :=
  piece ≠ .year ∧ piece ≠ .letter mark

/-- **No piece behind the year passes over a mark.** -/
theorem mark_mem_of_read? (hmark : IsMark mark) {piece : Piece} (hpiece : piece.IsInner mark)
    {f g : Fields} (h : piece.read? f cs = some (g, rest)) (hmem : mark ∈ cs) : mark ∈ rest := by
  have hblanks : mark ∈ dropBlanks cs := mem_dropWhile hmark.not_blank hmem
  cases piece with
  | year => exact absurd rfl hpiece.1
  | gap =>
    obtain ⟨-, rfl⟩ := Prod.mk.inj (Option.some.inj h)
    exact hblanks
  | letter c =>
    obtain ⟨after, hread, hg⟩ := Option.map_eq_some_iff.1 h
    obtain ⟨-, rfl⟩ := Prod.mk.inj hg
    exact mark_mem_of_char? (fun hc => hpiece.2 (congrArg Piece.letter hc)) hread hmem
  | fraction =>
    obtain ⟨⟨n, after⟩, hread, hg⟩ := Option.map_eq_some_iff.1 h
    obtain ⟨-, rfl⟩ := Prod.mk.inj hg
    exact mark_mem_of_fraction? hmark hread hmem
  | month | day | hour | minute | second =>
    obtain ⟨⟨n, after⟩, hread, hg⟩ := Option.map_eq_some_iff.1 h
    obtain ⟨-, rfl⟩ := Prod.mk.inj hg
    exact mark_mem_of_number? hmark hread hblanks

/-- So with such pieces a text is not read to its end. -/
theorem readPieces?_of_mark_mem (hmark : IsMark mark) {pieces : List Piece}
    (hpieces : ∀ p ∈ pieces, p.IsInner mark) (f : Fields) (hmem : mark ∈ cs) :
    readPieces? pieces f cs = none := by
  induction pieces generalizing f cs with
  | nil =>
    rw [readPieces?, if_neg]
    simpa using List.ne_nil_of_mem hmem
  | cons piece pieces ih =>
    rw [readPieces?]
    split
    · next hread =>
      have hinner := hpieces piece List.mem_cons_self
      exact ih (fun p hp => hpieces p (List.mem_cons_of_mem piece hp)) _
        (mark_mem_of_read? hmark hinner hread hmem)
    · rfl

/-- A year passes over a sign in front alone. -/
theorem mark_mem_of_year? (hmark : IsMark mark) {c : Char} {n : Int} (hc : isBlankChar c = false)
    (h : year? (c :: cs) = some (n, rest)) (hmem : mark ∈ cs) : mark ∈ rest := by
  have hfront : dropBlanks (c :: cs) = c :: cs := by
    rw [dropBlanks, List.dropWhile_cons, hc]
    rfl
  rw [year?, hfront] at h
  split at h
  all_goals
    obtain ⟨⟨m, after⟩, hread, hg⟩ := Option.map_eq_some_iff.1 h
    obtain ⟨-, rfl⟩ := Prod.mk.inj hg
  · next heq => exact mark_mem_of_number? hmark hread ((List.cons.inj heq).2 ▸ hmem)
  · next heq => exact mark_mem_of_number? hmark hread ((List.cons.inj heq).2 ▸ hmem)
  · exact mark_mem_of_number? hmark hread (List.mem_cons_of_mem c hmem)

/-- **No lenient form reads a plus sign** after its first character. -/
theorem lenient?_of_plus_mem {form : List Piece} (hform : form ∈ lenientForms) {c : Char}
    (hc : isBlankChar c = false) (hmem : '+' ∈ cs) : lenient? (c :: cs) form = none := by
  obtain ⟨pieces, rfl, hpieces⟩ :
      ∃ pieces, form = .year :: pieces ∧ ∀ p ∈ pieces, p.IsInner '+' := by
    have hall : ∀ form ∈ lenientForms, form = .year :: form.tail ∧
        ∀ p ∈ form.tail, p ≠ .year ∧ p ≠ .letter '+' := by decide
    exact ⟨form.tail, hall form hform⟩
  have hread : readPieces? (.year :: pieces) {} (c :: cs) = none := by
    rw [readPieces?]
    split
    · next hyear =>
      obtain ⟨⟨n, after⟩, hn, hg⟩ := Option.map_eq_some_iff.1 hyear
      obtain ⟨-, rfl⟩ := Prod.mk.inj hg
      exact readPieces?_of_mark_mem {} hpieces _ (mark_mem_of_year? {} hc hn hmem)
    · rfl
  rw [lenient?, hread]
  rfl

end Marks

/-- The strict form starts with a digit. -/
theorem strict?_cons_eq_none {c : Char} (hc : c.isDigit = false) (cs : List Char) :
    strict? (c :: cs) = none := by
  have hyear : exactly? 4 (c :: cs) = none := by simp [exactly?, spanDigits, hc]
  rw [strict?, hyear]
  rfl

/-! ### Texts of far years -/

/-- A year that has not four digits is written with a sign in front. -/
theorem exists_sign_of_far {year : Int} (h : ¬ (0 ≤ year ∧ year ≤ 9999)) :
    ∃ sign digits, yearChars year = sign :: digits ∧ (sign = '-' ∨ sign = '+') := by
  rw [yearChars, if_neg h]
  refine ⟨_, _, rfl, ?_⟩
  split
  · exact .inl rfl
  · exact .inr rfl

/-- **The text of a moment in a far year is read in no form.** -/
theorem Instant.read?_toText_of_far {t : Instant} (h : ¬ (0 ≤ t.year ∧ t.year ≤ 9999)) :
    Instant.read? t.toText = none := by
  obtain ⟨sign, digits, hyear, hsign⟩ := exists_sign_of_far h
  obtain ⟨cs, hcs⟩ : ∃ cs, wallChars t.seconds t.nanos = sign :: cs := by
    unfold Instant.year at hyear
    rw [wallChars, Date.toChars, hyear]
    exact ⟨_, rfl⟩
  have hblank : isBlankChar sign = false := by rcases hsign with rfl | rfl <;> decide
  have hdigit : sign.isDigit = false := by rcases hsign with rfl | rfl <;> decide
  have hplus : '+' ∈ cs ++ ['+', '0', '0', ':', '0', '0'] := by simp
  have hlenient : lenientForms.findSome?
      (lenient? (sign :: (cs ++ ['+', '0', '0', ':', '0', '0']))) = none :=
    List.findSome?_eq_none_iff.2 fun form hform => lenient?_of_plus_mem hform hblank hplus
  rw [read?, stampChars_toText, hcs, List.cons_append, strict?_cons_eq_none hdigit, hlenient]
  rfl

/-- **What the text of a moment is read as:** the moment if its year has four
digits, and nothing otherwise. -/
theorem Instant.read?_toText_eq {t : Instant} (h : t.IsProper) :
    Instant.read? t.toText = if 0 ≤ t.year ∧ t.year ≤ 9999 then some t else none := by
  split
  · next hyear => exact read?_toText h hyear.1 hyear.2
  · next hfar => exact read?_toText_of_far hfar

/-- **The moments that are read back from their texts.** Nothing else is read of any
text. -/
theorem Instant.read?_toText_eq_self_iff {t : Instant} :
    Instant.read? t.toText = some t ↔ t.IsProper ∧ 0 ≤ t.year ∧ t.year ≤ 9999 := by
  constructor
  · intro h
    have hproper := isProper_of_read? h
    rw [read?_toText_eq hproper] at h
    exact ⟨hproper, (Option.ite_none_right_eq_some.1 h).1⟩
  · rintro ⟨hproper, hlow, hhigh⟩
    exact read?_toText hproper hlow hhigh

/-! ### Nanoseconds that fill a second -/

/-- A moment has nanoseconds for more than its second, which is not the last one of a
minute. -/
structure Instant.IsOverfull (t : Instant) : Prop where
  le_nanos : nanosPerSecond ≤ t.nanos
  nanos_lt : t.nanos < 2 * nanosPerSecond
  second_ne : t.seconds % 60 ≠ 59

/-- The moment with a second of its nanoseconds counted as one. -/
def Instant.carry (t : Instant) : Instant :=
  ⟨t.seconds + 1, t.nanos - nanosPerSecond⟩

@[simp] theorem Instant.seconds_carry (t : Instant) : t.carry.seconds = t.seconds + 1 := rfl

@[simp] theorem Instant.nanos_carry (t : Instant) :
    t.carry.nanos = t.nanos - nanosPerSecond := rfl

namespace Instant.IsOverfull

variable {t : Instant} (h : t.IsOverfull)

include h

theorem isProper_carry : t.carry.IsProper := by
  have hlt := h.nanos_lt
  rw [IsProper, nanos_carry]
  omega

theorem day_carry : t.carry.seconds / secondsPerDay = t.seconds / secondsPerDay := by
  have hne := h.second_ne
  rw [seconds_carry]
  unfold secondsPerDay
  omega

theorem year_carry : t.carry.year = t.year := by
  rw [year, h.day_carry, year]

/-- The two are written alike. -/
theorem toText_carry : t.carry.toText = t.toText := by
  have hday := h.day_carry
  obtain ⟨hnanos, -, hne⟩ := h
  have hhour : (t.carry.seconds % secondsPerDay).toNat / 3600 =
      (t.seconds % secondsPerDay).toNat / 3600 := by
    rw [seconds_carry]
    unfold secondsPerDay
    omega
  have hminute : (t.carry.seconds % secondsPerDay).toNat / 60 % 60 =
      (t.seconds % secondsPerDay).toNat / 60 % 60 := by
    rw [seconds_carry]
    unfold secondsPerDay
    omega
  have hsecond : (t.carry.seconds % secondsPerDay).toNat % 60 + t.carry.nanos / nanosPerSecond =
      (t.seconds % secondsPerDay).toNat % 60 + t.nanos / nanosPerSecond := by
    rw [seconds_carry, nanos_carry]
    unfold secondsPerDay nanosPerSecond at *
    omega
  have hfraction : t.carry.nanos % nanosPerSecond = t.nanos % nanosPerSecond :=
    (Nat.mod_eq_sub_mod hnanos).symm
  rw [toText, toText, wallChars, wallChars, clockChars, clockChars, hday, hhour, hminute,
    hsecond, hfraction]

/-- **Such a moment comes back as the next second.** -/
theorem read?_toText (hlow : 0 ≤ t.year) (hhigh : t.year ≤ 9999) :
    Instant.read? t.toText = some t.carry := by
  rw [← h.year_carry] at hlow hhigh
  rw [← h.toText_carry, Instant.read?_toText h.isProper_carry hlow hhigh]

end Instant.IsOverfull

end EntityGraph.Time
