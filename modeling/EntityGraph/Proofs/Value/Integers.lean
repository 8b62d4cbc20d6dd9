import EntityGraph.Proofs.Number.Saturation
import EntityGraph.Proofs.Number.Written
import EntityGraph.Proofs.Value.Rereading
/-!
# Integers that are read

A stored integer and its decimal text are two spellings of one number. The text
is read as the number or refused for its size (`readInt64_toString`); the integer
is never refused, and out of the signed 64-bit range it is read as the nearer
end of it (`coerce_int`). So the two spellings agree, and nothing is read as
another integer, exactly in the range (`exact_iff_isInt64`).
-/

namespace EntityGraph

open Number (clamp int64Min int64Max isInt64 within)

namespace Kind

/-! ### The two spellings -/

/-- **An integer is read as the nearest one in range.** -/
theorem coerce_int (n : Int) :
    integer.coerce (.int n) = .ok (.integer (clamp int64Min int64Max n)) := by
  rw [coerce, coerceInteger]
  cases h : isInt64 n with
  | true => rw [if_pos rfl, Number.clamp_eq_self h]
  | false => rw [if_neg (by decide), Number.Binary64.round_ofInt h]

/-- A text of an integer is read as the integer, or refused as too small or
too large. -/
theorem readInt64_toString (n : Int) :
    Number.readInt64 (Text.trim (toString n)) = within int64Min int64Max n := by
  rw [Number.trim_toString, Number.readInt64, Number.readInt_toString (by decide)]

theorem coerce_integerText_of_isInt64 {n : Int} (h : isInt64 n = true) :
    integer.coerce (.str (toString n)) = .ok (.integer n) := by
  have hwithin : within int64Min int64Max n = .ok n := by
    have := Number.isInt64_iff.1 h
    rw [within, if_neg (by omega), if_neg (by omega)]
  rw [coerce, coerceInteger, readInt64_toString, hwithin]

theorem exists_fault_of_not_isInt64 {n : Int} (h : isInt64 n = false) :
    ∃ fault, integer.coerce (.str (toString n)) = .error fault := by
  have hout : ¬ (int64Min ≤ n ∧ n ≤ int64Max) := by
    rw [← Number.isInt64_iff, h]
    decide
  obtain ⟨fault, hfault⟩ : ∃ fault, within int64Min int64Max n = .error fault := by
    rw [within]
    split_ifs with hlow hhigh
    · exact ⟨_, rfl⟩
    · exact ⟨_, rfl⟩
    · omega
  rw [coerce, coerceInteger, readInt64_toString, hfault]
  exact ⟨_, rfl⟩

/-! ### What is exact -/

/-- **A stored integer is read exactly:** as the number that it is, or else
refused for its size, and never otherwise than its decimal text is read. -/
structure ReadsExactly (n : Int) : Prop where
  /-- What is read is the number, and a number that is refused is out of range. -/
  exact : integer.coerce (.int n) = .ok (.integer n) ∨
    integer.coerce (.int n) = .error (.integerRange (.int n))
  /-- The number is read of both spellings or of neither. -/
  asText : ∀ v, integer.coerce (.int n) = .ok v ↔
    integer.coerce (.str (Json.int n).compact) = .ok v

theorem readsExactly_iff_isInt64 (n : Int) : ReadsExactly n ↔ isInt64 n = true := by
  constructor
  · intro h
    by_contra hout
    -- The end of the range that is read has no counterpart in the text.
    obtain ⟨fault, hfault⟩ := exists_fault_of_not_isInt64 (Bool.eq_false_iff.2 hout)
    have htext := (h.asText _).1 (coerce_int n)
    rw [Json.compact, hfault] at htext
    simp at htext
  · intro h
    have hint : integer.coerce (.int n) = .ok (.integer n) := by
      rw [coerce_int, Number.clamp_eq_self h]
    refine ⟨.inl hint, fun v => ?_⟩
    rw [Json.compact, hint, coerce_integerText_of_isInt64 h]

/-! ### Lists of integers -/

/-- What a list of integers is read as when every one of them is read
exactly. -/
def exactItems (ns : List Int) : Value :=
  .list ((ns.filter isInt64).map .integer)

theorem coerce_ints (ns : List Int) : (list integer).coerce (.arr (ns.map .int)) =
    .ok (.list (ns.map fun n => .integer (clamp int64Min int64Max n))) := by
  rw [coerce_arr, List.filterMap_map]
  have hread : ∀ n : Int, ((fun item => (integer.coerce item).toOption) ∘ Json.int) n =
      some (.integer (clamp int64Min int64Max n)) := by
    intro n
    rw [Function.comp_apply, coerce_int]
    rfl
  rw [funext hread, List.filterMap_eq_map']

/-- The texts of integers are read one by one, and those out of range are
dropped. -/
theorem coerce_integerTexts (ns : List Int) :
    (list integer).coerce (.arr (ns.map fun n => .str (Json.int n).compact)) =
      .ok (exactItems ns) := by
  rw [coerce_arr, List.filterMap_map, exactItems]
  congr 2
  induction ns with
  | nil => rfl
  | cons n ns ih =>
    cases hn : isInt64 n with
    | true =>
      have hfirst : ((fun item => (integer.coerce item).toOption) ∘
          fun n : Int => Json.str (Json.int n).compact) n = some (.integer n) := by
        rw [Function.comp_apply, Json.compact, coerce_integerText_of_isInt64 hn]
        rfl
      rw [List.filterMap_cons_some hfirst, ih, List.filter_cons_of_pos hn, List.map_cons]
    | false =>
      obtain ⟨fault, hfault⟩ := exists_fault_of_not_isInt64 hn
      have hfirst : ((fun item => (integer.coerce item).toOption) ∘
          fun n : Int => Json.str (Json.int n).compact) n = none := by
        rw [Function.comp_apply, Json.compact, hfault]
        rfl
      rw [List.filterMap_cons_none hfirst, ih, List.filter_cons_of_neg (by simp [hn])]

/-- Nothing is dropped of a list of integers, so it is read exactly only when
there is nothing to drop. -/
theorem coerce_ints_iff (ns : List Int) :
    (list integer).coerce (.arr (ns.map .int)) = .ok (exactItems ns) ↔
      ∀ n ∈ ns, isInt64 n = true := by
  rw [coerce_ints, exactItems, Except.ok.injEq, Value.list.injEq]
  constructor
  · intro h
    have hlength := congrArg List.length h
    rw [List.length_map, List.length_map] at hlength
    exact List.length_filter_eq_length_iff.1 hlength.symm
  · intro h
    rw [List.filter_eq_self.2 h]
    exact List.map_congr_left fun n hn => by rw [Number.clamp_eq_self (h n hn)]

/-- **Integers are read exactly in the signed 64-bit range and nowhere else.**
Of a list, the texts out of range are dropped; the numbers out of range are not,
so the list is read exactly when it has none. -/
theorem exact_iff_isInt64 (n : Int) (ns : List Int) :
    (ReadsExactly n ↔ isInt64 n = true) ∧
      integer.coerce (.int n) = .ok (.integer (clamp int64Min int64Max n)) ∧
      (list integer).coerce (.arr (ns.map fun n => .str (Json.int n).compact)) =
        .ok (exactItems ns) ∧
      ((list integer).coerce (.arr (ns.map .int)) = .ok (exactItems ns) ↔
        ∀ n ∈ ns, isInt64 n = true) :=
  ⟨readsExactly_iff_isInt64 n, coerce_int n, coerce_integerTexts ns, coerce_ints_iff ns⟩

/-- The ends of the range, and a number that no floating-point number equals. -/
theorem readsExactly_ends :
    (∀ n ∈ [int64Min, 9007199254740993, int64Max], isInt64 n = true) ∧
      (∀ n ∈ [int64Min, 9007199254740993, int64Max], ReadsExactly n) ∧
      (list integer).coerce (.arr ([int64Min, 9007199254740993, int64Max].map .int)) =
        .ok (.list [.integer int64Min, .integer 9007199254740993, .integer int64Max]) := by
  have hrange : ∀ n ∈ [int64Min, 9007199254740993, int64Max], isInt64 n = true := by decide
  obtain ⟨-, -, -, hlist⟩ := exact_iff_isInt64 0 [int64Min, 9007199254740993, int64Max]
  exact ⟨hrange, fun n hn => (exact_iff_isInt64 n []).1.2 (hrange n hn), hlist.2 hrange⟩

/-- The first number past the range is read as another one, the last of the
range; its text is refused. -/
theorem not_readsExactly_pastRange :
    integer.coerce (.int 9223372036854775808) = .ok (.integer 9223372036854775807) ∧
      integer.coerce (.str "9223372036854775808") =
        .error (.integerText "9223372036854775808" .tooLarge) ∧
      ¬ ReadsExactly 9223372036854775808 := by
  have hint : integer.coerce (.int 9223372036854775808) = .ok (.integer 9223372036854775807) := by
    decide +kernel
  refine ⟨hint, by decide +kernel, fun h => ?_⟩
  rcases h.exact with hsame | hrefused
  · rw [hint] at hsame
    simp at hsame
  · rw [hint] at hrefused
    simp at hrefused

end Kind

end EntityGraph
