import EntityGraph.Proofs.Outcome
import EntityGraph.Proofs.Time.Rereading
import EntityGraph.Proofs.Value.Reading
/-!
# Values that are read again

What was read of a stored value is stored in turn, and the stored form is read as
the same value again as long as every number in it is finite
(`coerce_toJson_iff_isPlain`). A text may be read as a number that is not: an
infinity, or no number at all. JSON has no form for these, so they are stored as
null, which no kind reads (`exists_fault_of_null`): by itself such a number is
refused when it is read again, and a list comes back without it.

Moments are apart from this. The text of any moment is its stored form, and it is
read as the same moment again exactly when its year has four digits
(`moment_reread_iff`); no text comes back as another moment.
-/

namespace EntityGraph

namespace Kind

/-- Whether a kind has no timestamps in it. -/
def isTimeless : Kind → Bool
  | datetime => false
  | list inner => inner.isTimeless
  | _ => true

/-- Null is no value of any kind. -/
theorem exists_fault_of_null (k : Kind) : ∃ fault, k.coerce .null = .error fault := by
  cases k <;> exact ⟨_, rfl⟩

/-- The items of a list that is read are those of the stored items that can be
read, null or not. -/
theorem coerce_arr (inner : Kind) (items : List Json) :
    (list inner).coerce (.arr items) =
      .ok (.list (items.filterMap fun item => (inner.coerce item).toOption)) := by
  obtain ⟨fault, hnull⟩ := exists_fault_of_null inner
  rw [coerce, List.filterMap_filter]
  congr 3
  funext item
  cases item with
  | null => simp [Json.isNull, hnull, Except.toOption]
  | _ => rfl

/-- **A list that is read as the same list again is read as the same item by
item:** none is dropped, as that would leave the list shorter. -/
theorem coerce_toJson_of_mem {inner : Kind} {items : List Value}
    (h : (list inner).coerce (Value.list items).toJson = .ok (.list items)) :
    ∀ item ∈ items, inner.coerce item.toJson = .ok item := by
  rw [Value.toJson, toJsonItems_eq_map, coerce_arr, Except.ok.injEq, Value.list.injEq,
    List.filterMap_map] at h
  induction items with
  | nil => simp
  | cons first items ih =>
    cases hfirst : inner.coerce first.toJson with
    | error fault =>
      have hshort := List.length_filterMap_le
        ((fun item => (inner.coerce item).toOption) ∘ Value.toJson) items
      rw [List.filterMap_cons_none (by simp [hfirst, Except.toOption])] at h
      rw [h, List.length_cons] at hshort
      omega
    | ok read =>
      rw [List.filterMap_cons_some (b := read) (by simp [hfirst, Except.toOption])] at h
      obtain ⟨rfl, hrest⟩ := List.cons.inj h
      exact List.forall_mem_cons.2 ⟨hfirst, ih hrest⟩

/-- The values of a kind are plain. -/
theorem isPlain_of_admits {k : Kind} {v : Value} (h : k.admits v = true) : v.isPlain = true := by
  induction k generalizing v with
  | string | integer | boolean | enum => cases v <;> simp_all [admits, Value.isPlain]
  | float =>
    cases v with
    | float x => exact h
    | _ => simp [admits] at h
  | datetime =>
    cases v with
    | datetime t => exact decide_eq_true (of_decide_eq_true h).2
    | _ => simp [admits] at h
  | list inner ih =>
    cases v with
    | list items =>
      rw [Value.isPlain, Value.arePlain_eq_all, List.all_eq_true]
      exact fun item hitem => ih (List.all_eq_true.1 h item hitem)
    | _ => simp [admits] at h

/-- What is read as the same value again has only finite numbers in it. -/
theorem isPlain_of_coerce_toJson {k : Kind} (hk : k.isTimeless = true) {v : Value}
    (h : k.coerce v.toJson = .ok v) : v.isPlain = true := by
  induction k generalizing v with
  | string => exact isPlain_of_admits (admits_of_coerceString h)
  | integer => exact isPlain_of_admits (admits_of_coerceInteger h)
  | boolean => exact isPlain_of_admits (admits_of_coerceBoolean h)
  | enum variants => exact isPlain_of_admits (admits_of_coerceEnum h)
  | datetime => simp [isTimeless] at hk
  | float =>
    obtain ⟨x, rfl⟩ := exists_of_coerceFloat h
    -- A number that is not finite would be stored as null.
    by_contra hinfinite
    have hnull : (Value.float x).toJson = .null := by
      simp_all [Value.isPlain, Value.toJson, Json.ofFloat]
    obtain ⟨fault, hfault⟩ := exists_fault_of_null float
    rw [hnull, hfault] at h
    simp at h
  | list inner ih =>
    obtain ⟨items, rfl, -⟩ := exists_of_coerce_list h
    rw [Value.isPlain, Value.arePlain_eq_all, List.all_eq_true]
    exact fun item hitem => ih hk (coerce_toJson_of_mem h item hitem)

/-- **A value that was read is read again as the same value exactly when all
numbers in it are finite,** whatever it was read of and however deep its lists
are. -/
theorem coerce_toJson_iff_isPlain {k : Kind} (hk : k.IsTidy) (htimeless : k.isTimeless = true)
    {raw : Json} {v : Value} (h : k.coerce raw = .ok v) :
    k.coerce v.toJson = .ok v ↔ v.isPlain = true :=
  ⟨isPlain_of_coerce_toJson htimeless, fun hv => coerce_toJson hk (admits_of_coerce h hv)⟩

/-- Ratings in many spellings, of which two cannot be read and one is null. -/
def spelledRatings : Json :=
  .arr [.arr [.str " 1.5 ", .null, .int 3, .str "x"], .str "7", .arr [], .arr [.bool true]]

theorem coerce_toJson_spelledRatings : ∃ v, (list (list float)).coerce spelledRatings = .ok v ∧
    (list (list float)).coerce v.toJson = .ok v := by
  have hok : ((list (list float)).coerce spelledRatings).toOption.isSome = true := by
    decide +kernel
  obtain ⟨v, hv⟩ := exists_ok_of_isSome hok
  have hplain : ((list (list float)).coerce spelledRatings).toOption.any Value.isPlain = true := by
    decide +kernel
  rw [hv] at hplain
  exact ⟨v, hv, (coerce_toJson_iff_isPlain (by trivial) rfl hv).2 hplain⟩

/-- Infinity is read of its name and refused when it is read again; a list of
numbers comes back without it. -/
theorem not_coerce_toJson_infinity :
    let infinity := Number.Binary64.infinity false
    float.coerce (.str "inf") = .ok (.float infinity) ∧
      float.coerce (Value.float infinity).toJson = .error (.expected "float" .null) ∧
      (list float).coerce (.arr [.str "inf", .int 2]) =
        .ok (.list [.float infinity, .float (.ofInt 2)]) ∧
      (list float).coerce (Value.list [.float infinity, .float (.ofInt 2)]).toJson =
        .ok (.list [.float (.ofInt 2)]) := by
  decide +kernel

end Kind

/-! ### Moments -/

/-- The moments that come back of their stored forms are those that are values of
the kind. -/
theorem Field.coerce_moment_iff {f : Field} (hf : f.kind = .datetime) {t : Time.Instant} :
    f.coerce (Value.datetime t).toJson = .ok (.datetime t) ↔
      t.IsProper ∧ 0 ≤ t.year ∧ t.year ≤ 9999 := by
  rw [← Time.Instant.read?_toText_eq_self_iff, Field.coerce, hf, Value.toJson, Kind.coerce,
    Kind.coerceDatetime]
  cases Time.Instant.read? t.toText <;> simp [Json.isNull]

/-- **A moment that was read is read again as the same moment exactly when its
year has four digits in universal time,** whatever it was read of: leap seconds
and fractions come back, and so they do in a field. In no case is it read as
another one. -/
theorem moment_reread_iff {text : String} {t : Time.Instant}
    (h : Time.Instant.read? text = some t) :
    (Time.Instant.read? t.toText = some t ↔ 0 ≤ t.year ∧ t.year ≤ 9999) ∧
      (∀ u, Time.Instant.read? t.toText = some u → u = t) ∧
      ∀ f : Field, f.kind = .datetime → f.coerce (.str text) = .ok (.datetime t) ∧
        (f.coerce (Value.datetime t).toJson = .ok (.datetime t) ↔
          0 ≤ t.year ∧ t.year ≤ 9999) := by
  have ht := Time.Instant.isProper_of_read? h
  refine ⟨?_, ?_, fun f hf => ⟨?_, (Field.coerce_moment_iff hf).trans (and_iff_right ht)⟩⟩
  · exact Time.Instant.read?_toText_eq_self_iff.trans (and_iff_right ht)
  · intro u hu
    rw [Time.Instant.read?_toText_eq ht] at hu
    split_ifs at hu
    exact (Option.some.inj hu).symm
  · rw [Field.coerce, hf, Kind.coerce, Kind.coerceDatetime, h]
    rfl

/-- A fraction of a leap second, west of universal time, with the name of the
zone behind it. -/
theorem moment_reread_leapSecond :
    let text := "2016-12-31T18:59:60.25-05:00[America/New_York]"
    let t : Time.Instant := ⟨1483228799, 1250000000⟩
    Time.Instant.read? text = some t ∧ Time.Instant.read? t.toText = some t ∧
      (Field.scalar "soldAt" .datetime).coerce (Value.datetime t).toJson = .ok (.datetime t) := by
  have hread : Time.Instant.read? "2016-12-31T18:59:60.25-05:00[America/New_York]" =
      some ⟨1483228799, 1250000000⟩ := by
    decide +kernel
  obtain ⟨hsame, -, hfields⟩ := moment_reread_iff hread
  exact ⟨hread, hsame.2 (by decide), (hfields _ rfl).2.2 (by decide)⟩

/-- The last second of the year 9999 west of universal time is in the next year
there, which is written with five digits and not read again. -/
theorem not_moment_reread_farYear :
    let t : Time.Instant := ⟨253402304399, 0⟩
    Time.Instant.read? "9999-12-31T23:59:59-01:00" = some t ∧
      t.toText = "+10000-01-01T00:59:59+00:00" ∧ Time.Instant.read? t.toText = none ∧
      (Field.scalar "soldAt" .datetime).coerce (.str "9999-12-31T23:59:59-01:00") =
        .ok (.datetime t) ∧
      (Field.scalar "soldAt" .datetime).coerce (Value.datetime t).toJson =
        .error (.conversion "soldAt" (.datetimeText "+10000-01-01T00:59:59+00:00")) := by
  decide +kernel

end EntityGraph
