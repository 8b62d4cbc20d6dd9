import EntityGraph.Proofs.Number.Range
import EntityGraph.Proofs.Time.Reading
import EntityGraph.Proofs.Value.Coercion
/-!
# Values that are read

Whatever is stored, a value that is read of it as a value of a kind is one of
that kind, up to two things that reading lets pass: numbers that are not finite
and moments in far years (`Kind.admits_of_coerce`). Without these the value is
stored in a form that is read as the same value again.
-/

namespace EntityGraph

namespace Value

mutual

/-- Whether a value has no number in it that is not finite, and no moment
whose year has not four digits. -/
def isPlain : Value → Bool
  | float x => x.isFinite
  | datetime t => decide (0 ≤ t.year ∧ t.year ≤ 9999)
  | list items => arePlain items
  | _ => true

/-- Whether all items of a list are such values. -/
def arePlain : List Value → Bool
  | [] => true
  | item :: items => isPlain item && arePlain items

end

/-- Whether a value is stored as what it is or not at all: a number that is not
finite is stored as null when it stands by itself. -/
def isStorable : Value → Bool
  | float _ => true
  | v => v.isPlain

theorem arePlain_eq_all (items : List Value) : arePlain items = items.all isPlain := by
  induction items with
  | nil => rfl
  | cons item items ih => rw [arePlain, ih, List.all_cons]

/-- What is not stored as null is stored as what it is. -/
theorem isPlain_of_isStorable {v : Value} (h : v.isStorable = true) (hnull : v.toJson ≠ .null) :
    v.isPlain = true := by
  cases v with
  | float x =>
    by_cases hfinite : x.isFinite = true
    · exact hfinite
    · simp [toJson, Json.ofFloat, hfinite] at hnull
  | _ => exact h

end Value

namespace Kind

theorem admits_of_coerceString {raw : Json} {v : Value} (h : coerceString raw = .ok v) :
    string.admits v = true := by
  cases raw with
  | str _ | bool _ | int _ | float _ =>
    obtain rfl := Except.ok.inj h
    rfl
  | _ => simp [coerceString] at h

theorem admits_of_coerceInteger {raw : Json} {v : Value} (h : coerceInteger raw = .ok v) :
    integer.admits v = true := by
  cases raw with
  | int n =>
    obtain rfl := Except.ok.inj h
    show Number.isInt64 (if Number.isInt64 n then n else (Number.Binary64.ofInt n).round) = true
    split
    · assumption
    · exact Number.Binary64.isInt64_round _
  | float x =>
    rw [coerceInteger] at h
    split at h
    · obtain rfl := Except.ok.inj h
      exact Number.Binary64.isInt64_round x
    · simp at h
  | str s =>
    rw [coerceInteger] at h
    split at h
    · next n hn =>
      obtain rfl := Except.ok.inj h
      exact Number.isInt64_of_readInt64 hn
    · simp at h
  | bool b =>
    obtain rfl := Except.ok.inj h
    cases b <;> rfl
  | _ => simp [coerceInteger] at h

/-- What is read as a floating-point number is one; it may be one that is not
finite. -/
theorem exists_of_coerceFloat {raw : Json} {v : Value} (h : coerceFloat raw = .ok v) :
    ∃ x, v = .float x := by
  cases raw with
  | int n => exact ⟨_, (Except.ok.inj h).symm⟩
  | float x => exact ⟨_, (Except.ok.inj h).symm⟩
  | bool b => exact ⟨_, (Except.ok.inj h).symm⟩
  | str s =>
    rw [coerceFloat] at h
    split at h
    · exact ⟨_, (Except.ok.inj h).symm⟩
    · simp at h
  | _ => simp [coerceFloat] at h

theorem admits_of_coerceBoolean {raw : Json} {v : Value} (h : coerceBoolean raw = .ok v) :
    boolean.admits v = true := by
  cases raw with
  | bool _ | int _ | float _ =>
    obtain rfl := Except.ok.inj h
    rfl
  | str s =>
    rw [coerceBoolean] at h
    split at h
    · obtain rfl := Except.ok.inj h
      rfl
    split at h
    · obtain rfl := Except.ok.inj h
      rfl
    · simp at h
  | _ => simp [coerceBoolean] at h

/-- What is read as a moment is a proper one; its year may be any. -/
theorem exists_of_coerceDatetime {raw : Json} {v : Value} (h : coerceDatetime raw = .ok v) :
    ∃ t : Time.Instant, v = .datetime t ∧ t.IsProper := by
  cases raw with
  | str s =>
    rw [coerceDatetime] at h
    split at h
    · next t ht => exact ⟨t, (Except.ok.inj h).symm, Time.Instant.isProper_of_read? ht⟩
    · simp at h
  | _ => simp [coerceDatetime] at h

/-- What is read as a variant is one of those declared, as it is declared. -/
theorem admits_of_coerceEnum {variants : List String} {raw : Json} {v : Value}
    (h : coerceEnum variants raw = .ok v) : (enum variants).admits v = true := by
  have hmem {variant : String} (hvariant : variant ∈ variants) :
      (enum variants).admits (.enum variant) = true := List.contains_iff_mem.2 hvariant
  cases raw with
  | str s =>
    rw [coerceEnum] at h
    split at h
    · next variant hfind =>
      obtain rfl := Except.ok.inj h
      exact hmem (List.mem_of_find?_eq_some hfind)
    · simp at h
  | int n =>
    rw [coerceEnum] at h
    split at h
    · rw [variantAt] at h
      split at h
      · next variant hvariant =>
        obtain rfl := Except.ok.inj h
        exact hmem (List.mem_of_getElem? hvariant)
      · simp at h
    · simp at h
  | _ => simp [coerceEnum] at h

/-- The items of a list that is read are read one by one. -/
theorem exists_of_coerce_list {inner : Kind} {raw : Json} {v : Value}
    (h : (list inner).coerce raw = .ok v) :
    ∃ items, v = .list items ∧ ∀ item ∈ items, ∃ json, inner.coerce json = .ok item := by
  cases raw with
  | arr jsons =>
    refine ⟨_, (Except.ok.inj h).symm, fun item hitem => ?_⟩
    obtain ⟨json, -, hjson⟩ := List.mem_filterMap.1 hitem
    refine ⟨json, ?_⟩
    cases hread : inner.coerce json with
    | error fault => simp [hread, Except.toOption] at hjson
    | ok w =>
      rw [hread] at hjson
      rw [Option.some.inj hjson]
  | _ => simp [coerce] at h

/-- **A value that is read as one of a kind is one of the kind,** if it is
plain. -/
theorem admits_of_coerce {k : Kind} {raw : Json} {v : Value} (h : k.coerce raw = .ok v)
    (hv : v.isPlain = true) : k.admits v = true := by
  induction k generalizing raw v with
  | string => exact admits_of_coerceString h
  | integer => exact admits_of_coerceInteger h
  | float =>
    obtain ⟨x, rfl⟩ := exists_of_coerceFloat h
    exact hv
  | boolean => exact admits_of_coerceBoolean h
  | datetime =>
    obtain ⟨t, rfl, hproper⟩ := exists_of_coerceDatetime h
    exact decide_eq_true ⟨hproper, of_decide_eq_true hv⟩
  | enum variants => exact admits_of_coerceEnum h
  | list inner ih =>
    obtain ⟨items, rfl, hitems⟩ := exists_of_coerce_list h
    rw [Value.isPlain, Value.arePlain_eq_all, List.all_eq_true] at hv
    refine List.all_eq_true.2 fun item hitem => ?_
    obtain ⟨json, hjson⟩ := hitems item hitem
    exact ih hjson (hv item hitem)

end Kind

/-- **A value that was read of a field is stored in a form that is read as the
same value,** unless it is stored as null. -/
theorem Field.coerce_toJson_of_coerce {f : Field} (hf : f.kind.IsTidy) {raw : Json} {v : Value}
    (h : f.coerce raw = .ok v) (hv : v.isStorable = true) (hnull : v.toJson ≠ .null) :
    f.coerce v.toJson = .ok v := by
  have hplain := Value.isPlain_of_isStorable hv hnull
  unfold Field.coerce at h
  split at h
  · split at h
    · obtain rfl := Except.ok.inj h
      exact absurd rfl hnull
    · simp at h
  · split at h
    · next w hw =>
      obtain rfl := Except.ok.inj h
      exact Field.coerce_toJson hf (Kind.admits_of_coerce hw hplain)
    · simp at h

end EntityGraph
