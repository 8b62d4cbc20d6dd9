import EntityGraph.Value.Coercion
import EntityGraph.Proofs.Time.Stamp
/-!
# Stored values read back

What the values of a kind are, and that the stored form of each is read back
as the same value (`Kind.coerce_toJson`). None of them is stored as null, so
nothing of a list is dropped. An enumeration is read back by name when its
variants are known by their names up to case.
-/

namespace EntityGraph

namespace Kind

/-! ### The values of a kind -/

/-- Whether a value is one of a kind: an integer in the signed 64-bit range, a
finite number, a proper moment whose year has four digits, one of the variants
exactly as it is declared, or a list of values of the kind inside. A moment is
proper when it has less than a second of nanoseconds, or less than two in the
second 59 of a minute; the others are written as the second after them, so they
do not come back. -/
def admits : Kind → Value → Bool
  | string, .string _ => true
  | integer, .integer n => Number.isInt64 n
  | float, .float x => x.isFinite
  | boolean, .boolean _ => true
  | datetime, .datetime t => decide (t.IsProper ∧ 0 ≤ t.year ∧ t.year ≤ 9999)
  | enum variants, .enum variant => variants.contains variant
  | list inner, .list items => items.all fun item => inner.admits item
  | _, _ => false

/-- Variants without white space at their ends, no two the same up to case. -/
structure AreTidy (variants : List String) : Prop where
  trimmed : ∀ variant ∈ variants, Text.trim variant = variant
  distinct : variants.Pairwise fun v w => Text.eqIgnoringCase v w = false

instance (variants : List String) : Decidable (AreTidy variants) :=
  decidable_of_iff ((∀ variant ∈ variants, Text.trim variant = variant) ∧
    variants.Pairwise fun v w => Text.eqIgnoringCase v w = false)
    ⟨fun h => ⟨h.1, h.2⟩, fun h => ⟨h.1, h.2⟩⟩

/-- The enumeration in a kind, if there is one, has tidy variants. -/
def IsTidy : Kind → Prop
  | enum variants => AreTidy variants
  | list inner => inner.IsTidy
  | _ => True

/-- Decides whether the variants in a kind are tidy. -/
instance decidableIsTidy : (k : Kind) → Decidable k.IsTidy
  | enum variants => inferInstanceAs (Decidable (AreTidy variants))
  | list inner => decidableIsTidy inner
  | string | integer | float | boolean | datetime => .isTrue trivial

/-! ### Reading back -/

/-- A variant is found by its own name, past the ones before it. -/
theorem AreTidy.find?_eq {variants : List String} (h : AreTidy variants) {variant : String}
    (hmem : variant ∈ variants) :
    variants.find? (Text.eqIgnoringCase · (Text.trim variant)) = some variant := by
  rw [h.trimmed variant hmem]
  -- Only the distinctness is inherited by the variants after the first.
  have hdistinct := h.distinct
  clear h
  induction variants with
  | nil => simp at hmem
  | cons first variants ih =>
    obtain ⟨hfirst, hothers⟩ := List.pairwise_cons.1 hdistinct
    rcases List.mem_cons.1 hmem with rfl | hmem
    · exact List.find?_cons_of_pos (by simp [Text.eqIgnoringCase])
    · rw [List.find?_cons_of_neg (by simp [hfirst variant hmem])]
      exact ih hmem hothers

/-- No value of a kind is stored as null: a number that is not finite would
be, and no kind has one. -/
theorem isNull_toJson {k : Kind} {v : Value} (h : k.admits v = true) :
    v.toJson.isNull = false := by
  cases v with
  | null => cases k <;> simp [admits] at h
  | float x =>
    have hfinite : x.isFinite = true := by cases k <;> simp_all [admits]
    simp [Value.toJson, Json.ofFloat, hfinite, Json.isNull]
  | _ => rfl

theorem toJsonItems_eq_map (items : List Value) :
    Value.toJsonItems items = items.map Value.toJson := by
  induction items with
  | nil => rfl
  | cons item items ih => rw [Value.toJsonItems, ih, List.map_cons]

/-- A list is read back when each of its items is. -/
theorem coerce_list {inner : Kind} {items : List Value}
    (hnull : ∀ item ∈ items, item.toJson.isNull = false)
    (hread : ∀ item ∈ items, inner.coerce item.toJson = .ok item) :
    (list inner).coerce (Value.list items).toJson = .ok (.list items) := by
  have hkept : (items.map Value.toJson).filter (!·.isNull) = items.map Value.toJson := by
    rw [List.filter_eq_self]
    intro raw hraw
    obtain ⟨item, hitem, rfl⟩ := List.mem_map.1 hraw
    simp [hnull item hitem]
  have hitems : (items.map Value.toJson).filterMap
      (fun item => (inner.coerce item).toOption) = items := by
    clear hkept hnull
    induction items with
    | nil => rfl
    | cons item items ih =>
      have hfirst : (inner.coerce item.toJson).toOption = some item := by
        rw [hread item List.mem_cons_self]
        rfl
      have hrest := ih fun other hother => hread other (List.mem_cons_of_mem item hother)
      rw [List.map_cons, List.filterMap_cons, hfirst, hrest]
  rw [Value.toJson, toJsonItems_eq_map, coerce, hkept, hitems]

/-- **What is stored of a value is read back as the value.** -/
theorem coerce_toJson {k : Kind} (hk : k.IsTidy) {v : Value} (h : k.admits v = true) :
    k.coerce v.toJson = .ok v := by
  induction k generalizing v with
  | string =>
    cases v with
    | string s => rfl
    | _ => simp [admits] at h
  | boolean =>
    cases v with
    | boolean b => rfl
    | _ => simp [admits] at h
  | integer =>
    cases v with
    | integer n =>
      have hrange : Number.isInt64 n = true := h
      simp [Value.toJson, coerce, coerceInteger, hrange]
    | _ => simp [admits] at h
  | float =>
    cases v with
    | float x =>
      have hfinite : x.isFinite = true := h
      simp [Value.toJson, Json.ofFloat, coerce, coerceFloat, hfinite]
    | _ => simp [admits] at h
  | datetime =>
    cases v with
    | datetime t =>
      obtain ⟨hproper, hlow, hhigh⟩ := of_decide_eq_true h
      simp [Value.toJson, coerce, coerceDatetime, Time.Instant.read?_toText hproper hlow hhigh]
    | _ => simp [admits] at h
  | enum variants =>
    cases v with
    | enum variant =>
      have hfind := AreTidy.find?_eq hk (List.contains_iff_mem.1 h)
      simp [Value.toJson, coerce, coerceEnum, hfind]
    | _ => simp [admits] at h
  | list inner ih =>
    cases v with
    | list items =>
      have hitems : ∀ item ∈ items, inner.admits item = true := List.all_eq_true.1 h
      exact coerce_list (fun item hitem => isNull_toJson (hitems item hitem))
        (fun item hitem => ih hk (hitems item hitem))
    | _ => simp [admits] at h

end Kind

/-- So it is as the value of a field. -/
theorem Field.coerce_toJson {f : Field} (hf : f.kind.IsTidy) {v : Value}
    (h : f.kind.admits v = true) : f.coerce v.toJson = .ok v := by
  simp [Field.coerce, Kind.isNull_toJson h, Kind.coerce_toJson hf h]

end EntityGraph
