import EntityGraph.Proofs.Value.Rereading
import Mathlib.Data.List.Forall2
/-!
# The form of what is read

What is read as a value of a kind is built as the kind says at every level, and
null is nowhere in it (`fits_of_coerce`, `not_occursIn_of_fits`). A list is read
item by item: one that cannot be read is left out and changes nothing about the
others, so lists may be put together before or after they are read
(`readsItemwise`). A name is read when a variant equals it up to case. White
space is taken off the ends of the name and not of the variants, so a variant
with white space at its ends is not read by its own name unless there is
another one without (`coercion_laws`).
-/

namespace EntityGraph

namespace Value

/-- One value stands in another one, at any depth. -/
inductive OccursIn (v : Value) : Value → Prop
  /-- It is the other one. -/
  | whole : OccursIn v v
  /-- It stands in an item of a list. -/
  | item {item : Value} {items : List Value} :
      item ∈ items → OccursIn v item → OccursIn v (.list items)

end Value

namespace Kind

/-! ### Kinds and constructors -/

/-- Whether a value is built as a kind says at every level: with the
constructor of the kind, an integer within its word, a proper moment, and a
variant exactly as it is declared. -/
def fits : Kind → Value → Bool
  | string, .string _ => true
  | integer, .integer n => Number.isInt64 n
  | float, .float _ => true
  | boolean, .boolean _ => true
  | datetime, .datetime t => decide t.IsProper
  | enum variants, .enum variant => variants.contains variant
  | list inner, .list items => items.all fun item => inner.fits item
  | _, _ => false

/-- The values of a kind have its form. -/
theorem fits_of_admits {k : Kind} {v : Value} (h : k.admits v = true) : k.fits v = true := by
  induction k generalizing v with
  | string | integer | boolean | enum => cases v <;> simp_all [admits, fits]
  | float =>
    cases v with
    | float x => rfl
    | _ => simp [admits] at h
  | datetime =>
    cases v with
    | datetime t => exact decide_eq_true (of_decide_eq_true h).1
    | _ => simp [admits] at h
  | list inner ih =>
    cases v with
    | list items => exact List.all_eq_true.2 fun item hitem => ih (List.all_eq_true.1 h item hitem)
    | _ => simp [admits] at h

/-- **What is read as a value of a kind has the form of the kind.** -/
theorem fits_of_coerce {k : Kind} {raw : Json} {v : Value} (h : k.coerce raw = .ok v) :
    k.fits v = true := by
  induction k generalizing raw v with
  | string => exact fits_of_admits (admits_of_coerceString h)
  | integer => exact fits_of_admits (admits_of_coerceInteger h)
  | boolean => exact fits_of_admits (admits_of_coerceBoolean h)
  | enum variants => exact fits_of_admits (admits_of_coerceEnum h)
  | float =>
    obtain ⟨x, rfl⟩ := exists_of_coerceFloat h
    rfl
  | datetime =>
    obtain ⟨t, rfl, hproper⟩ := exists_of_coerceDatetime h
    exact decide_eq_true hproper
  | list inner ih =>
    obtain ⟨items, rfl, hitems⟩ := exists_of_coerce_list h
    refine List.all_eq_true.2 fun item hitem => ?_
    obtain ⟨json, hjson⟩ := hitems item hitem
    exact ih hjson

/-- **Null is nowhere in a value of a form.** -/
theorem not_occursIn_of_fits {k : Kind} {v : Value} (h : k.fits v = true) :
    ¬ Value.null.OccursIn v := by
  intro hnull
  induction hnull generalizing k with
  | whole => cases k <;> simp [fits] at h
  | item hitem _ ih =>
    cases k with
    | list inner => exact ih (List.all_eq_true.1 h _ hitem)
    | _ => simp [fits] at h

/-! ### Lists -/

/-- **A list is read item by item.** -/
structure ReadsItemwise (inner : Kind) : Prop where
  /-- A list is read whatever its items are. -/
  succeeds : ∀ items, ∃ values, (list inner).coerce (.arr items) = .ok (.list values)
  /-- What is read is read of items of the list, of each by itself and in their
  order, and the other items cannot be read. -/
  ordered : ∀ raw v, (list inner).coerce raw = .ok v → ∃ items kept values,
    raw = .arr items ∧ v = .list values ∧ kept.Sublist items ∧
      List.Forall₂ (fun item value => inner.coerce item = .ok value) kept values ∧
      ∀ item ∈ items, item ∉ kept → ∃ fault, inner.coerce item = .error fault
  /-- Two lists put together are read as what is read of each put together. -/
  append : ∀ first second v w, (list inner).coerce (.arr first) = .ok (.list v) →
    (list inner).coerce (.arr second) = .ok (.list w) →
      (list inner).coerce (.arr (first ++ second)) = .ok (.list (v ++ w))
  /-- An item that is null or cannot be read makes no difference. -/
  dropped : ∀ before item after,
    item = .null ∨ (∃ fault, inner.coerce item = .error fault) →
      (list inner).coerce (.arr (before ++ item :: after)) =
        (list inner).coerce (.arr (before ++ after))

section Items

variable {inner : Kind}

/-- The value of an item, if it can be read. -/
def readItem? (inner : Kind) (item : Json) : Option Value :=
  (inner.coerce item).toOption

theorem readItem?_eq_some {item : Json} {v : Value} :
    inner.readItem? item = some v ↔ inner.coerce item = .ok v := by
  rw [readItem?]
  cases inner.coerce item <;> simp [Except.toOption]

theorem readItem?_eq_none {item : Json} :
    inner.readItem? item = none ↔ ∃ fault, inner.coerce item = .error fault := by
  rw [readItem?]
  cases inner.coerce item <;> simp [Except.toOption]

theorem coerce_items (inner : Kind) (items : List Json) :
    (list inner).coerce (.arr items) = .ok (.list (items.filterMap inner.readItem?)) :=
  coerce_arr inner items

/-- The items that can be read, each with its value. -/
theorem forall₂_readable (items : List Json) :
    List.Forall₂ (fun item value => inner.coerce item = .ok value)
      (items.filter fun item => (inner.readItem? item).isSome)
      (items.filterMap inner.readItem?) := by
  induction items with
  | nil => exact .nil
  | cons item items ih =>
    cases hitem : inner.readItem? item with
    | none =>
      rw [List.filter_cons_of_neg (by simp [hitem]), List.filterMap_cons_none hitem]
      exact ih
    | some value =>
      rw [List.filter_cons_of_pos (by simp [hitem]), List.filterMap_cons_some hitem]
      exact .cons (readItem?_eq_some.1 hitem) ih

theorem readsItemwise (inner : Kind) : ReadsItemwise inner where
  succeeds items := ⟨_, coerce_items inner items⟩
  ordered raw v h := by
    cases raw with
    | arr items =>
      rw [coerce_items] at h
      refine ⟨items, _, _, rfl, (Except.ok.inj h).symm, List.filter_sublist,
        forall₂_readable items, fun item hitem hkept => readItem?_eq_none.1 ?_⟩
      simpa [List.mem_filter, hitem] using hkept
    | _ => simp [coerce] at h
  append first second v w hv hw := by
    rw [coerce_items, Except.ok.injEq, Value.list.injEq] at hv hw
    rw [coerce_items, List.filterMap_append, hv, hw]
  dropped before item after h := by
    have hnone : inner.readItem? item = none := by
      rcases h with rfl | hfault
      · exact readItem?_eq_none.2 (exists_fault_of_null inner)
      · exact readItem?_eq_none.2 hfault
    rw [coerce_items, coerce_items, List.filterMap_append, List.filterMap_append,
      List.filterMap_cons_none hnone]

end Items

/-! ### Names of variants -/

section Names

variable {variants : List String} {name : String}

/-- **A name is read when a variant equals it up to case,** without the white
space at the ends of the name. -/
theorem exists_coerce_name_iff : (∃ v, (enum variants).coerce (.str name) = .ok v) ↔
    ∃ variant ∈ variants, Text.eqIgnoringCase variant (Text.trim name) = true := by
  rw [coerce, coerceEnum]
  cases hfind : variants.find? (Text.eqIgnoringCase · (Text.trim name)) with
  | some variant =>
    have hmem := List.mem_of_find?_eq_some hfind
    have heq := List.find?_some hfind
    exact iff_of_true ⟨_, rfl⟩ ⟨variant, hmem, heq⟩
  | none =>
    rw [List.find?_eq_none] at hfind
    refine iff_of_false ?_ ?_
    · rintro ⟨v, hv⟩
      simp at hv
    · rintro ⟨variant, hmem, heq⟩
      exact hfind variant hmem heq

theorem eqIgnoringCase_refl (s : String) : Text.eqIgnoringCase s s = true :=
  beq_self_eq_true _

theorem eqIgnoringCase_trans {s t u : String} (hst : Text.eqIgnoringCase s t = true)
    (htu : Text.eqIgnoringCase t u = true) : Text.eqIgnoringCase s u = true := by
  rw [Text.eqIgnoringCase, beq_iff_eq] at *
  exact hst.trans htu

/-- A name names a variant when they are equal up to case and the white space at
the ends of both. -/
def Names (name variant : String) : Prop :=
  Text.eqIgnoringCase (Text.trim variant) (Text.trim name) = true

/-- **Every name of a variant is read exactly when each variant, without the
white space at its ends, is one of the variants up to case.** -/
theorem reads_names_iff :
    (∀ name, (∃ variant ∈ variants, Names name variant) →
        ∃ v, (enum variants).coerce (.str name) = .ok v) ↔
      ∀ variant ∈ variants, ∃ other ∈ variants,
        Text.eqIgnoringCase other (Text.trim variant) = true := by
  constructor
  · intro h variant hvariant
    exact exists_coerce_name_iff.1 (h variant ⟨variant, hvariant, eqIgnoringCase_refl _⟩)
  · rintro h name ⟨variant, hvariant, hname⟩
    obtain ⟨other, hother, heq⟩ := h variant hvariant
    exact exists_coerce_name_iff.2 ⟨other, hother, eqIgnoringCase_trans heq hname⟩

end Names

/-! ### All of it -/

/-- **What is read has the form of its kind, lists are read item by item, and
names are read up to case.** The last holds of every name of a variant as long
as the variants are there without white space at their ends. -/
theorem coercion_laws (k : Kind) (variants : List String) :
    (∀ raw v, k.coerce raw = .ok v → k.fits v = true ∧ ¬ Value.null.OccursIn v) ∧
      ReadsItemwise k ∧
      (∀ name, (∃ v, (enum variants).coerce (.str name) = .ok v) ↔
        ∃ variant ∈ variants, Text.eqIgnoringCase variant (Text.trim name) = true) ∧
      ((∀ name, (∃ variant ∈ variants, Names name variant) →
          ∃ v, (enum variants).coerce (.str name) = .ok v) ↔
        ∀ variant ∈ variants, ∃ other ∈ variants,
          Text.eqIgnoringCase other (Text.trim variant) = true) := by
  refine ⟨fun raw v h => ?_, readsItemwise k, fun name => exists_coerce_name_iff,
    reads_names_iff⟩
  have hfits := fits_of_coerce h
  exact ⟨hfits, not_occursIn_of_fits hfits⟩

/-- Lists of states in many spellings, with a null, a number that is no place
of a variant, and an item that is no list. -/
def spelledStates : Json :=
  .arr [.arr [.str " draft ", .null, .int 7, .str "PUBLISHED"], .str "Draft", .arr [.int 1]]

theorem coercion_laws_spelledStates :
    let states := ["Draft", "Published"]
    (list (list (enum states))).coerce spelledStates = .ok (.list
        [.list [.enum "Draft", .enum "Published"], .list [.enum "Published"]]) ∧
      ¬ Value.null.OccursIn (.list [.list [.enum "Draft", .enum "Published"],
        .list [.enum "Published"]]) ∧
      (∃ v, (list (list (enum states))).coerce (.arr [.arr [], .str "Draft"]) = .ok (.list v)) ∧
      ∃ v, (enum states).coerce (.str " pUBLISHED ") = .ok v := by
  have hread : (list (list (enum ["Draft", "Published"]))).coerce spelledStates = .ok (.list
      [.list [.enum "Draft", .enum "Published"], .list [.enum "Published"]]) := by
    decide +kernel
  obtain ⟨htyped, -, -, hnames⟩ :=
    coercion_laws (list (list (enum ["Draft", "Published"]))) ["Draft", "Published"]
  obtain ⟨-, hlists, -, -⟩ := coercion_laws (list (enum ["Draft", "Published"])) []
  exact ⟨hread, (htyped _ _ hread).2, hlists.succeeds _,
    hnames.2 (by decide +kernel) " pUBLISHED " (by unfold Names; decide +kernel)⟩

/-- A variant with white space at its ends is not read by its own name, nor of
what is stored of it; by its place it is. -/
theorem not_reads_paddedVariant :
    let states := ["Draft", " Final "]
    (enum states).coerce (.int 1) = .ok (.enum " Final ") ∧
      (Value.enum " Final ").toJson = .str " Final " ∧
      (enum states).coerce (.str " Final ") = .error (.unknownVariant "Final") ∧
      ¬ ∀ name, (∃ variant ∈ states, Names name variant) →
          ∃ v, (enum states).coerce (.str name) = .ok v := by
  have hrefused : (enum ["Draft", " Final "]).coerce (.str " Final ") =
      .error (.unknownVariant "Final") := by
    decide +kernel
  refine ⟨by decide +kernel, rfl, hrefused, fun h => ?_⟩
  obtain ⟨v, hv⟩ := h " Final " ⟨" Final ", by decide, eqIgnoringCase_refl _⟩
  rw [hrefused] at hv
  simp at hv

end Kind

end EntityGraph
