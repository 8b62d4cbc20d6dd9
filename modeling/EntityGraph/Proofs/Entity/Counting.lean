import EntityGraph.Proofs.Entity.Article
import EntityGraph.Proofs.Entity.Conversion
import EntityGraph.Proofs.Number.Truncation
import Mathlib.Data.List.Nodup
/-!
# Counts in a row

What a row adds to the entity of the node in one of its columns: numbers of
linked nodes, which stand in columns of their own, and nothing else
(`fromRow_adds_counts`). A number is cut to a whole one and kept between zero and
the largest signed 32-bit integer, whichever way it is represented
(`exists_countOf`), so a larger number never gives a smaller count
(`countFor_mono`).
-/

namespace EntityGraph

open Number (clamp int64Min int64Max int32Max towardZero)

namespace Json

/-- Whether a value is a number. -/
def isNumber : Json → Bool
  | int _ | float _ => true
  | _ => false

/-- The fraction that a number stands for. The floating-point numbers that JSON
has no form for stand for none. -/
def fraction? : Json → Option ℚ
  | int n => some n
  | float x => if x.isFinite then some x.toRat else none
  | _ => none

end Json

namespace Converter

open Entity (readField metadata IsLawful KeepsMetadata takes)

variable {α : Type} [Entity α] {s : Schema} {row : Row}

/-! ### The count of a number -/

/-- The count that a number is read as. -/
def countFor (q : ℚ) : Int :=
  clamp 0 int32Max (towardZero q)

/-- **A larger number gives no smaller count.** -/
theorem countFor_mono {p q : ℚ} (h : p ≤ q) : countFor p ≤ countFor q :=
  Number.clamp_mono 0 int32Max (Number.towardZero_mono h)

/-- The range of counts lies inside the other one. -/
theorem clampCount_clamp (n : Int) :
    clampCount (clamp int64Min int64Max n) = clamp 0 int32Max n := by
  unfold clampCount clamp int64Min int64Max int32Max
  omega

/-- **Every number is counted,** and as what it stands for. -/
theorem exists_countOf {json : Json} (h : json.isNumber = true) :
    ∃ n, countOf json = some n ∧ ∀ q, json.fraction? = some q → clampCount n = countFor q := by
  cases json with
  | int n =>
    refine ⟨_, rfl, fun q hq => ?_⟩
    rw [clampCount_clamp, countFor, ← Option.some.inj hq, Number.towardZero_intCast]
  | float x =>
    refine ⟨_, rfl, fun q hq => ?_⟩
    obtain ⟨hfinite, hq⟩ := Option.ite_none_right_eq_some.1 hq
    rw [Number.Binary64.truncate_eq hfinite, clampCount_clamp, countFor, ← Option.some.inj hq]
  | null | bool _ | str _ | arr _ | obj _ => simp [Json.isNumber] at h

theorem countOf_eq_none {json : Json} (h : json.isNumber = false) : countOf json = none := by
  cases json with
  | int _ | float _ => simp [Json.isNumber] at h
  | null | bool _ | str _ | arr _ | obj _ => rfl

/-- A column that holds no number says nothing about its field, -/
theorem readCount?_eq_none {f : Field}
    (h : ∀ json, row.columns.get? f.collectionAlias = some json → json.isNumber = false) :
    readCount? row f = none := by
  rw [readCount?]
  cases hcolumn : row.columns.get? f.collectionAlias with
  | none => rfl
  | some json =>
    rw [Option.bind_some, countOf_eq_none (h json hcolumn)]
    rfl

/-- and one that holds a number says its count. -/
theorem exists_readCount? {f : Field} {json : Json}
    (hcolumn : row.columns.get? f.collectionAlias = some json) (h : json.isNumber = true) :
    ∃ n, (∀ q, json.fraction? = some q → n = countFor q) ∧
      readCount? row f = some (.integer n) := by
  obtain ⟨n, hn, hcount⟩ := exists_countOf h
  refine ⟨clampCount n, hcount, ?_⟩
  rw [readCount?, hcolumn, Option.bind_some, hn]
  rfl

/-! ### The entity of a row -/

/-- The fields of a schema that are numbers of linked nodes. -/
def countFields (s : Schema) : List Field :=
  s.relationships.filter (·.isCountOnly)

/-- An entity with the counts of a row added and nothing else changed. -/
structure AddsCounts (s : Schema) (row : Row) (before after : α) : Prop where
  others : ∀ f ∈ s.fields, f ∉ countFields s → readField after f.name = readField before f.name
  metadata : metadata after = metadata before
  /-- A field whose column holds no number is not written. -/
  unwritten : ∀ f ∈ countFields s,
    (∀ json, row.columns.get? f.collectionAlias = some json → json.isNumber = false) →
    readField after f.name = readField before f.name
  /-- A field whose column holds a number is written with the count of the number,
  if the entity takes it. -/
  written : ∀ f ∈ countFields s, ∀ json, row.columns.get? f.collectionAlias = some json →
    json.isNumber = true → ∃ n, (∀ q, json.fraction? = some q → n = countFor q) ∧
      readField after f.name =
        if takes α f (.integer n) then some (.integer n) else readField before f.name

theorem mem_fields_of_mem_countFields {f : Field} (hf : f ∈ countFields s) : f ∈ s.fields :=
  List.mem_append_right _ (List.mem_filter.1 hf).1

theorem nodup_names_countFields (hnames : (s.fields.map (·.name)).Nodup) :
    ((countFields s).map (·.name)).Nodup := by
  rw [Schema.fields, List.map_append] at hnames
  exact (List.nodup_append.1 hnames).2.1.sublist (List.filter_sublist.map _)

theorem addsCounts_foldl (hlawful : IsLawful α s) (hmetadata : KeepsMetadata α s)
    (hnames : (s.fields.map (·.name)).Nodup) (entity : α) :
    AddsCounts s row entity
      ((countFields s).foldl (Entity.writeGiven (readCount? row)) entity) := by
  have hfields : ∀ f ∈ countFields s, f ∈ s.fields := fun f hf => mem_fields_of_mem_countFields hf
  have hread {f : Field} (hf : f ∈ countFields s) :=
    Entity.readField_foldl_writeGiven (readCount? row) hlawful hfields
      (nodup_names_countFields hnames) hf entity
  refine ⟨?_, hmetadata.metadata_foldl_writeGiven _ hfields entity, ?_, ?_⟩
  · intro f hf hother
    refine Entity.readField_foldl_writeGiven_of_ne _ hlawful hfields hf ?_ entity
    intro g hg hsame
    exact hother (List.inj_on_of_nodup_map hnames hf (hfields g hg) hsame ▸ hg)
  · intro f hf hnumber
    rw [hread hf, readCount?_eq_none hnumber]
    rfl
  · intro f hf json hcolumn hnumber
    obtain ⟨n, hcount, hgiven⟩ := exists_readCount? hcolumn hnumber
    refine ⟨n, hcount, ?_⟩
    rw [hread hf, hgiven]
    by_cases htakes : takes α f (.integer n) = true <;> simp [Option.filter, htakes]

/-- **A row adds counts to the entity of its node and nothing else.** There is an
entity exactly when the column is there and holds a node; a missing column and
one that holds something else are told apart. Larger numbers give no smaller
counts. -/
theorem fromRow_adds_counts (hlawful : IsLawful α s) (hmetadata : KeepsMetadata α s)
    (hnames : (s.fields.map (·.name)).Nodup) (row : Row) (column : String) :
    ((fromRowBy s row column : Except Failure α) = .error (.missingColumn column) ↔
        row.columns.get? column = none) ∧
      ((∃ fault, (fromRowBy s row column : Except Failure α) = .error (.internal fault)) ↔
        ∃ json, row.columns.get? column = some json ∧ Decode.node json = none) ∧
      (∀ n, (row.columns.get? column).bind Decode.node = some n →
        ∃ entity : α, fromRowBy s row column = .ok entity ∧
          AddsCounts s row (fromNodeBy s n) entity) ∧
      ∀ p q, p ≤ q → countFor p ≤ countFor q := by
  have hmono : ∀ p q, p ≤ q → countFor p ≤ countFor q := fun _ _ => countFor_mono
  rw [fromRowBy_eq, Row.get]
  cases hcolumn : row.columns.get? column with
  | none => simpa [Except.map] using hmono
  | some json =>
    cases hnode : Decode.node json with
    | none => simpa [Row.decodeColumn, hnode, Except.map] using hmono
    | some n =>
      have hadds : AddsCounts s row (fromNodeBy s n : α) _ :=
        addsCounts_foldl hlawful hmetadata hnames _
      simpa [Row.decodeColumn, hnode, Except.map, countFields] using ⟨hadds, hmono⟩

/-- A row with the node of an article and a number in each collection. -/
def countedRow (likes : Json) : Row where
  columns := .ofList
    [("n", .obj [("id", .str "5"), ("properties", .obj [("likes", .int 1)])]),
      ("likes_collection", likes), ("authors_collection", .int 4)]

/-- The largest number without a sign and a floating-point number beyond 64 bits
give the largest count, and the collection that is none of a count is left
alone. -/
theorem fromRow_adds_counts_countedRow :
    let s := Entity.schema Article
    IsLawful Article s ∧ KeepsMetadata Article s ∧ (s.fields.map (·.name)).Nodup ∧
      (∀ likes ∈ [Json.int 18446744073709551615, .float ⟨0x4450000000000000⟩],
        ∃ entity : Article, fromRowBy s (countedRow likes) "n" = .ok entity ∧
          AddsCounts s (countedRow likes) (fromNodeBy s ⟨"5", [], .ofList [("likes", .int 1)]⟩)
            entity ∧
          readField entity "likes" = some (.integer 2147483647) ∧
          readField entity "authors" = none) ∧
      (fromRowBy s (countedRow .null) "m" : Except Failure Article) =
        .error (.missingColumn "m") := by
  intro s
  have hlawful : IsLawful Article s := Article.isLawful s
  have hmetadata : KeepsMetadata Article s := Article.keepsMetadata s
  have hnames : (s.fields.map (·.name)).Nodup := by decide +kernel
  have hresult (row : Row) (column : String) :=
    fromRow_adds_counts hlawful hmetadata hnames row column
  have hread : ∀ likes ∈ [Json.int 18446744073709551615, .float ⟨0x4450000000000000⟩],
      ((countedRow likes).columns.get? "n").bind Decode.node =
          some ⟨"5", [], .ofList [("likes", .int 1)]⟩ ∧
        (fromRowBy s (countedRow likes) "n" : Except Failure Article).toOption.map
            (fun entity => (readField entity "likes", readField entity "authors")) =
          some (some (.integer 2147483647), none) := by
    decide +kernel
  have hmissing : (countedRow .null).columns.get? "m" = none := by decide +kernel
  refine ⟨hlawful, hmetadata, hnames, fun likes hlikes => ?_, (hresult _ "m").1.2 hmissing⟩
  obtain ⟨hnode, hfields⟩ := hread likes hlikes
  obtain ⟨entity, hentity, hadds⟩ := (hresult (countedRow likes) "n").2.2.1 _ hnode
  rw [hentity] at hfields
  obtain ⟨hlikes, hauthors⟩ := Prod.mk.inj (Option.some.inj hfields)
  exact ⟨entity, hentity, hadds, hlikes, hauthors⟩

end Converter

end EntityGraph
