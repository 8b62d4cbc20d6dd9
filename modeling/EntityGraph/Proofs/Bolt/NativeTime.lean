import EntityGraph.Proofs.Bolt.Arrival
import EntityGraph.Proofs.Entity.Conversion
import EntityGraph.Proofs.Entity.Sheet
import EntityGraph.Proofs.Time.Zones
/-!
# Native times

Date-times that a node has as such and not as texts, on their way into the entity
of the node. Whichever way the driver gives them, they become texts, and these are
read as the moment that clocks at an offset of whole minutes show
(`readTime_readBy`). So entities keep the moment exactly when the offset has no
seconds (`keepsTime_iff`): with seconds it is moved by up to half a minute, or lost.
-/

namespace EntityGraph.Bolt

open Time (Instant nanosPerSecond)
open Converter (fromNodeBy readTime readValue? takenValue?)
open Entity (readField metadata IsLawful KeepsMetadata HoldsMetadata takes)

/-- A date-time of the database: what clocks show in a year of four digits, and
their offset of less than a day from universal time, unless it is not known. -/
structure NativeTime where
  shown : Instant
  offset : Option Int
  nanos_lt : shown.nanos < nanosPerSecond := by decide
  year_nonneg : 0 ≤ shown.year := by decide
  year_le : shown.year ≤ 9999 := by decide
  offset_lt : (offset.getD 0).natAbs < 86400 := by decide

namespace NativeTime

/-- What the server sends for it. -/
def value (t : NativeTime) : Value :=
  match t.offset with
  | some offset => .zonedDatetime t.shown.seconds t.shown.nanos offset
  | none => .localDatetime t.shown.seconds t.shown.nanos

/-- The moment that it is. Clocks at no known offset are taken to show universal
time. -/
def instant (t : NativeTime) : Instant :=
  ⟨t.shown.seconds - t.offset.getD 0, t.shown.nanos⟩

theorem isProper_shown (t : NativeTime) : t.shown.IsProper :=
  .inl t.nanos_lt

end NativeTime

/-- What the driver gives for date-times: their own form, or no text at all, so that
they are still to be written out. -/
def LeavesTimes (given : Value → Option Json) : Prop :=
  ∀ t : NativeTime, given t.value = some t.value.plain ∨ ∀ text, given t.value ≠ some (.str text)

theorem leavesTimes_given? : LeavesTimes Value.given? :=
  fun _ => .inl rfl

/-! ### What is read -/

theorem render_zonedDatetime {given : Option Json} (h : ∀ text, given ≠ some (.str text))
    (seconds : Int) (nanos : Nat) (offset : Int) :
    Value.render given (.zonedDatetime seconds nanos offset) =
      (Value.zonedDatetime seconds nanos offset).plain := by
  rcases given with _ | json
  · rfl
  · cases json with
    | str text => exact absurd rfl (h text)
    | _ => rfl

theorem render_localDatetime {given : Option Json} (h : ∀ text, given ≠ some (.str text))
    (seconds : Int) (nanos : Nat) :
    Value.render given (.localDatetime seconds nanos) = .str (Instant.mk seconds nanos).toText := by
  rcases given with _ | json
  · rfl
  · cases json with
    | str text => exact absurd rfl (h text)
    | _ => rfl

variable {given : Value → Option Json} {key : String}

/-- A date-time is written out in its own form, or in universal time when its
offset is not known. -/
theorem render_value (hgiven : LeavesTimes given) (t : NativeTime) :
    t.value.render (given t.value) = t.value.plain ∨
      t.offset = none ∧ t.value.render (given t.value) = .str t.shown.toText := by
  rcases hgiven t with hplain | hsilent
  · rw [hplain]
    exact .inl (Value.render_given? t.value)
  · cases hoffset : t.offset with
    | some offset =>
      have hvalue : t.value = .zonedDatetime t.shown.seconds t.shown.nanos offset := by
        rw [NativeTime.value, hoffset]
      rw [hvalue] at hsilent ⊢
      exact .inl (render_zonedDatetime hsilent ..)
    | none =>
      have hvalue : t.value = .localDatetime t.shown.seconds t.shown.nanos := by
        rw [NativeTime.value, hoffset]
      rw [hvalue] at hsilent ⊢
      exact .inr ⟨rfl, render_localDatetime hsilent ..⟩

theorem exists_plain (t : NativeTime) : ∃ text, t.value.plain = .str text ∧
    Instant.read? text = t.shown.readAt? (t.offset.getD 0) := by
  have hproper := t.isProper_shown
  obtain ⟨shown, offset, hnanos, hlow, hhigh, hoffset⟩ := t
  cases offset with
  | some offset => exact ⟨_, rfl, Instant.read?_offsetChars hproper hlow hhigh hoffset⟩
  | none =>
    refine ⟨_, rfl, (Instant.read?_wallChars hproper hlow hhigh).trans ?_⟩
    exact Instant.readAt?_zero.symm

/-- **A date-time becomes a text,** and what is read of it is what clocks show, at
the nearest offset of whole minutes. -/
theorem exists_render (hgiven : LeavesTimes given) (t : NativeTime) :
    ∃ text, t.value.render (given t.value) = .str text ∧
      Instant.read? text = t.shown.readAt? (t.offset.getD 0) := by
  rcases render_value hgiven t with hplain | ⟨hlocal, huniversal⟩
  · obtain ⟨text, htext, hread⟩ := exists_plain t
    exact ⟨text, hplain.trans htext, hread⟩
  · refine ⟨_, huniversal, (Instant.read?_toText t.isProper_shown t.year_nonneg t.year_le).trans ?_⟩
    rw [hlocal]
    exact Instant.readAt?_zero.symm

theorem get?_properties (given : Value → Option Json) (members : List (String × Value))
    (key : String) : (Value.properties given members).get? key =
      (lastValue? key members).map fun v => v.render (given v) := by
  rw [Value.properties, Bag.get?_ofList, lastValue?_map fun v : Value => v.render (given v)]

/-! ### What nodes and entities keep -/

section Nodes

variable {n : SentNode} {t : NativeTime}

theorem exists_property (hgiven : LeavesTimes given)
    (hn : lastValue? key n.properties = some t.value) :
    ∃ text, (n.readBy given).properties.get? key = some (.str text) ∧
      Instant.read? text = t.shown.readAt? (t.offset.getD 0) := by
  obtain ⟨text, htext, hread⟩ := exists_render hgiven t
  refine ⟨text, ?_, hread⟩
  rw [SentNode.readBy, get?_properties, hn, Option.map_some, htext]

/-- **A time of the metadata** is read to the nearest minute of the offset. -/
theorem readTime_readBy (hgiven : LeavesTimes given)
    (hn : lastValue? key n.properties = some t.value) :
    readTime (n.readBy given) key = t.shown.readAt? (t.offset.getD 0) := by
  obtain ⟨text, hproperty, hread⟩ := exists_property hgiven hn
  rw [readTime, hproperty]
  exact hread

/-- And so is a field that is a date-time. -/
theorem readValue?_readBy (hgiven : LeavesTimes given) {f : Field} (hkind : f.kind = .datetime)
    (hn : lastValue? f.storedName n.properties = some t.value) :
    readValue? (n.readBy given).properties f =
      (t.shown.readAt? (t.offset.getD 0)).map .datetime := by
  obtain ⟨text, hproperty, hread⟩ := exists_property hgiven hn
  have hcoerce : f.kind.coerce (.str text) = Kind.coerceDatetime (.str text) := by
    rw [hkind, Kind.coerce]
  rw [readValue?, hproperty, Option.bind_some, Field.coerce, hcoerce, Kind.coerceDatetime, hread]
  cases t.shown.readAt? (t.offset.getD 0) <;> rfl

end Nodes

section Entities

variable {α : Type} [Entity α]

/-- Whenever a value is sent under a key of the node in a column, the node is read
and something holds of its entity. -/
def ForSent (given : Value → Option Json) (s : Schema) (key : String) (v : Value)
    (holds : α → Prop) : Prop :=
  ∀ (columns fields : List String) (values : List Value), ∀ column ∈ columns, ∀ n : SentNode,
    sent? fields values column = some n.value → lastValue? key n.properties = some v →
    ∃ node, (decodeRowBy given columns fields values).get Decode.node column = .ok node ∧
      holds (fromNodeBy s node)

/-- Rows do not matter for it. -/
theorem forSent_iff {s : Schema} {v : Value} {holds : α → Prop} :
    ForSent given s key v holds ↔ ∀ n : SentNode, lastValue? key n.properties = some v →
      holds (fromNodeBy s (n.readBy given)) := by
  have hget {columns fields : List String} {values : List Value} {column : String}
      (hmem : column ∈ columns) {n : SentNode}
      (hsent : sent? fields values column = some n.value) :
      (decodeRowBy given columns fields values).get Decode.node column =
        .ok (n.readBy given) := by
    refine Row.get_eq_ok ?_ (Decode.node_toJson (n.readBy given))
    rw [get?_decodeRowBy given hmem, hsent]
    exact congrArg some (columnBy_node given n)
  constructor
  · intro h n hn
    have hsent : sent? ["n"] [n.value] "n" = some n.value := by
      rw [sent?, Bag.get?_ofList]
      rfl
    have hmem : "n" ∈ ["n"] := List.mem_singleton.2 rfl
    obtain ⟨node, hnode, hholds⟩ := h ["n"] ["n"] [n.value] "n" hmem n hsent hn
    rw [hget hmem hsent] at hnode
    obtain rfl := Except.ok.inj hnode
    exact hholds
  · intro h columns fields values column hmem n hsent hn
    exact ⟨_, hget hmem hsent, h n hn⟩

/-- Entities keep a date-time of their node: as a time of the metadata, and as a
field. -/
structure KeepsTime (α : Type) [Entity α] (given : Value → Option Json) (s : Schema)
    (t : NativeTime) : Prop where
  createdAt : ForSent given s "created_at" t.value fun entity : α =>
    (metadata entity).createdAt = some t.instant
  updatedAt : ForSent given s "updated_at" t.value fun entity : α =>
    (metadata entity).updatedAt = some t.instant
  deletedAt : ForSent given s "deleted_at" t.value fun entity : α =>
    (metadata entity).deletedAt = some t.instant
  field : ∀ f ∈ s.scalars, f.kind = .datetime →
    ForSent given s f.storedName t.value fun entity : α =>
      readField entity f.name = some (.datetime t.instant)

/-- A time of the metadata is kept only where what is read is the moment. -/
theorem readAt?_of_keepsTime {s : Schema} {t : NativeTime} (hkeeps : KeepsMetadata α s)
    (hholds : HoldsMetadata α) (hgiven : LeavesTimes given) (h : KeepsTime α given s t) :
    t.shown.readAt? (t.offset.getD 0) = some t.instant := by
  let n : SentNode := ⟨1, [], [("created_at", t.value)]⟩
  have hn : lastValue? "created_at" n.properties = some t.value := by simp [n, lastValue?]
  have hcreated := forSent_iff.1 h.createdAt n hn
  rw [Converter.metadata_fromNodeBy hkeeps hholds] at hcreated
  exact (readTime_readBy hgiven hn).symm.trans hcreated

/-- **Entities keep a native date-time exactly when its offset has no seconds,**
whatever the driver gives for it, if their fields take the moment at all. One at no
known offset is always kept. -/
theorem keepsTime_iff {s : Schema} (hlawful : IsLawful α s) (hkeeps : KeepsMetadata α s)
    (hholds : HoldsMetadata α) (hnames : (s.fields.map (·.name)).Nodup)
    (hgiven : LeavesTimes given) (t : NativeTime)
    (htakes : ∀ f ∈ s.scalars, f.kind = .datetime → takes α f (.datetime t.instant) = true) :
    KeepsTime α given s t ↔ t.offset.getD 0 % 60 = 0 := by
  have hmoment : t.shown.readAt? (t.offset.getD 0) = some t.instant ↔ t.offset.getD 0 % 60 = 0 :=
    Instant.readAt?_eq_iff t.offset_lt
  rw [← hmoment]
  refine ⟨readAt?_of_keepsTime hkeeps hholds hgiven, fun hread => ?_⟩
  have htime {key : String} {n : SentNode} (hn : lastValue? key n.properties = some t.value) :
      readTime (n.readBy given) key = some t.instant :=
    (readTime_readBy hgiven hn).trans hread
  have hfield {f : Field} (hf : f ∈ s.scalars) (hkind : f.kind = .datetime) {n : SentNode}
      (hn : lastValue? f.storedName n.properties = some t.value) :
      takenValue? α (n.readBy given).properties f = some (.datetime t.instant) := by
    rw [takenValue?, readValue?_readBy hgiven hkind hn, hread]
    exact Option.filter_eq_some_iff.2 ⟨rfl, htakes f hf hkind⟩
  refine ⟨forSent_iff.2 fun n hn => ?created, forSent_iff.2 fun n hn => ?updated,
    forSent_iff.2 fun n hn => ?deleted, fun f hf hkind => forSent_iff.2 fun n hn => ?field⟩
  case field =>
    rw [Converter.readField_fromNodeBy hlawful (Converter.nodup_names_scalars hnames) hf,
      hfield hf hkind hn, Option.some_or]
  all_goals
    rw [Converter.metadata_fromNodeBy hkeeps hholds]
    exact htime hn

end Entities

/-- The forms of a driver that has none for date-times. -/
def untimed? : Value → Option Json
  | .zonedDatetime .. | .localDatetime .. => none
  | v => v.given?

theorem leavesTimes_untimed? : LeavesTimes untimed? := by
  intro t
  refine .inr fun text => ?_
  unfold NativeTime.value
  split <;> simp [untimed?]

/-- Clocks five hours and three quarters ahead. -/
def quarterAhead : NativeTime where
  shown := ⟨1700000000, 500000000⟩
  offset := some 20700

/-- What they show is kept, whether the driver has a form for it or not. -/
theorem keepsTime_iff_quarterAhead :
    KeepsTime Sheet Value.given? (Entity.schema Sheet) quarterAhead ∧
      KeepsTime Sheet untimed? (Entity.schema Sheet) quarterAhead := by
  have hkept {given : Value → Option Json} (hgiven : LeavesTimes given) :
      KeepsTime Sheet given (Entity.schema Sheet) quarterAhead :=
    (keepsTime_iff (Sheet.isLawful _) (Sheet.keepsMetadata _) Sheet.holdsMetadata (by decide)
      hgiven quarterAhead fun _ _ _ => rfl).2 (by decide)
  exact ⟨hkept leavesTimes_given?, hkept leavesTimes_untimed?⟩

/-- Clocks a second short of a day ahead. -/
def dayAhead : NativeTime where
  shown := ⟨1700000000, 0⟩
  offset := some 86399

/-- What they show is lost, whether the driver has a form for it or not. -/
theorem not_keepsTime_dayAhead :
    ¬ KeepsTime Sheet Value.given? (Entity.schema Sheet) dayAhead ∧
      ¬ KeepsTime Sheet untimed? (Entity.schema Sheet) dayAhead := by
  have hlost : dayAhead.shown.readAt? (dayAhead.offset.getD 0) ≠ some dayAhead.instant := by decide
  have hread {given : Value → Option Json} (hgiven : LeavesTimes given)
      (h : KeepsTime Sheet given (Entity.schema Sheet) dayAhead) :=
    readAt?_of_keepsTime (Sheet.keepsMetadata _) Sheet.holdsMetadata hgiven h
  exact ⟨fun h => hlost (hread leavesTimes_given? h),
    fun h => hlost (hread leavesTimes_untimed? h)⟩

end EntityGraph.Bolt
