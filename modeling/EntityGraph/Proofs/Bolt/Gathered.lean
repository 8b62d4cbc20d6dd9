import EntityGraph.Proofs.Bolt.Arrival
/-!
# Lists of nodes and relationships

What the server gathers into lists, nested to any depth, and what a column that
holds such a list is read as. A list of nodes keeps all that they are. In any
other list a node or a relationship is only its properties (`column_values`), and
its identifiers are lost however deep it stands. So a list keeps what it holds
exactly when it holds nodes and nothing else, or neither nodes nor relationships
at any depth (`keepsWhole_iff`).
-/

namespace EntityGraph

/-- The object of a bag tells the bag. -/
theorem Json.ofBag_injective : Function.Injective Json.ofBag := by
  rintro ⟨entries, _⟩ ⟨others, _⟩ h
  obtain rfl : entries = others := Json.obj.inj h
  rfl

theorem sizeOf_lt_of_lookupEntry {entries : List (String × Json)} {key : String} {v : Json}
    (h : lookupEntry key entries = some v) : sizeOf v < sizeOf entries := by
  induction entries with
  | nil => simp [lookupEntry] at h
  | cons e entries ih =>
    obtain ⟨other, w⟩ := e
    rw [lookupEntry] at h
    rw [List.cons.sizeOf_spec, Prod.mk.sizeOf_spec]
    split at h
    · obtain rfl : w = v := Option.some.inj h
      omega
    · have := ih h
      omega

/-- **No object is a member of itself.** -/
theorem Bag.get?_ne_ofBag (bag : Bag Json) (key : String) : bag.get? key ≠ some (.ofBag bag) := by
  intro h
  have := sizeOf_lt_of_lookupEntry h
  rw [Json.ofBag, Json.obj.sizeOf_spec] at this
  omega

/-- So an object with a member is not that member. -/
theorem Json.ofBag_ne_of_lastValue? {bag : Bag Json} {entries : List (String × Json)}
    (key : String) (h : lastValue? key entries = some (.ofBag bag)) :
    Json.ofBag bag ≠ Json.ofBag (.ofList entries) := by
  intro hsame
  refine Bag.get?_ne_ofBag bag key ?_
  conv_lhs => rw [Json.ofBag_injective hsame, Bag.get?_ofList]
  exact h

namespace Bolt

/-- What the server gathers into lists: nodes, relationships and lists of these. -/
inductive Gathered where
  | node (n : SentNode)
  | edge (e : SentEdge)
  | list (items : List Gathered)

namespace Gathered

/-- Whether it is a node. -/
def isNode : Gathered → Bool
  | node _ => true
  | edge _ | list _ => false

mutual

/-- What the server sends for it. -/
def value : Gathered → Value
  | node n => n.value
  | edge e => e.value
  | list items => .list (values items)

/-- What the server sends for some of it. -/
def values : List Gathered → List Value
  | [] => []
  | item :: items => item.value :: values items

end

mutual

/-- Its JSON form, in which nodes and relationships are all that they are as the
only value of a column. -/
def whole : Gathered → Json
  | node n => n.read.toJson
  | edge e => e.read.toJson
  | list items => .arr (wholes items)

/-- The JSON forms of some of it. -/
def wholes : List Gathered → List Json
  | [] => []
  | item :: items => item.whole :: wholes items

end

mutual

/-- Its JSON form, in which nodes and relationships are only their properties. -/
def bare : Gathered → Json
  | node n => .ofBag n.read.properties
  | edge e => .ofBag e.read.properties
  | list items => .arr (bares items)

/-- The JSON forms of some of it. -/
def bares : List Gathered → List Json
  | [] => []
  | item :: items => item.bare :: bares items

end

mutual

/-- Whether there is neither a node nor a relationship in it. -/
def isHollow : Gathered → Bool
  | node _ | edge _ => false
  | list items => areHollow items

/-- Whether there is none in some of it. -/
def areHollow : List Gathered → Bool
  | [] => true
  | item :: items => item.isHollow && areHollow items

end

/-! ### What is read of a list -/

mutual

/-- A value on its own in a list, or deeper, is read as its properties. -/
theorem plain_value : (g : Gathered) → g.value.plain = g.bare
  | node n => congrArg Json.ofBag (Value.properties_given? n.properties).symm
  | edge e => congrArg Json.ofBag (Value.properties_given? e.properties).symm
  | list items => congrArg Json.arr (plainItems_values items)

theorem plainItems_values : (items : List Gathered) →
    Value.plainItems (values items) = bares items
  | [] => rfl
  | item :: items => congrArg₂ List.cons (plain_value item) (plainItems_values items)

end

theorem exists_nodes {items : List Gathered} (h : items.all isNode = true) :
    ∃ ns : List SentNode, items = ns.map node := by
  induction items with
  | nil => exact ⟨[], rfl⟩
  | cons item items ih =>
    rw [List.all_cons, Bool.and_eq_true] at h
    obtain ⟨hitem, hitems⟩ := h
    obtain ⟨ns, rfl⟩ := ih hitems
    cases item with
    | node n => exact ⟨n :: ns, rfl⟩
    | edge e => simp [isNode] at hitem
    | list items => simp [isNode] at hitem

theorem values_nodes (ns : List SentNode) : values (ns.map node) = ns.map SentNode.value := by
  induction ns with
  | nil => rfl
  | cons n ns ih => exact congrArg (n.value :: ·) ih

theorem wholes_nodes (ns : List SentNode) :
    wholes (ns.map node) = (ns.map SentNode.read).map Node.toJson := by
  induction ns with
  | nil => rfl
  | cons n ns ih => exact congrArg (n.read.toJson :: ·) ih

/-- One thing that is no node is enough for a list not to be one of nodes. -/
theorem asNodes?_values {items : List Gathered} (h : items.all isNode = false) :
    (Value.list (values items)).asNodes? Value.given? = none := by
  rw [Value.asNodes?]
  induction items with
  | nil => simp at h
  | cons item items ih =>
    rw [values, List.mapM_cons]
    cases item with
    | node n =>
      have hrest : items.all isNode = false := by simpa [isNode] using h
      rw [ih hrest]
      rfl
    | edge e => rfl
    | list items => rfl

/-- **What a column that holds a list is read as.** -/
theorem column_values (items : List Gathered) : (Value.list (values items)).column =
    .arr (if items.all isNode then wholes items else bares items) := by
  cases h : items.all isNode with
  | true =>
    obtain ⟨ns, rfl⟩ := exists_nodes h
    rw [values_nodes, column_nodes, if_pos rfl, wholes_nodes]
  | false =>
    rw [Value.column, Value.columnBy, asNodes?_values h, if_neg (by decide), ← plainItems_values]
    rfl

/-! ### What is kept -/

mutual

/-- **Properties alone are the whole of nothing but lists,** and of these only where
no list in them holds anything else. -/
theorem bare_eq_whole_iff : (g : Gathered) → (g.bare = g.whole ↔ g.isHollow = true)
  | node n => by
    refine ⟨fun h => absurd h ?_, fun h => by simp [isHollow] at h⟩
    exact Json.ofBag_ne_of_lastValue? "properties" (by simp [lastValue?])
  | edge e => by
    refine ⟨fun h => absurd h ?_, fun h => by simp [isHollow] at h⟩
    exact Json.ofBag_ne_of_lastValue? "properties" (by simp [lastValue?])
  | list items => by
    rw [bare, whole, Json.arr.injEq, isHollow]
    exact bares_eq_wholes_iff items

theorem bares_eq_wholes_iff :
    (items : List Gathered) → (bares items = wholes items ↔ areHollow items = true)
  | [] => by simp [bares, wholes, areHollow]
  | item :: items => by
    rw [bares, wholes, areHollow, List.cons.injEq, Bool.and_eq_true]
    exact and_congr (bare_eq_whole_iff item) (bares_eq_wholes_iff items)

end

/-- A column that holds a list shows the whole of what is in it. -/
def KeepsWhole (items : List Gathered) : Prop :=
  ∀ (columns fields : List String) (sent : List Value), ∀ column ∈ columns,
    sent? fields sent column = some (.list (values items)) →
    (decodeRow columns fields sent).columns.get? column = some (.arr (wholes items))

/-- One column is enough to see it. -/
theorem keepsWhole_iff_column (items : List Gathered) :
    KeepsWhole items ↔ (Value.list (values items)).column = .arr (wholes items) := by
  constructor
  · intro h
    have hmem : "v" ∈ ["v"] := List.mem_singleton.2 rfl
    have hsent : sent? ["v"] [.list (values items)] "v" = some (.list (values items)) := by
      rw [sent?, Bag.get?_ofList]
      rfl
    have hshown := h ["v"] ["v"] _ "v" hmem hsent
    rw [get?_decodeRow hmem, hsent] at hshown
    exact Option.some.inj hshown
  · intro h columns fields sent column hmem hsent
    rw [get?_decodeRow hmem, hsent]
    exact congrArg some h

/-- **What lists keep.** A list is read with all that its nodes and relationships
are exactly when it holds nodes and nothing else, or no node or relationship at
any depth. -/
theorem keepsWhole_iff (items : List Gathered) :
    KeepsWhole items ↔ items.all isNode = true ∨ areHollow items = true := by
  rw [keepsWhole_iff_column, column_values, Json.arr.injEq]
  cases h : items.all isNode with
  | true => simp
  | false =>
    rw [if_neg (by decide), bares_eq_wholes_iff]
    simp

/-- A relationship on its own in a list. -/
def loneLike : SentEdge :=
  ⟨1, 2, 3, "LIKE", [("weight", .int 1)]⟩

/-- It is read as its properties, without its type and its ends. -/
theorem not_keepsWhole_loneLike : ¬ KeepsWhole [edge loneLike] := by
  rw [keepsWhole_iff_column, column_values, Json.arr.injEq]
  decide +kernel

end Gathered

end Bolt

end EntityGraph
