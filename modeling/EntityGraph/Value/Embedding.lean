import EntityGraph.Value.Basic
/-!
# Plain data as field values

The field value of a text, a number, a truth value, a point in time, of
something optional and of a list.
-/

namespace EntityGraph

/-- Data of a type that are field values. -/
class Embeds (α : Type) where
  value : α → Value

namespace Embeds

instance : Embeds String := ⟨.string⟩
instance : Embeds Int := ⟨.integer⟩
instance : Embeds Number.Binary64 := ⟨.float⟩
instance : Embeds Bool := ⟨.boolean⟩
instance : Embeds Time.Instant := ⟨.datetime⟩

/-- What is absent is null. -/
instance {α : Type} [Embeds α] : Embeds (Option α) :=
  ⟨fun optional => .ofOption (optional.map value)⟩

/-- A list is the list of the values of its items. -/
instance {α : Type} [Embeds α] : Embeds (List α) :=
  ⟨fun items => .list (items.map value)⟩

end Embeds

end EntityGraph
