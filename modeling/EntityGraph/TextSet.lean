import EntityGraph.Bag
/-!
# Sets of texts

Finite sets of texts, each listed in ascending order without repetition, and
the difference between two of them: what is to be removed from one and added
to it to arrive at the other.
-/

namespace EntityGraph

/-- A finite set of texts: a bag whose values say nothing. -/
structure TextSet where
  marks : Bag Unit
deriving DecidableEq

namespace TextSet

/-- The set without members. -/
def empty : TextSet := ⟨.empty⟩

instance : Inhabited TextSet := ⟨empty⟩

/-- Whether a text is a member. -/
def contains (s : TextSet) (text : String) : Bool :=
  s.marks.contains text

/-- The members in ascending order. -/
def toList (s : TextSet) : List String :=
  s.marks.keys

/-- The set with some texts added. -/
def insertAll (s : TextSet) (texts : List String) : TextSet :=
  ⟨s.marks.insertAll (texts.map fun text => (text, ()))⟩

/-- The set of some texts. -/
def ofList (texts : List String) : TextSet :=
  empty.insertAll texts

/-- The members that `keep` accepts. -/
def filter (s : TextSet) (keep : String → Bool) : TextSet :=
  ⟨s.marks.filter fun text _ => keep text⟩

/-- The members of one set that are not in another. -/
def difference (s t : TextSet) : TextSet :=
  s.filter (!t.contains ·)

/-- The members of two sets together. -/
def union (s t : TextSet) : TextSet :=
  s.insertAll t.toList

/-- Whether there is no member. -/
def isEmpty (s : TextSet) : Bool :=
  s.toList.isEmpty

end TextSet

/-- What leads from one set to another. -/
structure Delta where
  toRemove : TextSet
  toAdd : TextSet
deriving DecidableEq

namespace Delta

/-- The difference that leads from the current set to the desired one. -/
def between (current desired : TextSet) : Delta :=
  ⟨current.difference desired, desired.difference current⟩

/-- Whether nothing is to be done. -/
def isEmpty (d : Delta) : Bool :=
  d.toRemove.isEmpty && d.toAdd.isEmpty

/-- The set that a difference leads to. -/
def apply (d : Delta) (current : TextSet) : TextSet :=
  (current.difference d.toRemove).union d.toAdd

end Delta

end EntityGraph
