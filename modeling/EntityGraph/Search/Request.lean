import EntityGraph.Schema.Basic
import EntityGraph.Time.Instant
import EntityGraph.Number.Binary64
import EntityGraph.Text.Blank
/-!
# Search requests

What a search asks for: free text, filters on single fields, an order, and a
page of the results. A filter whose value says nothing is not active and adds
no condition.
-/

namespace EntityGraph

open Number (Binary64)
open Time (Instant)

/-- What a filter wants of a field. -/
inductive FilterValue where
  /-- A part of the text, whatever the case of its letters. -/
  | text (s : String)
  | enum (variant : String)
  | integer (n : Int)
  | float (x : Binary64)
  | boolean (b : Bool)
  | datetime (t : Instant)
  /-- One of some texts; for a relationship, of a linked node. -/
  | oneOf (texts : List String)
deriving DecidableEq, Repr

/-- A condition on one field. -/
structure Filter where
  field : Field
  value : FilterValue
deriving DecidableEq, Repr

namespace Filter

/-- The parameter that holds the value of the filter. -/
def parameter (f : Filter) : String :=
  f.field.lowerName

/-- Whether a variant is the first of its enumeration, up to case: the one
that says nothing. -/
def isUnsaid (kind : Kind) (variant : String) : Bool :=
  match kind with
  | .enum (first :: _) => Text.eqIgnoringCase first variant
  | _ => false

/-- Whether the filter adds a condition. -/
def isActive (f : Filter) : Bool :=
  match f.value with
  | .text s => !Text.isBlank s
  | .enum variant => !Text.isBlank variant && !isUnsaid f.field.kind variant
  | .integer n => n != 0
  | .float x => !x.isZero
  | .boolean b => b
  | .datetime t => t != .epoch
  | .oneOf texts => !texts.isEmpty && !texts.any Text.isBlank

end Filter

/-- A request for one page of the entities of a type. -/
structure SearchRequest where
  /-- The free text to look for. -/
  text : Option String := none
  /-- The number of the page, counted from one. -/
  page : UInt32 := 1
  /-- The number of entities on a page; zero for no limit. -/
  pageSize : UInt32 := 25
  /-- Whether entities marked as deleted are among the results. -/
  includeDeleted : Bool := false
  /-- The stored name of the field that orders the results. -/
  orderBy : Option String := some "created_at"
  descending : Bool := true
  /-- The stored names that the free text is looked for in; if there are none,
  the schema says where. -/
  searchableFields : List String := []
  filters : List Filter := []
deriving DecidableEq, Repr

namespace SearchRequest

/-- The number of entities before the page. Page and page size are 32-bit
words, so their product is a 64-bit word. -/
def skip (r : SearchRequest) : UInt64 :=
  ((max r.page 1) - 1).toUInt64 * r.pageSize.toUInt64

/-- The request for a free text. -/
def withText (r : SearchRequest) (text : String) : SearchRequest :=
  { r with text := some text }

/-- The request for a page, the first if the number is zero. -/
def withPage (r : SearchRequest) (page : UInt32) : SearchRequest :=
  { r with page := max page 1 }

/-- The request with a number of entities on a page. -/
def withPageSize (r : SearchRequest) (pageSize : UInt32) : SearchRequest :=
  { r with pageSize }

/-- The request with or without entities marked as deleted. -/
def withIncludeDeleted (r : SearchRequest) (includeDeleted : Bool) : SearchRequest :=
  { r with includeDeleted }

/-- The request with its results in the order of a field. -/
def withOrder (r : SearchRequest) (field : String) (descending : Bool) : SearchRequest :=
  { r with orderBy := some field, descending }

/-- The request with its results in no order. -/
def withoutOrder (r : SearchRequest) : SearchRequest :=
  { r with orderBy := none }

/-- The request that looks for free text in the given fields. -/
def withSearchableFields (r : SearchRequest) (searchableFields : List String) : SearchRequest :=
  { r with searchableFields }

/-- The request with one more filter. -/
def withFilter (r : SearchRequest) (field : Field) (value : FilterValue) : SearchRequest :=
  { r with filters := r.filters ++ [⟨field, value⟩] }

/-- The free text without the white space at its ends, if there is any. -/
def soughtText (r : SearchRequest) : Option String :=
  (r.text.map Text.trim).filter (!·.isEmpty)

/-- The order field without the white space at its ends, if there is any. -/
def soughtOrder (r : SearchRequest) : Option String :=
  (r.orderBy.map Text.trim).filter (!·.isEmpty)

/-- The filters that add a condition. -/
def activeFilters (r : SearchRequest) : List Filter :=
  r.filters.filter (·.isActive)

/-- The stored names that the free text is looked for in. -/
def effectiveFields (r : SearchRequest) (s : Schema) : List String :=
  if r.searchableFields.isEmpty then s.searchableFields else r.searchableFields

end SearchRequest

/-- One page of results, with the number of matches on all pages. -/
structure Page (α : Type) where
  items : List α := []
  total : Int := 0

namespace Page

variable {α : Type}

/-- The number of items on the page. -/
def size (p : Page α) : Nat :=
  p.items.length

/-- Whether the page has no item. -/
def isEmpty (p : Page α) : Bool :=
  p.items.isEmpty

end Page

end EntityGraph
