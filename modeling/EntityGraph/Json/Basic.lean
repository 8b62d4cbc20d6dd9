import EntityGraph.Bag
import EntityGraph.Number.Binary64
/-!
# JSON values

The values that properties, parameters and columns hold. A number is either an
integer or a floating-point number, and the two are never the same value: an
integer is written without point or exponent. Objects keep their members in a
list; an object made from a bag has its keys in ascending order.
-/

namespace EntityGraph

open Number (Binary64)

/-- A JSON value. -/
inductive Json where
  | null
  | bool (b : Bool)
  | int (n : Int)
  | float (x : Binary64)
  | str (s : String)
  | arr (items : List Json)
  | obj (members : List (String × Json))

namespace Json

instance : Inhabited Json := ⟨null⟩

mutual

/-- Decides equality of two values. -/
def decEq : (a b : Json) → Decidable (a = b)
  | null, null => isTrue rfl
  | bool a, bool b => decidable_of_iff (a = b) ⟨congrArg _, fun h => by cases h; rfl⟩
  | int a, int b => decidable_of_iff (a = b) ⟨congrArg _, fun h => by cases h; rfl⟩
  | float a, float b => decidable_of_iff (a = b) ⟨congrArg _, fun h => by cases h; rfl⟩
  | str a, str b => decidable_of_iff (a = b) ⟨congrArg _, fun h => by cases h; rfl⟩
  | arr a, arr b =>
    have := decEqItems a b
    decidable_of_iff (a = b) ⟨congrArg _, fun h => by cases h; rfl⟩
  | obj a, obj b =>
    have := decEqMembers a b
    decidable_of_iff (a = b) ⟨congrArg _, fun h => by cases h; rfl⟩
  | null, bool _ | null, int _ | null, float _ | null, str _ | null, arr _ | null, obj _
  | bool _, null | bool _, int _ | bool _, float _ | bool _, str _ | bool _, arr _
  | bool _, obj _
  | int _, null | int _, bool _ | int _, float _ | int _, str _ | int _, arr _ | int _, obj _
  | float _, null | float _, bool _ | float _, int _ | float _, str _ | float _, arr _
  | float _, obj _
  | str _, null | str _, bool _ | str _, int _ | str _, float _ | str _, arr _ | str _, obj _
  | arr _, null | arr _, bool _ | arr _, int _ | arr _, float _ | arr _, str _ | arr _, obj _
  | obj _, null | obj _, bool _ | obj _, int _ | obj _, float _ | obj _, str _
  | obj _, arr _ => isFalse (fun h => by cases h)

/-- Decides equality of two lists of values. -/
def decEqItems : (as bs : List Json) → Decidable (as = bs)
  | [], [] => isTrue rfl
  | [], _ :: _ | _ :: _, [] => isFalse (fun h => by cases h)
  | a :: as, b :: bs =>
    have := decEq a b
    have := decEqItems as bs
    decidable_of_iff (a = b ∧ as = bs) (by simp)

/-- Decides equality of two lists of members. -/
def decEqMembers : (as bs : List (String × Json)) → Decidable (as = bs)
  | [], [] => isTrue rfl
  | [], _ :: _ | _ :: _, [] => isFalse (fun h => by cases h)
  | (k, a) :: as, (l, b) :: bs =>
    have := decEq a b
    have := decEqMembers as bs
    decidable_of_iff ((k = l ∧ a = b) ∧ as = bs) (by simp)

end

instance : DecidableEq Json := decEq

/-- The object of a bag. -/
def ofBag (bag : Bag Json) : Json :=
  obj bag.entries

/-- A list of texts. -/
def ofTexts (texts : List String) : Json :=
  arr (texts.map str)

/-- A number, or null where JSON has no form for it: the infinities and what
is no number. -/
def ofFloat (x : Binary64) : Json :=
  if x.isFinite then float x else null

/-- The text of a value that is one. -/
def asText? : Json → Option String
  | str s => some s
  | _ => none

/-- Whether a value is null. -/
def isNull : Json → Bool
  | null => true
  | _ => false

/-- The integer of a value that is one, in the signed 64-bit range. -/
def asInt64? : Json → Option Int
  | int n => if Number.isInt64 n then some n else none
  | _ => none

/-- The natural of a value that is an integer and not negative. -/
def asNat? : Json → Option Nat
  | int n => if 0 ≤ n then some n.toNat else none
  | _ => none

/-- The floating-point number nearest to a value that is a number. -/
def asFloat? : Json → Option Binary64
  | int n => some (.ofInt n)
  | float x => some x
  | _ => none

end Json

end EntityGraph
