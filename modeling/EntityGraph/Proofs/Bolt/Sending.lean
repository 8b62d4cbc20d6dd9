import EntityGraph.Bolt.Client
import EntityGraph.Proofs.Bag
import Mathlib.Data.List.Forall2
import Mathlib.Data.List.Nodup
/-!
# Parameters on their way

What the database is sent for JSON values, and what a statement binds. What
stands for a JSON value tells the value, as long as its integers fit 64 bits
(`eq_of_ofJson_eq`). The database does not see the order of the members of a map, so
values may be the same to it that are written differently (`Value.Same`), and they
tell the value even so (`eq_of_same`). Every parameter of a statement is bound once,
to what stands for its own value, in whatever order they are bound (`bindAll_eq`).
-/

namespace EntityGraph

/-- Every integer of a JSON value fits a signed 64-bit word. -/
inductive Json.FitsInt64 : Json → Prop
  | null : FitsInt64 .null
  | bool (b : Bool) : FitsInt64 (.bool b)
  | int {n : Int} : Number.isInt64 n = true → FitsInt64 (.int n)
  | float (x : Number.Binary64) : FitsInt64 (.float x)
  | str (s : String) : FitsInt64 (.str s)
  | arr {items : List Json} : (∀ item ∈ items, FitsInt64 item) → FitsInt64 (.arr items)
  | obj {members : List (String × Json)} : (∀ e ∈ members, FitsInt64 e.2) →
    FitsInt64 (.obj members)

/-- The members of every object of a JSON value are in ascending order of keys, as
those of a bag are. -/
inductive Json.IsOrdered : Json → Prop
  | null : IsOrdered .null
  | bool (b : Bool) : IsOrdered (.bool b)
  | int (n : Int) : IsOrdered (.int n)
  | float (x : Number.Binary64) : IsOrdered (.float x)
  | str (s : String) : IsOrdered (.str s)
  | arr {items : List Json} : (∀ item ∈ items, IsOrdered item) → IsOrdered (.arr items)
  | obj {members : List (String × Json)} : KeysAscend members →
    (∀ e ∈ members, IsOrdered e.2) → IsOrdered (.obj members)

/-- Entries of different keys may be taken in any order. -/
theorem lastValue?_perm {α : Type} {xs ys : List (String × α)} (h : xs.Perm ys)
    (hnodup : (ys.map Prod.fst).Nodup) (key : String) :
    lastValue? key xs = lastValue? key ys := by
  cases hx : lastValue? key xs with
  | none =>
    rw [lastValue?_eq_none_iff] at hx
    refine (lastValue?_eq_none_iff.2 fun hmem => hx ?_).symm
    exact (h.map Prod.fst).mem_iff.2 hmem
  | some value =>
    have hmem := h.mem_iff.1 (mem_of_lastValue? hx)
    obtain ⟨d, hd, hkey, hlast⟩ := exists_lastValue? hmem rfl
    rw [hlast, List.inj_on_of_nodup_map hnodup hd hmem hkey]

namespace Bolt

/-- Values are the same to the database: alike, but for the order in which the
members of maps are written. -/
inductive Value.Same : Value → Value → Prop
  | refl (v : Value) : Same v v
  | list {vs ws : List Value} : List.Forall₂ Same vs ws → Same (.list vs) (.list ws)
  | map {vs ws : List (String × Value)} :
    (∀ key, Option.Rel Same (lastValue? key vs) (lastValue? key ws)) → Same (.map vs) (.map ws)

namespace Value

variable {vs ws : List Value} {as bs : List (String × Value)}

theorem Same.of_eq {v w : Value} (h : v = w) : Same v w :=
  h ▸ .refl v

theorem Same.forall₂ (h : Same (.list vs) (.list ws)) : List.Forall₂ Same vs ws := by
  cases h with
  | refl => exact List.forall₂_same.2 fun v _ => .refl v
  | list h => exact h

theorem Same.rel (h : Same (.map as) (.map bs)) (key : String) :
    Option.Rel Same (lastValue? key as) (lastValue? key bs) := by
  cases h with
  | refl =>
    cases lastValue? key as with
    | none => exact .none
    | some v => exact .some (.refl v)
  | map h => exact h key

theorem ofJsonItems_eq_map (items : List Json) : ofJsonItems items = items.map ofJson := by
  induction items with
  | nil => rfl
  | cons item items ih => rw [ofJsonItems, ih, List.map_cons]

theorem ofJsonMembers_eq_map (members : List (String × Json)) :
    ofJsonMembers members = members.map fun (key, value) => (key, ofJson value) := by
  induction members with
  | nil => rfl
  | cons member members ih =>
    obtain ⟨key, value⟩ := member
    rw [ofJsonMembers, ih, List.map_cons]

end Value

open Value (Same ofJson)

/-! ### What values tell -/

/-- A list is the same as lists alone, and a map as maps. -/
theorem Value.Same.eq_or {v w : Value} (h : Same v w) :
    v = w ∨ (∃ vs ws, v = .list vs ∧ w = .list ws) ∨ ∃ vs ws, v = .map vs ∧ w = .map ws := by
  cases h with
  | refl => exact .inl rfl
  | list => exact .inr (.inl ⟨_, _, rfl, rfl⟩)
  | map => exact .inr (.inr ⟨_, _, rfl, rfl⟩)

/-- Only arrays stand as lists, -/
theorem exists_arr_of_ofJson {a : Json} (ha : a.FitsInt64) {vs : List Value}
    (h : ofJson a = .list vs) : ∃ as, a = .arr as := by
  cases ha <;> simp_all [ofJson, Value.ofInt]

/-- and only objects as maps. -/
theorem exists_obj_of_ofJson {a : Json} (ha : a.FitsInt64) {vs : List (String × Value)}
    (h : ofJson a = .map vs) : ∃ as, a = .obj as := by
  cases ha <;> simp_all [ofJson, Value.ofInt]

/-- So two JSON values are told apart by what stands for them, unless both are arrays
or both are objects. -/
theorem eq_or_of_same {a b : Json} (ha : a.FitsInt64) (hb : b.FitsInt64)
    (h : Same (ofJson a) (ofJson b)) :
    a = b ∨ (∃ as bs, a = .arr as ∧ b = .arr bs) ∨ ∃ as bs, a = .obj as ∧ b = .obj bs := by
  rcases h.eq_or with heq | ⟨vs, ws, hvs, hws⟩ | ⟨vs, ws, hvs, hws⟩
  · -- Integers that fit stand as integers, so every kind of JSON has a kind of its own.
    cases ha <;> cases hb <;> simp_all [ofJson, Value.ofInt]
  · obtain ⟨as, rfl⟩ := exists_arr_of_ofJson ha hvs
    obtain ⟨bs, rfl⟩ := exists_arr_of_ofJson hb hws
    exact .inr (.inl ⟨as, bs, rfl, rfl⟩)
  · obtain ⟨as, rfl⟩ := exists_obj_of_ofJson ha hvs
    obtain ⟨bs, rfl⟩ := exists_obj_of_ofJson hb hws
    exact .inr (.inr ⟨as, bs, rfl, rfl⟩)

/-- **A relation of JSON values is equality** if what it relates is the same to the
database, and arrays and objects that it relates are equal as soon as it is equality
on what they hold. -/
theorem eq_of_related {R : Json → Json → Prop}
    (hsame : ∀ {a b}, R a b → Same (ofJson a) (ofJson b))
    (harr : ∀ {as bs}, R (.arr as) (.arr bs) →
      (∀ a ∈ as, ∀ b ∈ bs, R a b → a = b) → as = bs)
    (hobj : ∀ {as bs}, R (.obj as) (.obj bs) →
      (∀ a ∈ as, ∀ b ∈ bs, R a.2 b.2 → a.2 = b.2) → as = bs)
    {a b : Json} (ha : a.FitsInt64) (hb : b.FitsInt64) (h : R a b) : a = b := by
  -- The induction is on what fits, as it goes down into arrays and objects.
  induction ha generalizing b with
  | null => simpa using eq_or_of_same .null hb (hsame h)
  | bool p => simpa using eq_or_of_same (.bool p) hb (hsame h)
  | int hn => simpa using eq_or_of_same (.int hn) hb (hsame h)
  | float x => simpa using eq_or_of_same (.float x) hb (hsame h)
  | str s => simpa using eq_or_of_same (.str s) hb (hsame h)
  | arr has ih =>
    rcases eq_or_of_same (.arr has) hb (hsame h) with heq | ⟨_, bs, -, rfl⟩ | ⟨_, _, hne, -⟩
    · exact heq
    · cases hb with
      | arr hbs => exact congrArg Json.arr (harr h fun a ha b hb => ih a ha (hbs b hb))
    · contradiction
  | obj has ih =>
    rcases eq_or_of_same (.obj has) hb (hsame h) with heq | ⟨_, _, hne, -⟩ | ⟨_, bs, -, rfl⟩
    · exact heq
    · contradiction
    · cases hb with
      | obj hbs => exact congrArg Json.obj (hobj h fun a ha b hb => ih a ha (hbs b hb))

/-- Lists whose images agree item by item are the same where items are told by their
images. -/
theorem eq_of_forall₂_map {α β : Type} {R : β → β → Prop} {f : α → β} {as bs : List α}
    (h : List.Forall₂ R (as.map f) (bs.map f))
    (hitems : ∀ a ∈ as, ∀ b ∈ bs, R (f a) (f b) → a = b) : as = bs := by
  rw [List.forall₂_map_left_iff, List.forall₂_map_right_iff, List.forall₂_iff_zip] at h
  obtain ⟨hlength, hzip⟩ := h
  have heq : List.Forall₂ Eq as bs := by
    refine List.forall₂_iff_zip.2 ⟨hlength, fun {a b} hmem => ?_⟩
    obtain ⟨ha, hb⟩ := List.of_mem_zip hmem
    exact hitems a ha b hb (hzip hmem)
  rwa [List.forall₂_eq_eq_eq] at heq

theorem eq_of_map_eq {α β : Type} {f : α → β} {as bs : List α} (h : as.map f = bs.map f)
    (hitems : ∀ a ∈ as, ∀ b ∈ bs, f a = f b → a = b) : as = bs :=
  eq_of_forall₂_map (List.forall₂_eq_eq_eq ▸ h) hitems

/-- **What stands for a JSON value tells the value.** -/
theorem eq_of_ofJson_eq {a b : Json} (ha : a.FitsInt64) (hb : b.FitsInt64)
    (h : ofJson a = ofJson b) : a = b := by
  refine eq_of_related (R := fun a b => ofJson a = ofJson b) .of_eq ?_ ?_ ha hb h
  · intro as bs h hitems
    have heq : as.map ofJson = bs.map ofJson := by
      rw [← Value.ofJsonItems_eq_map, ← Value.ofJsonItems_eq_map]
      exact Value.list.inj h
    exact eq_of_map_eq heq hitems
  · intro as bs h hvalues
    have heq := Value.map.inj h
    rw [Value.ofJsonMembers_eq_map, Value.ofJsonMembers_eq_map] at heq
    refine eq_of_map_eq heq fun a hamem b hbmem hmember => ?_
    obtain ⟨hkey, hvalue⟩ := Prod.mk.inj hmember
    exact Prod.ext hkey (hvalues a hamem b hbmem hvalue)

/-- Objects are told by what they have under each key. -/
theorem members_eq_of_same {as bs : List (String × Json)} (has : KeysAscend as)
    (hbs : KeysAscend bs) (h : Same (ofJson (.obj as)) (ofJson (.obj bs)))
    (hmembers : ∀ a ∈ as, ∀ b ∈ bs, Same (ofJson a.2) (ofJson b.2) → a.2 = b.2) : as = bs := by
  refine has.eq_of_lookupEntry hbs fun key => ?_
  have hrel : Option.Rel Same ((lastValue? key as).map ofJson) ((lastValue? key bs).map ofJson) := by
    rw [← lastValue?_map, ← lastValue?_map, ← Value.ofJsonMembers_eq_map,
      ← Value.ofJsonMembers_eq_map]
    exact Value.Same.rel h key
  rw [← has.lastValue?_eq, ← hbs.lastValue?_eq]
  cases ha : lastValue? key as with
  | none =>
    cases hb : lastValue? key bs with
    | none => rfl
    | some b => rw [ha, hb] at hrel; cases hrel
  | some a =>
    cases hb : lastValue? key bs with
    | none => rw [ha, hb] at hrel; cases hrel
    | some b =>
      rw [ha, hb] at hrel
      cases hrel with
      | some hsame =>
        exact congrArg some (hmembers _ (mem_of_lastValue? ha) _ (mem_of_lastValue? hb) hsame)

/-- **What is the same to the database stands for the same JSON value.** -/
theorem eq_of_same {a b : Json} (ha : a.FitsInt64) (hb : b.FitsInt64) (hao : a.IsOrdered)
    (hbo : b.IsOrdered) (h : Same (ofJson a) (ofJson b)) : a = b := by
  refine eq_of_related (R := fun a b => a.IsOrdered ∧ b.IsOrdered ∧ Same (ofJson a) (ofJson b))
    (fun h => h.2.2) ?_ ?_ ha hb ⟨hao, hbo, h⟩
  · rintro as bs ⟨haso, hbso, hsame⟩ hitems
    cases haso with | arr haso =>
    cases hbso with | arr hbso =>
    have hforall : List.Forall₂ Same (as.map ofJson) (bs.map ofJson) := by
      rw [← Value.ofJsonItems_eq_map, ← Value.ofJsonItems_eq_map]
      exact hsame.forall₂
    exact eq_of_forall₂_map hforall fun a ha b hb h => hitems a ha b hb ⟨haso a ha, hbso b hb, h⟩
  · rintro as bs ⟨haso, hbso, hsame⟩ hvalues
    cases haso with | obj hascend haso =>
    cases hbso with | obj hbscend hbso =>
    exact members_eq_of_same hascend hbscend hsame fun a ha b hb h =>
      hvalues a ha b hb ⟨haso a ha, hbso b hb, h⟩

/-! ### What statements bind -/

/-- Parameters are bound once each, to what stands for their own values. -/
structure Binds (parameters : Bag Json) (bound : Bag Value) : Prop where
  nodup : bound.keys.Nodup
  keys : bound.keys = parameters.keys
  own : ∀ name, bound.get? name = (parameters.get? name).map ofJson

/-- A name that is bound more than once is bound to the last of its values. -/
theorem get?_bindAll (order : List (String × Json)) (name : String) :
    (bindAll order).get? name = (lastValue? name order).map ofJson := by
  have hbound : bindAll order =
      Bag.ofList (order.map fun (name, value) => (name, ofJson value)) := by
    rw [Bag.ofList, Bag.insertAll, List.foldl_map]
    rfl
  rw [hbound, Bag.get?_ofList, lastValue?_map]

/-- **The order in which parameters are bound does not matter.** -/
theorem bindAll_eq {parameters : Bag Json} {order : List (String × Json)}
    (h : order.Perm parameters.entries) : bindAll order = parameters.map ofJson := by
  refine Bag.ext_get? fun name => ?_
  rw [get?_bindAll, Bag.get?_map, lastValue?_perm h parameters.nodup_keys,
    parameters.ascending.lastValue?_eq]
  rfl

theorem binds_map (parameters : Bag Json) : Binds parameters (parameters.map ofJson) where
  nodup := Bag.nodup_keys _
  keys := parameters.keys_map ofJson
  own := parameters.get?_map ofJson

/-- **Parameters survive the way to the database.** Values whose integers fit 64 bits
are told by what stands for them, even where the order of members is not seen. A
statement binds each of its parameters once, to what stands for its own value, in
whatever order they are bound. -/
theorem parameters_survive :
    (∀ a b : Json, a.FitsInt64 → b.FitsInt64 → ofJson a = ofJson b → a = b) ∧
    (∀ a b : Json, a.FitsInt64 → b.FitsInt64 → a.IsOrdered → b.IsOrdered →
      Same (ofJson a) (ofJson b) → a = b) ∧
    ∀ (s : Statement) (order : List (String × Json)), order.Perm s.parameters.entries →
      Binds s.parameters (bindAll order) ∧
        Request.ofStatement s = .run s.text (bindAll order) := by
  refine ⟨fun a b ha hb h => eq_of_ofJson_eq ha hb h,
    fun a b ha hb hao hbo h => eq_of_same ha hb hao hbo h, fun s order horder => ⟨?_, ?_⟩⟩
  · rw [bindAll_eq horder]
    exact binds_map s.parameters
  · rw [Request.ofStatement, bindAll_eq horder, bindAll_eq (List.Perm.refl _)]

/-- An object with a null. -/
def withNull : Json :=
  .obj [("a", .null), ("b", .arr [.int 1])]

/-- The same object without it. -/
def withoutNull : Json :=
  .obj [("b", .arr [.int 1])]

/-- A statement with both. -/
def twoObjects : Statement where
  text := "RETURN $x, $y"
  parameters := ⟨[("x", withNull), ("y", withoutNull)], by unfold KeysAscend; decide⟩

/-- They are not the same to the database, nor are the numbers one, and they are bound
in either order. -/
theorem parameters_survive_twoObjects :
    ofJson (.int 1) ≠ ofJson (.float (.ofInt 1)) ∧
    ¬ Same (ofJson withNull) (ofJson withoutNull) ∧
    Binds twoObjects.parameters (bindAll [("y", withoutNull), ("x", withNull)]) ∧
    Request.ofStatement twoObjects =
      .run "RETURN $x, $y" (bindAll [("y", withoutNull), ("x", withNull)]) := by
  obtain ⟨hnumbers, htold, hbound⟩ := parameters_survive
  have hones : Json.FitsInt64 (.arr [.int 1]) :=
    .arr (List.forall_mem_singleton.2 (.int rfl))
  have hones' : Json.IsOrdered (.arr [.int 1]) :=
    .arr (List.forall_mem_singleton.2 (.int 1))
  have hwith : withNull.FitsInt64 ∧ withNull.IsOrdered := by
    constructor
    · exact .obj (List.forall_mem_cons.2 ⟨.null, List.forall_mem_singleton.2 hones⟩)
    · exact .obj (by unfold KeysAscend; decide)
        (List.forall_mem_cons.2 ⟨.null, List.forall_mem_singleton.2 hones'⟩)
  have hwithout : withoutNull.FitsInt64 ∧ withoutNull.IsOrdered :=
    ⟨.obj (List.forall_mem_singleton.2 hones),
      .obj (List.pairwise_singleton ..) (List.forall_mem_singleton.2 hones')⟩
  refine ⟨fun hsame => ?_, fun hsame => ?_, hbound twoObjects _ (List.Perm.swap ..)⟩
  · have heq := hnumbers (.int 1) (.float (.ofInt 1)) (.int rfl) (.float _) hsame
    contradiction
  · have heq := htold _ _ hwith.1 hwithout.1 hwith.2 hwithout.2 hsame
    simp [withNull, withoutNull] at heq

end Bolt

end EntityGraph
