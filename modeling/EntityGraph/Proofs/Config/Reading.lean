import EntityGraph.Config.Variable
import EntityGraph.Proofs.Text.Visible
/-!
# Values at the front

A value is read from the front of some characters: what follows it is an end of
them (`takesFront_readValue`). Lists and tables are read alike, element by
element up to a closing character. The depth to which values are read cuts
nothing off: each list or table takes a character for itself, so what is read at
some depth is read at any that is as great as the number of characters allows
(`readValue_of_le`).
-/

namespace EntityGraph.Config.Variable

/-! ### Readers -/

section Readers

variable {α : Type}

/-- What follows a value that is read is an end of the characters. -/
def TakesFront (read : List Char → Option (α × List Char)) : Prop :=
  ∀ cs a rest, read cs = some (a, rest) → rest <:+ cs

/-- What one reader reads of so many characters, the other one reads too. -/
def ReadBy (n : Nat) (read read' : List Char → Option (α × List Char)) : Prop :=
  ∀ cs, cs.length ≤ n → ∀ x, read cs = some x → read' cs = some x

/-- The elements up to a closing character, read one after another: `one` reads
an element and `more` what comes after the comma. -/
def readUntil (close : Char) (one : List Char → Option (α × List Char))
    (more : List Char → Option (List α × List Char)) (cs : List Char) :
    Option (List α × List Char) :=
  if cs.head? = some close then some ([], cs.tail)
  else (one cs).bind fun (a, rest) =>
    if rest.head? = some ',' then (more rest.tail).map fun (as, rest) => (a :: as, rest)
    else if rest.head? = some close then some ([a], rest.tail) else none

theorem tail_suffix_of_suffix {rest cs : List Char} (h : rest <:+ cs) : rest.tail <:+ cs :=
  (List.tail_suffix rest).trans h

/-- What is read is nothing, one element, or an element and more. -/
theorem readUntil_eq_some {close : Char} {one : List Char → Option (α × List Char)}
    {more : List Char → Option (List α × List Char)} {cs : List Char} {x : List α × List Char}
    (h : readUntil close one more cs = some x) :
    (cs.head? = some close ∧ x = ([], cs.tail)) ∨
    (cs.head? ≠ some close ∧ ∃ a rest, one cs = some (a, rest) ∧
      ((rest.head? = some ',' ∧ ∃ as last, more rest.tail = some (as, last) ∧ x = (a :: as, last)) ∨
        (rest.head? ≠ some ',' ∧ rest.head? = some close ∧ x = ([a], rest.tail)))) := by
  unfold readUntil at h
  split at h
  · next hclose => exact .inl ⟨hclose, (Option.some.inj h).symm⟩
  · next hclose =>
    obtain ⟨⟨a, rest⟩, hone, h⟩ := Option.bind_eq_some_iff.1 h
    refine .inr ⟨hclose, a, rest, hone, ?_⟩
    simp only at h
    split at h
    · next hcomma =>
      obtain ⟨⟨as, last⟩, hmore, rfl⟩ := Option.map_eq_some_iff.1 h
      exact .inl ⟨hcomma, as, last, hmore, rfl⟩
    · next hcomma =>
      split at h
      · next hend => exact .inr ⟨hcomma, hend, (Option.some.inj h).symm⟩
      · cases h

theorem TakesFront.until {close : Char} {one : List Char → Option (α × List Char)}
    {more : List Char → Option (List α × List Char)} (hone : TakesFront one)
    (hmore : TakesFront more) : TakesFront (readUntil close one more) := by
  intro cs as rest h
  obtain ⟨-, hx⟩ | ⟨-, a, rest', ha, ⟨-, as', last, has, hx⟩ | ⟨-, -, hx⟩⟩ := readUntil_eq_some h
  · obtain ⟨-, rfl⟩ := Prod.mk.inj hx
    exact List.tail_suffix cs
  · obtain ⟨-, rfl⟩ := Prod.mk.inj hx
    exact (hmore _ _ _ has).trans (tail_suffix_of_suffix (hone _ _ _ ha))
  · obtain ⟨-, rfl⟩ := Prod.mk.inj hx
    exact tail_suffix_of_suffix (hone _ _ _ ha)

/-- More elements are fewer characters by the comma before them. -/
theorem ReadBy.until {n : Nat} {close : Char} {one one' : List Char → Option (α × List Char)}
    {more more' : List Char → Option (List α × List Char)} (hfront : TakesFront one)
    (hone : ReadBy n one one') (hmore : ∀ m < n, ReadBy m more more') :
    ReadBy n (readUntil close one more) (readUntil close one' more') := by
  intro cs hcs x h
  obtain ⟨hclose, rfl⟩ | ⟨hclose, a, rest, ha, hrest⟩ := readUntil_eq_some h
  · rw [readUntil, if_pos hclose]
  · rw [readUntil, if_neg hclose, hone cs hcs _ ha]
    obtain ⟨hcomma, as, last, has, rfl⟩ | ⟨hcomma, hend, rfl⟩ := hrest
    · have hlength : rest.tail.length < n := by
        have hsuffix := (hfront _ _ _ ha).length_le
        cases rest with
        | nil => cases hcomma
        | cons c rest => simpa using Nat.lt_of_lt_of_le (Nat.lt_succ_self _) (hsuffix.trans hcs)
      have hmore := hmore _ hlength _ (Nat.le_refl _) _ has
      simp [hcomma, hmore]
    · simp only [Option.bind_some, if_neg hcomma, if_pos hend]

end Readers

/-! ### Values -/

/-- A pair of a key and a value. -/
def readPair (value : List Char → Option (Setting × List Char)) (cs : List Char) :
    Option ((String × Setting) × List Char) :=
  (readKey (skipGap cs)).bind fun (key, rest) =>
    if (skipGap rest).head? = some '=' then
      (value (skipGap rest).tail).map fun (setting, rest) => ((key, setting), rest)
    else none

/-- A value without the blanks around it. -/
def readFront (items : List Char → Option (List Setting × List Char))
    (pairs : List Char → Option (Table × List Char)) (cs : List Char) :
    Option (Setting × List Char) :=
  match cs with
  | 't' :: 'r' :: 'u' :: 'e' :: rest => some (.bool true, rest)
  | 'f' :: 'a' :: 'l' :: 's' :: 'e' :: rest => some (.bool false, rest)
  | '\x7b' :: rest => (pairs rest).map fun (pairs, rest) =>
      (.table (pairs.foldl (fun table pair => insertSorted pair.1 pair.2 table) []), rest)
  | '[' :: rest => (items rest).map fun (items, rest) => (.list items, rest)
  | '"' :: rest => (readQuoted rest).map fun (s, rest) => (.text s, rest)
  | '\'' :: c :: '\'' :: rest => some (.text (String.singleton c), rest)
  | '\'' :: _ => none
  | rest => some (readPlain rest)

theorem readValue_succ (depth : Nat) (cs : List Char) : readValue (depth + 1) cs =
    (readFront (readItems depth) (readPairs depth) (skipGap cs)).map (Prod.map id skipGap) := by
  rw [readValue]
  rfl

theorem readItems_succ (depth : Nat) :
    readItems (depth + 1) = readUntil ']' (readValue depth) (readItems depth) := by
  funext cs
  by_cases hclose : cs.head? = some ']'
  · obtain ⟨rest, rfl⟩ := List.head?_eq_some_iff.1 hclose
    rfl
  · rw [readUntil, if_neg hclose, readItems]
    · refine Option.bind_congr fun (item, rest) _ => ?_
      simp only
      split
      · rw [List.head?_cons, if_pos rfl, List.tail_cons, Option.map_eq_bind]
        rfl
      · rfl
      · next hcomma hend =>
        rw [if_neg, if_neg]
        · simpa [List.head?_eq_some_iff] using hend
        · simpa [List.head?_eq_some_iff] using hcomma
    · simpa [List.head?_eq_some_iff] using hclose

theorem readPairs_succ (depth : Nat) :
    readPairs (depth + 1) = readUntil '\x7d' (readPair (readValue depth)) (readPairs depth) := by
  funext cs
  by_cases hclose : cs.head? = some '\x7d'
  · obtain ⟨rest, rfl⟩ := List.head?_eq_some_iff.1 hclose
    rfl
  · rw [readUntil, if_neg hclose, readPairs]
    · rw [readPair, Option.bind_assoc]
      refine Option.bind_congr fun (key, rest) _ => ?_
      simp only
      split
      · next rest hequals =>
        rw [hequals, List.head?_cons, if_pos rfl, Option.map_eq_bind, Option.bind_assoc]
        refine Option.bind_congr fun (value, rest) _ => ?_
        simp only [Function.comp_apply, Option.bind_some]
        split
        · rw [List.head?_cons, if_pos rfl, List.tail_cons, Option.map_eq_bind]
          rfl
        · rfl
        · next hcomma hend =>
          rw [if_neg, if_neg]
          · simpa [List.head?_eq_some_iff] using hend
          · simpa [List.head?_eq_some_iff] using hcomma
      · next hequals =>
        rw [if_neg, Option.bind_none]
        simpa [List.head?_eq_some_iff] using hequals
    · simpa [List.head?_eq_some_iff] using hclose

/-! ### What follows a value -/

theorem suffix_of_splitQuoted {quote : Char} {escapes : Bool} {cs body rest : List Char}
    (h : splitQuoted quote escapes cs = some (body, rest)) :
    rest <:+ cs ∧ body.length + rest.length < cs.length := by
  fun_induction splitQuoted quote escapes cs generalizing body rest with
  | case1 => cases h
  | case2 c cs hquote =>
    cases h
    exact ⟨List.suffix_cons _ _, by simp⟩
  | case3 c hquote hescape => cases h
  | case4 c hquote hescape d cs ih =>
    obtain ⟨⟨body, rest⟩, hrest, hx⟩ := Option.map_eq_some_iff.1 h
    obtain ⟨rfl, rfl⟩ := Prod.mk.inj hx
    obtain ⟨hsuffix, hlength⟩ := ih hrest
    refine ⟨(hsuffix.trans (List.suffix_cons _ _)).trans (List.suffix_cons _ _), ?_⟩
    simp only [List.length_cons]
    omega
  | case5 c cs hquote hescape ih =>
    obtain ⟨⟨body, rest⟩, hrest, hx⟩ := Option.map_eq_some_iff.1 h
    obtain ⟨rfl, rfl⟩ := Prod.mk.inj hx
    obtain ⟨hsuffix, hlength⟩ := ih hrest
    refine ⟨hsuffix.trans (List.suffix_cons _ _), ?_⟩
    simp only [List.length_cons]
    omega

theorem takesFront_readQuoted : TakesFront readQuoted := by
  intro cs s rest h
  obtain ⟨⟨body, rest'⟩, hsplit, h⟩ := Option.bind_eq_some_iff.1 h
  obtain ⟨meant, -, hx⟩ := Option.bind_eq_some_iff.1 h
  obtain ⟨-, rfl⟩ := Prod.mk.inj (Option.some.inj hx)
  exact (suffix_of_splitQuoted hsplit).1

theorem takesFront_readKey : TakesFront readKey := by
  intro cs key rest h
  unfold readKey at h
  split at h
  · exact (takesFront_readQuoted _ _ _ h).trans (List.suffix_cons _ _)
  · split at h
    · cases h
    · obtain ⟨-, rfl⟩ := Prod.mk.inj (Option.some.inj h)
      exact List.dropWhile_suffix _

theorem skipGap_suffix (cs : List Char) : skipGap cs <:+ cs :=
  List.dropWhile_suffix _

theorem TakesFront.pair {value : List Char → Option (Setting × List Char)}
    (hvalue : TakesFront value) : TakesFront (readPair value) := by
  intro cs pair rest h
  obtain ⟨⟨key, rest'⟩, hkey, h⟩ := Option.bind_eq_some_iff.1 h
  simp only at h
  split at h
  · obtain ⟨⟨setting, last⟩, hsetting, hx⟩ := Option.map_eq_some_iff.1 h
    obtain ⟨-, rfl⟩ := Prod.mk.inj hx
    exact (hvalue _ _ _ hsetting).trans (tail_suffix_of_suffix ((skipGap_suffix _).trans
      ((takesFront_readKey _ _ _ hkey).trans (skipGap_suffix _))))
  · cases h

theorem TakesFront.front {items : List Char → Option (List Setting × List Char)}
    {pairs : List Char → Option (Table × List Char)} (hitems : TakesFront items)
    (hpairs : TakesFront pairs) : TakesFront (readFront items pairs) := by
  intro cs value rest h
  unfold readFront at h
  split at h
  · cases h
    exact List.suffix_append ['t', 'r', 'u', 'e'] _
  · cases h
    exact List.suffix_append ['f', 'a', 'l', 's', 'e'] _
  · obtain ⟨⟨members, last⟩, hmembers, hx⟩ := Option.map_eq_some_iff.1 h
    cases hx
    exact (hpairs _ _ _ hmembers).trans (List.suffix_cons _ _)
  · obtain ⟨⟨values, last⟩, hvalues, hx⟩ := Option.map_eq_some_iff.1 h
    cases hx
    exact (hitems _ _ _ hvalues).trans (List.suffix_cons _ _)
  · obtain ⟨⟨s, last⟩, hs, hx⟩ := Option.map_eq_some_iff.1 h
    cases hx
    exact (takesFront_readQuoted _ _ _ hs).trans (List.suffix_cons _ _)
  · next c rest' =>
    cases h
    exact List.suffix_append ['\'', c, '\''] _
  · cases h
  · cases h
    exact List.dropWhile_suffix _

/-- **Reading takes from the front:** what follows a value, the items of a list
or the pairs of a table is an end of the characters. -/
theorem takesFront_read (depth : Nat) : TakesFront (readValue depth) ∧
    TakesFront (readItems depth) ∧ TakesFront (readPairs depth) := by
  induction depth with
  | zero =>
    refine ⟨?_, ?_, ?_⟩ <;> intro cs a rest h <;> simp [readValue, readItems, readPairs] at h
  | succ depth ih =>
    obtain ⟨hvalue, hitems, hpairs⟩ := ih
    rw [readItems_succ, readPairs_succ]
    refine ⟨fun cs value rest h => ?_, hvalue.until hitems, hvalue.pair.until hpairs⟩
    rw [readValue_succ] at h
    obtain ⟨⟨value', last⟩, hfront, hx⟩ := Option.map_eq_some_iff.1 h
    obtain ⟨-, rfl⟩ := Prod.mk.inj hx
    exact (skipGap_suffix _).trans
      ((hitems.front hpairs _ _ _ hfront).trans (skipGap_suffix _))

/-! ### The depth cuts nothing off -/

theorem ReadBy.pair {n : Nat} {value value' : List Char → Option (Setting × List Char)}
    (hvalue : ReadBy n value value') : ReadBy n (readPair value) (readPair value') := by
  intro cs hcs x h
  obtain ⟨⟨key, rest⟩, hkey, h⟩ := Option.bind_eq_some_iff.1 h
  simp only at h
  split at h
  · next hequals =>
    obtain ⟨⟨setting, last⟩, hsetting, rfl⟩ := Option.map_eq_some_iff.1 h
    have hsuffix : (skipGap rest).tail <:+ cs := tail_suffix_of_suffix ((skipGap_suffix _).trans
      ((takesFront_readKey _ _ _ hkey).trans (skipGap_suffix _)))
    have hvalue' := hvalue _ (hsuffix.length_le.trans hcs) _ hsetting
    simp [readPair, hkey, hequals, hvalue']
  · cases h

/-- What stands between brackets or braces is fewer characters by the opening
one. -/
theorem ReadBy.front {n : Nat} {items items' : List Char → Option (List Setting × List Char)}
    {pairs pairs' : List Char → Option (Table × List Char)}
    (hitems : ∀ m < n, ReadBy m items items') (hpairs : ∀ m < n, ReadBy m pairs pairs') :
    ReadBy n (readFront items pairs) (readFront items' pairs') := by
  intro cs hcs x h
  unfold readFront at h
  split at h
  · exact h
  · exact h
  · next rest =>
    obtain ⟨⟨members, last⟩, hmembers, rfl⟩ := Option.map_eq_some_iff.1 h
    have hmembers' := hpairs rest.length hcs rest (Nat.le_refl _) _ hmembers
    simp [readFront, hmembers']
  · next rest =>
    obtain ⟨⟨values, last⟩, hvalues, rfl⟩ := Option.map_eq_some_iff.1 h
    have hvalues' := hitems rest.length hcs rest (Nat.le_refl _) _ hvalues
    simp [readFront, hvalues']
  · exact h
  · exact h
  · cases h
  · -- A plain word holds nothing that is read deeper.
    rw [← h]
    unfold readFront
    split <;> simp_all

/-- **The depth cuts nothing off:** what is read at some depth is read at twice
the number of characters and one more, or two more for items and pairs. -/
theorem readBy_of_le (depth : Nat) :
    (∀ n depth', 2 * n + 1 ≤ depth' → ReadBy n (readValue depth) (readValue depth')) ∧
    (∀ n depth', 2 * n + 2 ≤ depth' → ReadBy n (readItems depth) (readItems depth')) ∧
    (∀ n depth', 2 * n + 2 ≤ depth' → ReadBy n (readPairs depth) (readPairs depth')) := by
  induction depth with
  | zero =>
    refine ⟨?_, ?_, ?_⟩ <;> intro n depth' _ cs _ x h <;>
      simp [readValue, readItems, readPairs] at h
  | succ depth ih =>
    obtain ⟨hvalue, hitems, hpairs⟩ := ih
    obtain ⟨hfront, -, -⟩ := takesFront_read depth
    refine ⟨fun n depth' hle cs hcs x h => ?_, fun n depth' hle => ?_, fun n depth' hle => ?_⟩
    · obtain ⟨depth', rfl⟩ : ∃ k, depth' = k + 1 := ⟨depth' - 1, by omega⟩
      rw [readValue_succ] at h ⊢
      obtain ⟨y, hy, rfl⟩ := Option.map_eq_some_iff.1 h
      have hread := ReadBy.front (fun m hm => hitems m depth' (by omega))
        (fun m hm => hpairs m depth' (by omega)) _
        ((skipGap_suffix cs).length_le.trans hcs) y hy
      rw [hread, Option.map_some]
    · obtain ⟨depth', rfl⟩ : ∃ k, depth' = k + 1 := ⟨depth' - 1, by omega⟩
      rw [readItems_succ, readItems_succ]
      exact (hvalue n depth' (by omega)).until hfront fun m hm => hitems m depth' (by omega)
    · obtain ⟨depth', rfl⟩ : ∃ k, depth' = k + 1 := ⟨depth' - 1, by omega⟩
      rw [readPairs_succ, readPairs_succ]
      exact (hvalue n depth' (by omega)).pair.until hfront.pair
        fun m hm => hpairs m depth' (by omega)

end EntityGraph.Config.Variable
