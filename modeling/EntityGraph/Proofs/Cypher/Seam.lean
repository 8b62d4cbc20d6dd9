import EntityGraph.Proofs.Cypher.Group
/-!
# Places in a group

The places between the parts of what a group encloses, at any depth: outside of
texts and of names between accents (`IsSeam`). Anything balanced may be put at
such a place (`IsSeam.insert`), and every other place is inside of a text or of
a name (`IsGroupBody.isSeam_or_inside`). A balanced body is told from one that
closes a bracket too many by either sort of bracket (`closer_eq_of_append`).
-/

namespace EntityGraph.Cypher

/-- **A place between the parts of a group:** what the group encloses in front of
it and behind it, the place being between two parts or in a group among them. -/
inductive IsSeam : List Char → List Char → Prop
  | between {front back : List Char} :
      IsGroupBody front → IsGroupBody back → IsSeam front back
  | inside {opener closer : Char} {before front back after : List Char} :
      closer? opener = some closer → IsGroupBody before → IsSeam front back →
      IsGroupBody after → IsSeam (before ++ opener :: front) (back ++ closer :: after)

/-- **Anything balanced may be put** at a place between the parts. -/
theorem IsSeam.insert {front back text : List Char} (h : IsSeam front back)
    (htext : IsGroupBody text) : IsGroupBody (front ++ (text ++ back)) := by
  induction h with
  | between hfront hback => exact hfront.append (htext.append hback)
  | inside hpair hbefore _ hafter ih =>
    have hgroup := hbefore.append (.group hpair ih hafter)
    simpa using hgroup

/-- Balanced parts may come before a place. -/
theorem IsSeam.prepend {front back body : List Char} (h : IsSeam front back)
    (hbody : IsGroupBody body) : IsSeam (body ++ front) back := by
  cases h with
  | between hfront hback => exact .between (hbody.append hfront) hback
  | inside hpair hbefore hseam hafter =>
    rw [← List.append_assoc]
    exact .inside hpair (hbody.append hbefore) hseam hafter

/-- A place inside of a text or of a name between accents, which stands between
the parts of a group. -/
def IsInside (front back : List Char) : Prop :=
  ∃ before head tail after, front = before ++ head ∧ back = tail ++ after ∧ head ≠ [] ∧
    tail ≠ [] ∧ IsSeam before after ∧
    (IsLiteral (head ++ tail) ∨ ∃ content, head ++ tail = (Name.escaped content).chars)

theorem IsInside.prepend {front back body : List Char} (h : IsInside front back)
    (hbody : IsGroupBody body) : IsInside (body ++ front) back := by
  obtain ⟨before, head, tail, after, rfl, rfl, hhead, htail, hseam, hpart⟩ := h
  exact ⟨body ++ before, head, tail, after, by rw [List.append_assoc], rfl, hhead, htail,
    hseam.prepend hbody, hpart⟩

/-- It stays inside when brackets are put around. -/
theorem IsInside.nest {opener closer : Char} {front back after : List Char}
    (h : IsInside front back) (hpair : closer? opener = some closer) (hafter : IsGroupBody after) :
    IsInside (opener :: front) (back ++ closer :: after) := by
  obtain ⟨before, head, tail, behind, rfl, rfl, hhead, htail, hseam, hpart⟩ := h
  exact ⟨opener :: before, head, tail, behind ++ closer :: after, rfl, by rw [List.append_assoc],
    hhead, htail, .inside hpair .nil hseam hafter, hpart⟩

/-- A place in a text or a name with more behind it. -/
theorem isSeam_or_inside_of_part {part rest front back : List Char} (hrest : IsGroupBody rest)
    (hpart : IsLiteral part ∨ ∃ content, part = (Name.escaped content).chars)
    (hbody : IsGroupBody part)
    (hsplit : part ++ rest = front ++ back)
    (ih : ∀ front back, rest = front ++ back → IsSeam front back ∨ IsInside front back) :
    IsSeam front back ∨ IsInside front back := by
  rcases List.append_eq_append_iff.1 hsplit with ⟨front', rfl, hback⟩ | ⟨tail, rfl, rfl⟩
  · exact (ih front' back hback).imp (·.prepend hbody) (·.prepend hbody)
  · by_cases hhead : front = []
    · subst hhead
      exact .inl (.between .nil (hbody.append hrest))
    · by_cases htail : tail = []
      · subst htail
        rw [List.append_nil] at hbody
        exact .inl (.between hbody hrest)
      · exact .inr ⟨[], front, tail, rest, rfl, rfl, hhead, htail, .between .nil hrest, hpart⟩

/-- **Every place in a group** is between its parts or inside of a text or a
name. -/
theorem IsGroupBody.isSeam_or_inside {cs : List Char} (h : IsGroupBody cs) :
    ∀ front back, cs = front ++ back → IsSeam front back ∨ IsInside front back := by
  induction h with
  | nil =>
    intro front back hsplit
    obtain ⟨rfl, rfl⟩ := List.append_eq_nil_iff.1 hsplit.symm
    exact .inl (.between .nil .nil)
  | @plain c cs hc hcs ih =>
    intro front back hsplit
    cases front with
    | nil =>
      obtain rfl : c :: cs = back := hsplit
      exact .inl (.between .nil (.plain hc hcs))
    | cons d front =>
      obtain ⟨rfl, hrest⟩ := List.cons.inj hsplit
      have hbody : IsGroupBody [c] := .plain hc .nil
      exact (ih front back hrest).imp (·.prepend hbody) (·.prepend hbody)
  | @literal text cs htext hcs ih =>
    intro front back hsplit
    have hbody : IsGroupBody (text ++ []) := .literal htext .nil
    rw [List.append_nil] at hbody
    exact isSeam_or_inside_of_part hcs (.inl htext) hbody hsplit ih
  | @escaped content cs hcs ih =>
    intro front back hsplit
    have hbody : IsGroupBody ((Name.escaped content).chars ++ []) := .escaped content .nil
    rw [List.append_nil] at hbody
    exact isSeam_or_inside_of_part hcs (.inr ⟨content, rfl⟩) hbody hsplit ih
  | @group opener closer inner cs hpair hinner hcs ihinner ih =>
    intro front back hsplit
    cases front with
    | nil =>
      obtain rfl : opener :: (inner ++ closer :: cs) = back := hsplit
      exact .inl (.between .nil (.group hpair hinner hcs))
    | cons d front =>
      obtain ⟨rfl, hrest⟩ := List.cons.inj hsplit
      rcases List.append_eq_append_iff.1 hrest with ⟨front', rfl, hback⟩ | ⟨back', rfl, rfl⟩
      · cases front' with
        | nil =>
          obtain rfl : closer :: cs = back := hback
          rw [List.append_nil]
          exact .inl (.inside hpair .nil (.between hinner .nil) hcs)
        | cons e front' =>
          obtain ⟨rfl, hcs'⟩ := List.cons.inj hback
          have hbody : IsGroupBody (opener :: (inner ++ [closer])) := .group hpair hinner .nil
          have hnext := (ih front' back hcs').imp (·.prepend hbody) (·.prepend hbody)
          simpa using hnext
      · exact (ihinner front back' rfl).imp (.inside hpair .nil · hcs) (·.nest hpair hcs)

/-! ### Bodies with more around them -/

theorem isGroupChar_quote {c : Char} (h : isQuote c = true) : isGroupChar c = false := by
  simp [isGroupChar, h]

theorem isGroupChar_brackets {opener closer : Char} (h : closer? opener = some closer) :
    isGroupChar opener = false ∧ isGroupChar closer = false := by
  rcases closer?_eq_some_iff.1 h with ⟨rfl, rfl⟩ | ⟨rfl, rfl⟩ | ⟨rfl, rfl⟩ <;> decide

/-- A balanced body is balanced without a character by itself in front, -/
theorem IsGroupBody.of_cons {c : Char} {cs : List Char} (hc : isGroupChar c = true)
    (h : IsGroupBody (c :: cs)) : IsGroupBody cs := by
  generalize hds : c :: cs = ds at h
  cases h with
  | nil => simp at hds
  | plain _ hrest =>
    obtain ⟨-, rfl⟩ := List.cons.inj hds
    exact hrest
  | literal htext _ =>
    obtain ⟨quote, body, hquote, -, rfl⟩ := htext
    obtain ⟨rfl, -⟩ := List.cons.inj hds
    simp [isGroupChar_quote hquote] at hc
  | escaped content _ =>
    obtain ⟨rfl, -⟩ := List.cons.inj hds
    exact absurd hc (by decide)
  | group hpair _ _ =>
    obtain ⟨rfl, -⟩ := List.cons.inj hds
    simp [(isGroupChar_brackets hpair).1] at hc

/-- and without one at its end. -/
theorem IsGroupBody.of_append_singleton {c : Char} {cs : List Char} (hc : isGroupChar c = true)
    (h : IsGroupBody (cs ++ [c])) : IsGroupBody cs := by
  -- Either the character ends what comes after a part, or it ends the part.
  have hpart {part rest cs : List Char} (hsplit : part ++ rest = cs ++ [c]) :
      part = cs ++ [c] ∨ ∃ init, rest = init ++ [c] ∧ cs = part ++ init := by
    rcases List.eq_nil_or_concat rest with rfl | ⟨init, d, rfl⟩
    · exact .inl (by simpa using hsplit)
    · rw [List.concat_eq_append, ← List.append_assoc] at hsplit
      obtain ⟨hinit, hd⟩ := List.append_inj' hsplit rfl
      exact .inr ⟨init, by rw [List.concat_eq_append, hd], hinit.symm⟩
  have hlast {part init cs : List Char} {d : Char} (hd : isGroupChar d = false)
      (hend : part = init ++ [d]) (heq : part = cs ++ [c]) : False := by
    obtain ⟨-, hdc⟩ := List.append_inj' (hend.symm.trans heq) rfl
    obtain rfl : d = c := by simpa using hdc
    simp [hc] at hd
  generalize hds : cs ++ [c] = ds at h
  induction h generalizing cs with
  | nil => simp at hds
  | @plain d ds hd hrest ih =>
    have hsplit : [d] ++ ds = cs ++ [c] := hds.symm
    rcases hpart hsplit with hone | ⟨init, rfl, rfl⟩
    · obtain ⟨hnil, -⟩ := List.append_inj' (show [] ++ [d] = cs ++ [c] from hone) rfl
      exact hnil ▸ .nil
    · exact .plain hd (ih rfl)
  | literal htext hrest ih =>
    rcases hpart hds.symm with hone | ⟨init, rfl, rfl⟩
    · obtain ⟨quote, body, hquote, -, rfl⟩ := htext
      exact (hlast (isGroupChar_quote hquote) (List.cons_append ..).symm hone).elim
    · exact .literal htext (ih rfl)
  | escaped content hrest ih =>
    rcases hpart hds.symm with hone | ⟨init, rfl, rfl⟩
    · have haccent : isGroupChar accent = false := by decide
      exact (hlast haccent (List.cons_append ..).symm hone).elim
    · exact .escaped content (ih rfl)
  | @group opener closer inner ds hpair hinner hrest ihinner ih =>
    have hsplit : opener :: (inner ++ [closer]) ++ ds = cs ++ [c] := by simpa using hds.symm
    rcases hpart hsplit with hone | ⟨init, rfl, rfl⟩
    · have hcloser := (isGroupChar_brackets hpair).2
      exact (hlast hcloser (List.cons_append ..).symm hone).elim
    · have hgroup := IsGroupBody.group hpair hinner (ih rfl)
      simpa using hgroup

/-- **A balanced body closes no bracket too many:** its brackets are not closed
at some place where it is balanced already. -/
theorem not_isGroupBody_append_closer {opener closer : Char} {body rest : List Char}
    (hpair : closer? opener = some closer) (hbody : IsGroupBody body) :
    ¬ IsGroupBody (body ++ closer :: rest) := by
  intro h
  have hshort : scanGroup ⟨[closer], .code⟩ (body ++ closer :: (rest ++ [closer])) =
      some (body ++ [closer], rest ++ [closer]) := scanGroup_body hpair hbody
  have hlong : scanGroup ⟨[closer], .code⟩ (body ++ closer :: rest ++ [closer]) =
      some (body ++ closer :: rest ++ [closer], []) := scanGroup_body hpair h
  rw [List.append_assoc, List.cons_append, hshort] at hlong
  simp at hlong

/-- The first bracket too many is of one sort. -/
theorem closer_eq_of_append {opener closer opener' closer' : Char}
    {body body' rest rest' : List Char} (hpair : closer? opener = some closer)
    (hpair' : closer? opener' = some closer') (hbody : IsGroupBody body)
    (hbody' : IsGroupBody body') (h : body ++ closer :: rest = body' ++ closer' :: rest') :
    closer = closer' := by
  rcases List.append_eq_append_iff.1 h with ⟨more, rfl, hrest⟩ | ⟨more, rfl, hrest⟩
  · cases more with
    | nil => exact (List.cons.inj hrest).1
    | cons c more =>
      obtain ⟨rfl, -⟩ := List.cons.inj hrest
      exact absurd hbody' (not_isGroupBody_append_closer hpair hbody)
  · cases more with
    | nil => exact (List.cons.inj hrest).1.symm
    | cons c more =>
      obtain ⟨rfl, -⟩ := List.cons.inj hrest
      exact absurd hbody (not_isGroupBody_append_closer hpair' hbody')

end EntityGraph.Cypher
