import EntityGraph.Proofs.Statement.Clauses
import EntityGraph.Proofs.Text.Words
/-!
# Safe texts

A text is safe when it is written in letters, digits, underscores and a few
marks, its brackets are balanced, and each of its words is one that it may hold
(`IsSafe`). Nothing in such a text can end a literal, a name or a statement
before its time. Safe texts are put together around marks and inside brackets,
and whether a given text is safe can be computed.
-/

namespace EntityGraph.Statement

open Cypher (closer? isCloser isGroupChar)
open Text (IsWord words mem_words_iff words_append_cons words_run)

/-! ### Brackets -/

/-- The brackets that are still to be closed after one more character,
innermost first, unless the character closes none of them in its turn. -/
def bracketStep (due : List Char) (c : Char) : Option (List Char) :=
  if isCloser c then
    match due with
    | closer :: outer => if c = closer then some outer else none
    | [] => none
  else some ((closer? c).toList ++ due)

/-- Every bracket is closed in its turn, by a bracket of its own sort. -/
def IsBalanced (cs : List Char) : Prop :=
  cs.foldlM bracketStep [] = some []

instance (cs : List Char) : Decidable (IsBalanced cs) :=
  inferInstanceAs (Decidable (_ = _))

/-- What is to be closed further out changes nothing further in. -/
theorem bracketStep_append {due due' : List Char} {c : Char} (h : bracketStep due c = some due')
    (outer : List Char) : bracketStep (due ++ outer) c = some (due' ++ outer) := by
  unfold bracketStep at h ⊢
  split at h
  · next hclose =>
    rw [if_pos hclose]
    cases due with
    | nil => simp at h
    | cons closer due =>
      change (if c = closer then some due else none) = some due' at h
      by_cases hc : c = closer
      · rw [if_pos hc] at h
        obtain rfl := Option.some.inj h
        exact if_pos hc
      · rw [if_neg hc] at h
        simp at h
  · next hclose =>
    obtain rfl := Option.some.inj h
    rw [if_neg hclose, List.append_assoc]

theorem foldlM_bracketStep_append {cs due due' : List Char}
    (h : cs.foldlM bracketStep due = some due') (outer : List Char) :
    cs.foldlM bracketStep (due ++ outer) = some (due' ++ outer) := by
  induction cs generalizing due with
  | nil =>
    obtain rfl := Option.some.inj h
    rfl
  | cons c cs ih =>
    obtain ⟨next, hnext, h⟩ := Option.bind_eq_some_iff.1 h
    rw [List.foldlM_cons, bracketStep_append hnext]
    exact ih h

theorem IsBalanced.append {cs ds : List Char} (hcs : IsBalanced cs) (hds : IsBalanced ds) :
    IsBalanced (cs ++ ds) := by
  unfold IsBalanced at *
  rw [List.foldlM_append, hcs]
  exact hds

/-- A balanced text between brackets that belong together. -/
theorem IsBalanced.group {inner : List Char} {opener closer : Char}
    (hopen : bracketStep [] opener = some [closer]) (hclose : bracketStep [closer] closer = some [])
    (hinner : IsBalanced inner) : IsBalanced (opener :: (inner ++ [closer])) := by
  have hwithin : inner.foldlM bracketStep [closer] = some [closer] :=
    foldlM_bracketStep_append hinner [closer]
  have hend : [closer].foldlM bracketStep [closer] = some [] := by
    rw [List.foldlM_cons, hclose]
    rfl
  unfold IsBalanced
  rw [List.foldlM_cons, hopen]
  show (inner ++ [closer]).foldlM bracketStep [closer] = some []
  rw [List.foldlM_append, hwithin]
  exact hend

/-- What may stand in a group by itself is no bracket. -/
theorem bracketStep_of_isGroupChar {c : Char} (h : isGroupChar c = true) (due : List Char) :
    bracketStep due c = some due := by
  simp only [isGroupChar, Bool.and_eq_true, Option.isNone_iff_eq_none, Bool.not_eq_true'] at h
  obtain ⟨⟨⟨hopen, hclose⟩, -⟩, -⟩ := h
  simp [bracketStep, hopen, hclose]

theorem isBalanced_of_plain {cs : List Char} (h : ∀ c ∈ cs, isGroupChar c = true) :
    IsBalanced cs := by
  induction cs with
  | nil => rfl
  | cons c cs ih =>
    unfold IsBalanced
    rw [List.foldlM_cons, bracketStep_of_isGroupChar (h c List.mem_cons_self)]
    exact ih fun d hd => h d (List.mem_cons_of_mem c hd)

/-! ### Safe texts -/

/-- The characters between the words of a statement, brackets apart. -/
def marks : List Char :=
  [' ', '\n', ':', '|', '<', '>', '-', '+', '=', '.', ',', '$']

/-- The characters that statements are written in. -/
def isSafeChar (c : Char) : Bool :=
  isNameChar c || marks.contains c || ['(', ')', '[', ']'].contains c

/-- **A text that holds nothing but what it should:** words of some sort,
between a few marks and balanced brackets. -/
structure IsSafe (P : String → Prop) (cs : List Char) : Prop where
  chars : ∀ c ∈ cs, isSafeChar c = true
  balanced : IsBalanced cs
  words : ∀ w, IsWord w cs → P (String.ofList w)

instance (P : String → Prop) [DecidablePred P] (cs : List Char) : Decidable (IsSafe P cs) :=
  decidable_of_iff
    (cs.all isSafeChar = true ∧ IsBalanced cs ∧
      (words cs).all (fun w => decide (P (String.ofList w))) = true)
    ⟨fun ⟨hchars, hbalanced, hwords⟩ =>
      ⟨List.all_eq_true.1 hchars, hbalanced, fun w hw =>
        of_decide_eq_true (List.all_eq_true.1 hwords w (mem_words_iff.2 hw))⟩,
    fun h => ⟨List.all_eq_true.2 h.chars, h.balanced, List.all_eq_true.2 fun w hw =>
      decide_eq_true (h.words w (mem_words_iff.1 hw))⟩⟩

section Safe

variable {P : String → Prop} {cs ds : List Char}

theorem IsSafe.mono {Q : String → Prop} (h : IsSafe P cs) (hPQ : ∀ w, P w → Q w) : IsSafe Q cs :=
  ⟨h.chars, h.balanced, fun w hw => hPQ _ (h.words w hw)⟩

theorem isSafe_nil : IsSafe P [] :=
  ⟨by simp, rfl, fun w hw => by simpa using mem_words_iff.2 hw⟩

/-- A word that is allowed is safe. -/
theorem isSafe_word {word : String} (hchars : ∀ c ∈ word.toList, isNameChar c = true)
    (hword : P word) : IsSafe P word.toList where
  chars c hc := by simp [isSafeChar, hchars c hc]
  balanced := isBalanced_of_plain fun c hc => isGroupChar_of_isNameChar (hchars c hc)
  words w hw := by
    have hne : word.toList ≠ [] := by
      rintro hnil
      rw [hnil] at hw
      simpa using mem_words_iff.2 hw
    rw [← mem_words_iff, words_run hne hchars, List.mem_singleton] at hw
    rwa [hw, String.ofList_toList]

theorem isSafe_name {name : String} (hname : isName name = true) (hword : P name) :
    IsSafe P name.toList :=
  isSafe_word (fun _ hc => isNameChar_of_mem hname hc) hword

/-- The words on both sides of a character that ends words. -/
theorem forall_isWord_append_cons {c : Char} (hc : isNameChar c = false)
    (hcs : ∀ w, IsWord w cs → P (String.ofList w)) (hds : ∀ w, IsWord w ds → P (String.ofList w)) :
    ∀ w, IsWord w (cs ++ c :: ds) → P (String.ofList w) := by
  intro w hw
  rw [← mem_words_iff, words_append_cons _ hc, List.mem_append] at hw
  exact hw.elim (fun hw => hcs w (mem_words_iff.1 hw)) fun hw => hds w (mem_words_iff.1 hw)

/-- A mark is safe, stands outside of words and is no bracket. -/
theorem isSafeChar_of_mem_marks {c : Char} (hc : c ∈ marks) :
    isSafeChar c = true ∧ isNameChar c = false ∧ isGroupChar c = true := by
  have hall : marks.all (fun c => isSafeChar c && !isNameChar c && isGroupChar c) = true := by
    decide
  simpa [and_assoc] using List.all_eq_true.1 hall c hc

/-- **Safe texts are put together around a mark.** -/
theorem IsSafe.mark (hcs : IsSafe P cs) (c : Char) (hc : c ∈ marks) (hds : IsSafe P ds) :
    IsSafe P (cs ++ c :: ds) := by
  obtain ⟨hsafe, hapart, hplain⟩ := isSafeChar_of_mem_marks hc
  refine ⟨?_, ?_, forall_isWord_append_cons hapart hcs.words hds.words⟩
  · exact List.forall_mem_append.2 ⟨hcs.chars, List.forall_mem_cons.2 ⟨hsafe, hds.chars⟩⟩
  · have hmark : IsBalanced [c] := isBalanced_of_plain (List.forall_mem_singleton.2 hplain)
    exact hcs.balanced.append (hmark.append hds.balanced)

theorem IsSafe.space (hcs : IsSafe P cs) (hds : IsSafe P ds) : IsSafe P (cs ++ ' ' :: ds) :=
  hcs.mark ' ' (by decide) hds

/-- And around a safe text between two brackets. -/
theorem IsSafe.group {inner : List Char} {opener closer : Char} (hcs : IsSafe P cs)
    (hsafe : isSafeChar opener = true ∧ isSafeChar closer = true)
    (hapart : isNameChar opener = false ∧ isNameChar closer = false)
    (hopen : bracketStep [] opener = some [closer]) (hclose : bracketStep [closer] closer = some [])
    (hinner : IsSafe P inner) (hds : IsSafe P ds) :
    IsSafe P (cs ++ opener :: (inner ++ closer :: ds)) := by
  refine ⟨?_, ?_, ?_⟩
  · simp only [List.forall_mem_append, List.forall_mem_cons]
    exact ⟨hcs.chars, hsafe.1, hinner.chars, hsafe.2, hds.chars⟩
  · have hgroup := (hinner.balanced.group hopen hclose).append hds.balanced
    simpa using hcs.balanced.append hgroup
  · exact forall_isWord_append_cons hapart.1 hcs.words
      (forall_isWord_append_cons hapart.2 hinner.words hds.words)

theorem IsSafe.parens {inner : List Char} (hcs : IsSafe P cs) (hinner : IsSafe P inner)
    (hds : IsSafe P ds) : IsSafe P (cs ++ '(' :: (inner ++ ')' :: ds)) :=
  hcs.group (by decide) (by decide) rfl rfl hinner hds

theorem IsSafe.squares {inner : List Char} (hcs : IsSafe P cs) (hinner : IsSafe P inner)
    (hds : IsSafe P ds) : IsSafe P (cs ++ '[' :: (inner ++ ']' :: ds)) :=
  hcs.group (by decide) (by decide) rfl rfl hinner hds

/-- Safe texts are joined by a separator that keeps two of them apart. -/
theorem isSafe_join {sep : String} (hsep : ∀ cs ds, IsSafe P cs → IsSafe P ds →
      IsSafe P (cs ++ (sep.toList ++ ds))) {parts : List String}
    (h : ∀ part ∈ parts, IsSafe P part.toList) : IsSafe P (Text.join sep parts).toList := by
  refine Text.join_induction (P := fun s => IsSafe P s.toList) isSafe_nil (fun s t hs ht => ?_) h
  simpa using hsep _ _ hs ht

end Safe

end EntityGraph.Statement
