import EntityGraph.Schema.Name
import EntityGraph.Proofs.Text.Visible
import Mathlib.Data.List.Basic
/-!
# Words

The words of a text are its longest runs of letters, digits and underscores
(`IsWord`). They can be computed by cutting the text at all other characters
(`mem_words_iff`), and everything about them follows from one equation: words
do not run across such a character (`words_append_cons`).
-/

namespace EntityGraph.Text

/-- **A word of some characters:** a run of letters, digits and underscores
that none comes right before or after. -/
def IsWord (w cs : List Char) : Prop :=
  ∃ before after, cs = before ++ w ++ after ∧ w ≠ [] ∧ (∀ c ∈ w, isNameChar c = true) ∧
    StopsBefore isNameChar before.reverse ∧ StopsBefore isNameChar after

/-- The words of some characters, one after the other. -/
def words (cs : List Char) : List (List Char) :=
  (cs.splitOnP fun c => !isNameChar c).filter fun w => !w.isEmpty

@[simp] theorem words_nil : words [] = [] := rfl

/-- **Words end at every character that is no part of a name.** -/
theorem words_append_cons (cs : List Char) {c : Char} (hc : isNameChar c = false)
    (ds : List Char) : words (cs ++ c :: ds) = words cs ++ words ds := by
  unfold words
  rw [List.splitOnP_append_cons cs ds (by rw [hc]; rfl), List.filter_append]

theorem words_run {w : List Char} (hne : w ≠ []) (hw : ∀ c ∈ w, isNameChar c = true) :
    words w = [w] := by
  have hsplit : (w.splitOnP fun c => !isNameChar c) = [w] :=
    List.splitOnP_eq_singleton fun c hc => by rw [hw c hc]; rfl
  rw [words, hsplit, List.filter_cons_of_pos (by simpa using hne), List.filter_nil]

/-- What goes before a word ends apart from it. -/
theorem words_append_of_stops {cs : List Char} (h : StopsBefore isNameChar cs.reverse)
    (ds : List Char) : words (cs ++ ds) = words cs ++ words ds := by
  cases hcs : cs.reverse with
  | nil =>
    obtain rfl := List.reverse_eq_nil_iff.1 hcs
    rfl
  | cons c rest =>
    rw [hcs, stopsBefore_cons] at h
    obtain rfl : cs = rest.reverse ++ [c] := by
      rw [← List.reverse_reverse cs, hcs, List.reverse_cons]
    rw [List.append_assoc, List.singleton_append, words_append_cons _ h, words_append_cons _ h,
      words_nil, List.append_nil]

/-- And what comes after it starts apart from it. -/
theorem words_append_stops {ds : List Char} (h : StopsBefore isNameChar ds) (cs : List Char) :
    words (cs ++ ds) = words cs ++ words ds := by
  cases ds with
  | nil => simp
  | cons d ds =>
    have hd := stopsBefore_cons.1 h
    rw [words_append_cons _ hd]
    congr 1
    exact (words_append_cons [] hd ds).symm

/-- Characters are one run, or a run that ends at a character and the rest. -/
theorem run_or_cut (cs : List Char) : (∀ c ∈ cs, isNameChar c = true) ∨
    ∃ run c rest, cs = run ++ c :: rest ∧ (∀ d ∈ run, isNameChar d = true) ∧
      isNameChar c = false := by
  induction cs with
  | nil => simp
  | cons d cs ih =>
    cases hd : isNameChar d with
    | false => exact .inr ⟨[], d, cs, rfl, by simp, hd⟩
    | true =>
      obtain hall | ⟨run, c, rest, rfl, hrun, hc⟩ := ih
      · exact .inl (List.forall_mem_cons.2 ⟨hd, hall⟩)
      · exact .inr ⟨d :: run, c, rest, rfl, List.forall_mem_cons.2 ⟨hd, hrun⟩, hc⟩

theorem isWord_run {w : List Char} (hne : w ≠ []) (hw : ∀ c ∈ w, isNameChar c = true) :
    IsWord w w :=
  ⟨[], [], by simp, hne, hw, by simp, by simp⟩

/-- A word stays one behind a character that ends words. -/
theorem IsWord.behind {w cs : List Char} (h : IsWord w cs) (start : List Char) {c : Char}
    (hc : isNameChar c = false) : IsWord w (start ++ c :: cs) := by
  obtain ⟨before, after, rfl, hne, hw, hbefore, hafter⟩ := h
  refine ⟨start ++ c :: before, after, by simp, hne, hw, ?_, hafter⟩
  rw [List.reverse_append, List.reverse_cons, List.append_assoc]
  cases hrest : before.reverse with
  | nil => exact stopsBefore_cons.2 hc
  | cons d ds =>
    rw [hrest] at hbefore
    exact stopsBefore_cons.2 (stopsBefore_cons.1 hbefore)

theorem isWord_of_mem_words {w : List Char} (cs : List Char) (h : w ∈ words cs) : IsWord w cs := by
  -- Each cut leaves fewer characters.
  induction hlength : cs.length using Nat.strongRecOn generalizing cs with
  | ind n ih =>
    have hrun {run : List Char} (hall : ∀ c ∈ run, isNameChar c = true) (hmem : w ∈ words run) :
        w = run ∧ run ≠ [] := by
      have hne : run ≠ [] := by
        rintro rfl
        simp at hmem
      rw [words_run hne hall] at hmem
      exact ⟨List.mem_singleton.1 hmem, hne⟩
    obtain hall | ⟨run, c, rest, rfl, hall, hc⟩ := run_or_cut cs
    · obtain ⟨rfl, hne⟩ := hrun hall h
      exact isWord_run hne hall
    · rw [words_append_cons _ hc, List.mem_append] at h
      rcases h with h | h
      · obtain ⟨rfl, hne⟩ := hrun hall h
        exact ⟨[], c :: rest, rfl, hne, hall, by simp, stopsBefore_cons.2 hc⟩
      · have hrest := ih rest.length (by simp at hlength; omega) rest h rfl
        exact hrest.behind run hc

/-- **Cutting a text gives its words.** -/
theorem mem_words_iff {w cs : List Char} : w ∈ words cs ↔ IsWord w cs := by
  refine ⟨isWord_of_mem_words cs, ?_⟩
  rintro ⟨before, after, rfl, hne, hw, hbefore, hafter⟩
  rw [words_append_stops hafter, words_append_of_stops hbefore, words_run hne hw]
  simp

end EntityGraph.Text
