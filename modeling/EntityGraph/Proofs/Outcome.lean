import Mathlib.Data.List.Forall2
/-!
# Outcomes

A computation that can fail is taken apart from its result: what a sequence of
steps gave was given by each step in turn, and what a list of them gave was
given one by one. Two computations are compared by an image of their results,
step by step (`map_bind_congr`): they fail alike, or succeed with the same
image.
-/

namespace EntityGraph

variable {ε α β γ δ : Type}

theorem bind_eq_ok {x : Except ε α} {f : α → Except ε β} {b : β} :
    x >>= f = .ok b ↔ ∃ a, x = .ok a ∧ f a = .ok b := by
  cases x with
  | error e => simp [bind, Except.bind]
  | ok a => simp [bind, Except.bind]

theorem map_eq_ok {x : Except ε α} {f : α → β} {b : β} :
    x.map f = .ok b ↔ ∃ a, x = .ok a ∧ f a = b := by
  cases x with
  | error e => simp [Except.map]
  | ok a => simp [Except.map]

theorem bind_eq_error {x : Except ε α} {f : α → Except ε β} {e : ε} :
    x >>= f = .error e ↔ x = .error e ∨ ∃ a, x = .ok a ∧ f a = .error e := by
  cases x with
  | error e' => simp [bind, Except.bind]
  | ok a => simp [bind, Except.bind]

theorem map_eq_error {x : Except ε α} {f : α → β} {e : ε} :
    x.map f = .error e ↔ x = .error e := by
  cases x <;> simp [Except.map]

theorem pure_eq_ok {a b : α} : (pure a : Except ε α) = .ok b ↔ a = b :=
  ⟨Except.ok.inj, fun h => h ▸ rfl⟩

theorem exists_ok_of_isSome {x : Except ε α} (h : x.toOption.isSome = true) : ∃ a, x = .ok a := by
  cases x with
  | error e => simp [Except.toOption] at h
  | ok a => exact ⟨a, rfl⟩

theorem mapM_cons_eq_ok {f : α → Except ε β} {x : α} {xs : List α} {ys : List β} :
    (x :: xs).mapM f = .ok ys ↔ ∃ y ys', f x = .ok y ∧ xs.mapM f = .ok ys' ∧ ys = y :: ys' := by
  rw [List.mapM_cons, bind_eq_ok]
  constructor
  · rintro ⟨y, hy, h⟩
    obtain ⟨ys', hys, h⟩ := bind_eq_ok.1 h
    exact ⟨y, ys', hy, hys, (pure_eq_ok.1 h).symm⟩
  · rintro ⟨y, ys', hy, hys, rfl⟩
    exact ⟨y, hy, bind_eq_ok.2 ⟨ys', hys, rfl⟩⟩

/-- A failure came from one of the inputs. -/
theorem exists_of_mapM_eq_error {f : α → Except ε β} {xs : List α} {e : ε}
    (h : xs.mapM f = .error e) : ∃ x ∈ xs, f x = .error e := by
  induction xs with
  | nil => cases h
  | cons x xs ih =>
    rw [List.mapM_cons] at h
    rcases bind_eq_error.1 h with hx | ⟨y, -, h⟩
    · exact ⟨x, by simp, hx⟩
    rcases bind_eq_error.1 h with hxs | ⟨ys, -, h⟩
    · obtain ⟨w, hw, hfail⟩ := ih hxs
      exact ⟨w, List.mem_cons_of_mem x hw, hfail⟩
    · cases h

/-- The results are one for each input, in order. -/
theorem forall₂_of_mapM {f : α → Except ε β} {xs : List α} {ys : List β}
    (h : xs.mapM f = .ok ys) : List.Forall₂ (fun x y => f x = .ok y) xs ys := by
  induction xs generalizing ys with
  | nil =>
    obtain rfl := pure_eq_ok.1 h
    exact .nil
  | cons x xs ih =>
    obtain ⟨y, ys', hy, hys, rfl⟩ := mapM_cons_eq_ok.1 h
    exact .cons hy (ih hys)

/-- Each result came from one of the inputs. -/
theorem exists_of_mem_mapM {f : α → Except ε β} {xs : List α} {ys : List β}
    (h : xs.mapM f = .ok ys) {y : β} (hy : y ∈ ys) : ∃ x ∈ xs, f x = .ok y := by
  induction xs generalizing ys with
  | nil =>
    obtain rfl := pure_eq_ok.1 h
    simp at hy
  | cons x xs ih =>
    obtain ⟨z, zs, hz, hzs, rfl⟩ := mapM_cons_eq_ok.1 h
    rcases List.mem_cons.1 hy with rfl | hy
    · exact ⟨x, by simp, hz⟩
    · obtain ⟨w, hw, hwy⟩ := ih hzs hy
      exact ⟨w, List.mem_cons_of_mem x hw, hwy⟩

/-- And each input gave a result. -/
theorem exists_of_mapM_eq_ok {f : α → Except ε β} {xs : List α} {ys : List β}
    (h : xs.mapM f = .ok ys) {x : α} (hx : x ∈ xs) : ∃ y, f x = .ok y := by
  induction xs generalizing ys with
  | nil => simp at hx
  | cons w xs ih =>
    obtain ⟨y, ys', hy, hys, rfl⟩ := mapM_cons_eq_ok.1 h
    rcases List.mem_cons.1 hx with rfl | hx
    · exact ⟨y, hy⟩
    · exact ih hys hx

/-- The result of each input is among the results. -/
theorem exists_mem_of_mapM {f : α → Except ε β} {xs : List α} {ys : List β}
    (h : xs.mapM f = .ok ys) {x : α} (hx : x ∈ xs) : ∃ y ∈ ys, f x = .ok y := by
  induction xs generalizing ys with
  | nil => simp at hx
  | cons w xs ih =>
    obtain ⟨y, ys', hy, hys, rfl⟩ := mapM_cons_eq_ok.1 h
    rcases List.mem_cons.1 hx with rfl | hx
    · exact ⟨y, by simp, hy⟩
    · obtain ⟨z, hz, hxz⟩ := ih hys hx
      exact ⟨z, List.mem_cons_of_mem y hz, hxz⟩

/-- What the results say can be read off the inputs, one by one. -/
theorem map_of_mapM {f : α → Except ε β} {g : β → γ} {g' : α → γ} {xs : List α} {ys : List β}
    (hg : ∀ x ∈ xs, ∀ y, f x = .ok y → g y = g' x) (h : xs.mapM f = .ok ys) :
    ys.map g = xs.map g' := by
  induction xs generalizing ys with
  | nil =>
    obtain rfl := pure_eq_ok.1 h
    rfl
  | cons x xs ih =>
    obtain ⟨y, ys', hy, hys, rfl⟩ := mapM_cons_eq_ok.1 h
    rw [List.map_cons, List.map_cons, hg x (by simp) y hy,
      ih (fun w hw => hg w (List.mem_cons_of_mem x hw)) hys]

/-! ### Whether there is a result -/

/-- A computation has a result when its first step has one and its next steps
have one for it; here, whatever it is. -/
theorem exists_bind_iff {x : Except ε α} {f : α → Except ε β} {P : Prop}
    (hnext : ∀ a, x = .ok a → ((∃ b, f a = .ok b) ↔ P)) :
    (∃ b, x >>= f = .ok b) ↔ (∃ a, x = .ok a) ∧ P := by
  simp only [bind_eq_ok]
  constructor
  · rintro ⟨b, a, ha, hb⟩
    exact ⟨⟨a, ha⟩, (hnext a ha).1 ⟨b, hb⟩⟩
  · rintro ⟨⟨a, ha⟩, hP⟩
    obtain ⟨b, hb⟩ := (hnext a ha).2 hP
    exact ⟨b, a, ha, hb⟩

/-- The last step only makes the result. -/
theorem exists_bind_pure_iff {x : Except ε α} {f : α → β} :
    (∃ b, (x >>= fun a => pure (f a)) = .ok b) ↔ ∃ a, x = .ok a := by
  rw [exists_bind_iff (P := True) fun a _ => by simp [pure_eq_ok], and_true]

theorem exists_map_iff {x : Except ε α} {f : α → β} :
    (∃ b, x.map f = .ok b) ↔ ∃ a, x = .ok a := by
  simp [map_eq_ok]

theorem exists_mapM_iff {f : α → Except ε β} {xs : List α} :
    (∃ ys, xs.mapM f = .ok ys) ↔ ∀ x ∈ xs, ∃ y, f x = .ok y := by
  constructor
  · rintro ⟨ys, h⟩ x hx
    exact exists_of_mapM_eq_ok h hx
  · intro h
    induction xs with
    | nil => exact ⟨[], rfl⟩
    | cons x xs ih =>
      obtain ⟨⟨y, hy⟩, hrest⟩ := List.forall_mem_cons.1 h
      obtain ⟨ys, hys⟩ := ih hrest
      exact ⟨y :: ys, mapM_cons_eq_ok.2 ⟨y, ys, hy, hys, rfl⟩⟩

/-- A computation that fails does so for reasons of one sort. -/
def FailsFor (P : ε → Prop) (x : Except ε α) : Prop :=
  ∀ e, x = .error e → P e

namespace FailsFor

variable {P : ε → Prop}

theorem ok (a : α) : FailsFor P (.ok a) := by
  intro e h
  cases h

theorem error {e : ε} (h : P e) : FailsFor P (.error e : Except ε α) := by
  rintro e' h'
  cases h'
  exact h

theorem bind {x : Except ε α} {f : α → Except ε β} (hx : FailsFor P x)
    (hf : ∀ a, FailsFor P (f a)) : FailsFor P (x >>= f) := by
  intro e h
  rcases bind_eq_error.1 h with h | ⟨a, -, h⟩
  · exact hx e h
  · exact hf a e h

theorem bindPure {x : Except ε α} (hx : FailsFor P x) (f : α → β) :
    FailsFor P (x >>= fun a => pure (f a)) :=
  hx.bind fun a => .ok (f a)

theorem map {x : Except ε α} (hx : FailsFor P x) (f : α → β) : FailsFor P (x.map f) := by
  intro e h
  exact hx e (map_eq_error.1 h)

theorem mapM {f : α → Except ε β} (hf : ∀ a, FailsFor P (f a)) (xs : List α) :
    FailsFor P (xs.mapM f) := by
  intro e h
  obtain ⟨x, -, hx⟩ := exists_of_mapM_eq_error h
  exact hf x e hx

end FailsFor

/-! ### Two computations compared -/

/-- Two computations agree on an image when their first steps agree on one, and
their next steps do wherever the first gave the same. -/
theorem map_bind_congr {x y : Except ε α} {f g : α → Except ε β} {p : α → δ} {q : β → γ}
    (hfirst : x.map p = y.map p) (hnext : ∀ a b, p a = p b → (f a).map q = (g b).map q) :
    (x >>= f).map q = (y >>= g).map q := by
  cases x with
  | error e =>
    cases y with
    | error e' =>
      obtain rfl : e = e' := Except.error.inj hfirst
      rfl
    | ok b => simp [Except.map] at hfirst
  | ok a =>
    cases y with
    | error e => simp [Except.map] at hfirst
    | ok b => exact hnext a b (Except.ok.inj hfirst)

/-- So do two that have the same first step. -/
theorem map_bind_congr_right {x : Except ε α} {f g : α → Except ε β} {q : β → γ}
    (hnext : ∀ a, (f a).map q = (g a).map q) : (x >>= f).map q = (x >>= g).map q :=
  map_bind_congr rfl fun a b (hab : id a = id b) => (show a = b from hab) ▸ hnext a

end EntityGraph
