import EntityGraph.Proofs.Entity.Lawful
import EntityGraph.Social.Basic
/-!
# Users and posts have lawful accessors

On any schema: each of the two types has two fields, which hold texts and take
nothing else.
-/

namespace EntityGraph.Social

open Entity (readField writeField IsLawful)

/-- A text, for a field of one of two names. -/
def IsTextFor (first second name : String) (v : Value) : Prop :=
  ∃ text, v = .string text ∧ (name = first ∨ name = second)

/-- The user with a text in one of the fields. -/
def User.put (user : User) (name : String) : Value → User
  | .string s => if name = "name" then { user with name := s } else { user with email := s }
  | _ => user

theorem User.isLawful (s : Schema) : IsLawful User s := by
  refine Entity.isLawful_of_put (IsTextFor "name" "email") User.put ?_ ?_ s
  · intro a b name v
    simp only [writeField]
    split
    · simp [IsTextFor, User.put]
    · simp [IsTextFor, User.put]
    · next hname hemail =>
      simp only [reduceCtorEq, false_iff, not_and]
      rintro ⟨text, rfl, rfl | rfl⟩
      · exact (hname text rfl rfl).elim
      · exact (hemail text rfl rfl).elim
  · rintro a name v ⟨text, rfl, rfl | rfl⟩ other
    · simp only [readField]
      split
      · rfl
      · rfl
      · next hname hemail => rw [if_neg hname]
    · simp only [readField]
      split
      · rfl
      · rfl
      · next hname hemail => rw [if_neg hemail]

/-- The post with a text in one of the fields. -/
def Post.put (post : Post) (name : String) : Value → Post
  | .string s => if name = "title" then { post with title := s } else { post with content := s }
  | _ => post

theorem Post.isLawful (s : Schema) : IsLawful Post s := by
  refine Entity.isLawful_of_put (IsTextFor "title" "content") Post.put ?_ ?_ s
  · intro a b name v
    simp only [writeField]
    split
    · simp [IsTextFor, Post.put]
    · simp [IsTextFor, Post.put]
    · next htitle hcontent =>
      simp only [reduceCtorEq, false_iff, not_and]
      rintro ⟨text, rfl, rfl | rfl⟩
      · exact (htitle text rfl rfl).elim
      · exact (hcontent text rfl rfl).elim
  · rintro a name v ⟨text, rfl, rfl | rfl⟩ other
    · simp only [readField]
      split
      · rfl
      · rfl
      · next htitle hcontent => rw [if_neg htitle]
    · simp only [readField]
      split
      · rfl
      · rfl
      · next htitle hcontent => rw [if_neg hcontent]

end EntityGraph.Social
