import Mathlib.Data.List.Basic
import Mathlib.Data.String.Basic
import Mathlib.Tactic.SplitIfs
/-!
# Texts in the order of their bytes

Texts are ordered by the code points of their characters. Stores compare texts
by the bytes of UTF-8 instead, and the two orders are the same
(`bytes_lt_bytes_iff`): of two characters, the one with the smaller code point
has the smaller byte at the first place where their codes differ, whatever
follows (`encoded_lt`).
-/

namespace EntityGraph.Text

open String (utf8EncodeChar)

/-- The bytes of a text in UTF-8. -/
def bytes (s : String) : List UInt8 :=
  s.toUTF8.data.toList

theorem bytes_eq_flatMap (s : String) : bytes s = s.toList.flatMap utf8EncodeChar := by
  have hencoded : s.toUTF8 = s.toList.utf8Encode := by
    rw [← String.toByteArray_ofList, String.ofList_toList]
    rfl
  rw [bytes, hencoded, List.utf8Encode, List.data_toByteArray]

theorem code_lt (c : Char) : c.val.toNat < 1114112 := by
  rcases c.valid with h | h
  · exact Nat.lt_trans h (by decide)
  · exact h.2

theorem ofNat_lt_ofNat {m n : Nat} (hm : m < 256) (hn : n < 256) :
    UInt8.ofNat m < UInt8.ofNat n ↔ m < n := by
  rw [UInt8.lt_iff_toNat_lt, UInt8.toNat_ofNat', UInt8.toNat_ofNat', Nat.mod_eq_of_lt hm,
    Nat.mod_eq_of_lt hn]

theorem ofNat_eq_ofNat {m n : Nat} (hm : m < 256) (hn : n < 256) :
    UInt8.ofNat m = UInt8.ofNat n ↔ m = n := by
  rw [← UInt8.toNat_inj, UInt8.toNat_ofNat', UInt8.toNat_ofNat', Nat.mod_eq_of_lt hm,
    Nat.mod_eq_of_lt hn]

/-- The larger of two numbers is larger at the first digit where they differ. -/
theorem digits_lt {m n : Nat} (h : m < n) :
    m / 262144 < n / 262144 ∨ m / 262144 = n / 262144 ∧
      (m / 4096 < n / 4096 ∨ m / 4096 = n / 4096 ∧
        (m / 64 < n / 64 ∨ m / 64 = n / 64 ∧ m % 64 < n % 64)) := by
  have h₁ := Nat.lt_or_eq_of_le (Nat.div_le_div_right (c := 262144) h.le)
  have h₂ := Nat.lt_or_eq_of_le (Nat.div_le_div_right (c := 4096) h.le)
  have h₃ := Nat.lt_or_eq_of_le (Nat.div_le_div_right (c := 64) h.le)
  refine h₁.imp_right fun h₁ => ⟨h₁, h₂.imp_right fun h₂ => ⟨h₂, h₃.imp_right fun h₃ => ⟨h₃, ?_⟩⟩⟩
  omega

/-- **The codes of two characters are in the order of the characters,** at a
byte that both have. -/
theorem encoded_lt {c d : Char} (h : c < d) (bs bs' : List UInt8) :
    utf8EncodeChar c ++ bs < utf8EncodeChar d ++ bs' := by
  have hcode : c.val.toNat < d.val.toNat := h
  have hlast := code_lt d
  simp only [utf8EncodeChar]
  generalize c.val.toNat = m at hcode ⊢
  generalize d.val.toNat = n at hcode hlast ⊢
  by_cases hshort : m ≤ 65535
  -- Codes have one to three bytes, or the second one has four.
  · split_ifs <;>
      simp (disch := omega) only [List.cons_append, List.nil_append, List.cons_lt_cons_iff,
        ofNat_lt_ofNat, ofNat_eq_ofNat] <;>
      omega
  -- Both codes have four bytes.
  · simp (disch := omega) only [if_neg, List.cons_append, List.nil_append, List.cons_lt_cons_iff,
      ofNat_lt_ofNat, ofNat_eq_ofNat]
    rcases digits_lt hcode with h | ⟨h₁, h | ⟨h₂, h | ⟨h₃, h⟩⟩⟩ <;> omega

theorem flatMap_encoded_lt {cs ds : List Char} (h : cs < ds) :
    cs.flatMap utf8EncodeChar < ds.flatMap utf8EncodeChar := by
  induction h with
  | nil =>
    rename_i d ds
    obtain ⟨b, bs, hcode⟩ := List.exists_cons_of_ne_nil (String.utf8EncodeChar_ne_nil (c := d))
    rw [List.flatMap_nil, List.flatMap_cons, hcode]
    exact .nil
  | cons _ ih =>
    rw [List.flatMap_cons, List.flatMap_cons]
    exact List.append_left_lt ih
  | rel hlt =>
    rw [List.flatMap_cons, List.flatMap_cons]
    exact encoded_lt hlt _ _

/-- **The order of texts is the order of their bytes.** -/
theorem bytes_lt_bytes_iff {s t : String} : bytes s < bytes t ↔ s < t := by
  rw [bytes_eq_flatMap, bytes_eq_flatMap]
  constructor
  · intro h
    rcases lt_trichotomy s t with hlt | rfl | hgt
    · exact hlt
    · exact absurd h (List.lt_irrefl _)
    · exact absurd h (List.lt_asymm (flatMap_encoded_lt (String.lt_iff_toList_lt.1 hgt)))
  · exact fun h => flatMap_encoded_lt (String.lt_iff_toList_lt.1 h)

end EntityGraph.Text
