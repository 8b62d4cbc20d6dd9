import EntityGraph.Proofs.Statement.Clauses
import EntityGraph.Proofs.Text.Case
/-!
# Stored names

The name that a field is stored under when no other is given: its own name in
snake case. In a text of ASCII every letter is made small, and each capital but
a first one gets an underscore before it (`snakeChars_cons`, `snakeChar_eq`).
Everything that a form in snake case has in common with its text is read off
these two equations, character by character (`isSnakeCaseOf_snakeCase`), and
holds of the stored names of fields for that reason.
-/

namespace EntityGraph

open Text (IsAscii isCapital_eq_isUpper isUpper_iff_toNat isUpper_toLower lowerChar_eq_singleton
  toLower_eq_self toNat_toLower toNat_toLower_lt)

variable {c d : Char} {cs : List Char} {s : String}

/-! ### Small letters in names -/

theorem isNameStart_of_isUpper (h : c.isUpper = true) : isNameStart c = true := by
  have hcapital := isUpper_iff_toNat.1 h
  exact Cypher.isNameStart_iff_toNat.2 (by omega)

/-- The small letter of a letter is a letter. -/
theorem isNameStart_toLower (c : Char) : isNameStart c.toLower = isNameStart c := by
  cases hc : c.isUpper with
  | false => rw [toLower_eq_self hc]
  | true =>
    have hcapital := isUpper_iff_toNat.1 hc
    have hsmall := toNat_toLower hc
    rw [isNameStart_of_isUpper hc]
    exact Cypher.isNameStart_iff_toNat.2 (by omega)

theorem isNameChar_toLower (c : Char) : isNameChar c.toLower = isNameChar c := by
  cases hc : c.isUpper with
  | false => rw [toLower_eq_self hc]
  | true =>
    have hstart := isNameStart_of_isUpper hc
    rw [Cypher.isNameChar_of_isNameStart hstart]
    exact Cypher.isNameChar_of_isNameStart (by rw [isNameStart_toLower, hstart])

theorem toLower_ne_underscore (c : Char) : (c.toLower != '_') = (c != '_') := by
  cases hc : c.isUpper with
  | false => rw [toLower_eq_self hc]
  | true =>
    have hcapital := isUpper_iff_toNat.1 hc
    have hsmall := toNat_toLower hc
    have hne : ∀ d : Char, d.toNat ≠ 95 → (d != '_') = true := by
      intro d hd
      rw [bne_iff_ne]
      rintro rfl
      exact hd rfl
    rw [hne c (by omega), hne c.toLower (by omega)]

/-! ### Characters in snake case -/

theorem lowered_eq_toLower (h : c.toNat < 128) :
    (if Text.isCapital c then Text.lowerChar c else [c]) = [c.toLower] := by
  rw [isCapital_eq_isUpper h, lowerChar_eq_singleton h]
  cases hc : c.isUpper with
  | false => rw [toLower_eq_self hc]; rfl
  | true => rfl

/-- **A character of ASCII is made small, with an underscore before it if it was
a capital.** -/
theorem snakeChar_eq (h : c.toNat < 128) :
    snakeChar c = (if Text.isCapital c then ['_'] else []) ++ [c.toLower] := by
  rw [← lowered_eq_toLower h, snakeChar]
  cases Text.isCapital c <;> rfl

/-- **The first one gets no underscore.** -/
theorem snakeChars_cons (h : c.toNat < 128) (cs : List Char) :
    snakeChars (c :: cs) = c.toLower :: cs.flatMap snakeChar := by
  rw [snakeChars, lowered_eq_toLower h, List.singleton_append]

theorem eq_underscore_or_exists_of_mem_snakeChars (h : ∀ c ∈ cs, c.toNat < 128)
    (hd : d ∈ snakeChars cs) : d = '_' ∨ ∃ c ∈ cs, d = c.toLower := by
  cases cs with
  | nil => simp [snakeChars] at hd
  | cons c cs =>
    obtain ⟨hc, hcs⟩ := List.forall_mem_cons.1 h
    rw [snakeChars_cons hc, List.mem_cons, List.mem_flatMap] at hd
    rcases hd with rfl | ⟨e, he, hd⟩
    · exact .inr ⟨c, List.mem_cons_self, rfl⟩
    · rw [snakeChar_eq (hcs e he), List.mem_append, List.mem_singleton] at hd
      rcases hd with hd | rfl
      · refine .inl ?_
        split at hd
        · exact List.mem_singleton.1 hd
        · exact absurd hd List.not_mem_nil
      · exact .inr ⟨e, List.mem_cons_of_mem c he, rfl⟩

theorem length_flatMap_snakeChar (h : ∀ c ∈ cs, c.toNat < 128) :
    (cs.flatMap snakeChar).length = cs.length + cs.countP Text.isCapital := by
  induction cs with
  | nil => rfl
  | cons c cs ih =>
    obtain ⟨hc, hcs⟩ := List.forall_mem_cons.1 h
    have hlength : (snakeChar c).length = 1 + if Text.isCapital c then 1 else 0 := by
      rw [snakeChar_eq hc]
      cases Text.isCapital c <;> rfl
    rw [List.flatMap_cons, List.length_append, ih hcs, hlength, List.countP_cons, List.length_cons]
    omega

theorem all_isNameChar_snakeChar (h : c.toNat < 128) :
    (snakeChar c).all isNameChar = isNameChar c := by
  have hunderscore : isNameChar '_' = true := by decide
  rw [snakeChar_eq h]
  cases Text.isCapital c <;> simp [isNameChar_toLower, hunderscore]

theorem isNameChars_snakeChars (h : ∀ c ∈ cs, c.toNat < 128) :
    isNameChars (snakeChars cs) = isNameChars cs := by
  cases cs with
  | nil => rfl
  | cons c cs =>
    obtain ⟨hc, hcs⟩ := List.forall_mem_cons.1 h
    have hall : (cs.flatMap snakeChar).all isNameChar = cs.all isNameChar := by
      rw [List.all_flatMap, Bool.eq_iff_iff, List.all_eq_true, List.all_eq_true]
      exact forall₂_congr fun e he => by rw [all_isNameChar_snakeChar (hcs e he)]
    rw [snakeChars_cons hc, isNameChars, isNameChars, isNameStart_toLower, hall]

/-- Without underscores a character is only made small. -/
theorem filter_flatMap_snakeChar (h : ∀ c ∈ cs, c.toNat < 128) :
    (cs.flatMap snakeChar).filter (· != '_') = (cs.map Char.toLower).filter (· != '_') := by
  rw [List.map_eq_flatMap, List.filter_flatMap, List.filter_flatMap]
  refine List.flatMap_congr fun c hc => ?_
  rw [snakeChar_eq (h c hc)]
  cases Text.isCapital c <;> rfl

theorem filter_snakeChars (h : ∀ c ∈ cs, c.toNat < 128) :
    (snakeChars cs).filter (· != '_') = (cs.filter (· != '_')).map Char.toLower := by
  have hsmall : (snakeChars cs).filter (· != '_') = (cs.map Char.toLower).filter (· != '_') := by
    cases cs with
    | nil => rfl
    | cons c cs =>
      obtain ⟨hc, hcs⟩ := List.forall_mem_cons.1 h
      rw [snakeChars_cons hc, List.map_cons, List.filter_cons, List.filter_cons,
        filter_flatMap_snakeChar hcs]
  rw [hsmall, List.filter_map]
  exact congrArg _ (List.filter_congr fun c _ => toLower_ne_underscore c)

/-! ### Texts in snake case -/

theorem toList_snakeCase (s : String) : (snakeCase s).toList = snakeChars s.toList :=
  String.toList_ofList

theorem isAscii_snakeCase (h : IsAscii s) : IsAscii (snakeCase s) := by
  intro d hd
  rw [toList_snakeCase] at hd
  obtain rfl | ⟨c, hc, rfl⟩ := eq_underscore_or_exists_of_mem_snakeChars h hd
  · decide
  · exact toNat_toLower_lt (h c hc)

theorem isCapital_of_mem_snakeCase (h : IsAscii s) (hd : d ∈ (snakeCase s).toList) :
    Text.isCapital d = false := by
  rw [isCapital_eq_isUpper (isAscii_snakeCase h d hd)]
  rw [toList_snakeCase] at hd
  obtain rfl | ⟨c, -, rfl⟩ := eq_underscore_or_exists_of_mem_snakeChars h hd
  · decide
  · exact isUpper_toLower c

/-- **A text without capitals is in snake case,** inside ASCII or not. -/
theorem snakeCase_eq_self (h : ∀ c ∈ s.toList, Text.isCapital c = false) : snakeCase s = s := by
  rw [← String.toList_inj, toList_snakeCase]
  cases hs : s.toList with
  | nil => rfl
  | cons c cs =>
    rw [hs] at h
    obtain ⟨hc, hcs⟩ := List.forall_mem_cons.1 h
    have hrest : cs.flatMap snakeChar = cs.flatMap fun d => [d] :=
      List.flatMap_congr fun d hd => by simp [snakeChar, hcs d hd]
    rw [snakeChars, hc, hrest, List.flatMap_singleton']
    rfl

theorem length_snakeCase (h : IsAscii s) :
    (snakeCase s).length = s.length + s.toList.tail.countP Text.isCapital := by
  rw [← String.length_toList, ← String.length_toList, toList_snakeCase]
  cases hs : s.toList with
  | nil => rfl
  | cons c cs =>
    rw [IsAscii, hs] at h
    obtain ⟨hc, hcs⟩ := List.forall_mem_cons.1 h
    rw [snakeChars_cons hc, List.length_cons, length_flatMap_snakeChar hcs, List.length_cons,
      List.tail_cons]
    omega

theorem isName_snakeCase (h : IsAscii s) : isName (snakeCase s) = isName s := by
  rw [isName, toList_snakeCase, isNameChars_snakeChars h, isName]

/-- A text with its underscores taken out. -/
def withoutUnderscores (s : String) : String :=
  String.ofList (s.toList.filter (· != '_'))

theorem withoutUnderscores_snakeCase (h : IsAscii s) :
    withoutUnderscores (snakeCase s) = Text.lower (withoutUnderscores s) := by
  have hbare : IsAscii (withoutUnderscores s) := by
    intro c hc
    rw [withoutUnderscores, String.toList_ofList] at hc
    exact h c (List.mem_of_mem_filter hc)
  rw [Text.lower_eq_lowerAscii hbare, Text.lowerAscii, withoutUnderscores, withoutUnderscores,
    toList_snakeCase, filter_snakeChars h, String.toList_ofList]

theorem isAscii_of_isName (h : isName s = true) : IsAscii s := by
  intro c hc
  have hname := Statement.isNameChar_of_mem h hc
  rw [Cypher.isNameChar_eq, Bool.or_eq_true] at hname
  rcases hname with hstart | hdigit
  · obtain hletter | rfl := Cypher.isNameStart_iff_toNat.1 hstart
    · omega
    · decide
  · have := Text.isDigit_iff_toNat.1 hdigit
    omega

/-- What the form in snake case has to do with the text that it is the form of. -/
structure IsSnakeCaseOf (form s : String) : Prop where
  isCapital : ∀ c ∈ form.toList, Text.isCapital c = false
  /-- The form is its own form. -/
  again : snakeCase form = form
  /-- A text without capitals is its own form, too. -/
  same : (∀ c ∈ s.toList, Text.isCapital c = false) → form = s
  /-- Every capital but a first one adds an underscore. -/
  length : form.length = s.length + s.toList.tail.countP Text.isCapital
  /-- A character is a byte, so the length is in bytes as well. -/
  isAscii : IsAscii form
  /-- One of them may stand in a statement when the other may. -/
  isName : isName form = EntityGraph.isName s
  /-- Nothing is changed but underscores and the case of letters. -/
  bare : withoutUnderscores form = Text.lower (withoutUnderscores s)

theorem isSnakeCaseOf_snakeCase (h : IsAscii s) : IsSnakeCaseOf (snakeCase s) s where
  isCapital _ hc := isCapital_of_mem_snakeCase h hc
  again := snakeCase_eq_self fun _ hc => isCapital_of_mem_snakeCase h hc
  same := snakeCase_eq_self
  length := length_snakeCase h
  isAscii := isAscii_snakeCase h
  isName := isName_snakeCase h
  bare := withoutUnderscores_snakeCase h

/-! ### Fields -/

/-- A field for which no stored name was given: it is declared as a scalar or a
relationship, and then changed in any way but that. -/
inductive Field.IsStoredByName : Field → Prop
  | scalar (name : String) (kind : Kind) : IsStoredByName (.scalar name kind)
  | relationship (name : String) (types : List String) :
      IsStoredByName (.relationship name types)
  | markSearchable {f : Field} (h : IsStoredByName f) : IsStoredByName f.markSearchable
  | markNullable {f : Field} (h : IsStoredByName f) : IsStoredByName f.markNullable
  /-- The target, its field, the direction and the cardinality are all parts of the link. -/
  | mapLink {f : Field} (h : IsStoredByName f) (change : Link → Link) :
      IsStoredByName (f.mapLink change)
  | countOnly {f : Field} (h : IsStoredByName f) : IsStoredByName f.countOnly

namespace Field.IsStoredByName

variable {f g : Field}

theorem storedName_eq (h : f.IsStoredByName) : f.storedName = snakeCase f.name := by
  induction h with
  | scalar => rfl
  | relationship => rfl
  | markSearchable _ ih => exact ih
  | markNullable _ ih => exact ih
  | mapLink _ _ ih => exact ih
  | countOnly _ ih => exact ih

theorem isName_storedName (h : f.IsStoredByName) (hname : isName f.name = true) :
    isName f.storedName = true := by
  rw [h.storedName_eq, isName_snakeCase (isAscii_of_isName hname), hname]

/-- Names that are stored as one differ in underscores and case only. -/
theorem eq_of_storedName_eq (hf : f.IsStoredByName) (hg : g.IsStoredByName)
    (hfascii : IsAscii f.name) (hgascii : IsAscii g.name) (h : f.storedName = g.storedName) :
    Text.lower (withoutUnderscores f.name) = Text.lower (withoutUnderscores g.name) := by
  rw [hf.storedName_eq, hg.storedName_eq] at h
  rw [← withoutUnderscores_snakeCase hfascii, h, withoutUnderscores_snakeCase hgascii]

end Field.IsStoredByName

/-- **Stored names are canonical.** Every text of ASCII has a form without
capitals that no second change to snake case does anything to. So a field that is
called by a valid name is stored under one, and two fields share a stored name
only if their names are the same apart from underscores and case. -/
theorem storedName_isCanonical :
    (∀ s, IsAscii s → IsSnakeCaseOf (snakeCase s) s) ∧
    (∀ f : Field, f.IsStoredByName → isName f.name = true → isName f.storedName = true) ∧
    ∀ f g : Field, f.IsStoredByName → g.IsStoredByName → IsAscii f.name → IsAscii g.name →
      f.storedName = g.storedName →
      Text.lower (withoutUnderscores f.name) = Text.lower (withoutUnderscores g.name) :=
  ⟨fun _ h => isSnakeCaseOf_snakeCase h, fun _ hf hname => hf.isName_storedName hname,
    fun _ _ hf hg hfascii hgascii h => hf.eq_of_storedName_eq hg hfascii hgascii h⟩

theorem storedName_isCanonical_likedBy :
    let f := (Field.scalar "LikedBy" .string).markNullable
    let g := ((Field.relationship "liked_by" ["LIKE"]).target "User").countOnly
    IsAscii "HTTPServer_2" ∧ IsSnakeCaseOf "h_t_t_p_server_2" "HTTPServer_2" ∧
      isName f.name = true ∧ isName f.storedName = true ∧ f.storedName = g.storedName ∧
      Text.lower (withoutUnderscores "LikedBy") = Text.lower (withoutUnderscores "liked_by") := by
  intro f g
  have hascii : IsAscii "HTTPServer_2" := by decide
  have hname : isName f.name = true := by decide
  have hshared : f.storedName = g.storedName := by decide +kernel
  have hf : f.IsStoredByName := .markNullable (.scalar "LikedBy" .string)
  have hg : g.IsStoredByName := .countOnly (.mapLink (.relationship "liked_by" ["LIKE"]) _)
  obtain ⟨hform, hvalid, hsame⟩ := storedName_isCanonical
  have hserver : snakeCase "HTTPServer_2" = "h_t_t_p_server_2" := by decide +kernel
  exact ⟨hascii, hserver ▸ hform _ hascii, hname, hvalid f hf hname, hshared,
    hsame f g hf hg (by decide) (by decide) hshared⟩

/-- Outside ASCII there are capitals without a small letter, and a sigma at the
end of a word has a small letter of its own. -/
example : snakeCase (snakeCase "x𝐀") ≠ snakeCase "x𝐀" ∧ snakeCase "AΣ" = snakeCase "a_σ" ∧
    Text.lower "AΣ" ≠ Text.lower "aσ" := by
  decide +kernel

end EntityGraph
