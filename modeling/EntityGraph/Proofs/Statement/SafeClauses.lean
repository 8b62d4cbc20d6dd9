import EntityGraph.Proofs.Statement.Parts
import EntityGraph.Proofs.Statement.Safe
/-!
# Safe clauses

Every line that a statement is made of is safe. Its words are fixed words, each
line with its own list of them, and names that were checked before they came
into the line. So the laws ask two things of the words that are allowed: that
the fixed ones are among them, and each name that may stand in a statement.
-/

namespace EntityGraph

/-- The names that a link brings into a statement. -/
def Link.names (link : Link) : List String :=
  link.types ++ link.targetLabel.toList ++ link.targetField.toList

/-- The names that a field brings into a statement. -/
def Field.names (field : Field) : List String :=
  field.name :: field.storedName :: field.link.toList.flatMap Link.names

namespace Statement

open Text (join)

variable {P : String → Prop}

/-- Words that are fixed make safe texts. The characters of the text are taken
apart from it, so that it need not be decoded to check them. -/
theorem isSafe_fixed {fixed : List String} (hfixed : ∀ w ∈ fixed, P w) (text : String)
    {cs : List Char} (htext : String.ofList cs = text) (h : IsSafe (· ∈ fixed) cs) :
    IsSafe P text.toList := by
  rw [← htext, String.toList_ofList]
  exact h.mono hfixed

/-! ### Patterns -/

theorem isSafe_identifier {i : Identifier} (h : P i.text) : IsSafe P i.text.toList :=
  isSafe_name i.isName h

theorem isSafe_node {node : NodePattern} (hvariable : IsSafe P node.variableName.toList)
    (hlabel : ∀ label ∈ node.label, P label.text) : IsSafe P node.text.toList := by
  unfold NodePattern.text
  cases hnode : node.label with
  | none => simpa using isSafe_nil.parens hvariable isSafe_nil
  | some label =>
    have hinner := hvariable.mark ':' (by decide) (isSafe_identifier (hlabel label hnode))
    simpa using isSafe_nil.parens hinner isSafe_nil

/-- **A relationship pattern is safe** when its nodes are and its types are
allowed. -/
theorem isSafe_edge {edge : EdgePattern} (hsource : IsSafe P edge.source.text.toList)
    (hvariable : IsSafe P edge.variableName.toList) (htypes : ∀ type ∈ edge.types, P type.text)
    (htarget : IsSafe P edge.target.text.toList) : IsSafe P edge.text.toList := by
  have hjoined : IsSafe P (join "|" (edge.types.map Identifier.text)).toList := by
    have hbar (cs ds : List Char) (hcs : IsSafe P cs) (hds : IsSafe P ds) :
        IsSafe P (cs ++ ("|".toList ++ ds)) := hcs.mark '|' (by decide) hds
    exact isSafe_join hbar
      (List.forall_mem_map.2 fun type htype => isSafe_identifier (htypes type htype))
  have hinner := hvariable.mark ':' (by decide) hjoined
  have hgroup {before after : List Char} (hbefore : IsSafe P before) (hafter : IsSafe P after) :=
    hbefore.squares hinner hafter
  have harrow : IsSafe P ('>' :: edge.target.text.toList) := isSafe_nil.mark '>' (by decide) htarget
  have hplain : IsSafe P ('-' :: edge.target.text.toList) := isSafe_nil.mark '-' (by decide) htarget
  cases hdirection : edge.direction with
  | outgoing =>
    have h := hsource.mark '-' (by decide)
      (hgroup isSafe_nil (isSafe_nil.mark '-' (by decide) harrow))
    simpa [EdgePattern.text, hdirection, Direction.arrows] using h
  | incoming =>
    have h := hsource.mark '<' (by decide)
      (isSafe_nil.mark '-' (by decide) (hgroup isSafe_nil hplain))
    simpa [EdgePattern.text, hdirection, Direction.arrows] using h
  | both =>
    have h := hsource.mark '-' (by decide) (hgroup isSafe_nil hplain)
    simpa [EdgePattern.text, hdirection, Direction.arrows] using h

/-- A node whose label was checked. -/
theorem isSafe_withLabel {variableName : String} {label : Option String} {node : NodePattern}
    (h : NodePattern.withLabel variableName label = .ok node)
    (hvariable : IsSafe P variableName.toList)
    (hlabel : ∀ text ∈ label, isName text = true → P text) : IsSafe P node.text.toList := by
  refine isSafe_node (by rwa [NodePattern.variableName_of_withLabel h]) ?_
  unfold NodePattern.withLabel at h
  split at h
  · cases h
    simp
  · next text =>
    split at h
    · cases h
      simp
    · obtain ⟨i, hi, rfl⟩ := map_eq_ok.1 h
      intro j hj
      obtain rfl := Option.some.inj hj
      rw [Identifier.text_of_ofText hi]
      exact hlabel text rfl (Identifier.isName_of_ofText hi)

/-- The types of a link, each of which was checked. -/
theorem forall_of_identifyTypes {types : List String} {identifiers : List Identifier}
    (h : identifyTypes types = .ok identifiers) (hP : ∀ type ∈ types, isName type = true → P type) :
    ∀ i ∈ identifiers, P i.text := by
  unfold identifyTypes at h
  split at h
  · simp at h
  · intro i hi
    obtain ⟨type, htype, hof⟩ := exists_of_mem_mapM h hi
    rw [Identifier.text_of_ofText hof]
    exact hP type htype (Identifier.isName_of_ofText hof)

/-- The names of a field are allowed where they may stand in a statement, and so
is its name in small letters with what is put around it. -/
structure AllowsField (P : String → Prop) (field : Field) : Prop where
  names : ∀ name ∈ field.names, isName name = true → P name
  lowered : isName field.lowerName = true → ∀ start ∈ ["", "target_", "rel_"],
    ∀ ending ∈ ["", "_collection"], P (start ++ field.lowerName ++ ending)

namespace AllowsField

variable {field : Field} (h : AllowsField P field)

include h

theorem lowerName (hname : isName field.lowerName = true) : P field.lowerName := by
  simpa using h.lowered hname "" (by simp) "" (by simp)

/-- The name in small letters is one word with what is put around it. -/
theorem isSafe_lowered (hname : isName field.lowerName = true) {start ending : String}
    (hstart : start ∈ ["", "target_", "rel_"]) (hending : ending ∈ ["", "_collection"]) :
    IsSafe P (start ++ field.lowerName ++ ending).toList := by
  have hstarts : ∀ text ∈ ["", "target_", "rel_"], text.toList.all isNameChar = true := by decide
  have hendings : ∀ text ∈ ["", "_collection"], text.toList.all isNameChar = true := by decide
  refine isSafe_word ?_ (h.lowered hname start hstart ending hending)
  rw [String.toList_append, String.toList_append, List.forall_mem_append, List.forall_mem_append]
  exact ⟨⟨List.all_eq_true.1 (hstarts start hstart), fun c => isNameChar_of_mem hname⟩,
    List.all_eq_true.1 (hendings ending hending)⟩

/-- The variable of the linked nodes of a field. -/
theorem isSafe_variable (hname : isName field.lowerName = true) {start : String}
    (hstart : start ∈ ["", "target_", "rel_"]) :
    IsSafe P (start ++ field.lowerName).toList := by
  have hsafe := h.isSafe_lowered hname hstart (by simp : "" ∈ ["", "_collection"])
  rwa [String.append_empty] at hsafe

theorem isSafe_collectionAlias (hname : isName field.lowerName = true) :
    IsSafe P field.collectionAlias.toList := by
  have hsafe := h.isSafe_lowered hname (by simp : "" ∈ ["", "target_", "rel_"])
    (by simp : "_collection" ∈ ["", "_collection"])
  rwa [String.empty_append] at hsafe

theorem storedName (hname : isName field.storedName = true) : P field.storedName :=
  h.names _ (by simp [Field.names]) hname

theorem ofLink {link : Link} (hlink : field.link = some link) :
    ∀ name ∈ link.names, isName name = true → P name :=
  fun name hmem => h.names name (by simp [Field.names, hlink, hmem])

end AllowsField

/-! ### What selects entities -/

/-- The fixed words of the lines that select entities. -/
def matchingWords : List String :=
  ["MATCH", "n", "WHERE", "AND", "deleted_at", "IS", "NULL", "toLower", "toString", "CONTAINS",
    "text_search", "OR", "IN"]

section Matching

variable (hfixed : ∀ w ∈ matchingWords, P w)

include hfixed

theorem isSafe_storedClause {storedName : Identifier} {parameter : String}
    (hstored : P storedName.text) (hname : isName parameter = true) (hparameter : P parameter)
    (value : FilterValue) :
    IsSafe P (storedClause storedName parameter value).condition.toList := by
  have hproperty := (isSafe_fixed hfixed "n" rfl (by decide)).mark '.' (by decide)
    (isSafe_identifier hstored)
  have hcompared {operator : String} (hoperator : IsSafe P operator.toList) :=
    hproperty.space (hoperator.mark '$' (by decide) (isSafe_name hname hparameter))
  cases value with
  | text s =>
    have hcontains := (isSafe_fixed hfixed " CONTAINS " rfl (by decide)).mark '$' (by decide)
      (isSafe_name hname hparameter)
    have h := (isSafe_fixed hfixed "toLower" rfl (by decide)).parens hproperty hcontains
    simpa [storedClause] using h
  | oneOf texts =>
    simpa [storedClause] using hcompared (isSafe_fixed hfixed "IN " rfl (by decide))
  | enum _ | integer _ | float _ | boolean _ | datetime _ =>
    have hequal := hcompared (isSafe_fixed hfixed "= " rfl (by decide))
    simpa [storedClause, storedClause.equal] using hequal

/-- **What a filter adds is safe:** its condition, and the line that matches
linked nodes. -/
theorem isSafe_filterClause {f : Filter} {c : FilterClause} (h : filterClause f = .ok c)
    (hfield : AllowsField P f.field) :
    IsSafe P c.condition.toList ∧ ∀ line ∈ c.matching, IsSafe P line.toList := by
  obtain ⟨hname, hlinked | hstored⟩ := filterClause_eq_ok h
  · obtain ⟨texts, link, -, hlink, hclause⟩ := hlinked
    obtain ⟨targetField, target, types, htargetField, htarget, htypes, rfl⟩ :=
      linkedClause_eq_ok hclause
    have hnames := hfield.ofLink hlink
    have hparameter : IsSafe P f.parameter.toList := isSafe_name hname (hfield.lowerName hname)
    have hvariable : IsSafe P ("target_" ++ f.parameter).toList :=
      hfield.isSafe_variable hname (by simp)
    have hn : IsSafe P "n".toList := isSafe_fixed hfixed "n" rfl (by decide)
    constructor
    · have hproperty := hvariable.mark '.' (by decide) (isSafe_identifier
        (hnames _ (by simp [Link.names, htargetField]) targetField.isName))
      have hin := (isSafe_fixed hfixed " IN " rfl (by decide)).mark '$' (by decide) hparameter
      have hcondition := (isSafe_fixed hfixed "toLower" rfl (by decide)).parens hproperty hin
      simpa [NodePattern.variableName_of_withLabel htarget] using hcondition
    · intro line hline
      obtain rfl := Option.some.inj hline
      have hedge : IsSafe P (EdgePattern.text
          { source := { variableName := "n" }, types, direction := link.direction, target }).toList :=
        isSafe_edge (isSafe_node hn (by simp)) isSafe_nil
          (forall_of_identifyTypes htypes fun type htype =>
            hnames type (by simp [Link.names, htype]))
          (isSafe_withLabel htarget hvariable fun label hlabel =>
            hnames label (by simp [Link.names, Option.mem_def.1 hlabel]))
      have h := (isSafe_fixed hfixed "MATCH" rfl (by decide)).space hedge
      simpa using h
  · obtain ⟨storedName, htext, -, rfl⟩ := hstored
    have hstored : P storedName.text :=
      htext ▸ hfield.storedName (htext ▸ storedName.isName)
    refine ⟨isSafe_storedClause hfixed hstored hname (hfield.lowerName hname) f.value, ?_⟩
    cases f.value <;> simp [storedClause, storedClause.equal]

theorem isSafe_textCondition {fields : List Identifier} (hfields : ∀ i ∈ fields, P i.text) :
    IsSafe P (textCondition fields).toList := by
  have hfield : ∀ i ∈ fields,
      IsSafe P ("toLower(toString(n." ++ i.text ++ ")) CONTAINS $text_search").toList := by
    intro i hi
    have hproperty := (isSafe_fixed hfixed "n" rfl (by decide)).mark '.' (by decide)
      (isSafe_identifier (hfields i hi))
    have htext := (isSafe_fixed hfixed "toString" rfl (by decide)).parens hproperty isSafe_nil
    have hcontains : IsSafe P " CONTAINS $text_search".toList :=
      isSafe_fixed hfixed _ rfl (by decide)
    have h := (isSafe_fixed hfixed "toLower" rfl (by decide)).parens htext hcontains
    simpa using h
  have hor (cs ds : List Char) (hcs : IsSafe P cs) (hds : IsSafe P ds) :
      IsSafe P (cs ++ (" OR ".toList ++ ds)) :=
    hcs.space ((isSafe_fixed hfixed "OR" rfl (by decide)).space hds)
  have h := isSafe_nil.parens (isSafe_join hor (List.forall_mem_map.2 hfield)) isSafe_nil
  simpa [textCondition] using h

theorem isSafe_textClause {s : Schema} {r : SearchRequest} {text : Option (String × String)}
    (h : textClause s r = .ok text)
    (hnames : ∀ name ∈ r.effectiveFields s, isName name = true → P name) :
    ∀ t ∈ text, IsSafe P t.1.toList := by
  obtain ⟨rfl, -⟩ | ⟨sought, fields, -, -, hfields, rfl⟩ := textClause_eq_ok h
  · simp
  · intro t ht
    obtain rfl := Option.some.inj ht
    refine isSafe_textCondition hfixed fun i hi => ?_
    exact hnames _ (hfields ▸ List.mem_map_of_mem hi) i.isName

theorem isSafe_whereLines {conditions : List String} (h : ∀ c ∈ conditions, IsSafe P c.toList) :
    ∀ line ∈ whereLines conditions, IsSafe P line.toList := by
  unfold whereLines
  split
  · simp
  · have hand (cs ds : List Char) (hcs : IsSafe P cs) (hds : IsSafe P ds) :
        IsSafe P (cs ++ (" AND ".toList ++ ds)) :=
      hcs.space ((isSafe_fixed hfixed "AND" rfl (by decide)).space hds)
    have hline := (isSafe_fixed hfixed "WHERE" rfl (by decide)).space (isSafe_join hand h)
    exact List.forall_mem_singleton.2 (by simpa using hline)

/-- **The lines that select entities are safe.** -/
theorem isSafe_matchingLines {s : Schema} {r : SearchRequest} {m : Matching}
    (h : matching s r = .ok m) (hlabel : isName s.label = true → P s.label)
    (hnames : ∀ name ∈ r.effectiveFields s, isName name = true → P name)
    (hfilters : ∀ f ∈ r.filters, AllowsField P f.field) :
    ∀ line ∈ m.lines, IsSafe P line.toList := by
  obtain ⟨text, clauses, label, htext, hclauses, hlabelled, hlines, -⟩ := matching_eq_ok h
  have hclause : ∀ c ∈ clauses,
      IsSafe P c.condition.toList ∧ ∀ line ∈ c.matching, IsSafe P line.toList := by
    intro c hc
    obtain ⟨f, hf, hfc⟩ := exists_of_mem_mapM hclauses hc
    exact isSafe_filterClause hfixed hfc (hfilters f (List.mem_of_mem_filter hf))
  have hfirst : IsSafe P ("MATCH " ++ (labelled label).text).toList := by
    have hnode : IsSafe P (labelled label).text.toList := by
      refine isSafe_node (isSafe_fixed hfixed "n" rfl (by decide)) fun i hi => ?_
      obtain rfl := Option.some.inj hi
      rw [Identifier.text_of_ofText hlabelled]
      exact hlabel (Identifier.isName_of_ofText hlabelled)
    have hline := (isSafe_fixed hfixed "MATCH" rfl (by decide)).space hnode
    simpa using hline
  have hguard : ∀ c ∈ guards r, IsSafe P c.toList := by
    unfold guards
    split
    · simp
    · exact List.forall_mem_singleton.2 (isSafe_fixed hfixed notDeleted rfl (by decide))
  rw [hlines, List.forall_mem_cons, List.forall_mem_append]
  refine ⟨hfirst, ?_, isSafe_whereLines hfixed ?_⟩
  · intro line hline
    obtain ⟨c, hc, hmatching⟩ := List.mem_filterMap.1 hline
    exact (hclause c hc).2 line hmatching
  · rw [List.forall_mem_append, List.forall_mem_append, List.forall_mem_map, List.forall_mem_map]
    refine ⟨⟨hguard, fun t ht => ?_⟩, fun c hc => (hclause c hc).1⟩
    exact isSafe_textClause hfixed htext hnames t (Option.mem_toList.1 ht)

end Matching

/-! ### What returns entities -/

/-- The fixed words of the lines that return entities. -/
def projectionWords : List String :=
  ["OPTIONAL", "MATCH", "n", "count", "collect", "head", "DISTINCT", "WITH", "AS", "RETURN"]

section Projection

variable (hfixed : ∀ w ∈ projectionWords, P w)

include hfixed

/-- **What a relationship field adds is safe:** the line that matches its linked
nodes, what gathers them, and its column. -/
theorem isSafe_linkClause {field : Field} {link : Link} {c : LinkClause}
    (h : linkClause field link = .ok c) (hlink : field.link = some link)
    (hfield : AllowsField P field) :
    IsSafe P c.matching.toList ∧ IsSafe P c.expression.toList ∧ IsSafe P c.column.toList := by
  obtain ⟨lowerName, hlower, h⟩ := bind_eq_ok.1 h
  obtain ⟨types, htypes, h⟩ := bind_eq_ok.1 h
  obtain ⟨target, htarget, h⟩ := bind_eq_ok.1 h
  obtain rfl := pure_eq_ok.1 h
  have hname := Identifier.isName_of_ofText hlower
  have hnames := hfield.ofLink hlink
  rw [Identifier.text_of_ofText hlower] at htarget
  have hvariable : IsSafe P ("rel_" ++ field.lowerName).toList :=
    hfield.isSafe_variable hname (by simp)
  have hn : IsSafe P "n".toList := isSafe_fixed hfixed "n" rfl (by decide)
  have hedge : IsSafe P (EdgePattern.text
      { source := { variableName := "n" }, types, direction := link.direction, target }).toList :=
    isSafe_edge (isSafe_node hn (by simp)) isSafe_nil
      (forall_of_identifyTypes htypes fun type htype => hnames type (by simp [Link.names, htype]))
      (isSafe_withLabel htarget hvariable fun label hlabel =>
        hnames label (by simp [Link.names, Option.mem_def.1 hlabel]))
  have hdistinct := (isSafe_fixed hfixed "DISTINCT" rfl (by decide)).space hvariable
  have hcollect := (isSafe_fixed hfixed "collect" rfl (by decide)).parens hdistinct isSafe_nil
  refine ⟨?_, ?_⟩
  · have hline := (isSafe_fixed hfixed "OPTIONAL MATCH" rfl (by decide)).space hedge
    simpa using hline
  · rw [NodePattern.variableName_of_withLabel htarget, Identifier.text_of_ofText hlower]
    cases link.cardinality with
    | count =>
      have hcount := (isSafe_fixed hfixed "count" rfl (by decide)).parens hdistinct isSafe_nil
      exact ⟨by simpa using hcount, hfield.isSafe_collectionAlias hname⟩
    | collection => exact ⟨by simpa using hcollect, hfield.isSafe_collectionAlias hname⟩
    | single =>
      have hhead := (isSafe_fixed hfixed "head" rfl (by decide)).parens hcollect isSafe_nil
      exact ⟨by simpa using hhead, isSafe_name hname (hfield.lowerName hname)⟩

/-- **The lines that return entities are safe.** -/
theorem isSafe_projection {s : Schema} {withLinks : Bool} {lines : List String}
    (h : projection s withLinks = .ok lines)
    (hfields : withLinks = true → ∀ field ∈ s.relationships, AllowsField P field) :
    ∀ line ∈ lines, IsSafe P line.toList := by
  unfold projection at h
  split at h
  · next hlinks =>
    obtain ⟨clauses, hclauses, rfl⟩ := map_eq_ok.1 h
    have hclause : ∀ c ∈ clauses, IsSafe P c.matching.toList ∧ IsSafe P c.expression.toList ∧
        IsSafe P c.column.toList := by
      intro c hc
      obtain ⟨⟨field, link⟩, hmem, hof⟩ := exists_of_mem_mapM hclauses hc
      obtain ⟨field, hfield, hpair⟩ := List.mem_filterMap.1 hmem
      obtain ⟨link, hlink, hpair⟩ := Option.map_eq_some_iff.1 hpair
      cases hpair
      rw [Bool.and_eq_true] at hlinks
      exact isSafe_linkClause hfixed hof hlink (hfields hlinks.1 field hfield)
    have hn : IsSafe P "n".toList := isSafe_fixed hfixed "n" rfl (by decide)
    have hcomma (cs ds : List Char) (hcs : IsSafe P cs) (hds : IsSafe P ds) :
        IsSafe P (cs ++ (", ".toList ++ ds)) :=
      hcs.mark ',' (by decide) (isSafe_nil.space hds)
    have hgathered : ∀ c ∈ clauses, IsSafe P (c.expression ++ " AS " ++ c.column).toList := by
      intro c hc
      have hitem := (hclause c hc).2.1.space
        ((isSafe_fixed hfixed "AS" rfl (by decide)).space (hclause c hc).2.2)
      simpa using hitem
    have hwith := (isSafe_fixed hfixed "WITH" rfl (by decide)).space
      (isSafe_join hcomma (List.forall_mem_cons.2 ⟨hn, List.forall_mem_map.2 hgathered⟩))
    have hreturn := (isSafe_fixed hfixed "RETURN DISTINCT" rfl (by decide)).space
      (isSafe_join hcomma (List.forall_mem_cons.2
        ⟨hn, List.forall_mem_map.2 fun c hc => (hclause c hc).2.2⟩))
    rw [linkedProjection, List.forall_mem_append, List.forall_mem_map]
    refine ⟨fun c hc => (hclause c hc).1, forall_mem_pair ?_ ?_⟩
    · simpa using hwith
    · simpa using hreturn
  · obtain rfl := Except.ok.inj h
    exact List.forall_mem_singleton.2 (isSafe_fixed hfixed "RETURN DISTINCT n" rfl (by decide))

end Projection

/-! ### What orders and limits entities -/

/-- The fixed words of the lines that order and limit entities. -/
def pageWords : List String :=
  ["ORDER", "BY", "n", "DESC", "ASC", "SKIP", "LIMIT"]

section Page

variable (hfixed : ∀ w ∈ pageWords, P w)

include hfixed

theorem isSafe_orderLines {r : SearchRequest} {lines : List String} (h : orderLines r = .ok lines)
    (horder : ∀ order ∈ r.soughtOrder, isName order = true → P order) :
    ∀ line ∈ lines, IsSafe P line.toList := by
  unfold orderLines at h
  split at h
  · cases h
    simp
  · next order hsought =>
    obtain ⟨field, hfield, rfl⟩ := map_eq_ok.1 h
    have hname : P field.text := by
      rw [Identifier.text_of_ofText hfield]
      exact horder order hsought (Identifier.isName_of_ofText hfield)
    have hproperty := (isSafe_fixed hfixed "ORDER BY n" rfl (by decide)).mark '.' (by decide)
      (isSafe_identifier hname)
    refine List.forall_mem_singleton.2 ?_
    split
    · simpa using hproperty.space (isSafe_fixed hfixed "DESC" rfl (by decide))
    · simpa using hproperty.space (isSafe_fixed hfixed "ASC" rfl (by decide))

theorem isSafe_numberLine {word : String} (hword : word = "SKIP" ∨ word = "LIMIT") {number : UInt64}
    (hnumber : P (toString number.toNat)) :
    ∀ line ∈ numberLine word number, IsSafe P line.toList := by
  have hdigits : ∀ c ∈ (toString number.toNat).toList, isNameChar c = true := by
    intro c hc
    simp [isNameChar, Char.isAlphanum, isDigit_of_mem_toString hc]
  have hfirst : IsSafe P word.toList := by
    rcases hword with rfl | rfl
    · exact isSafe_fixed hfixed "SKIP" rfl (by decide)
    · exact isSafe_fixed hfixed "LIMIT" rfl (by decide)
  unfold numberLine
  split
  · simp
  · have hline := hfirst.space (isSafe_word hdigits hnumber)
    exact List.forall_mem_singleton.2 (by simpa using hline)

end Page

/-- Safe lines are a safe text. -/
theorem isSafe_unlines {lines : List String} (h : ∀ line ∈ lines, IsSafe P line.toList) :
    IsSafe P (Text.unlines lines).toList := by
  have hfeed (cs ds : List Char) (hcs : IsSafe P cs) (hds : IsSafe P ds) :
      IsSafe P (cs ++ ("\n".toList ++ ds)) := hcs.mark '\n' (by decide) hds
  exact isSafe_join hfeed h

end Statement

end EntityGraph
