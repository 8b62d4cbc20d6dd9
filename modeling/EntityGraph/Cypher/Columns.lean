import EntityGraph.Cypher.Token
import EntityGraph.Failure
import EntityGraph.Text.Blank
/-!
# Result columns

The columns that a statement returns, read off its last `RETURN`: each item
gives its alias or else the text of its expression. Only the `RETURN`
projections are read; of all other clauses it matters alone that they divide
into tokens. Main definition: `returnColumns`.
-/

namespace EntityGraph.Cypher

/-- Why a statement has no known columns. -/
inductive ColumnFault where
  /-- The statement returns nothing. -/
  | noReturn
  /-- The statement returns all variables without naming them. -/
  | returnsAll
  /-- The statement cannot be divided into tokens and clauses. -/
  | malformed
deriving DecidableEq, Repr

/-- The wording of a column fault. -/
def ColumnFault.message : ColumnFault → String
  | .noReturn => "No RETURN clause found in query"
  | .returnsAll => returnsAllMessage
  | .malformed => "Invalid syntax"

/-- An item of a projection. -/
structure Item where
  expression : List Lexeme
  aliasName : Option Name
deriving DecidableEq, Repr

/-- What a `RETURN` gives back. -/
inductive Projection where
  /-- All variables. -/
  | all
  | items (items : List Item)
deriving DecidableEq, Repr

/-- Whether the first lexeme is a word. -/
def startsWithWord (word : String) : List Lexeme → Bool
  | [] => false
  | x :: _ => x.token.isWord word

/-- Whether the lexemes start with two words. -/
def startsWithWords (first second : String) : List Lexeme → Bool
  | [] => false
  | x :: rest => x.token.isWord first && startsWithWord second rest

/-- Whether what orders or limits the rows of a projection starts here. -/
def startsTail (xs : List Lexeme) : Bool :=
  startsWithWords "order" "by" xs || startsWithWord "skip" xs || startsWithWord "limit" xs

/-- Whether an expression cannot go on here. -/
def endsExpression : List Lexeme → Bool
  | [] => true
  | x :: rest =>
    x.token = .comma || x.token = .semicolon || x.token.isWord "as" || x.token.isWord "union"
      || startsTail (x :: rest)

/-- The longest expression at the front, and what follows it. -/
def splitExpression : List Lexeme → List Lexeme × List Lexeme
  | [] => ([], [])
  | x :: rest =>
    if endsExpression (x :: rest) then ([], x :: rest)
    else
      let (expression, after) := splitExpression rest
      (x :: expression, after)

/-- The alias of an item, if there is one, and what follows it. -/
def scanAlias : List Lexeme → Option Name × List Lexeme
  | x :: y :: rest =>
    if x.token.isWord "as" then
      match y.token with
      | .name name => (some name, rest)
      | _ => (none, x :: y :: rest)
    else (none, x :: y :: rest)
  | xs => (none, xs)

/-- An item at the front, and what follows it. -/
def scanItem (xs : List Lexeme) : Option (Item × List Lexeme) :=
  let (expression, afterExpression) := splitExpression xs
  if expression.isEmpty then none
  else
    let (aliasName, rest) := scanAlias afterExpression
    some (⟨expression, aliasName⟩, rest)

theorem splitExpression_append (xs : List Lexeme) :
    (splitExpression xs).1 ++ (splitExpression xs).2 = xs := by
  fun_induction splitExpression xs <;> simp_all

theorem scanAlias_length_le (xs : List Lexeme) : (scanAlias xs).2.length ≤ xs.length := by
  unfold scanAlias
  split
  · split
    · split <;> simp only [List.length_cons] <;> omega
    · exact Nat.le_refl _
  · exact Nat.le_refl _

theorem length_lt_of_scanItem {xs rest : List Lexeme} {item : Item}
    (h : scanItem xs = some (item, rest)) : rest.length < xs.length := by
  unfold scanItem at h
  simp only at h
  split at h
  · simp at h
  · next hne =>
    cases h
    have hsplit := congrArg List.length (splitExpression_append xs)
    have hpos : 0 < (splitExpression xs).1.length := by
      cases hexpr : (splitExpression xs).1 with
      | nil => simp [hexpr] at hne
      | cons => simp
    have := scanAlias_length_le (splitExpression xs).2
    simp only [List.length_append] at hsplit
    omega

/-- The further items of a projection, and what follows them. A comma without
an item after it is left over. -/
def scanMoreItems (xs : List Lexeme) : List Item × List Lexeme :=
  match xs with
  | [] => ([], [])
  | x :: rest =>
    if x.token = .comma then
      match _scanned : scanItem rest with
      | none => ([], x :: rest)
      | some (item, after) =>
        let (items, last) := scanMoreItems after
        (item :: items, last)
    else ([], x :: rest)
termination_by xs.length
decreasing_by exact Nat.lt_succ_of_lt (length_lt_of_scanItem _scanned)

/-- What follows the ordering and limits of a projection, if it has any. -/
def skipTail (xs : List Lexeme) : List Lexeme :=
  if startsTail xs then xs.dropWhile fun x => !(x.token.isWord "union" || x.token = .semicolon)
  else xs

/-- What follows the word for distinct rows, if it stands at the front. -/
def skipDistinct (xs : List Lexeme) : List Lexeme :=
  if startsWithWord "distinct" xs then xs.drop 1 else xs

/-- Whether the first lexeme stands for all variables. -/
def startsWithStar : List Lexeme → Bool
  | [] => false
  | x :: _ => x.token = .operator '*'

/-- The projection after a `RETURN`, and what follows it. -/
def scanProjection (xs : List Lexeme) : Option (Projection × List Lexeme) :=
  let items := skipDistinct xs
  if startsWithStar items then some (.all, skipTail (items.drop 1))
  else
    (scanItem items).map fun (first, afterFirst) =>
      let (more, rest) := scanMoreItems afterFirst
      (.items (first :: more), skipTail rest)

theorem scanMoreItems_length_le (xs : List Lexeme) :
    (scanMoreItems xs).2.length ≤ xs.length := by
  fun_induction scanMoreItems xs with
  | case1 => simp
  | case2 => simp
  | case3 x rest hcomma item after hscan items last hmore ih =>
    have := length_lt_of_scanItem hscan
    simp only [hmore] at ih
    simp only [List.length_cons]
    omega
  | case4 => simp

theorem skipTail_length_le (xs : List Lexeme) : (skipTail xs).length ≤ xs.length := by
  unfold skipTail
  split
  · exact (List.dropWhile_sublist _).length_le
  · exact Nat.le_refl _

theorem skipDistinct_length_le (xs : List Lexeme) : (skipDistinct xs).length ≤ xs.length := by
  unfold skipDistinct
  split
  · simp
  · exact Nat.le_refl _

theorem length_le_of_scanProjection {xs rest : List Lexeme} {projection : Projection}
    (h : scanProjection xs = some (projection, rest)) : rest.length ≤ xs.length := by
  have hdistinct := skipDistinct_length_le xs
  unfold scanProjection at h
  simp only at h
  split at h
  · cases h
    have := skipTail_length_le ((skipDistinct xs).drop 1)
    simp only [List.length_drop] at this
    omega
  · obtain ⟨⟨first, after⟩, hitem, he⟩ := Option.map_eq_some_iff.1 h
    cases he
    have := length_lt_of_scanItem hitem
    have := scanMoreItems_length_le after
    have := skipTail_length_le (scanMoreItems after).2
    show (skipTail (scanMoreItems after).2).length ≤ xs.length
    omega

/-- The projections of a statement in order, or nothing if a `RETURN` has no
items or a semicolon does not end the statement. -/
def projections (xs : List Lexeme) : Option (List Projection) :=
  match xs with
  | [] => some []
  | x :: rest =>
    if x.token = .semicolon then if rest.isEmpty then some [] else none
    else if x.token.isWord "return" then
      match _scanned : scanProjection rest with
      | none => none
      | some (projection, after) => (projections after).map (projection :: ·)
    else projections rest
termination_by xs.length
decreasing_by
  · exact Nat.lt_succ_of_le (length_le_of_scanProjection _scanned)
  · exact Nat.lt_succ_self _

/-- The text of an expression of several lexemes, with the gaps between them. -/
def spelled : List Lexeme → List Char
  | [] => []
  | [x] => x.token.chars
  | x :: y :: rest => x.chars ++ spelled (y :: rest)

/-- The text of an expression without the white space at its ends. The comments
after an expression of one lexeme belong to it. -/
def expressionText : List Lexeme → List Char
  | [x] => Text.trimChars x.chars
  | xs => Text.trimChars (spelled xs)

/-- The column that an item gives. -/
def Item.column (item : Item) : String :=
  String.ofList <|
    match item.aliasName with
    | some name => name.meaning
    | none => expressionText item.expression

/-- The columns of the last of some projections. None of them may be for all
variables. -/
def lastColumns : List Projection → Except ColumnFault (List String)
  | [] => .error .noReturn
  | .all :: _ => .error .returnsAll
  | .items items :: rest =>
    match lastColumns rest with
    | .error .noReturn => .ok (items.map Item.column)
    | other => other

/-- **The columns of a statement.** -/
def returnColumns (statement : String) : Except ColumnFault (List String) :=
  match (lexemes statement).bind projections with
  | none => .error .malformed
  | some found => lastColumns found

end EntityGraph.Cypher
