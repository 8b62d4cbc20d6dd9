import EntityGraph.Proofs.Cypher.Lexemes
import EntityGraph.Cypher.Columns
/-!
# Queries as phrases

The shape of a statement that returns columns: parts joined by `UNION`, each
of them clauses and then a `RETURN` with its items, and perhaps a semicolon at
the end. The phrases hold every lexeme, words of the language included, so
that a query is written in one way only; what may stand in each place is said
by the predicates beside them. The columns of a query are those of its last
part.
-/

namespace EntityGraph.Cypher

/-! ### Phrases -/

/-- The word for an alias, and the name with the gap after it. -/
structure AliasPhrase where
  word : Lexeme
  name : Name
  gap : List Char

/-- An expression and perhaps an alias. -/
structure ItemPhrase where
  expression : List Lexeme
  aliasPhrase : Option AliasPhrase := none

/-- What a part returns: the word for it, perhaps the word for distinct rows,
the items, each but the first after a comma, and what orders and limits the
rows. -/
structure ReturnPhrase where
  word : Lexeme
  distinct : Option Lexeme := none
  first : ItemPhrase
  more : List (Lexeme × ItemPhrase) := []
  tail : List Lexeme := []

/-- The clauses of a part, and what it returns. -/
structure PartPhrase where
  clauses : List Lexeme := []
  returning : ReturnPhrase

/-- A further part after the word that joins it, perhaps with the word for
keeping all rows. -/
structure UnionPhrase where
  word : Lexeme
  all : Option Lexeme := none
  part : PartPhrase

/-- The parts of a statement, and perhaps a semicolon. -/
structure Query where
  first : PartPhrase
  more : List UnionPhrase := []
  semicolon : Option Lexeme := none

/-! ### Lexemes -/

def AliasPhrase.lexemes (a : AliasPhrase) : List Lexeme :=
  [a.word, ⟨.name a.name, a.gap⟩]

def ItemPhrase.lexemes (item : ItemPhrase) : List Lexeme :=
  item.expression ++ (item.aliasPhrase.map AliasPhrase.lexemes).getD []

/-- Items after a comma each. -/
def moreLexemes (more : List (Lexeme × ItemPhrase)) : List Lexeme :=
  more.flatMap fun (comma, item) => comma :: item.lexemes

def ReturnPhrase.lexemes (r : ReturnPhrase) : List Lexeme :=
  r.word :: (r.distinct.toList ++ (r.first.lexemes ++ (moreLexemes r.more ++ r.tail)))

def PartPhrase.lexemes (part : PartPhrase) : List Lexeme :=
  part.clauses ++ part.returning.lexemes

def UnionPhrase.lexemes (u : UnionPhrase) : List Lexeme :=
  u.word :: (u.all.toList ++ u.part.lexemes)

def Query.lexemes (q : Query) : List Lexeme :=
  q.first.lexemes ++ (q.more.flatMap UnionPhrase.lexemes ++ q.semicolon.toList)

/-! ### Columns -/

/-- The column of an item: what its alias stands for, or else the text of its
expression as it is written. -/
def ItemPhrase.column (item : ItemPhrase) : String :=
  String.ofList <|
    match item.aliasPhrase with
    | some a => a.name.meaning
    | none => spelled item.expression

def ReturnPhrase.columns (r : ReturnPhrase) : List String :=
  r.first.column :: r.more.map (·.2.column)

/-- The last part of a query. -/
def Query.lastPart (q : Query) : PartPhrase :=
  (q.more.getLast?.map UnionPhrase.part).getD q.first

def Query.columns (q : Query) : List String :=
  q.lastPart.returning.columns

/-! ### What may stand where -/

/-- A token of a clause: neither the word that returns nor the one that joins
parts. -/
def IsClauseToken (t : Token) : Prop :=
  t ≠ .semicolon ∧ t.isWord "return" = false ∧ t.isWord "union" = false

/-- A token after which rows are ordered and limited. -/
def IsTailToken (t : Token) : Prop :=
  t ≠ .semicolon ∧ t.isWord "union" = false

/-- A token of an expression: no comma, and no word that ends expressions. -/
def IsExpressionToken (t : Token) : Prop :=
  t ≠ .comma ∧ t ≠ .semicolon ∧ t.isWord "as" = false ∧ t.isWord "skip" = false ∧
    t.isWord "limit" = false ∧ t.isWord "union" = false

instance : DecidablePred IsClauseToken := fun _ => inferInstanceAs (Decidable (_ ∧ _))

instance : DecidablePred IsTailToken := fun _ => inferInstanceAs (Decidable (_ ∧ _))

instance : DecidablePred IsExpressionToken := fun _ => inferInstanceAs (Decidable (_ ∧ _))

/-- Lexemes that make an expression: at least one, each of an expression, and
no two that begin an ordering. -/
structure IsExpression (xs : List Lexeme) : Prop where
  nonempty : xs ≠ []
  tokens : ∀ x ∈ xs, IsExpressionToken x.token
  unordered : ∀ x y, [x, y] <:+: xs → ¬ (x.token.isWord "order" = true ∧
    y.token.isWord "by" = true)

structure ItemPhrase.IsWellFormed (item : ItemPhrase) : Prop where
  expression : IsExpression item.expression
  aliasWord : ∀ a ∈ item.aliasPhrase, a.word.token.isWord "as" = true

/-- What orders and limits rows: nothing, or lexemes that start with one of the
words for it. -/
structure IsTail (xs : List Lexeme) : Prop where
  starts : xs = [] ∨ startsTail xs = true
  tokens : ∀ x ∈ xs, IsTailToken x.token

/-- The first item could be taken for all variables or for the word that asks
for distinct rows. -/
def IsPlainStart (xs : List Lexeme) : Prop :=
  startsWithStar xs = false ∧ startsWithWord "distinct" xs = false

structure ReturnPhrase.IsWellFormed (r : ReturnPhrase) : Prop where
  word : r.word.token.isWord "return" = true
  distinct : ∀ x ∈ r.distinct, x.token.isWord "distinct" = true
  first : r.first.IsWellFormed
  plainStart : IsPlainStart r.first.expression
  more : ∀ e ∈ r.more, e.1.token = .comma ∧ e.2.IsWellFormed
  tail : IsTail r.tail

structure PartPhrase.IsWellFormed (part : PartPhrase) : Prop where
  clauses : ∀ x ∈ part.clauses, IsClauseToken x.token
  returning : part.returning.IsWellFormed

structure UnionPhrase.IsWellFormed (u : UnionPhrase) : Prop where
  word : u.word.token.isWord "union" = true
  all : ∀ x ∈ u.all, x.token.isWord "all" = true
  part : u.part.IsWellFormed

/-- **A query whose phrases hold what may stand in them.** -/
structure Query.IsWellFormed (q : Query) : Prop where
  first : q.first.IsWellFormed
  more : ∀ u ∈ q.more, u.IsWellFormed
  semicolon : ∀ x ∈ q.semicolon, x.token = .semicolon

end EntityGraph.Cypher
