import EntityGraph.CommandLine.Arguments
import EntityGraph.Config.Basic
import EntityGraph.Number.Numeral
/-!
# The commands

What the program can be told to do, and the words that tell it so.
-/

namespace EntityGraph.CommandLine

/-- Which page of entities to list. -/
structure ListOptions where
  page : UInt32 := 1
  /-- The number of entities on a page, if it is not the configured one. -/
  pageSize : Option UInt32 := none
  text : Option String := none
  includeDeleted : Bool := false
deriving DecidableEq, Repr

/-- What to do with the entities of a type. -/
inductive EntityCommand where
  | list (options : ListOptions)
  | get (id : String)
  | search (term : String) (limit : UInt64)
  | count
deriving DecidableEq, Repr

/-- Which posts a user reacts to from now on. -/
structure Reaction where
  userId : String
  dislike : Bool := false
  /-- Whether the change is only shown. -/
  dryRun : Bool := false
  postIds : List String := []
deriving DecidableEq, Repr

/-- What the program is told to do. -/
inductive Command where
  | users (command : EntityCommand)
  | posts (command : EntityCommand)
  | react (reaction : Reaction)
deriving DecidableEq, Repr

/-- A command, and whether to tell about its progress. -/
structure Invocation where
  verbose : Bool
  command : Command
deriving DecidableEq, Repr

/-- The request for the page to list, on the configured defaults. -/
def ListOptions.request (options : ListOptions) (defaults : Config.SearchDefaults) :
    SearchRequest :=
  let request := (defaults.request.withPage options.page).withIncludeDeleted options.includeDeleted
  let request :=
    match options.pageSize with
    | some n => request.withPageSize n
    | none => request
  match options.text with
  | some text => request.withText text
  | none => request

/-! ### Options -/

/-- The options of every command. -/
def commonOptions : List OptionForm :=
  [⟨"verbose", some 'v', .flag⟩, ⟨"help", some 'h', .help⟩]

/-- A flag without a letter. -/
def flagForm (name : String) : OptionForm :=
  ⟨name, none, .flag⟩

/-- An option whose value is any text. -/
def textForm (name : String) : OptionForm :=
  ⟨name, none, .value (some ∘ .text)⟩

/-- An option whose value is a signed integer that is a 32-bit number. -/
def word32Form (name : String) : OptionForm :=
  ⟨name, none, .value fun text =>
    match Number.readInt64 text with
    | .ok n => if Number.isWord32 n then some (.number n) else none
    | .error _ => none⟩

/-- An option whose value is a 64-bit number. -/
def word64Form (name : String) : OptionForm :=
  ⟨name, none, .value fun text => (Number.readWord64 text).toOption.map .number⟩

/-! ### Words -/

/-- What the arguments of `list` say. -/
def ListOptions.ofArguments (arguments : Arguments) : ListOptions :=
  let word? (name : String) : Option UInt32 := (arguments.number? name).map (·.toNat.toUInt32)
  { page := (word? "page").getD 1
    pageSize := word? "page-size"
    text := arguments.text? "text"
    includeDeleted := arguments.flag "include-deleted" }

/-- What the arguments of `react` say. -/
def Reaction.ofArguments (arguments : Arguments) : Reaction where
  userId := arguments.operands.headD ""
  dislike := arguments.flag "dislike"
  dryRun := arguments.flag "dry-run"
  postIds := arguments.operands.tail

/-- A command on its own options, besides the common ones. -/
def leaf (options : List OptionForm) (least : Nat) (most : Option Nat)
    (make : Arguments → Command) : Level Invocation :=
  .command (commonOptions ++ options) least most fun arguments =>
    { verbose := arguments.flag "verbose", command := make arguments }

/-- The commands on the entities of a type. -/
def entityLevel (wrap : EntityCommand → Command) : Level Invocation :=
  .group commonOptions
    [("list",
      leaf [word32Form "page", word32Form "page-size", textForm "text",
        flagForm "include-deleted"] 0 (some 0) (wrap ∘ .list ∘ ListOptions.ofArguments)),
    ("get", leaf [] 1 (some 1) fun arguments => wrap (.get (arguments.operands.headD ""))),
    ("search",
      leaf [word64Form "limit"] 1 (some 1) fun arguments =>
        wrap (.search (arguments.operands.headD "")
          (((arguments.number? "limit").map (·.toNat.toUInt64)).getD 20))),
    ("count", leaf [] 0 (some 0) fun _ => wrap .count)]

/-- All commands. -/
def topLevel : Level Invocation :=
  .group (commonOptions ++ [⟨"version", some 'V', .version⟩])
    [("users", entityLevel .users),
    ("posts", entityLevel .posts),
    ("react", leaf [flagForm "dislike", flagForm "dry-run"] 1 none
      (.react ∘ Reaction.ofArguments))]

/-- What the words after the name of the program tell it to do. -/
def Invocation.read (words : List String) : Except UsageFault Invocation :=
  topLevel.read words

end EntityGraph.CommandLine
