import EntityGraph.CommandLine.Command
import EntityGraph.Repository
import EntityGraph.Social.Basic
/-!
# Carrying out commands

The session that each command is, and what it prints in the end. Lists and
single entities are printed as documents; a reaction looks up its user first,
and only shows the change when that is all it is asked for.
-/

namespace EntityGraph.CommandLine

open Social (User Post)

/-- What comes of a command whose statements all succeed. -/
inductive Outcome where
  | printed (text : String)
  /-- There is no entity of a label with an identifier. -/
  | notFound (label id : String)
deriving DecidableEq, Repr

/-- A printed line or several. -/
def Outcome.line (text : String) : Outcome :=
  .printed (text ++ "\n")

/-- A printed document. -/
def Outcome.document (document : Json) : Outcome :=
  .line document.pretty

/-- A session on the entities of a type; `document` shows one. -/
def EntityCommand.session {α : Type} [Entity α] (command : EntityCommand)
    (repo : Repository α) (document : α → Json) (defaults : Config.SearchDefaults) :
    Session Outcome :=
  match command with
  | .list options => do
    let page ← repo.page (options.request defaults)
    return .document (.arr (page.items.map document))
  | .get id => do
    match ← repo.findById id with
    | some entity => return .document (document entity)
    | none => return .notFound repo.label id
  | .search term limit => do
    let found ← repo.search term none (some limit)
    return .document (.arr (found.map document))
  | .count => do
    let total ← repo.countAll
    return .line (toString total)

/-- The relationship type that a reaction is about. -/
def Reaction.type (reaction : Reaction) : String :=
  if reaction.dislike then Social.dislike else Social.like

/-- The document that shows a change. -/
def changeDocument (delta : Delta) : Json :=
  .obj [("to_remove", .ofTexts delta.toRemove.toList), ("to_add", .ofTexts delta.toAdd.toList)]

/-- The session of a reaction. -/
def Reaction.session (reaction : Reaction) : Session Outcome := do
  let users : Repository User := ⟨User.converter⟩
  match ← users.findById reaction.userId with
  | none => return .notFound users.label reaction.userId
  | some _ =>
    if reaction.dryRun then
      let delta ← users.planSync reaction.userId reaction.type reaction.postIds .outgoing
      return .document (changeDocument delta)
    else
      let synced ← users.syncLinks reaction.userId reaction.type reaction.postIds .outgoing
      return .line (toString synced ++ " " ++ reaction.type ++ " relationship(s) for user "
        ++ reaction.userId)

/-- The session of a command. -/
def Command.session (command : Command) (defaults : Config.SearchDefaults) : Session Outcome :=
  match command with
  | .users command => command.session ⟨User.converter⟩ User.document defaults
  | .posts command => command.session ⟨Post.converter⟩ Post.document defaults
  | .react reaction => reaction.session

end EntityGraph.CommandLine
