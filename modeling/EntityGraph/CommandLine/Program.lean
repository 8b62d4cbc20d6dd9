import EntityGraph.Bolt.Address
import EntityGraph.Bolt.Client
import EntityGraph.CommandLine.Run
import EntityGraph.Config.Load
/-!
# The program

A whole run: the words are read, the configuration is loaded, the address of
the database is read, and only then is the first statement sent. The first of
these steps that goes wrong decides how the run ends.
-/

namespace EntityGraph.CommandLine

/-- Why a run that was understood came to nothing. -/
inductive RunFault where
  /-- The configuration cannot be used. -/
  | configuration (fault : Config.Fault)
  /-- The configuration gives no address of a server. -/
  | address
  /-- Something went wrong on the way. -/
  | failure (failure : Failure)
  /-- There is no entity of a label with an identifier. -/
  | notFound (label id : String)
deriving DecidableEq

/-- What a run fault says by itself; the failure behind it is told apart. -/
def RunFault.message? : RunFault → Option String
  | .configuration _ => some "Failed to load configuration"
  | .address => some "Failed to connect to Neo4j"
  | .failure _ => none
  | .notFound label id => some ("No " ++ label ++ " with id " ++ id)

/-- The failure behind a run fault, if there is one. -/
def RunFault.cause? : RunFault → Option Failure
  | .configuration fault => some (.config fault)
  | .address => some .connection
  | .failure f => some f
  | .notFound _ _ => none

/-- What a session has printed, or why the run came to nothing. -/
def printed : Except Failure Outcome → Except RunFault String
  | .ok (.printed text) => .ok text
  | .ok (.notFound label id) => .error (.notFound label id)
  | .error failure => .error (.failure failure)

variable {σ : Type}

/-- Carries out a command by an executor, and gives what it prints. -/
def Command.runWith (command : Command) (defaults : Config.SearchDefaults)
    (executor : Executor σ) (state : σ) : Except RunFault String × σ :=
  let (outcome, after) := (command.session defaults).runWith executor state
  (printed outcome, after)

/-- Carries out a command against the server that the configuration names, and
gives what it prints. -/
def Command.run (command : Command) (sources : Config.Sources) (server : Bolt.Server σ)
    (state : σ) : Except RunFault String × σ :=
  match Config.load sources with
  | .error fault => (.error (.configuration fault), state)
  | .ok configuration =>
    match Bolt.Address.read? configuration.connection.uri with
    | none => (.error .address, state)
    | some _ => command.runWith configuration.search (Bolt.client server) state

/-! ### Endings -/

/-- How a run ends. -/
inductive Ending where
  /-- The words are not understood, or ask for no command. -/
  | usage (fault : UsageFault)
  | failed (fault : RunFault)
  | printed (text : String)

/-- The line that tells the version. -/
def versionText : String := "graphmap 0.1.0\n"

/-- The lines that tell which words are understood. -/
def helpText : String :=
  Text.unlines
    ["Browse graph-mapped users and posts stored in Neo4j",
      "",
      "Usage: graphmap [-v] <COMMAND>",
      "",
      "  users list|get|search|count    query users",
      "  posts list|get|search|count    query posts",
      "  react <USER_ID> [POST_IDS]...  replace the posts a user reacts to",
      "  help                           print this text",
      ""]

/-- The status that a run ends with. -/
def Ending.status : Ending → UInt32
  | .usage .helpWanted | .usage .versionWanted | .printed _ => 0
  | .failed _ => 1
  | .usage _ => 2

/-- What a run has written to standard output. -/
def Ending.output : Ending → String
  | .usage .helpWanted => helpText
  | .usage .versionWanted => versionText
  | .usage _ | .failed _ => ""
  | .printed text => text

/-- A whole run on the words after the name of the program. -/
def run (words : List String) (sources : Config.Sources) (server : Bolt.Server σ) (state : σ) :
    Ending × σ :=
  match Invocation.read words with
  | .error fault => (.usage fault, state)
  | .ok invocation =>
    match invocation.command.run sources server state with
    | (.ok text, after) => (.printed text, after)
    | (.error fault, after) => (.failed fault, after)

end EntityGraph.CommandLine
