import EntityGraph.CommandLine.Program
/-!
# The executable

Gathers what a run depends on: the words, the configuration files and the
environment variables. The executable has no way to a server of its own, so
every request is refused, and a run that gets as far as a statement ends with
a failure.
-/

namespace EntityGraph.Executable

/-- The text of a file, if it can be read. -/
def readFile? (path : String) : IO (Option String) := do
  try
    return some (← IO.FS.readFile path)
  catch _ =>
    return none

/-- The names and values of the environment variables. -/
def readVariables : IO (List (String × String)) := do
  let text := (← readFile? "/proc/self/environ").getD ""
  let entries := Text.splitChars '\x00' text.toList
  return entries.filterMap fun entry =>
    match entry.dropWhile (· != '=') with
    | _ :: value => some (String.ofList (entry.takeWhile (· != '=')), String.ofList value)
    | [] => none

/-- The text of the project's file in the nearest of some directories above,
each written as a way up from the working directory. -/
def readAncestor (directory : String) : Nat → IO (Option String)
  | 0 => return none
  | levels + 1 => do
    match ← readFile? (directory ++ ".graphmap.toml") with
    | some text => return some text
    | none => readAncestor (directory ++ "../") levels

/-- The user's file under the directory that a variable names. -/
def readUserFile (variableName path : String) : IO (Option String) := do
  match ← IO.getEnv variableName with
  | some directory => readFile? (directory ++ path ++ "/graphmap/config.toml")
  | none => return none

/-- What is found in each place that settings may come from. -/
def gatherSources : IO Config.Sources := do
  return {
    home := ← readUserFile "HOME" "/.config"
    platform := ← readUserFile "XDG_CONFIG_HOME" ""
    project := ← readFile? ".graphmap.toml"
    ancestor := ← readAncestor "../" 64
    environment := ← readVariables }

/-- A server that refuses every request. -/
def noServer : Bolt.Server Unit :=
  ⟨fun _ state => (.refused, state)⟩

/-- Tells on standard error why a run came to nothing. -/
def explain (ending : CommandLine.Ending) : IO Unit := do
  match ending with
  | .usage .helpWanted | .usage .versionWanted | .printed _ => return
  | .usage fault => IO.eprintln ("usage error: " ++ reprStr fault)
  | .failed fault =>
    IO.eprintln ("Error: " ++ (fault.message?.getD "the command failed"))
    match fault.cause? with
    | some failure => IO.eprintln ("  " ++ failure.message)
    | none => return

end EntityGraph.Executable

open EntityGraph Executable

/-- Runs the program on the words after its name. -/
def main (words : List String) : IO UInt32 := do
  let (ending, _) := CommandLine.run words (← gatherSources) noServer ()
  IO.print ending.output
  explain ending
  return ending.status
