import EntityGraph.Config.Basic
import EntityGraph.Config.Toml.Document
import EntityGraph.Config.Variable
/-!
# Where a configuration comes from

A configuration is made of three layers of settings: the file of the user,
over it the file of the project, and over both the environment variables. Of
several places for a file the first that has one counts.
-/

namespace EntityGraph.Config

/-- What is found in each place that settings may come from. -/
structure Sources where
  /-- The user's file in the home directory. -/
  home : Option String := none
  /-- The user's file in the directory of the platform. -/
  platform : Option String := none
  /-- The project's file in the working directory. -/
  project : Option String := none
  /-- The project's file in the nearest directory above. -/
  ancestor : Option String := none
  /-- The names and values of the environment variables. -/
  environment : List (String × String) := []

/-- The settings of a file that may not exist. -/
def readFile : Option String → Option Table
  | none => some []
  | some text => Toml.read? text

/-- The settings of all layers. -/
def Sources.settings (sources : Sources) : Except Fault Table :=
  let user := readFile (sources.home.or sources.platform)
  let project := readFile (sources.project.or sources.ancestor)
  match user, project with
  | some user, some project =>
    .ok (Setting.layTable (Setting.layTable user project) (Variable.table sources.environment))
  | none, none => .error (.malformed 2)
  | _, _ => .error (.malformed 1)

/-- The configuration of all layers. -/
def load (sources : Sources) : Except Fault Configuration := do
  let settings ← sources.settings
  readConfiguration settings

end EntityGraph.Config
