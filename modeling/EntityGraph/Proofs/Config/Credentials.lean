import EntityGraph.Config.Load
import EntityGraph.Proofs.Config.Form
import EntityGraph.Proofs.Outcome
import Mathlib.Data.List.Permutation
/-!
# Credentials in variables

What becomes of the address of the database, the user and the password when
nothing but environment variables says what they are. Variables of other
programs and the order of the variables make no difference, so what is loaded
depends on the three values alone (`load_eq`). They arrive as they were written
exactly when none of them has one of the forms that values are read in
(`load_credentials_iff`).
-/

namespace EntityGraph.Config

open Variable (HasForm)

/-- The variables that hold the credentials. -/
def credentialVariables (uri user password : String) : List (String × String) :=
  [("GRAPHMAP_NEO4J__URI", uri), ("GRAPHMAP_NEO4J__USER", user),
    ("GRAPHMAP_NEO4J__PASSWORD", password)]

/-- The setting of a variable on its own. -/
def single (value : String) : Setting :=
  (Variable.read value).laidOver none

variable {environment : List (String × String)} {uri user password : String}

/-! ### The table of the variables -/

theorem table_filter (environment : List (String × String)) :
    Variable.table (environment.filter fun e => (Variable.path? e.1).isSome) =
      Variable.table environment := by
  rw [Variable.table, Variable.table, List.foldl_filter]
  congr 1
  funext below e
  cases Variable.path? e.1 <;> rfl

theorem path?_uri : Variable.path? "GRAPHMAP_NEO4J__URI" = some ["neo4j", "uri"] := by decide

theorem path?_user : Variable.path? "GRAPHMAP_NEO4J__USER" = some ["neo4j", "user"] := by decide

theorem path?_password :
    Variable.path? "GRAPHMAP_NEO4J__PASSWORD" = some ["neo4j", "password"] := by decide

theorem table_of_perm (h : environment.Perm (credentialVariables uri user password)) :
    Variable.table environment = [("neo4j", .table
      [("password", single password), ("uri", single uri), ("user", single user)])] := by
  have hmem := List.mem_permutations'.2 h
  simp only [credentialVariables, List.permutations', List.permutations'Aux, List.flatMap_cons,
    List.flatMap_nil, List.map_cons, List.map_nil, List.append_nil, List.cons_append,
    List.nil_append, List.mem_cons, List.not_mem_nil, or_false] at hmem
  rcases hmem with rfl | rfl | rfl | rfl | rfl | rfl
  all_goals simp +decide only [Variable.table, List.foldl_cons, List.foldl_nil, path?_uri, path?_user,
    path?_password, Variable.nest, Setting.members, Setting.layTable, Setting.laidOver, insertSorted,
    lookupEntry, single, if_true, if_false]

/-! ### What is loaded -/

/-- What lies below a setting changes nothing about its being a text. -/
@[simp] theorem readText_laidOver (below : Option Setting) (setting : Setting) :
    (setting.laidOver below).readText = setting.readText := by
  cases setting <;> simp [Setting.laidOver, Setting.readText, Setting.found]

/-- A credential as it is read from its variable. -/
def readCredential (field value : String) : Except Fault String :=
  (Variable.read value).readText.mapError fun fault => (fault.under field).under "neo4j"

/-- The configuration of the three values: each must be read as a text, and the
address and the user must not be blank. -/
def configurationOf (uri user password : String) : Except Fault Configuration := do
  let password ← readCredential "password" password
  let uri ← readCredential "uri" uri
  let user ← readCredential "user" user
  let connection : Connection := { uri, user, password := some password }
  match connection.blankFault? with
  | some fault => .error fault
  | none => .ok { connection }

/-- **What is loaded from the variables alone** depends on the three values. -/
theorem load_eq (h : (environment.filter fun e => (Variable.path? e.1).isSome).Perm
    (credentialVariables uri user password)) :
    load { environment } = configurationOf uri user password := by
  have htable := table_of_perm h
  rw [table_filter] at htable
  have hsettings : Sources.settings { environment } = .ok [("neo4j", .table
      [("password", (single password).laidOver none), ("uri", (single uri).laidOver none),
        ("user", (single user).laidOver none)])] := by
    simp +decide only [Sources.settings, Option.or, readFile, htable, Setting.layTable,
      Setting.laidOver, insertSorted, lookupEntry, Setting.members, if_false]
  rw [load, hsettings]
  unfold configurationOf readCredential
  simp only [bind, Except.bind, readConfiguration, SectionForm.read, SectionForm.takeAll,
    configurationForm, connectionForm, single, List.map_cons, List.map_nil, readText_laidOver]
  cases (Variable.read password).readText with
  | error fault => rfl
  | ok password =>
    cases (Variable.read uri).readText with
    | error fault => rfl
    | ok uri => cases (Variable.read user).readText <;> rfl

theorem readCredential_eq_ok {field value s : String} :
    readCredential field value = .ok s ↔ Variable.read value = .text s := by
  rw [readCredential]
  cases Variable.read value <;> simp [Setting.readText, Except.mapError]

/-- A configuration has the three values that were read as texts. -/
theorem exists_texts {c : Configuration} (h : configurationOf uri user password = .ok c) :
    ∃ p u w, Variable.read password = .text p ∧ Variable.read uri = .text u ∧
      Variable.read user = .text w ∧
      c = { connection := { uri := u, user := w, password := some p } } := by
  obtain ⟨p, hp, h⟩ := bind_eq_ok.1 h
  obtain ⟨u, hu, h⟩ := bind_eq_ok.1 h
  obtain ⟨w, hw, h⟩ := bind_eq_ok.1 h
  refine ⟨p, u, w, readCredential_eq_ok.1 hp, readCredential_eq_ok.1 hu,
    readCredential_eq_ok.1 hw, ?_⟩
  simp only at h
  split at h
  · cases h
  · exact (Except.ok.inj h).symm

theorem configurationOf_texts (hp : Variable.read password = .text password)
    (hu : Variable.read uri = .text uri) (hw : Variable.read user = .text user)
    (huri : Text.isBlank uri = false) (huser : Text.isBlank user = false) :
    configurationOf uri user password =
      .ok { connection := { uri, user, password := some password } } := by
  have hblank : Connection.blankFault? { uri, user, password := some password } = none := by
    simp [Connection.blankFault?, huri, huser]
  simp only [configurationOf, readCredential_eq_ok.2 hp, readCredential_eq_ok.2 hu,
    readCredential_eq_ok.2 hw, bind, Except.bind, hblank]

/-- **Credentials arrive as they were written exactly when none of them has a
form.** With no files and no other variables of this library, for every address
and user that are not blank and every password, all without white space at their
ends: a configuration with these credentials is loaded if and only if none of
the three has the form of a truth value, a number, a quoted text, a list or a
table; and it has nothing else that was not there by default. -/
theorem load_credentials_iff
    (hvariables : (environment.filter fun e => (Variable.path? e.1).isSome).Perm
      (credentialVariables uri user password))
    (huri : Text.trim uri = uri) (huser : Text.trim user = user)
    (hpassword : Text.trim password = password) (huriBlank : Text.isBlank uri = false)
    (huserBlank : Text.isBlank user = false) :
    ((∃ c, load { environment } = .ok c ∧ c.connection.uri = uri ∧ c.connection.user = user ∧
        c.connection.password = some password) ↔
      ¬HasForm uri ∧ ¬HasForm user ∧ ¬HasForm password) ∧
    (¬HasForm uri → ¬HasForm user → ¬HasForm password → load { environment } =
      .ok { connection := { uri, user, password := some password } }) := by
  rw [load_eq hvariables, ← Variable.read_eq_text_iff huri, ← Variable.read_eq_text_iff huser,
    ← Variable.read_eq_text_iff hpassword]
  have hloaded (hu : Variable.read uri = .text uri) (hw : Variable.read user = .text user)
      (hp : Variable.read password = .text password) :=
    configurationOf_texts hp hu hw huriBlank huserBlank
  refine ⟨⟨?_, fun ⟨hu, hw, hp⟩ => ⟨_, hloaded hu hw hp, rfl, rfl, rfl⟩⟩, hloaded⟩
  rintro ⟨c, hc, hcuri, hcuser, hcpassword⟩
  obtain ⟨p, u, w, hp, hu, hw, rfl⟩ := exists_texts hc
  obtain rfl : u = uri := hcuri
  obtain rfl : w = user := hcuser
  obtain rfl : p = password := Option.some.inj hcpassword
  exact ⟨hu, hw, hp⟩

theorem load_credentials_secret :
    let environment := ("HOME", "/root") ::
      (credentialVariables "bolt://localhost:7687" "neo4j" "s3cret, 12").reverse
    load { environment } = .ok
      { connection := { uri := "bolt://localhost:7687", user := "neo4j",
                        password := some "s3cret, 12" } } := by
  intro environment
  have hplain {s : String} (htrim : Text.trim s = s) (hread : Variable.read s = .text s) :
      ¬HasForm s := (Variable.read_eq_text_iff htrim).1 hread
  have hvariables : (environment.filter fun e => (Variable.path? e.1).isSome).Perm
      (credentialVariables "bolt://localhost:7687" "neo4j" "s3cret, 12") := by decide
  exact (load_credentials_iff hvariables (by decide) (by decide) (by decide) (by decide)
    (by decide)).2 (hplain (by decide) rfl) (hplain (by decide) rfl) (hplain (by decide) rfl)

/-- A password of digits is refused. -/
theorem load_digits :
    load { environment := credentialVariables "bolt://localhost:7687" "neo4j" "12" } =
      .error (.invalidType ["neo4j", "password"] (.unsigned 12) "a string") := by
  have hvariables : ((credentialVariables "bolt://localhost:7687" "neo4j" "12").filter fun e =>
      (Variable.path? e.1).isSome).Perm
        (credentialVariables "bolt://localhost:7687" "neo4j" "12") := by decide
  rw [load_eq hvariables]
  rfl

end EntityGraph.Config
