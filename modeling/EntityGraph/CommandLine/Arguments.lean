import EntityGraph.Bag
/-!
# Reading arguments

The words of a command line, read by a tree of commands. Each command says
which options it knows and how many operands it takes; a group of commands
takes the name of one of them instead. An option and the word that is its value
are looked at together, once it is clear that no other word can be the value.
-/

namespace EntityGraph.CommandLine

/-- Why words are not understood, or what they ask for in the place of a
command. -/
inductive UsageFault where
  /-- Help is asked for. -/
  | helpWanted
  /-- The version is asked for. -/
  | versionWanted
  /-- There is no word where the name of a command is required. -/
  | nothingGiven
  /-- There are options, but no name of a command. -/
  | missingCommand
  /-- A word stands for the name of a command and is none. -/
  | unknownCommand
  /-- A word is no option of the command and cannot be an operand. -/
  | unknownArgument
  /-- An option is given twice. -/
  | repeatedOption
  /-- An option has no value. -/
  | missingValue
  /-- The value of an option cannot be read. -/
  | malformedValue
  /-- An option that takes no value has one. -/
  | unwantedValue
  /-- There are too few operands. -/
  | missingOperand
deriving DecidableEq, Repr

/-- What an option gives. -/
inductive Given where
  | flag
  | text (s : String)
  | number (n : Int)
deriving DecidableEq, Repr

/-- What an option does. Options with values have no letter. -/
inductive OptionKind where
  | flag
  | value (read : String → Option Given)
  | help
  | version

/-- An option of a command. -/
structure OptionForm where
  name : String
  letter : Option Char := none
  kind : OptionKind

/-- What a command is given. -/
structure Arguments where
  given : List (String × Given) := []
  operands : List String := []

namespace Arguments

/-- Whether a flag is given. -/
def flag (arguments : Arguments) (name : String) : Bool :=
  (lookupEntry name arguments.given).isSome

/-- The text that an option gives. -/
def text? (arguments : Arguments) (name : String) : Option String :=
  match lookupEntry name arguments.given with
  | some (.text s) => some s
  | _ => none

/-- The number that an option gives. -/
def number? (arguments : Arguments) (name : String) : Option Int :=
  match lookupEntry name arguments.given with
  | some (.number n) => some n
  | _ => none

end Arguments

/-- A command or a group of commands. -/
inductive Level (α : Type) where
  /-- Commands by their names. -/
  | group (options : List OptionForm) (commands : List (String × Level α))
  /-- A command with at least `least` and at most `most` operands. -/
  | command (options : List OptionForm) (least : Nat) (most : Option Nat)
      (make : Arguments → α)

/-- The arguments of a command as far as they are read. -/
structure Progress where
  arguments : Arguments := {}
  /-- An option that has not been looked at, with its value once there is
  one. -/
  pending : Option (OptionForm × Option String) := none

namespace Progress

/-- Whether the next word may be the value of an option. -/
def awaitsValue (p : Progress) : Bool :=
  match p.pending with
  | some (_, none) => true
  | _ => false

/-- Takes in an option. -/
def record (p : Progress) (form : OptionForm) (value : Option String) :
    Except UsageFault Progress :=
  let add (given : Given) : Except UsageFault Progress :=
    .ok { p with arguments :=
      { p.arguments with given := p.arguments.given ++ [(form.name, given)] } }
  let isRepeated := p.arguments.flag form.name
  match form.kind, value with
  | .help, _ => .error .helpWanted
  | .version, _ => .error .versionWanted
  | .flag, _ => if isRepeated then .error .repeatedOption else add .flag
  | .value _, none => .error .missingValue
  | .value read, some text =>
    if isRepeated then .error .repeatedOption
    else
      match read text with
      | some given => add given
      | none => .error .malformedValue

/-- Takes in the option that has not been looked at. -/
def settle (p : Progress) : Except UsageFault Progress :=
  match p.pending with
  | none => .ok p
  | some (form, value) => { p with pending := none }.record form value

/-- Takes in an option after what has not been looked at. -/
def addOption (p : Progress) (form : OptionForm) (value : Option String) :
    Except UsageFault Progress := do
  let settled ← p.settle
  settled.record form value

/-- Takes in a word that begins with two hyphens, which are left out here. -/
def addLong (options : List OptionForm) (p : Progress) (word : List Char) :
    Except UsageFault Progress := do
  let name := String.ofList (word.takeWhile (· != '='))
  let value := (word.dropWhile (· != '=')).tail?.map String.ofList
  match options.find? (·.name == name) with
  | none => .error .unknownArgument
  | some form =>
    match form.kind, value with
    | .value _, none => return { ← p.settle with pending := some (form, none) }
    | .value _, some text => p.addOption form (some text)
    | _, some _ => .error .unwantedValue
    | _, none => p.addOption form none

/-- Takes in the letters after one hyphen, each an option. -/
def addLetters (options : List OptionForm) : Progress → List Char → Except UsageFault Progress
  | p, [] => .ok p
  | p, c :: cs =>
    match options.find? (·.letter == some c) with
    | none => .error .unknownArgument
    | some form => do
      let p ← p.addOption form none
      p.addLetters options cs

/-- Takes in an operand. -/
def addOperand (p : Progress) (word : String) : Except UsageFault Progress := do
  let p ← p.settle
  return { p with arguments :=
    { p.arguments with operands := p.arguments.operands ++ [word] } }

end Progress

namespace Level

variable {α : Type}

/-- The options that a command or a group knows. -/
def options : Level α → List OptionForm
  | group options _ | command options _ _ _ => options

/-- The commands of a group. -/
def commands : Level α → List (String × Level α)
  | group _ commands => commands
  | command _ _ _ _ => []

/-- The name of the command of every group that shows help. -/
def helpName : String := "help"

/-- Whether a word names a command of a group. -/
def names (level : Level α) (word : String) : Bool :=
  !level.commands.isEmpty
    && (word == helpName || (lookupEntry word level.commands).isSome)

/-- Whether a command takes one more operand after some. -/
def takesOperand (level : Level α) (sofar : Nat) : Bool :=
  match level with
  | group _ _ => false
  | command _ _ none _ => true
  | command _ _ (some most) _ => sofar < most

/-- What is wrong with a word that would be an operand too many. -/
def operandFault (level : Level α) (afterDashes : Bool) (word : String) : UsageFault :=
  if level.commands.isEmpty || (afterDashes && level.names word) then .unknownArgument
  else .unknownCommand

/-- The outcome when help is asked for on the command that some words lead
to. -/
def help (level : Level α) : List String → UsageFault
  | [] => .helpWanted
  | word :: words =>
    match lookupEntry word level.commands with
    | some next => next.help words
    | none => if level.names word && words.isEmpty then .helpWanted else .unknownCommand

/-- What the arguments make when there are no more words. The options of the
groups above are among the arguments. -/
def finish (level : Level α) (above : List (String × Given)) (p : Progress) :
    Except UsageFault α := do
  let p ← p.settle
  match level with
  | group _ _ => .error (if p.arguments.given.isEmpty then .nothingGiven else .missingCommand)
  | command _ least _ make =>
    if p.arguments.operands.length < least then .error .missingOperand
    else .ok (make { p.arguments with given := above ++ p.arguments.given })

/-- Takes in the next word, which names no command. After two hyphens every
word is an operand. -/
def step (level : Level α) (afterDashes : Bool) (p : Progress) (word : String) :
    Except UsageFault Progress :=
  let addOperand : Except UsageFault Progress :=
    if level.takesOperand p.arguments.operands.length then p.addOperand word
    else .error (level.operandFault afterDashes word)
  if afterDashes then addOperand
  else
    match word.toList, p.pending with
    | '-' :: '-' :: rest, _ => p.addLong level.options rest
    | '-' :: c :: rest, _ => p.addLetters level.options (c :: rest)
    | _, some (form, none) => .ok { p with pending := some (form, some word) }
    | _, _ => addOperand

/-- Reads words at a command or a group. -/
def readAt (level : Level α) (above : List (String × Given)) (afterDashes : Bool)
    (p : Progress) : List String → Except UsageFault α
  | [] => level.finish above p
  | word :: words =>
    -- The value of an option may look like the name of a command.
    if !afterDashes && !p.awaitsValue && level.names word then
      match lookupEntry word level.commands with
      | some next => next.readAt (above ++ p.arguments.given) false {} words
      | none => .error (level.help words)
    else if !afterDashes && word == "--" then level.readAt above true p words
    else do
      let p ← level.step afterDashes p word
      level.readAt above afterDashes p words

/-- What words make. -/
def read (level : Level α) (words : List String) : Except UsageFault α :=
  level.readAt [] false {} words

end Level

end EntityGraph.CommandLine
