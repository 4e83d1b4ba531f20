import StorageBackend.Basic
import StorageBackend.CommandLine.Help
import StorageBackend.Resolver

/-!
# Reading command lines

Arguments are read from left to right, and the first one that is wrong is reported. A setting comes
from the command line, else from the environment, else it has its initial value; a setting behind
the command counts more than the same one in front of it.
-/

namespace StorageBackend.CommandLine

/-- Why there is nothing to run. -/
inductive Stop where
  /-- The command line is wrong. -/
  | complaint (text : String)
  /-- The command line asks for a text, and nothing else. -/
  | text (text : String)
  /-- There is no command at all; the help text is shown as a complaint. -/
  | bare (help : String)
deriving DecidableEq

/-- Settings with the values that have been given. -/
abbrev Given := List (String × String)

/-! ## Values -/

/-- The number that a text stands for, or what is wrong with it. -/
def wholeNumber (text : String) : Except String Nat :=
  let digits :=
    match text.toList with
    | '+' :: rest => if rest.isEmpty then ['+'] else rest
    | all => all
  if digits.isEmpty then .error "cannot parse integer from empty string"
  else if !digits.all Text.isDigit then .error "invalid digit found in string"
  else
    let n := Text.ofDigits 10 (digits.map Text.digitValue)
    if n < twoTo 64 then .ok n else .error "number too large to fit in target type"

/-- The complaint about a setting without a value. -/
def noValue (setting : Setting) : String :=
  "a value is required for '" ++ setting.usage ++ "' but none was supplied"

/-- The complaint about a value, if there is one. -/
def complaintAbout (setting : Setting) (value : String) : Option String :=
  let invalid := "invalid value '" ++ value ++ "' for '" ++ setting.usage ++ "'"
  match setting.domain with
  | .flag =>
    some ("unexpected value '" ++ value ++ "' for '" ++ setting.usage ++
      "' found; no more were accepted")
  | .text => none
  | .path => if value.isEmpty then some (noValue setting) else none
  | .choice names =>
    if names.contains value then none
    else some (if value.isEmpty then noValue setting else invalid)
  | .number low high =>
    match wholeNumber value with
    | .error reason => some (invalid ++ ": " ++ reason)
    | .ok n =>
      if low ≤ n ∧ n ≤ high then none
      else
        some (invalid ++ ": " ++ toString n ++ " is not in " ++ toString low ++ "..=" ++
          toString high)

/-- Sets a setting that has not been set on the same side of the command. -/
def give (given : Given) (setting : Setting) (value : String) : Except Stop Given :=
  if (given.lookup setting.name).isSome then
    .error (.complaint ("the argument '" ++ setting.usage ++ "' cannot be used multiple times"))
  else .ok ((setting.name, value) :: given)

/-- Sets a setting to a value from the command line. -/
def giveChecked (given : Given) (setting : Setting) (value : String) : Except Stop Given :=
  match complaintAbout setting value with
  | some complaint => .error (.complaint complaint)
  | none => give given setting value

/-! ## Arguments -/

/-- The complaint about an argument that nobody expects. -/
def unexpected (argument : String) : Stop :=
  .complaint ("unexpected argument '" ++ argument ++ "' found")

/-- An argument by its form. -/
inductive Argument where
  /-- Two dashes: what follows is no option. -/
  | escape
  | long (name : String) (value : Option String)
  | short (letter : Char)
  | word (text : String)

/-- The form of an argument. -/
def Argument.ofString (text : String) : Argument :=
  match text.toList with
  | '-' :: '-' :: [] => .escape
  | '-' :: '-' :: name =>
    let (name, rest) := name.span (· != '=')
    .long (String.ofList name) (match rest with
      | [] => none
      | _ :: value => some (String.ofList value))
  | '-' :: letter :: _ => .short letter
  | _ => .word text

/-- What can be asked for on one side of the command. -/
structure Side where
  settings : List Setting
  /-- The help text. -/
  help : String
  /-- The version, where it can be asked for. -/
  version : Option String

/-- The text of a version. -/
def versionText (version : String) : String := program ++ " " ++ version ++ "\n"

/-- What an option asks for instead of a run. -/
def Side.asked (side : Side) : Argument → Option Stop
  | .long "help" none => some (.text side.help)
  | .short 'h' => some (.text side.help)
  | .long "version" none => side.version.map fun version => .text (versionText version)
  | .short 'V' => side.version.map fun version => .text (versionText version)
  | _ => none

/-- Reads options up to a word or two dashes, which are left. -/
def Side.read (side : Side) (given : Given) : List String → Except Stop (Given × List String)
  | [] => .ok (given, [])
  | text :: rest =>
    match side.asked (.ofString text) with
    | some stop => .error stop
    | none =>
      match Argument.ofString text with
      | .escape => .ok (given, text :: rest)
      | .word _ => .ok (given, text :: rest)
      | .short letter => .error (unexpected (String.ofList ['-', letter]))
      | .long name value =>
        match side.settings.find? fun setting => setting.name == name with
        | none => .error (unexpected ("--" ++ name))
        | some setting =>
          match value, setting.domain with
          | some value, _ => do side.read (← giveChecked given setting value) rest
          | none, .flag => do side.read (← give given setting "true") rest
          | none, _ =>
            match rest with
            | [] => .error (.complaint (noValue setting))
            | next :: rest =>
              match Argument.ofString next with
              | .word value => do side.read (← giveChecked given setting value) rest
              | argument =>
                let known :=
                  match argument with
                  | .long name _ => side.settings.any fun setting => setting.name == name
                  | .short _ => false
                  | _ => true
                .error <|
                  if known || (side.asked argument).isSome then .complaint (noValue setting)
                  else unexpected next

/-- Adds the settings that the environment gives. -/
def fromEnvironment (environment : Environment) (given : Given) :
    List Setting → Except Stop Given
  | [] => .ok given
  | setting :: rest =>
    match given.lookup setting.name, setting.envVar.bind fun name => environment.lookup name with
    | none, some value => do
      fromEnvironment environment (← giveChecked given setting value) rest
    | _, _ => fromEnvironment environment given rest

/-! ## Whole command lines -/

/-- What to run. -/
inductive Task where
  /-- Finds the storage of the platform in the installation configuration. -/
  | resolve (settings : ResolverSettings)
  /-- Finds S3 storage. -/
  | resolveAws (settings : ResolverSettings)
  /-- Gives Google cloud storage. -/
  | resolveGcp
  /-- Shows what the installation configuration says. -/
  | installConfig
deriving DecidableEq

/-- A command line that can be run. -/
structure Invocation where
  task : Task
  kubeconfig : Option String
  jsonLogs : Bool
deriving DecidableEq

/-- The value of a setting of a command. -/
def valueOf (command : Command) (given : Given) (name : String) : String :=
  (given.lookup name <|>
    ((command.settings.find? fun setting => setting.name == name).bind Setting.initial)).getD ""

/-- The seconds that a setting is set to. -/
def secondsOf (command : Command) (given : Given) (name : String) : Duration :=
  .ofSeconds ((wholeNumber (valueOf command given name)).toOption.getD 0)

/-- What a command with its settings does. -/
def taskOf (command : Command) (given : Given) : Task :=
  let value := valueOf command given
  let settings : ResolverSettings :=
    ⟨⟨value "namespace", value "user-secret", value "installer-secret"⟩,
      ⟨secondsOf command given "poll-interval-secs", secondsOf command given "poll-timeout-secs"⟩⟩
  if command = installConfig then .installConfig
  else if value "platform" = "aws" then .resolveAws settings
  else if value "platform" = "gcp" then .resolveGcp
  else .resolve settings

/-- Answers a question for help. -/
def explain (environment : Environment) : List String → Stop
  | [] => .text (programHelp environment)
  | name :: _ =>
    match commands.find? fun command => command.name == name with
    | some command => .text (command.helpText environment)
    | none =>
      if name = helpName then .text (programHelp environment)
      else .complaint ("unrecognized subcommand '" ++ name ++ "'")

/-- The side of the program, in front of the command. -/
def front (environment : Environment) : Side := ⟨shared, programHelp environment, some version⟩

/-- The side of a command, behind it. -/
def Command.side (environment : Environment) (command : Command) : Side :=
  ⟨command.settings, command.helpText environment, none⟩

/-- The stop for a command line without a command. -/
def noCommand (environment : Environment) (given : Given) : Stop :=
  if given.isEmpty then .bare (programHelp environment)
  else .complaint ("'" ++ program ++ "' requires a subcommand but one was not provided")

/-- Reads what follows the name of a command. -/
def Command.parse (command : Command) (environment : Environment) (before : Given)
    (arguments : List String) : Except Stop Invocation := do
  let (given, rest) ← (command.side environment).read [] arguments
  match rest with
  | [] => .ok ()
  | word :: more =>
    match Argument.ofString word, more with
    | .escape, [] => .ok ()
    | .escape, word :: _ => .error (unexpected word)
    | _, _ => .error (unexpected word)
  let own := command.settings.filter fun setting => !shared.contains setting
  let all ← fromEnvironment environment (given ++ before) (own ++ shared)
  .ok
    { task := taskOf command all
      kubeconfig := all.lookup kubeconfig.name
      jsonLogs := (all.lookup jsonLogs.name).isSome }

/-- Reads a command line. -/
def parse (environment : Environment) (arguments : List String) : Except Stop Invocation := do
  let (before, rest) ← (front environment).read [] arguments
  match rest with
  | [] => .error (noCommand environment (← fromEnvironment environment before shared))
  | word :: rest =>
    match Argument.ofString word with
    | .escape =>
      match rest with
      | [] => .error (noCommand environment (← fromEnvironment environment before shared))
      | word :: _ =>
        if (commands.map Command.name).contains word ∨ word = helpName then
          .error (unexpected word)
        else .error (.complaint ("unrecognized subcommand '" ++ word ++ "'"))
    | _ =>
      match commands.find? fun command => command.name == word with
      | some command => command.parse environment before rest
      | none =>
        if word = helpName then .error (explain environment rest)
        else .error (.complaint ("unrecognized subcommand '" ++ word ++ "'"))

end StorageBackend.CommandLine
