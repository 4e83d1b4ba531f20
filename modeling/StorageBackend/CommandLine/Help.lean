import StorageBackend.CommandLine.Grammar

/-!
# Help texts

Help texts list commands and settings in columns. Where the names are long and some explanation
would not fit beside them, every explanation has a line of its own.
-/

namespace StorageBackend.CommandLine

/-- The variables of the environment and their values. -/
abbrev Environment := List (String × String)

/-- The number of characters that a line should have at most. -/
def lineWidth : Nat := 100

/-- What can be said about a setting in brackets. -/
def remarks (environment : Environment) (setting : Setting) : String :=
  let fromVariable :=
    setting.envVar.toList.map fun name =>
      "[env: " ++ name ++ "=" ++ (environment.lookup name).getD "" ++ "]"
  let initial := setting.initial.toList.map fun value => "[default: " ++ value ++ "]"
  let choices :=
    match setting.domain with
    | .choice names => ["[possible values: " ++ ", ".intercalate names ++ "]"]
    | _ => []
  " ".intercalate (fromVariable ++ initial ++ choices)

/-- A line of a help text: the short name and the long name of something, and its explanation. -/
structure Entry where
  short : String
  long : String
  help : String

/-- A setting in a help text. -/
def Setting.entry (environment : Environment) (setting : Setting) : Entry :=
  let remarks := remarks environment setting
  ⟨"    ", setting.usage,
    if remarks.isEmpty then setting.help else setting.help ++ " " ++ remarks⟩

/-- Whether an explanation would not fit beside names with the given width. -/
def Entry.overflows (width : Nat) (entry : Entry) : Bool :=
  let taken := width + 12
  taken ≤ lineWidth && 40 < taken && lineWidth - taken < entry.help.length

/-- The width of the longest name. -/
def nameWidth (entries : List Entry) : Nat :=
  (entries.map fun entry => entry.long.length).foldl max 0

/-- A name with blanks behind it. -/
def padded (width : Nat) (name : String) : String :=
  name ++ String.ofList (List.replicate (width - name.length) ' ')

/-- Entries in columns. -/
def columns (entries : List Entry) : String :=
  let width := nameWidth entries
  let line (entry : Entry) : String :=
    if entries.any (Entry.overflows width) then
      "  " ++ entry.short ++ entry.long ++ "\n          " ++ entry.help ++ "\n"
    else "  " ++ entry.short ++ padded width entry.long ++ "  " ++ entry.help ++ "\n"
  String.join (entries.map line)

/-- The option that asks for help. -/
def helpEntry : Entry := ⟨"-h, ", "--help", "Print help"⟩

/-- The option that asks for the version. -/
def versionEntry : Entry := ⟨"-V, ", "--version", "Print version"⟩

/-- The help text of the program. -/
def programHelp (environment : Environment) : String :=
  let names := (commands.map fun c => (c.name, c.help)) ++ [(helpName, helpHelp)]
  let width := (names.map fun (name, _) => name.length).foldl max 0
  purpose ++ "\n\nUsage: " ++ program ++ " [OPTIONS] <COMMAND>\n\nCommands:\n" ++
    String.join (names.map fun (name, help) => "  " ++ padded width name ++ "  " ++ help ++ "\n") ++
    "\nOptions:\n" ++
    columns (shared.map (Setting.entry environment) ++ [helpEntry, versionEntry])

/-- The help text of a command. -/
def Command.helpText (environment : Environment) (command : Command) : String :=
  command.help ++ "\n\nUsage: " ++ program ++ " " ++ command.name ++ " [OPTIONS]\n\nOptions:\n" ++
    columns (command.settings.map (Setting.entry environment) ++ [helpEntry])

end StorageBackend.CommandLine
