import StorageBackend.Log
import StorageBackend.Text.Basic

/-!
# Log filters

A filter is a list of directives separated by commas: a level for everything, or a level for the
targets that begin with a name. Of the directives that concern an event, the one with the longest
name decides. A filter that cannot be read counts as none at all.
-/

namespace StorageBackend.CommandLine

/-- How much is told, from nothing to everything. -/
inductive Verbosity where
  | off
  | error
  | warn
  | info
  | debug
  | trace
deriving DecidableEq

namespace Verbosity

/-- The verbosities with their names. -/
def names : List (String × Verbosity) :=
  [("off", off), ("error", error), ("warn", warn), ("info", info), ("debug", debug),
    ("trace", trace)]

/-- The rank of a verbosity, from nothing to everything. -/
def rank : Verbosity → Nat
  | off => 0
  | error => 1
  | warn => 2
  | info => 3
  | debug => 4
  | trace => 5

/-- The least verbosity at which events of a level are told. -/
def ofLevel : Log.Level → Verbosity
  | .debug => debug
  | .info => info
  | .warn => warn

/-- The verbosity with a name, in any case, or with a rank. -/
def ofText? (text : String) : Option Verbosity :=
  let lower := text.map Char.toLower
  match names.lookup lower with
  | some verbosity => some verbosity
  | none => (names.find? fun (_, verbosity) => toString verbosity.rank == text).map Prod.snd

end Verbosity

/-- A directive: the beginning of the names of targets, and what they tell. -/
structure Directive where
  target : String
  verbosity : Verbosity
deriving DecidableEq

/-- A filter. -/
abbrev LogFilter := List Directive

namespace LogFilter

/-- The filter that holds without a choice. -/
def standardText : String := "info,registry_storage=debug,kube=info,tower=warn,hyper=warn"

/-- Reads a directive: a level, a target, or a target with a level. -/
def directive? (text : String) : Option Directive :=
  match Verbosity.ofText? text with
  | some verbosity => some ⟨"", verbosity⟩
  | none =>
    match text.splitOn "=" with
    | [target] => some ⟨target, .trace⟩
    | [target, level] =>
      if level.isEmpty then some ⟨target, .trace⟩
      else (Verbosity.ofText? level).map fun verbosity => ⟨target, verbosity⟩
    | _ => none

/-- Reads a filter. -/
def ofText? (text : String) : Option LogFilter :=
  ((text.splitOn ",").filter fun part => !part.isEmpty).mapM directive?

/-- The filter that is chosen by a text, if there is one that can be read. -/
def chosen (text : Option String) : LogFilter :=
  ((text.bind ofText?) <|> ofText? standardText).getD []

/-- Whether the names of targets that a directive concerns include this one. -/
def Directive.concerns (directive : Directive) (target : String) : Bool :=
  directive.target.toList.isPrefixOf target.toList

/-- What a target tells: the directive with the longest name decides, and of several the last. -/
def verbosity (filter : LogFilter) (target : String) : Verbosity :=
  let better (best : Directive) (directive : Directive) : Directive :=
    if Directive.concerns directive target && best.target.length ≤ directive.target.length then
      directive
    else best
  (filter.foldl better ⟨"", if filter.isEmpty then .error else .off⟩).verbosity

/-- Whether an event passes a filter. -/
def passes (filter : LogFilter) (target : String) (level : Log.Level) : Bool :=
  (Verbosity.ofLevel level).rank ≤ (filter.verbosity target).rank

end LogFilter

/-- The name under which a part of the program tells events. -/
def logTarget (event : Log.Event) : String := "registry_storage::" ++ event.origin

/-- An event as a line of the log. -/
def logLine (event : Log.Event) : Json.Value :=
  .object
    [("level", .string event.level.name), ("fields", .object event.fields),
      ("target", .string (logTarget event))]

end StorageBackend.CommandLine
