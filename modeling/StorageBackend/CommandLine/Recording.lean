import StorageBackend.CommandLine.Run

/-!
# Recorded worlds

A recording is a list of lines, each a JSON object. A line with a `file` gives the contents of a
file, a line with a `command` what a program writes with whatever arguments, a line with a `path` a
response of the cluster, and a line with `now` the time; several responses to one path are given in
the order of their lines. Other lines do not count.
-/

namespace StorageBackend.CommandLine

open Json (Reader)
open Schema (Format)

/-- A line of a recording. -/
structure RecordedLine where
  file : Option String
  command : Option String
  text : String
  path : Option String
  status : Int
  body : String
  now : Option Int

/-- A line in which nothing is given. -/
def RecordedLine.blank : RecordedLine := ⟨none, none, "", none, 200, "", none⟩

/-- Reads a line. -/
def RecordedLine.reader : Reader RecordedLine :=
  Json.lenientRecord "line" .blank
    [Format.field "file" (Format.optional Format.text) fun value l => { l with file := value },
      Format.field "command" (Format.optional Format.text) fun value l =>
        { l with command := value },
      Format.field "text" Format.text fun value l => { l with text := value },
      Format.field "path" (Format.optional Format.text) fun value l => { l with path := value },
      Format.field "status" Json.uint16 fun value l => { l with status := value },
      Format.field "body" Format.text fun value l => { l with body := value },
      Format.field "now" (Format.optional Json.int64) fun value l => { l with now := value }]

/-- The lines that are well-formed. -/
def recordedLines (lines : List String) : List RecordedLine :=
  lines.filterMap fun line => (Json.Reader.run RecordedLine.reader line.toList).toOption

/-- The response of a line. -/
def RecordedLine.response (line : RecordedLine) : Api.Response :=
  ⟨UInt16.ofNat line.status.toNat, Text.Utf8.encode line.body⟩

/-- Adds a response behind the others for its path. -/
def addResponse (routes : Api.Routes) (path : String) (response : Api.Response) : Api.Routes :=
  match routes with
  | [] => [(path, [response])]
  | (known, responses) :: rest =>
    if known = path then (known, responses ++ [response]) :: rest
    else (known, responses) :: addResponse rest path response

/-- The world of a recording. -/
def World.ofLines (environment : Environment) (lines : List String) : World :=
  let recorded := recordedLines lines
  let files := recorded.filterMap fun line => line.file.map fun path => (path, line.text)
  let programs := recorded.filterMap fun line => line.command.map fun name => (name, line.text)
  let routes := recorded.foldl (fun routes line =>
    match line.path with
    | some path => addResponse routes path line.response
    | none => routes) []
  { environment := environment
    file := fun path => files.lookup path
    output := fun command _ => programs.lookup command
    now := (recorded.filterMap RecordedLine.now).head?.getD 0
    cluster := routes }

end StorageBackend.CommandLine
