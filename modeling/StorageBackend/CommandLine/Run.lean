import StorageBackend.Api.Client
import StorageBackend.CommandLine.LogFilter
import StorageBackend.CommandLine.Parse
import StorageBackend.Kubeconfig.Access
import StorageBackend.Storage.Summary

/-!
# Runs of the program

What the program answers, as a function of its arguments, the environment, the files and the
cluster: an exit code, a text for the reader, or a complaint. The log and the requests belong to a
run as well.
-/

namespace StorageBackend.CommandLine

/-- What a run leaves behind. -/
structure Result where
  exitCode : UInt32
  output : String
  /-- The complaint; none after a success. -/
  complaint : Option String
  /-- The addresses that have been asked for, in order. -/
  requests : List String
  /-- The lines of the log, where the log is asked for line by line. -/
  log : List Json.Value

/-- The world around a run. -/
structure World extends Kubeconfig.Surroundings where
  environment : Environment
  cluster : Api.Routes

/-! ## Complaints -/

/-- The reasons below an error, nearest first. -/
def reasons (error : Error) : List String :=
  match error.source? with
  | none => []
  | some failure => failure.text :: failure.below

/-- Lines after the first one, with a margin. -/
def withMargin (margin text : String) : String := ("\n" ++ margin).intercalate (text.splitOn "\n")

/-- A list of reasons; more than one are numbered. -/
def listed (reasons : List String) : String :=
  match reasons with
  | [] => ""
  | [reason] => "\n    " ++ withMargin "    " reason
  | reasons =>
    String.join <| reasons.zipIdx.map fun (reason, number) =>
      "\n" ++ (if number < 10 then "    " else "   ") ++ toString number ++ ": " ++
        withMargin "       " reason

/-- The complaint about an error. -/
def complaint (error : Error) : String :=
  "Error: " ++ error.message ++
    match reasons error with
    | [] => ""
    | reasons => "\n\nCaused by:" ++ listed reasons

/-! ## Tasks -/

/-- The state of a run: a conversation with the cluster. -/
abbrev Talk := Api.Conversation Api.Routes

/-- The client of a run. -/
def client : Cluster.Client Talk := Api.client Api.routed

/-- A value as output. -/
def printed (value : Json.Value) : String := String.ofList value.pretty ++ "\n"

/-- What is shown of an installation configuration. -/
def overview (config : InstallConfig) : Json.Value :=
  .object
    [("cluster", .string config.metadata.name), ("platform", .string config.platformType.name),
      ("region", match config.region with
        | none => .null
        | some region => .string region)]

/-- The output of a task. -/
def Task.activity : Task → Activity Talk String
  | .resolve settings => do
    return printed (← Resolver.resolve client settings).summary.toJson
  | .resolveAws settings => do
    return printed (← Resolver.awsConfig client settings).summary.toJson
  | .resolveGcp => return printed Resolver.gcsConfig.summary.toJson
  | .installConfig => do return printed (overview (← InstallConfig.read client))

/-- More checks than any wait makes that the command line admits: the pause is a second at least. -/
def budget : Nat := longestTimeout + 2

/-! ## Runs -/

/-- How the cluster of an invocation is reached. -/
def access (world : World) (invocation : Invocation) :
    Except Kubeconfig.Obstacle Kubeconfig.Access :=
  match invocation.kubeconfig with
  | none => .error .unknown
  | some path => Kubeconfig.access world.toSurroundings (world.file path)

/-- The lines of the log that pass the filter. -/
def logLines (world : World) (invocation : Invocation) (trace : List Step) : List Json.Value :=
  if invocation.jsonLogs then
    let filter := LogFilter.chosen (world.environment.lookup "RUST_LOG")
    ((Activity.logged trace).filter fun event => filter.passes (logTarget event) event.level).map
      logLine
  else []

/-- The exit code of a run that breaks down without a complaint. -/
def breakdown : UInt32 := 101

/-- Runs an invocation. There is no result if a wait makes more checks than it may. -/
def execute (world : World) (invocation : Invocation) : Option Result :=
  match access world invocation with
  | .error obstacle =>
    match obstacle.error? with
    | some error => some ⟨1, "", some (complaint error), [], []⟩
    | none => some ⟨breakdown, "", some "", [], []⟩
  | .ok _ => do
    let outcome ← invocation.task.activity budget 0 ⟨world.cluster, []⟩
    let requests := outcome.state.sent.reverse
    let log := logLines world invocation outcome.trace
    match outcome.result with
    | .ok output => some ⟨0, output, none, requests, log⟩
    | .error error => some ⟨1, "", some (complaint error), requests, log⟩

/-- Runs the program with arguments. -/
def run (world : World) (arguments : List String) : Option Result :=
  match parse world.environment arguments with
  | .error (.complaint text) => some ⟨2, "", some ("error: " ++ text), [], []⟩
  | .error (.text text) => some ⟨0, text, none, [], []⟩
  | .error (.bare help) => some ⟨2, "", some help, [], []⟩
  | .ok invocation => execute world invocation

end StorageBackend.CommandLine
