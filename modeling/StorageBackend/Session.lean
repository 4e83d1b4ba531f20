import StorageBackend.Cluster.Timeline
import StorageBackend.Resolver

/-!
# Sessions

A session is a list of commands to one cluster in memory: they change the cluster, let time pass, or
look for the registry's storage. Every command is an activity, so a session shows what a resolution
does after any history.
-/

namespace StorageBackend

open Cluster (ConfigMap Secret Timeline Window)

/-- When something put into the cluster is there. -/
structure Stay where
  /-- How long from now it is not there yet. -/
  delay : Duration
  /-- How long from now it is there at most. -/
  lasts : Option Duration

/-- A command to the cluster in memory. -/
inductive Command where
  | putConfigMap (ns name : String) (configMap : ConfigMap) (stay : Stay)
  | putSecret (ns name : String) (secret : Secret) (stay : Stay)
  | deleteConfigMap (ns name : String)
  | deleteSecret (ns name : String)
  /-- Reads of an object fail. -/
  | fail (object : ObjectRef) (error : Error) (stay : Stay)
  /-- Reads of an object do not fail any more. -/
  | heal (object : ObjectRef)
  /-- Time passes. -/
  | advance (length : Duration)
  | resolve
  | awsConfig
  | gcsConfig
  | installConfig
  | waitForSecret (ns name : String)
  | findS3 (region : Option String)

/-- What a command gives. -/
inductive Reply where
  | nothing
  | resolved (config : ResolvedConfig)
  | config (config : InstallConfig)
  | secret (secret : Secret)
  | credentials (credentials : S3Credentials)

namespace Command

/-- Changes the cluster; the change may depend on the instant. -/
def changing (change : Instant → Timeline → Timeline) : Activity Timeline Reply :=
  fun _ now timeline => some ⟨.ok .nothing, now, change now timeline, []⟩

/-- Lets time pass. -/
def passing (length : Duration) : Activity Timeline Reply :=
  fun _ now timeline => some ⟨.ok .nothing, now + length.nanos, timeline, []⟩

/-- What a command does. -/
def activity (settings : ResolverSettings) : Command → Activity Timeline Reply
  | .putConfigMap ns name configMap stay => changing fun now timeline =>
    let window := Window.ofDelays now stay.delay stay.lasts
    { timeline with configMaps := timeline.configMaps.put ⟨.configMap, ns, name⟩ window configMap }
  | .putSecret ns name secret stay => changing fun now timeline =>
    let window := Window.ofDelays now stay.delay stay.lasts
    { timeline with secrets := timeline.secrets.put ⟨.secret, ns, name⟩ window secret }
  | .deleteConfigMap ns name => changing fun _ timeline =>
    { timeline with configMaps := timeline.configMaps.erase ⟨.configMap, ns, name⟩ }
  | .deleteSecret ns name => changing fun _ timeline =>
    { timeline with secrets := timeline.secrets.erase ⟨.secret, ns, name⟩ }
  | .fail object error stay => changing fun now timeline =>
    let window := Window.ofDelays now stay.delay stay.lasts
    { timeline with failures := timeline.failures.put object window error }
  | .heal object => changing fun _ timeline =>
    { timeline with failures := timeline.failures.erase object }
  | .advance length => passing length
  | .resolve => Reply.resolved <$> Resolver.resolve Timeline.client settings
  | .awsConfig => Reply.resolved <$> Resolver.awsConfig Timeline.client settings
  | .gcsConfig => return .resolved Resolver.gcsConfig
  | .installConfig => Reply.config <$> InstallConfig.read Timeline.client
  | .waitForSecret ns name =>
    Reply.secret <$> Credentials.waitForSecret Timeline.client settings.poll ns name
  | .findS3 region =>
    Reply.credentials <$> Credentials.findS3 Timeline.client settings.sources settings.poll region

end Command

namespace Session

/-- How many reads a session answers. -/
def readLimit : Nat := 20000

/-- A session in which nothing has happened. -/
def start : Instant × Timeline := (0, .empty readLimit)

/-- More checks than any wait of a session makes: every check is a read, and a read that is not
answered ends the wait. -/
def budget : Nat := readLimit + 2

/-- Carries out commands one after the other. -/
def run (settings : ResolverSettings) :
    List Command → Instant × Timeline → Option (List (Outcome Timeline Reply))
  | [], _ => some []
  | command :: rest, (now, timeline) =>
    match command.activity settings budget now timeline with
    | none => none
    | some outcome => (run settings rest (outcome.now, outcome.state)).map (outcome :: ·)

end Session

end StorageBackend
