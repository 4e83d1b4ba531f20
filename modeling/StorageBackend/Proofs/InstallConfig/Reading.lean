import StorageBackend.InstallConfig.Source
import StorageBackend.Proofs.Activity

/-!
# Reading the installation configuration

The installation configuration is read with a single read of one config map. `Holds` and `Lacks` say
what the answer to this read gives: a configuration, or the error that tells why there is none.
Every answer does one or the other (`holds_or_lacks`), and `read_of_holds` and `read_of_lacks` are
what the whole reading does then.
-/

namespace StorageBackend.InstallConfig

open Cluster (Client ConfigMap)

/-- The config map with the installation configuration. -/
def sourceRef : ObjectRef := ⟨.configMap, "kube-system", "cluster-config-v1"⟩

/-- An answer that holds an installation configuration: an entry that can be decoded. -/
inductive Holds : Except Error (Option ConfigMap) → InstallConfig → Prop where
  | entry (configMap : ConfigMap) (text : String) (config : InstallConfig)
      (hentry : configMap.entry? "install-config" = some text)
      (hdecode : decode text = .ok config) : Holds (.ok (some configMap)) config

/-- An answer without an installation configuration, and the error that says what is wrong. -/
inductive Lacks : Except Error (Option ConfigMap) → Error → Prop where
  /-- The read fails. -/
  | unread (error : Error) : Lacks (.error error) error
  /-- There is no such config map. -/
  | noConfigMap : Lacks (.ok none) (.configMapNotFound "kube-system" "cluster-config-v1")
  /-- The config map has no such entry. -/
  | noEntry (configMap : ConfigMap) (hentry : configMap.entry? "install-config" = none) :
      Lacks (.ok (some configMap))
        (.missingConfigKey "kube-system/cluster-config-v1" "install-config")
  /-- The entry cannot be decoded. -/
  | malformed (configMap : ConfigMap) (text : String) (reason : DecodeError)
      (hentry : configMap.entry? "install-config" = some text)
      (hdecode : decode text = .error reason) :
      Lacks (.ok (some configMap)) (.decode reason.message)

/-- Every answer holds an installation configuration or lacks one. -/
theorem holds_or_lacks (answer : Except Error (Option ConfigMap)) :
    (∃ config, Holds answer config) ∨ ∃ error, Lacks answer error := by
  cases answer with
  | error error => exact .inr ⟨error, .unread error⟩
  | ok configMap? =>
    cases configMap? with
    | none => exact .inr ⟨_, .noConfigMap⟩
    | some configMap =>
      cases hentry : configMap.entry? "install-config" with
      | none => exact .inr ⟨_, .noEntry configMap hentry⟩
      | some text =>
        cases hdecode : decode text with
        | ok config => exact .inl ⟨config, .entry configMap text config hentry hdecode⟩
        | error reason => exact .inr ⟨_, .malformed configMap text reason hentry hdecode⟩

variable {σ : Type} (client : Client σ) (budget : Nat) (now : Instant) (state : σ)

/-- The read of the config map. -/
def sourceRead : Outcome σ (Option ConfigMap) :=
  let answer := client.configMap "kube-system" "cluster-config-v1" now state
  { result := answer.result
    now := now + answer.took.nanos
    state := answer.state
    trace := .read sourceRef :: answer.log.map .log }

/-- A read of the config map always has an outcome. -/
theorem read_config_map_apply :
    client.readConfigMap sourceNamespace sourceName budget now state =
      some (sourceRead client now state) := rfl

/-- Nothing is read but the config map, and that once. -/
theorem reads_source_read :
    Activity.reads (sourceRead client now state).trace = [sourceRef] := by
  simp [sourceRead]

variable {client now state}

/-- A configuration is read, and told about. -/
theorem read_of_holds {config : InstallConfig}
    (h : Holds (sourceRead client now state).result config) :
    read client budget now state =
      some ⟨.ok config, (sourceRead client now state).now, (sourceRead client now state).state,
        (sourceRead client now state).trace ++
          [.log (.decodedConfig config.metadata.name config.platformType config.region)]⟩ := by
  generalize hanswer : (sourceRead client now state).result = answer at h
  cases h with
  | entry configMap text config hentry hdecode =>
    have hsource : ofConfigMap (some configMap) = .ok config := by
      simp only [ofConfigMap, show configMap.entry? sourceKey = some text from hentry, hdecode]
      rfl
    rw [read, Activity.bind_of_ok (read_config_map_apply client budget now state) hanswer, hsource]
    rfl

/-- The error that says what is wrong ends the reading. -/
theorem read_of_lacks {error : Error} (h : Lacks (sourceRead client now state).result error) :
    read client budget now state =
      some ⟨.error error, (sourceRead client now state).now, (sourceRead client now state).state,
        (sourceRead client now state).trace⟩ := by
  generalize hanswer : (sourceRead client now state).result = answer at h
  have hread := read_config_map_apply client budget now state
  -- a failed read ends it at once, any other answer is refused when it is decoded
  have hrefused : ∀ found : Option ConfigMap, answer = .ok found →
      ofConfigMap found = .error error →
      read client budget now state =
        some ⟨.error error, (sourceRead client now state).now, (sourceRead client now state).state,
          (sourceRead client now state).trace⟩ := by
    rintro found rfl hfound
    rw [read, Activity.bind_of_ok hread hanswer, hfound]
    exact congrArg some (by simp only [List.append_nil])
  cases h with
  | unread error => exact Activity.bind_of_error hread hanswer
  | noConfigMap => exact hrefused none rfl rfl
  | noEntry configMap hentry =>
    refine hrefused (some configMap) rfl ?_
    simp only [ofConfigMap, show configMap.entry? sourceKey = none from hentry]
    rfl
  | malformed configMap text reason hentry hdecode =>
    refine hrefused (some configMap) rfl ?_
    simp only [ofConfigMap, show configMap.entry? sourceKey = some text from hentry, hdecode]
    rfl

end StorageBackend.InstallConfig
