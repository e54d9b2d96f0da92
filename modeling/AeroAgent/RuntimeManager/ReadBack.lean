import AeroAgent.RuntimeManager.Argv
import AeroAgent.Nerdctl.Semantics
/-!
# Reading the adapter's argument vectors back

`RuntimeCall.intent` says, following the spec's table of operations, which
`nerdctl` operation each adapter call means.  The main result:

* `readCommandLine_args` — when the container id and the image do not begin with `-`,
  `data_dir` has no `:` and no environment key has a `=`, the argument vector
  of every call reads back as exactly its intended operation, one read-back
  lemma per method (`readCommandLine_createContainer`,
  `readCommandLine_stopContainer`, ...);
* `readCommandLine_misreads` — without those conditions it does not: an id `-f`
  is read as an option, a `data_dir` with a `:` splits into another volume,
  and an environment key with a `=` splits at the wrong place.
-/

namespace AeroAgent.RuntimeManager

open Nerdctl

/-- The `nerdctl run` request `create_container` stands for: memory and CPU
limits, `data_dir` mounted at `/data` and used as working directory, the
network mode (bridge by default), `0.0.0.0:{p}:{p}` published unless on the
host network, the environment, the container name, detached, and the startup
command run by `sh -c` when there is one. -/
def createRequest (containerId image startupCommand : String) (env : EnvMap)
    (memoryMb cpuCores : UInt64) (dataDir : String) (port : UInt16)
    (networkMode : Option String) : RunRequest where
  memoryMib := some memoryMb.toNat
  cpus := some cpuCores.toNat
  volumes := [⟨dataDir, "/data", none⟩]
  workdir := some "/data"
  network := Network.ofFlag networkMode
  publish := if Network.ofFlag networkMode = .host then [] else
    [⟨"0.0.0.0", port.toNat, port.toNat⟩]
  env := env.pairs
  name := some containerId
  detach := true
  image := image
  command := if startupCommand.isEmpty then [] else ["sh", "-c", startupCommand]

/-- The operation each call asks of `nerdctl`, in the configured namespace. -/
def RuntimeCall.intent (rt : ContainerdRuntime) : RuntimeCall → Invocation
  | .createContainer id image startup env mem cpus dataDir port network =>
    ⟨some rt.«namespace», .run (createRequest id image startup env mem cpus dataDir port network)⟩
  | .startContainer id => ⟨some rt.«namespace», .start [id]⟩
  | .stopContainer id timeout => ⟨some rt.«namespace», .stop (some timeout.toNat) [id]⟩
  | .killContainer id signal => ⟨some rt.«namespace», .kill (some signal) [id]⟩
  | .removeContainer id => ⟨some rt.«namespace», .rm true [id]⟩
  | .getLogs id lines => ⟨some rt.«namespace», .logs (lines.map UInt32.toNat) false false [id]⟩
  | .streamLogs id => ⟨some rt.«namespace», .logs none true false [id]⟩
  | .listContainers => ⟨some rt.«namespace», .ps true (some "json")⟩
  | .getStats id => ⟨some rt.«namespace», .stats true (some "json") [id]⟩
  | .exec id command => ⟨some rt.«namespace», .exec id command⟩
  | .getContainerIp id => ⟨some rt.«namespace», .inspect (some ipAddressTemplate) [id]⟩
  | .containerExists id => ⟨some rt.«namespace», .inspect none [id]⟩
  | .spawnLogStream id => ⟨some rt.«namespace», .logs none true true [id]⟩

/-- The arguments that `nerdctl` cannot misread: operands that do not begin
with `-`, a `data_dir` without `:`, environment keys without `=`. -/
def RuntimeCall.WellFormed : RuntimeCall → Prop
  | .createContainer _ image _ env _ _ dataDir _ _ =>
    isOption image = false ∧ ':' ∉ dataDir.data ∧ ∀ kv ∈ env.pairs, '=' ∉ kv.1.data
  | .listContainers => True
  | .startContainer id | .stopContainer id _ | .killContainer id _ | .removeContainer id
  | .getLogs id _ | .streamLogs id | .getStats id | .exec id _ | .getContainerIp id
  | .containerExists id | .spawnLogStream id => isOption id = false

/-! ## `create_container` -/

/-- The `-e` options `envArgs` is read as. -/
def envOpts (env : List (String × String)) : List Opt :=
  env.map fun kv => ⟨"--env", some (kv.1 ++ "=" ++ kv.2)⟩

theorem parseOptions_envArgs (env : List (String × String)) (rest : List String) :
    parseOptions runCommand.options false (Argv.envArgs env ++ rest) =
      (parseOptions runCommand.options false rest).map fun r => (envOpts env ++ r.1, r.2) := by
  induction env with
  | nil =>
    show parseOptions _ _ rest = _
    cases parseOptions runCommand.options false rest <;> rfl
  | cons kv env ih =>
    simp only [Argv.envArgs, envOpts] at ih ⊢
    simp only [List.flatMap_cons, List.cons_append, List.nil_append, List.map_cons]
    rw [parseOptions_value runCommand.options "-e" "--env" rfl rfl rfl, ih]
    cases parseOptions runCommand.options false rest <;> rfl

theorem filter_envOpts (env : List (String × String)) (n : String) :
    (envOpts env).filter (·.name = n) = if n = "--env" then envOpts env else [] := by
  split
  · subst n; simp [envOpts, List.filter_map, Function.comp_def]
  · simp [envOpts, List.filter_map, Function.comp_def, Ne.symm ‹_›]

theorem filterMap_envOpts (env : List (String × String)) :
    (envOpts env).filterMap (·.value) = env.map fun kv => kv.1 ++ "=" ++ kv.2 := by
  induction env <;> simp_all [envOpts]

theorem any_envOpts (env : List (String × String)) (n : String) (h : n ≠ "--env") :
    (envOpts env).any (·.name = n) = false := by
  induction env with
  | nil => rfl
  | cons kv env ih =>
    simpa only [envOpts, List.map_cons, List.any_cons, Ne.symm h, decide_False, Bool.false_or]
      using ih

theorem decodeAll_env (env : List (String × String)) (hkeys : ∀ kv ∈ env, '=' ∉ kv.1.data) :
    decodeAll (splitOnce '=') "--env" (env.map fun kv => kv.1 ++ "=" ++ kv.2) = .ok env := by
  induction env with
  | nil => rfl
  | cons kv env ih =>
    have h := splitOnce_append_sep kv.1 kv.2 (hkeys kv (by simp))
    rw [List.map_cons, decodeAll, show kv.1 ++ "=" ++ kv.2 = kv.1 ++ ⟨['=']⟩ ++ kv.2 from rfl, h,
      ih fun kv' h' => hkeys kv' (by simp [h'])]
    rfl

theorem isOption_memory (n : Nat) : isOption ("--memory=" ++ toString n ++ "m") = true := rfl

theorem splitOnce_memory (n : Nat) :
    splitOnce '=' ("--memory=" ++ toString n ++ "m") = some ("--memory", toString n ++ "m") := by
  have h : "--memory=" ++ toString n ++ "m" = "--memory" ++ ⟨['=']⟩ ++ (toString n ++ "m") :=
    String.ext (by simp only [String.data_append, List.append_assoc]; rfl)
  rw [h, splitOnce_append_sep _ _ (by decide)]

theorem parsePublish_port (port : Nat) :
    parsePublish ("0.0.0.0:" ++ toString port ++ ":" ++ toString port) =
      some ⟨"0.0.0.0", port, port⟩ := by
  have h : "0.0.0.0:" ++ toString port = "0.0.0.0" ++ ":" ++ toString port :=
    String.ext (by simp only [String.data_append]; rfl)
  rw [h, parsePublish_all _ _ (by decide)]

theorem parseOptions_create_prefix (memoryMb cpuCores : Nat) (dataDir : String)
    (rest : List String) :
    parseOptions runCommand.options false
      (("--memory=" ++ toString memoryMb ++ "m") :: "--cpus" :: toString cpuCores ::
        "-v" :: (dataDir ++ ":/data") :: "-w" :: "/data" :: rest) =
      (parseOptions runCommand.options false rest).map fun r =>
        ([⟨"--memory", some (toString memoryMb ++ "m")⟩, ⟨"--cpus", some (toString cpuCores)⟩,
          ⟨"--volume", some (dataDir ++ ":/data")⟩, ⟨"--workdir", some "/data"⟩] ++ r.1, r.2) := by
  rw [parseOptions_inline runCommand.options (valueOpt "--memory" "--memory")
      (isOption_memory _) (splitOnce_memory _) rfl,
    parseOptions_value runCommand.options "--cpus" "--cpus" rfl rfl rfl,
    parseOptions_value runCommand.options "-v" "--volume" rfl rfl rfl,
    parseOptions_value runCommand.options "-w" "--workdir" rfl rfl rfl]
  cases parseOptions runCommand.options false rest <;> rfl

theorem parseOptions_create_suffix (env : List (String × String)) (containerId image : String)
    (command : List String) (himage : isOption image = false) :
    parseOptions runCommand.options false
      (Argv.envArgs env ++ "--name" :: containerId :: "-d" :: image :: command) =
      .ok (envOpts env ++ [⟨"--name", some containerId⟩, ⟨"--detach", none⟩], image :: command) := by
  rw [parseOptions_envArgs,
    parseOptions_value runCommand.options "--name" "--name" rfl rfl rfl,
    parseOptions_flag runCommand.options "-d" "--detach" rfl rfl rfl,
    parseOptions_operand_stop himage]
  rfl

theorem parseOptions_publish (port : Nat) (rest : List String) :
    parseOptions runCommand.options false
      ("-p" :: ("0.0.0.0:" ++ toString port ++ ":" ++ toString port) :: rest) =
      (parseOptions runCommand.options false rest).map
        (consOpt ⟨"--publish", some ("0.0.0.0:" ++ toString port ++ ":" ++ toString port)⟩) :=
  parseOptions_value runCommand.options "-p" "--publish" rfl rfl rfl

theorem parseOptions_network (n : String) (rest : List String) :
    parseOptions runCommand.options false ("--network" :: n :: rest) =
      (parseOptions runCommand.options false rest).map (consOpt ⟨"--network", some n⟩) :=
  parseOptions_value runCommand.options "--network" "--network" rfl rfl rfl

theorem networkMode_cases (networkMode : Option String) :
    networkMode = none ∨ networkMode = some "bridge" ∨ networkMode = some "host" ∨
      ∃ n, networkMode = some n ∧ n ≠ "host" ∧ n ≠ "bridge" := by
  rcases networkMode with _ | n
  · exact .inl rfl
  · by_cases hhost : n = "host"
    · exact .inr (.inr (.inl (hhost ▸ rfl)))
    · by_cases hbridge : n = "bridge"
      · exact .inr (.inl (hbridge ▸ rfl))
      · exact .inr (.inr (.inr ⟨n, rfl, hhost, hbridge⟩))

/-- The network mode decides which of `--network` and `-p` appear; in each
of its four cases the whole vector reads back as `createRequest`. -/
theorem readCommandLine_createContainer (rt : ContainerdRuntime) (containerId image startupCommand : String)
    (env : EnvMap) (memoryMb cpuCores : UInt64) (dataDir : String) (port : UInt16)
    (networkMode : Option String) (himage : isOption image = false)
    (hdata : ':' ∉ dataDir.data) (hkeys : ∀ kv ∈ env.pairs, '=' ∉ kv.1.data) :
    readCommandLine (Argv.createContainer rt containerId image startupCommand env memoryMb cpuCores dataDir
        port networkMode) =
      .ok ⟨some rt.«namespace», .run (createRequest containerId image startupCommand env memoryMb
        cpuCores dataDir port networkMode)⟩ := by
  simp only [Argv.createContainer, Argv.namespaceArgs, List.append_assoc, List.cons_append,
    List.nil_append, toString_uint64, read_namespace "run" runCommand rfl rfl,
    runCommand_interspersed, runCommand_decode, parseOptions_create_prefix]
  rcases networkMode_cases networkMode with rfl | rfl | rfl | ⟨n, rfl, hhost, hbridge⟩ <;>
  simp [Argv.networkArgs, Argv.portArgs, parseOptions_network, parseOptions_publish,
    parseOptions_create_suffix _ _ _ _ himage, Except.map, bind, Except.bind, pure, Except.pure,
    consOpt, decodeRun, decodeLast, decodeEach, decodeAll, lastValue, values, present,
    filter_envOpts, any_envOpts, createRequest, filterMap_envOpts, decodeAll_env _ hkeys,
    parseMemory_toString, parseDecimal_toString, parseVolume_data hdata, parsePublish_port,
    Argv.startupArgs, Network.ofFlag, *]

/-! ## The other calls

Each of these subcommands reads options after its operands, except `exec`,
whose command follows the container.  Every vector splits into its options
and the container id by the grammar's step lemmas. -/

section Calls

variable (rt : ContainerdRuntime) {id : String} (hid : isOption id = false)
include hid

theorem readCommandLine_startContainer :
    readCommandLine (Argv.startContainer rt id) = .ok ⟨some rt.«namespace», .start [id]⟩ :=
  read_interspersed "start" startCommand [] [id] rfl rfl rfl
    (by rw [parseOptions_operand hid]; rfl) rfl

theorem readCommandLine_stopContainer (timeout : UInt64) :
    readCommandLine (Argv.stopContainer rt id timeout) =
      .ok ⟨some rt.«namespace», .stop (some timeout.toNat) [id]⟩ :=
  read_interspersed "stop" stopCommand [⟨"--time", some (toString timeout)⟩] [id] rfl rfl rfl
    (by rw [parseOptions_value stopCommand.options "-t" "--time" rfl rfl rfl,
      parseOptions_operand hid]; rfl)
    (by simp [stopCommand, decodeLast, lastValue, parseDecimal_toString, bind, Except.bind])

theorem readCommandLine_killContainer (signal : String) :
    readCommandLine (Argv.killContainer rt id signal) =
      .ok ⟨some rt.«namespace», .kill (some signal) [id]⟩ :=
  read_interspersed "kill" killCommand [⟨"--signal", some signal⟩] [id] rfl rfl rfl
    (by rw [parseOptions_value killCommand.options "-s" "--signal" rfl rfl rfl,
      parseOptions_operand hid]; rfl) rfl

theorem readCommandLine_removeContainer :
    readCommandLine (Argv.removeContainer rt id) = .ok ⟨some rt.«namespace», .rm true [id]⟩ :=
  read_interspersed "rm" rmCommand [⟨"--force", none⟩] [id] rfl rfl rfl
    (by rw [parseOptions_flag rmCommand.options "-f" "--force" rfl rfl rfl,
      parseOptions_operand hid]; rfl) rfl

theorem readCommandLine_getLogs (lines : Option UInt32) :
    readCommandLine (Argv.getLogs rt id lines) =
      .ok ⟨some rt.«namespace», .logs (lines.map UInt32.toNat) false false [id]⟩ := by
  cases lines with
  | none =>
    exact read_interspersed "logs" logsCommand [] [id] rfl rfl rfl
      ((parseOptions_operand hid).trans rfl) rfl
  | some n =>
    exact read_interspersed "logs" logsCommand [⟨"--tail", some (toString n)⟩] [id] rfl rfl rfl
      (show parseOptions _ _ ("--tail" :: toString n :: [id]) = _ by
        rw [parseOptions_value logsCommand.options "--tail" "--tail" rfl rfl rfl,
          parseOptions_operand hid]; rfl)
      (by simp [logsCommand, decodeLast, lastValue, present, parseDecimal_toString, bind,
        Except.bind])

theorem readCommandLine_streamLogs :
    readCommandLine (Argv.streamLogs rt id) = .ok ⟨some rt.«namespace», .logs none true false [id]⟩ :=
  read_interspersed "logs" logsCommand [⟨"--follow", none⟩] [id] rfl rfl rfl
    (by rw [parseOptions_flag logsCommand.options "-f" "--follow" rfl rfl rfl,
      parseOptions_operand hid]; rfl) rfl

theorem readCommandLine_getStats :
    readCommandLine (Argv.getStats rt id) =
      .ok ⟨some rt.«namespace», .stats true (some "json") [id]⟩ :=
  read_interspersed "stats" statsCommand [⟨"--no-stream", none⟩, ⟨"--format", some "json"⟩] [id]
    rfl rfl rfl
    (by rw [parseOptions_flag statsCommand.options "--no-stream" "--no-stream" rfl rfl rfl,
      parseOptions_value statsCommand.options "--format" "--format" rfl rfl rfl,
      parseOptions_operand hid]; rfl) rfl

theorem readCommandLine_exec (command : List String) :
    readCommandLine (Argv.exec rt id command) = .ok ⟨some rt.«namespace», .exec id command⟩ := by
  simp only [Argv.exec, Argv.namespaceArgs, List.cons_append, List.nil_append]
  rw [read_namespace "exec" execCommand rfl rfl, show execCommand.interspersed = false from rfl,
    parseOptions_operand_stop hid]
  rfl

theorem readCommandLine_getContainerIp :
    readCommandLine (Argv.getContainerIp rt id) =
      .ok ⟨some rt.«namespace», .inspect (some ipAddressTemplate) [id]⟩ :=
  read_interspersed "inspect" inspectCommand [⟨"--format", some ipAddressTemplate⟩] [id]
    rfl rfl rfl
    (by rw [parseOptions_operand hid,
      parseOptions_value inspectCommand.options "--format" "--format" rfl rfl rfl]; rfl) rfl

theorem readCommandLine_containerExists :
    readCommandLine (Argv.containerExists rt id) =
      .ok ⟨some rt.«namespace», .inspect none [id]⟩ :=
  read_interspersed "inspect" inspectCommand [] [id] rfl rfl rfl
    (by rw [parseOptions_operand hid]; rfl) rfl

theorem readCommandLine_spawnLogStream :
    readCommandLine (Argv.spawnLogStream rt id) =
      .ok ⟨some rt.«namespace», .logs none true true [id]⟩ :=
  read_interspersed "logs" logsCommand [⟨"--follow", none⟩, ⟨"--timestamps", none⟩] [id]
    rfl rfl rfl
    (by rw [parseOptions_flag logsCommand.options "--follow" "--follow" rfl rfl rfl,
      parseOptions_flag logsCommand.options "--timestamps" "--timestamps" rfl rfl rfl,
      parseOptions_operand hid]; rfl) rfl

end Calls

theorem readCommandLine_listContainers (rt : ContainerdRuntime) :
    readCommandLine (Argv.listContainers rt) = .ok ⟨some rt.«namespace», .ps true (some "json")⟩ :=
  read_interspersed "ps" psCommand [⟨"--all", none⟩, ⟨"--format", some "json"⟩] [] rfl rfl rfl rfl
    rfl

/-! ## Every call -/

theorem readCommandLine_args (rt : ContainerdRuntime) (call : RuntimeCall)
    (h : call.WellFormed) : readCommandLine (call.args rt) = .ok (call.intent rt) := by
  cases call with
  | createContainer id image startup env mem cpus dataDir port network =>
    exact readCommandLine_createContainer rt id image startup env mem cpus dataDir port network
      h.1 h.2.1 h.2.2
  | startContainer id => exact readCommandLine_startContainer rt h
  | stopContainer id timeout => exact readCommandLine_stopContainer rt h timeout
  | killContainer id signal => exact readCommandLine_killContainer rt h signal
  | removeContainer id => exact readCommandLine_removeContainer rt h
  | getLogs id lines => exact readCommandLine_getLogs rt h lines
  | streamLogs id => exact readCommandLine_streamLogs rt h
  | listContainers => exact readCommandLine_listContainers rt
  | getStats id => exact readCommandLine_getStats rt h
  | exec id command => exact readCommandLine_exec rt h command
  | getContainerIp id => exact readCommandLine_getContainerIp rt h
  | containerExists id => exact readCommandLine_containerExists rt h
  | spawnLogStream id => exact readCommandLine_spawnLogStream rt h

/-- A create request with an environment and a startup command, on a named
network, reads back intact. -/
theorem readCommandLine_args_scenario :
    let call : RuntimeCall :=
      .createContainer "srv-1" "itzg/minecraft-server" "java -jar server.jar"
        ⟨[("EULA", "TRUE"), ("MEMORY", "2G")], by decide⟩ 2048 2 "/var/srv-1" 25565 (some "mc-lan")
    call.WellFormed ∧ readCommandLine (call.args ⟨"default"⟩) = .ok (call.intent ⟨"default"⟩) := by
  intro call
  have h : call.WellFormed := ⟨rfl, by decide, by decide⟩
  exact ⟨h, readCommandLine_args _ _ h⟩

/-- An id beginning with `-`, a `data_dir` with a `:` and an environment key
with a `=` are each read as something other than what was asked. -/
theorem readCommandLine_misreads :
    let rt : ContainerdRuntime := ⟨"default"⟩
    let create (env : EnvMap) (dataDir : String) : RuntimeCall :=
      .createContainer "srv-1" "alpine:3" "" env 512 1 dataDir 25565 (some "bridge")
    readCommandLine ((RuntimeCall.removeContainer "-f").args rt) ≠
        .ok ((RuntimeCall.removeContainer "-f").intent rt) ∧
      readCommandLine ((create ⟨[], List.nodup_nil⟩ "/srv/data:ro").args rt) ≠
        .ok ((create ⟨[], List.nodup_nil⟩ "/srv/data:ro").intent rt) ∧
      readCommandLine ((create ⟨[("A=B", "1")], by decide⟩ "/var/srv-1").args rt) ≠
        .ok ((create ⟨[("A=B", "1")], by decide⟩ "/var/srv-1").intent rt) := by
  refine ⟨fun h => ?_, fun h => ?_, fun h => ?_⟩ <;>
  exact absurd (congrArg Except.toOption h) (by decide)

end AeroAgent.RuntimeManager
