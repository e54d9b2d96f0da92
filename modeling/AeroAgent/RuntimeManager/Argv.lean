import Mathlib.Data.List.Basic
/-!
# Argument vectors of the runtime adapter

`ContainerdRuntime` shells out to `nerdctl` for every operation.  This module
gives, for each method of `runtime_manager.rs`, the argument vector it hands to
`Command::new("nerdctl")`, element by element and in the order of the `.arg`
calls.  Nothing here interprets the vectors; `Nerdctl.Grammar` reads them back.
-/

namespace AeroAgent.RuntimeManager

/-- The adapter's configuration as its methods read it: the namespace.  The
stored `socket_path` is passed to no `nerdctl` call. -/
structure ContainerdRuntime where
  «namespace» : String
  deriving DecidableEq, Repr

/-- A `HashMap<String, String>` as the `for (key, value) in env` loop visits
it: its pairs in iteration order, keys pairwise distinct. -/
structure EnvMap where
  pairs : List (String × String)
  keys_nodup : (pairs.map Prod.fst).Nodup

/-- The `{{range .NetworkSettings.Networks}}{{.IPAddress}}{{end}}` template of
`get_container_ip`. -/
def ipAddressTemplate : String :=
  "\x7b\x7brange .NetworkSettings.Networks\x7d\x7d\x7b\x7b.IPAddress\x7d\x7d\x7b\x7bend\x7d\x7d"

/-! Rust's `to_string` of an unsigned integer is its decimal numeral, as Lean's is. -/

@[simp] theorem toString_uint16 (n : UInt16) : toString n = toString n.toNat := rfl

@[simp] theorem toString_uint32 (n : UInt32) : toString n = toString n.toNat := rfl

@[simp] theorem toString_uint64 (n : UInt64) : toString n = toString n.toNat := rfl

namespace Argv

/-- `--namespace {namespace}`, the prefix of every invocation. -/
def namespaceArgs (rt : ContainerdRuntime) : List String :=
  ["--namespace", rt.«namespace»]

/-- The `--network` arguments of `create_container`. -/
def networkArgs : Option String → List String
  | some network =>
    if network = "host" then ["--network", "host"]
    else if network ≠ "bridge" then ["--network", network]
    else []
  | none => []

/-- The port mapping of `create_container`, guarded exactly as the source
guards it. -/
def portArgs (networkMode : Option String) (port : UInt16) : List String :=
  if networkMode.isNone ∨ (networkMode.isSome ∧ networkMode ≠ some "host") then
    ["-p", "0.0.0.0:" ++ toString port ++ ":" ++ toString port]
  else []

/-- One `-e key=value` pair per entry of the environment. -/
def envArgs (env : List (String × String)) : List String :=
  env.flatMap fun kv => ["-e", kv.1 ++ "=" ++ kv.2]

/-- `sh -c {startup_command}` when the startup command is non-empty. -/
def startupArgs (startupCommand : String) : List String :=
  if startupCommand.isEmpty then [] else ["sh", "-c", startupCommand]

def createContainer (rt : ContainerdRuntime) (containerId image startupCommand : String)
    (env : EnvMap) (memoryMb cpuCores : UInt64) (dataDir : String) (port : UInt16)
    (networkMode : Option String) : List String :=
  namespaceArgs rt ++ ["run"] ++
    ["--memory=" ++ toString memoryMb ++ "m", "--cpus", toString cpuCores] ++
    ["-v", dataDir ++ ":/data"] ++ ["-w", "/data"] ++
    networkArgs networkMode ++ portArgs networkMode port ++ envArgs env.pairs ++
    ["--name", containerId] ++ ["-d"] ++ [image] ++ startupArgs startupCommand

def startContainer (rt : ContainerdRuntime) (containerId : String) : List String :=
  namespaceArgs rt ++ ["start", containerId]

def stopContainer (rt : ContainerdRuntime) (containerId : String) (timeoutSecs : UInt64) :
    List String :=
  namespaceArgs rt ++ ["stop", "-t", toString timeoutSecs, containerId]

def killContainer (rt : ContainerdRuntime) (containerId signal : String) : List String :=
  namespaceArgs rt ++ ["kill", "-s", signal, containerId]

def removeContainer (rt : ContainerdRuntime) (containerId : String) : List String :=
  namespaceArgs rt ++ ["rm", "-f", containerId]

def getLogs (rt : ContainerdRuntime) (containerId : String) (lines : Option UInt32) :
    List String :=
  namespaceArgs rt ++ ["logs"] ++
    (match lines with
     | some n => ["--tail", toString n]
     | none => []) ++ [containerId]

def streamLogs (rt : ContainerdRuntime) (containerId : String) : List String :=
  namespaceArgs rt ++ ["logs", "-f", containerId]

def listContainers (rt : ContainerdRuntime) : List String :=
  namespaceArgs rt ++ ["ps", "-a", "--format", "json"]

def getStats (rt : ContainerdRuntime) (containerId : String) : List String :=
  namespaceArgs rt ++ ["stats", "--no-stream", "--format", "json", containerId]

def exec (rt : ContainerdRuntime) (containerId : String) (command : List String) :
    List String :=
  namespaceArgs rt ++ ["exec", containerId] ++ command

def getContainerIp (rt : ContainerdRuntime) (containerId : String) : List String :=
  namespaceArgs rt ++ ["inspect", containerId, "--format", ipAddressTemplate]

def containerExists (rt : ContainerdRuntime) (containerId : String) : List String :=
  namespaceArgs rt ++ ["inspect", containerId]

def spawnLogStream (rt : ContainerdRuntime) (containerId : String) : List String :=
  namespaceArgs rt ++ ["logs", "--follow", "--timestamps", containerId]

end Argv

/-- A call of one of the adapter's `nerdctl`-invoking methods, with its
arguments. -/
inductive RuntimeCall
  | createContainer (containerId image startupCommand : String) (env : EnvMap)
      (memoryMb cpuCores : UInt64) (dataDir : String) (port : UInt16)
      (networkMode : Option String)
  | startContainer (containerId : String)
  | stopContainer (containerId : String) (timeoutSecs : UInt64)
  | killContainer (containerId signal : String)
  | removeContainer (containerId : String)
  | getLogs (containerId : String) (lines : Option UInt32)
  | streamLogs (containerId : String)
  | listContainers
  | getStats (containerId : String)
  | exec (containerId : String) (command : List String)
  | getContainerIp (containerId : String)
  | containerExists (containerId : String)
  | spawnLogStream (containerId : String)

/-- The argument vector a call hands to `nerdctl`. -/
def RuntimeCall.args (rt : ContainerdRuntime) : RuntimeCall → List String
  | .createContainer id image startup env mem cpus dataDir port network =>
    Argv.createContainer rt id image startup env mem cpus dataDir port network
  | .startContainer id => Argv.startContainer rt id
  | .stopContainer id timeout => Argv.stopContainer rt id timeout
  | .killContainer id signal => Argv.killContainer rt id signal
  | .removeContainer id => Argv.removeContainer rt id
  | .getLogs id lines => Argv.getLogs rt id lines
  | .streamLogs id => Argv.streamLogs rt id
  | .listContainers => Argv.listContainers rt
  | .getStats id => Argv.getStats rt id
  | .exec id command => Argv.exec rt id command
  | .getContainerIp id => Argv.getContainerIp rt id
  | .containerExists id => Argv.containerExists rt id
  | .spawnLogStream id => Argv.spawnLogStream rt id

end AeroAgent.RuntimeManager
