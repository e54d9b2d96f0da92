import AeroAgent.Rust.Str
/-!
# What the adapter makes of `nerdctl`'s output

The second half of each `ContainerdRuntime` method: from what
`Command::output` returned to the method's `AgentResult`.  A process that
could not be run is an I/O error (the `?` after `.output().await`), except in
`create_container`, which maps it to a `ContainerError`.  JSON decoding is
`serde_json::from_str`, taken as a parameter.  `RuntimeManager.CreateContainer`
puts `create_container`'s half together with the calls it makes.
-/

namespace AeroAgent.RuntimeManager

/-- Modelled from the spec: `errors.rs` is not in the source.  These are the
variants `runtime_manager.rs` builds, with the I/O and JSON errors its `?`
converts (the spec's `ToolMissing` and `Decode`). -/
inductive AgentError
  | containerError (message : String)
  | internalError (message : String)
  | io (message : String)
  | json (message : String)
  deriving DecidableEq, Repr

abbrev AgentResult (α : Type) := Except AgentError α

/-- What `Command::output` returns, both streams through `from_utf8_lossy`. -/
structure ProcessOutput where
  success : Bool
  stdout : String
  stderr : String
  deriving DecidableEq, Repr

/-- A finished `nerdctl` run, or the I/O error that kept it from running. -/
abbrev Completed := Except String ProcessOutput

structure ContainerInfo where
  id : String
  names : String
  status : String
  command : String
  image : String
  deriving DecidableEq, Repr

structure ContainerStats where
  containerId : String
  containerName : String
  cpuPercent : String
  memoryUsage : String
  netIo : String
  blockIo : String
  deriving DecidableEq, Repr

/-- `str::trim` on a whole string. -/
def trimStr (s : String) : String := ⟨Rust.trim s.data⟩

namespace Output

/-- The status check of the lifecycle methods: a failed exit is a
`ContainerError` with `stderr` after `context`. -/
def checkStatus (context : String) : Completed → AgentResult Unit
  | .error e => .error (.io e)
  | .ok o => if o.success then .ok () else .error (.containerError (context ++ o.stderr))

def startContainer : Completed → AgentResult Unit := checkStatus "Failed to start container: "

def stopContainer : Completed → AgentResult Unit := checkStatus "Failed to stop container: "

def killContainer : Completed → AgentResult Unit := checkStatus "Failed to kill container: "

def removeContainer : Completed → AgentResult Unit := checkStatus "Failed to remove container: "

/-- The methods that return `stdout` after the same check. -/
def stdoutOf (context : String) : Completed → AgentResult String
  | .error e => .error (.io e)
  | .ok o => if o.success then .ok o.stdout else .error (.containerError (context ++ o.stderr))

def getLogs : Completed → AgentResult String := stdoutOf "Failed to get logs: "

def exec : Completed → AgentResult String := stdoutOf "Exec failed: "

/-- The `for line in json_output.lines()` loop, `containers` the vector so far. -/
def parseContainerLines (decode : String → Except String ContainerInfo) :
    List (List Char) → List ContainerInfo → AgentResult (List ContainerInfo)
  | [], containers => .ok containers
  | line :: rest, containers =>
    if (Rust.trim line).isEmpty then parseContainerLines decode rest containers
    else match decode ⟨line⟩ with
      | .error e => .error (.json e)
      | .ok container => parseContainerLines decode rest (containers ++ [container])

def listContainers (decode : String → Except String ContainerInfo) :
    Completed → AgentResult (List ContainerInfo)
  | .error e => .error (.io e)
  | .ok o =>
    if o.success then parseContainerLines decode (Rust.lines o.stdout.data) []
    else .error (.containerError "Failed to list containers")

def getStats (decode : String → Except String ContainerStats) :
    Completed → AgentResult ContainerStats
  | .error e => .error (.io e)
  | .ok o =>
    if o.success then
      match Rust.lines o.stdout.data with
      | [] => .error (.containerError "No stats returned")
      | firstLine :: _ => match decode ⟨firstLine⟩ with
        | .error e => .error (.json e)
        | .ok stats => .ok stats
    else .error (.containerError "Failed to get stats")

def getContainerIp : Completed → AgentResult String
  | .error e => .error (.io e)
  | .ok o =>
    if o.success then .ok (trimStr o.stdout)
    else .error (.containerError "Failed to get container IP")

def containerExists : Completed → Bool
  | .error _ => false
  | .ok o => o.success

/-- `send_input` is a placeholder that accepts anything. -/
def sendInput : AgentResult Unit := .ok ()

/-- What `create_container` returns after `nerdctl run`, whether it went on to
look up the container's IP (`get_container_ip`), and the `allow_port` calls
it made. -/
structure CreateOutcome where
  result : AgentResult String
  inspected : Bool
  firewallCalls : List (UInt16 × String)

/-- `create_container` after `nerdctl run` finished as `run`: on success it
asks for the container's IP (`0.0.0.0` when that fails) and opens the port on
the firewall, whose failure it only logs. -/
def createContainer (port : UInt16) (run : Completed) (ip : AgentResult String)
    (firewall : Except String Unit) : CreateOutcome :=
  match run with
  | .error e => ⟨.error (.containerError ("Failed to create container: " ++ e)), false, []⟩
  | .ok o =>
    if o.success then
      let containerIp := match ip with
        | .ok a => a
        | .error _ => "0.0.0.0"
      match firewall with
      | .error _ => ⟨.ok (trimStr o.stdout), true, [(port, containerIp)]⟩
      | .ok () => ⟨.ok (trimStr o.stdout), true, [(port, containerIp)]⟩
    else ⟨.error (.containerError ("Container creation failed: " ++ o.stderr)), false, []⟩

/-- After a successful `nerdctl run` the firewall's answer is only logged. -/
theorem createContainer_success (port : UInt16) (stdout stderr : String) (ip : AgentResult String)
    (firewall : Except String Unit) :
    createContainer port (.ok ⟨true, stdout, stderr⟩) ip firewall =
      ⟨.ok (trimStr stdout), true,
        [(port, match ip with | .ok a => a | .error _ => "0.0.0.0")]⟩ := by
  rcases firewall with _ | ⟨⟩ <;> rfl

end Output

end AeroAgent.RuntimeManager
