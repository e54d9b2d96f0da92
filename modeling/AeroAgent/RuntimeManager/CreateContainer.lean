import AeroAgent.RuntimeManager.ReadBack
import AeroAgent.RuntimeManager.Output
/-!
# `create_container` as a whole

One call of `ContainerdRuntime::create_container`: the `nerdctl run` it
builds, then, once the run succeeded, the `nerdctl inspect` of
`get_container_ip` and the `allow_port` call with the address it printed.
What the three calls answer is a parameter, as in `Output`; the firewall
itself is in `firewall_manager.rs`, outside the source.

* `createContainer_effects` — for every well-formed request and every answer
  of the three calls, the lookup and the firewall never decide the result;
  `nerdctl` reads the calls as the requested run and then, exactly when it
  succeeded, as the inspect of the container that run named, in the same
  namespace; and the firewall is asked once, exactly when the run succeeded,
  for the port at the address the inspect printed, `0.0.0.0` only when the
  inspect failed.
-/

namespace AeroAgent.RuntimeManager

open Nerdctl

/-- The command ran and exited with success. -/
def succeeded : Completed → Bool
  | .ok o => o.success
  | .error _ => false

/-- What one call of `create_container` does: the argument vectors it hands
to `nerdctl`, in order, the `allow_port` calls it makes, and its result. -/
structure CreateEffects where
  nerdctlCalls : List (List String)
  firewallCalls : List (UInt16 × String)
  result : AgentResult String

/-- `create_container`, given what `nerdctl run`, the `nerdctl inspect` of
`get_container_ip` and `allow_port` answer. -/
def ContainerdRuntime.createContainer (rt : ContainerdRuntime)
    (containerId image startupCommand : String) (env : EnvMap) (memoryMb cpuCores : UInt64)
    (dataDir : String) (port : UInt16) (networkMode : Option String) (run inspect : Completed)
    (firewall : Except String Unit) : CreateEffects :=
  let out := Output.createContainer port run (Output.getContainerIp inspect) firewall
  ⟨Argv.createContainer rt containerId image startupCommand env memoryMb cpuCores dataDir port
      networkMode :: if out.inspected then [Argv.getContainerIp rt containerId] else [],
    out.firewallCalls, out.result⟩

theorem createContainer_inspected (port : UInt16) (run : Completed) (ip : AgentResult String)
    (firewall : Except String Unit) :
    (Output.createContainer port run ip firewall).inspected = succeeded run := by
  rcases run with _ | ⟨_ | _, _, _⟩
  · rfl
  · rfl
  · rw [Output.createContainer_success]; rfl

/-- The lookup and the firewall never decide `create_container`'s result;
`nerdctl` reads what it runs as the requested `run` and then, once that
succeeded, as the inspect of the container it named; the firewall is asked
once, after a successful run, for the port at the inspected address, or at
`0.0.0.0` when the inspect failed. -/
theorem createContainer_effects (rt : ContainerdRuntime) (containerId image startupCommand : String)
    (env : EnvMap) (memoryMb cpuCores : UInt64) (dataDir : String) (port : UInt16)
    (networkMode : Option String) (run inspect : Completed) (firewall : Except String Unit)
    (hcall : (RuntimeCall.createContainer containerId image startupCommand env memoryMb cpuCores
      dataDir port networkMode).WellFormed)
    (hid : isOption containerId = false) :
    let c := rt.createContainer containerId image startupCommand env memoryMb cpuCores dataDir port
      networkMode run
    (∀ inspect' firewall', (c inspect' firewall').result = (c inspect firewall).result) ∧
    (c inspect firewall).result.isOk = succeeded run ∧
    (c inspect firewall).nerdctlCalls.map readCommandLine =
      .ok ⟨some rt.«namespace», .run (createRequest containerId image startupCommand env memoryMb
        cpuCores dataDir port networkMode)⟩ ::
      (if succeeded run then
        [.ok ⟨some rt.«namespace», .inspect (some ipAddressTemplate) [containerId]⟩] else []) ∧
    (c inspect firewall).firewallCalls =
      if succeeded run then
        [(port, match inspect with
          | .ok o => if o.success then trimStr o.stdout else "0.0.0.0"
          | .error _ => "0.0.0.0")]
      else [] := by
  intro c
  have hcalls : (c inspect firewall).nerdctlCalls.map readCommandLine =
      readCommandLine (Argv.createContainer rt containerId image startupCommand env memoryMb
        cpuCores dataDir port networkMode) ::
      if succeeded run then [readCommandLine (Argv.getContainerIp rt containerId)] else [] := by
    simp only [c, ContainerdRuntime.createContainer, createContainer_inspected]
    split <;> rfl
  rw [hcalls, readCommandLine_createContainer rt _ _ _ _ _ _ _ _ _ hcall.1 hcall.2.1 hcall.2.2,
    readCommandLine_getContainerIp rt hid]
  rcases run with _ | ⟨_ | _, stdout, stderr⟩
  · exact ⟨fun _ _ => rfl, rfl, rfl, rfl⟩
  · exact ⟨fun _ _ => rfl, rfl, rfl, rfl⟩
  simp only [c, ContainerdRuntime.createContainer, Output.createContainer_success]
  refine ⟨fun _ _ => trivial, rfl, trivial, ?_⟩
  rcases inspect with _ | ⟨_ | _, _, _⟩ <;> rfl

/-- A container on the `mc-lan` network whose IP lookup cannot run: the
firewall is asked for its port at `0.0.0.0`. -/
theorem createContainer_effects_no_inspect :
    (RuntimeCall.createContainer "srv-1" "alpine:3" "" ⟨[], List.nodup_nil⟩ 512 1 "/var/srv-1"
        25565 (some "mc-lan")).WellFormed ∧ isOption "srv-1" = false ∧
      (ContainerdRuntime.createContainer ⟨"default"⟩ "srv-1" "alpine:3" "" ⟨[], List.nodup_nil⟩
        512 1 "/var/srv-1" 25565 (some "mc-lan") (.ok ⟨true, "4f2a\n", ""⟩)
        (.error "No such file or directory (os error 2)") (.ok ())).firewallCalls =
        [(25565, "0.0.0.0")] :=
  have hcall : (RuntimeCall.createContainer "srv-1" "alpine:3" "" ⟨[], List.nodup_nil⟩ 512 1
      "/var/srv-1" 25565 (some "mc-lan")).WellFormed := ⟨rfl, by decide, by decide⟩
  ⟨hcall, rfl, (createContainer_effects ⟨"default"⟩ "srv-1" "alpine:3" "" ⟨[], List.nodup_nil⟩ 512 1
    "/var/srv-1" 25565 (some "mc-lan") _ _ _ hcall rfl).2.2.2⟩

end AeroAgent.RuntimeManager
