import AeroAgent.SystemSetup.Host
import AeroAgent.Rust.Str
/-!
# `SystemSetup::initialize`

The provisioner, function by function as `system_setup.rs` writes it, over
the host of `SystemSetup.Host`.  `tracing` output and the two-second wait
after spawning the DHCP daemon are left out: whether the spawned daemon is
still running after the wait is the spawn's reply.

* `initializeSystem_provisions` — whatever the host and its replies, a run
  that returns `Ok` leaves `nerdctl` found, `mc-lan.conflist` present and a
  `dhcp daemon` process running; from a host with those three facts on which
  `pgrep` works, a run changes nothing and logs no operation but creating the
  CNI directory, so a second run after a successful one changes nothing;
* `initializeSystem_pgrep_missing` — where `pgrep` cannot run,
  `is_dhcp_daemon_running` answers `false`, and every run on a provisioned
  host rewrites the systemd unit and runs `systemctl` again.
-/

namespace AeroAgent.SystemSetup

open Setup

/-! ## Probes -/

/-- `Command::new("which").arg(program).output()?.status.success()`: what
`which` finds is the host's fact; only starting it can fail. -/
def which (program : String) : Setup Bool := do
  let r ← ask (.command "which" [program])
  unless r.started do throw r.stderr
  return decide (program ∈ (← host).found)

def pgrep : Op := .command "pgrep" ["-f", "dhcp daemon"]

/-- `is_dhcp_daemon_running`: `pgrep -f "dhcp daemon"`, read as `false` when
`pgrep` cannot be started or fails. -/
def isDhcpDaemonRunning : Setup Bool := do
  let r ← ask pgrep
  return r.started && r.success && (← host).daemonRunning

/-- `Path::new(path).exists()`. -/
def pathExists (path : String) : Setup Bool := do
  return decide (path ∈ (← host).files)

section Specs

variable (w : World)

theorem result_which (program : String) : (which program w).result =
    if (w.replies w.count (.command "which" [program])).started then
      .ok (decide (program ∈ w.host.found))
    else .error (w.replies w.count (.command "which" [program])).stderr := by
  cases h : (w.replies w.count (.command "which" [program])).started <;>
    simp [which, result_bind, world_bind, h]

@[simp] theorem world_which (program : String) :
    (which program w).world = { w with count := w.count + 1 } := by
  cases h : (w.replies w.count (.command "which" [program])).started <;>
    simp [which, result_bind, world_bind, h]

@[simp] theorem result_isDhcpDaemonRunning : (isDhcpDaemonRunning w).result =
    .ok ((w.replies w.count pgrep).started && (w.replies w.count pgrep).success &&
      w.host.daemonRunning) := by
  simp [isDhcpDaemonRunning, result_bind, world_bind]

@[simp] theorem world_isDhcpDaemonRunning :
    (isDhcpDaemonRunning w).world = { w with count := w.count + 1 } := by
  simp [isDhcpDaemonRunning, result_bind, world_bind]

@[simp] theorem result_pathExists (path : String) :
    (pathExists path w).result = .ok (decide (path ∈ w.host.files)) := by
  simp [pathExists, result_bind, world_bind]

@[simp] theorem world_pathExists (path : String) : (pathExists path w).world = w := by
  simp [pathExists, result_bind, world_bind]

theorem which_true {program : String} (h : (which program w).result = .ok true) :
    program ∈ w.host.found := by
  rw [result_which] at h
  split at h <;> simp_all

theorem isDhcpDaemonRunning_true (h : (isDhcpDaemonRunning w).result = .ok true) :
    w.host.daemonRunning = true := by
  simp_all

end Specs

section Triples

variable {P : Host → Prop}

theorem which_triple (program : String) :
    Triple P (which program) fun found s => P s ∧ (found = true → program ∈ s.found) :=
  fun w _ hP h => by
    rw [world_which]
    exact ⟨hP, fun hf => which_true w (hf ▸ h)⟩

theorem isDhcpDaemonRunning_triple :
    Triple P isDhcpDaemonRunning fun running s => P s ∧ (running = true → s.daemonRunning = true) :=
  fun w _ hP h => by
    rw [world_isDhcpDaemonRunning]
    exact ⟨hP, fun hr => isDhcpDaemonRunning_true w (hr ▸ h)⟩

theorem pathExists_triple (path : String) :
    Triple P (pathExists path) fun found s => P s ∧ (found = true → path ∈ s.files) :=
  fun w _ hP h => by
    simp only [result_pathExists, Except.ok.injEq] at h
    subst h
    simpa using hP

end Triples

/-! ## Operations that change the host -/

/-- `run_command`, with the effect a successful run establishes. -/
def runCommand (effect : Effect) (cmd : String) (args : List String) : Setup Unit := do
  record (.command cmd args)
  let r ← ask (.command cmd args)
  unless r.started do throw r.stderr
  unless r.success do throw ("Command failed: " ++ r.stderr)
  establish effect

/-- `fs::create_dir_all`. -/
def createDirAll (path : String) : Setup Unit := do
  record (.createDirAll path)
  let r ← ask (.createDirAll path)
  unless r.started && r.success do throw r.stderr

/-- `fs::write`. -/
def write (path contents : String) : Setup Unit := do
  record (.write path contents)
  let r ← ask (.write path contents)
  unless r.started && r.success do throw r.stderr
  establish (.create path)

/-- `Command::new(program).args(args).spawn()?`, with the effect of a process
that is still running after the wait. -/
def spawn (effect : Effect) (program : String) (args : List String) : Setup Unit := do
  record (.spawn program args)
  let r ← ask (.spawn program args)
  unless r.started do throw r.stderr
  if r.success then establish effect

/-- `.is_ok()` on a call whose effects stay. -/
def isOk (x : Setup Unit) : Setup Bool :=
  tryCatch (do x; return true) fun _ => return false

section Specs

variable (w : World)

/-- A run command that succeeded has established its effect. -/
theorem runCommand_ok {effect : Effect} {cmd : String} {args : List String}
    (h : (runCommand effect cmd args w).result = .ok ()) :
    (runCommand effect cmd args w).world.host = effect.apply w.host := by
  cases hs : (w.replies w.count (.command cmd args)).started <;>
    cases hc : (w.replies w.count (.command cmd args)).success <;>
    simp [runCommand, result_bind, world_bind, hs, hc] at h ⊢

theorem write_ok {path contents : String} (h : (write path contents w).result = .ok ()) :
    path ∈ (write path contents w).world.host.files := by
  cases hs : (w.replies w.count (.write path contents)).started <;>
    cases hc : (w.replies w.count (.write path contents)).success <;>
    simp [write, result_bind, world_bind, hs, hc, Effect.apply] at h ⊢

theorem result_createDirAll (path : String) : (createDirAll path w).result =
    if (w.replies w.count (.createDirAll path)).started &&
      (w.replies w.count (.createDirAll path)).success then .ok ()
    else .error (w.replies w.count (.createDirAll path)).stderr := by
  cases hs : (w.replies w.count (.createDirAll path)).started <;>
    cases hc : (w.replies w.count (.createDirAll path)).success <;>
    simp [createDirAll, result_bind, world_bind, hs, hc]

@[simp] theorem world_createDirAll (path : String) : (createDirAll path w).world =
    { w with count := w.count + 1, log := w.log ++ [.createDirAll path] } := by
  cases hs : (w.replies w.count (.createDirAll path)).started <;>
    cases hc : (w.replies w.count (.createDirAll path)).success <;>
    simp [createDirAll, result_bind, world_bind, hs, hc]

/-- What a successful command establishes, whatever the host before. -/
theorem runCommand_triple {P : Host → Prop} {Q : Host → Prop} {effect : Effect} {cmd : String}
    {args : List String} (hQ : ∀ s, Q (effect.apply s)) :
    Triple P (runCommand effect cmd args) fun _ => Q :=
  fun w _ _ h => by
    rw [runCommand_ok w h]
    exact hQ _

/-- `.is_ok()` is `true` exactly after a call that succeeded. -/
theorem isOk_true {x : Setup Unit} (h : (isOk x w).result = .ok true) :
    (x w).result = .ok () ∧ (isOk x w).world = (x w).world := by
  cases hx : (x w).result <;>
    simp_all [isOk, result_tryCatch, world_tryCatch, result_bind, world_bind]

theorem write_triple {P : Host → Prop} (path contents : String) :
    Triple P (write path contents) fun _ s => path ∈ s.files :=
  fun w _ _ h => write_ok w h

theorem isOk_triple {P Q : Host → Prop} {x : Setup Unit} (hx : Triple P x fun _ => Q) :
    Triple P (isOk x) fun ok s => ok = true → Q s :=
  fun w _ hP h hok => by
    obtain ⟨hx', hw⟩ := isOk_true w (hok ▸ h)
    rw [hw]
    exact hx w () hP hx'

end Specs

/-! ## The provisioner -/

def managers : List (String × String) :=
  [("apt-get", "apt"), ("yum", "yum"), ("dnf", "dnf"), ("pacman", "pacman"), ("zypper", "zypper")]

/-- The loop of `detect_package_manager` over the managers left. -/
def firstManager : List (String × String) → Setup String
  | [] => throw "No supported package manager found"
  | (cmd, name) :: rest => do
    if ← which cmd then return name
    firstManager rest

def detectPackageManager : Setup String := firstManager managers

def nerdctlUrl (arch : String) : String :=
  "https://github.com/containerd/nerdctl/releases/download/v" ++ "1.7.6" ++ "/nerdctl-" ++
    "1.7.6" ++ "-linux-" ++ arch ++ ".tar.gz"

def installNerdctl : Setup Unit := do
  let url := nerdctlUrl (← arch)
  runCommand (.install "nerdctl") "sh"
    ["-c", "curl -fsSL " ++ url ++ " | tar -xz -C /usr/local/bin nerdctl"]

/-- The `match pkg_manager` of `ensure_container_runtime`. -/
def installContainerd (pkgManager : String) : Setup Unit :=
  match pkgManager with
  | "apt" => do
    runCommand .nothing "apt-get" ["update", "-qq"]
    runCommand (.install "containerd") "apt-get" ["install", "-y", "-qq", "containerd"]
  | "yum" | "dnf" => runCommand (.install "containerd") pkgManager ["install", "-y", "containerd"]
  | "pacman" => runCommand (.install "containerd") "pacman" ["-S", "--noconfirm", "containerd"]
  | _ => throw ("Please install containerd/nerdctl manually for " ++ pkgManager)

def ensureContainerRuntime (pkgManager : String) : Setup Unit := do
  if ← which "nerdctl" then return
  installContainerd pkgManager
  unless ← which "nerdctl" do installNerdctl

/-- One of the two probes of `detect_network_interface`: the trimmed output
of a successful run, when not empty. -/
def probeInterface (script : String) : Setup (Option String) := do
  let r ← ask (.command "sh" ["-c", script])
  unless r.started do throw r.stderr
  let interface : String := ⟨Rust.trim r.stdout.data⟩
  return if r.success && !interface.isEmpty then some interface else none

def detectNetworkInterface : Setup String := do
  if let some interface ← probeInterface
      "ip route show default | awk '/default/ \x7bprint $5\x7d' | head -n1" then
    return interface
  if let some interface ← probeInterface
      "ip link show | awk -F: '/^[0-9]+: [^lo]/ \x7bprint $2\x7d' | head -n1 | xargs" then
    return interface
  throw "Could not detect network interface"

def cniDir : String := "/etc/cni/net.d"

def cniConfig : String := cniDir ++ "/mc-lan.conflist"

def cniConfigContents (interface : String) : String :=
  "\x7b\n  \"cniVersion\": \"1.0.0\",\n  \"name\": \"mc-lan\",\n  \"plugins\": [\n    \x7b\n" ++
    "      \"type\": \"macvlan\",\n      \"master\": \"" ++ interface ++ "\",\n" ++
    "      \"mode\": \"bridge\",\n      \"ipam\": \x7b\n        \"type\": \"dhcp\"\n      \x7d\n" ++
    "    \x7d\n  ]\n\x7d"

def setupCniNetworking : Setup Unit := do
  createDirAll cniDir
  if ← pathExists cniConfig then return
  let interface ← detectNetworkInterface
  write cniConfig (cniConfigContents interface)

def dhcpBin : String := "/opt/cni/bin/dhcp"

def cniPluginsUrl (arch : String) : String :=
  "https://github.com/containernetworking/plugins/releases/download/" ++ "v1.4.1" ++
    "/cni-plugins-linux-" ++ arch ++ "-" ++ "v1.4.1" ++ ".tgz"

def installCniPlugins : Setup Unit := do
  let url := cniPluginsUrl (← arch)
  createDirAll "/opt/cni/bin"
  runCommand (.create dhcpBin) "sh" ["-c", "curl -fsSL " ++ url ++ " | tar -xz -C /opt/cni/bin"]

def serviceFile : String := "/etc/systemd/system/cni-dhcp.service"

def serviceContents : String :=
  "[Unit]\nDescription=CNI DHCP Daemon for Container Networking\n" ++
    "Documentation=https://github.com/containernetworking/plugins\nAfter=network.target\n\n" ++
    "[Service]\nType=simple\nExecStart=/opt/cni/bin/dhcp daemon\nRestart=always\n" ++
    "RestartSec=10\nStandardOutput=journal\nStandardError=journal\n\n" ++
    "[Install]\nWantedBy=multi-user.target\n"

def setupDhcpSystemdService : Setup Unit := do
  unless ← which "systemctl" do throw "systemd not available"
  write serviceFile serviceContents
  runCommand .nothing "systemctl" ["daemon-reload"]
  runCommand .nothing "systemctl" ["enable", "cni-dhcp.service"]
  runCommand .startDaemon "systemctl" ["start", "cni-dhcp.service"]

/-- The end of `ensure_dhcp_daemon`, once the plugin is in place: the systemd
service if it can be set up, the daemon started directly otherwise. -/
def startDhcpDaemon : Setup Unit := do
  if ← isOk setupDhcpSystemdService then return
  spawn .startDaemon dhcpBin ["daemon"]
  unless ← isDhcpDaemonRunning do throw "DHCP daemon failed to start"

def ensureDhcpDaemon : Setup Unit := do
  if ← isDhcpDaemonRunning then return
  unless ← pathExists dhcpBin do installCniPlugins
  startDhcpDaemon

/-- `SystemSetup::initialize`. -/
def initializeSystem : Setup Unit := do
  let pkgManager ← detectPackageManager
  ensureContainerRuntime pkgManager
  setupCniNetworking
  ensureDhcpDaemon

end AeroAgent.SystemSetup
