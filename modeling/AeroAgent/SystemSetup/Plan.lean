import AeroAgent.SystemSetup.Provision
/-!
# What `initialize` may do to a host, over every run

`SystemSetup::initialize` is a provisioning script.  Whatever the host
replies, what it runs is a selection of one plan, fixed by the host it starts
on, taken in the plan's order.

* `initializeSystem_follows_plan` — every run logs, in order and none twice,
  a selection of `provisioningPlan`: the `containerd` install commands of one
  package manager and the `nerdctl` download only where `which` does not find
  `nerdctl`, then the CNI directory, the CNI config only where it is missing
  and only for a non-empty interface name with no surrounding whitespace, the
  CNI plugins only where the DHCP plugin is missing, and last the DHCP daemon's
  systemd unit, `systemctl` and the daemon itself.

`Follows plan w w'` is the relation each function's lemma states: one lemma
per function, composed along `>>=` by `follows_bind`.
-/

namespace AeroAgent.SystemSetup

open Setup

/-! ## The plan -/

/-- The commands `ensure_container_runtime` installs `containerd` with, for
each package manager it knows. -/
def containerdOps (pkgManager : String) : List Op :=
  match pkgManager with
  | "apt" =>
    [.command "apt-get" ["update", "-qq"], .command "apt-get" ["install", "-y", "-qq", "containerd"]]
  | "yum" | "dnf" => [.command pkgManager ["install", "-y", "containerd"]]
  | "pacman" => [.command "pacman" ["-S", "--noconfirm", "containerd"]]
  | _ => []

def nerdctlOp (arch : String) : Op :=
  .command "sh" ["-c", "curl -fsSL " ++ nerdctlUrl arch ++ " | tar -xz -C /usr/local/bin nerdctl"]

def cniPluginsOps (arch : String) : List Op :=
  [.createDirAll "/opt/cni/bin",
    .command "sh" ["-c", "curl -fsSL " ++ cniPluginsUrl arch ++ " | tar -xz -C /opt/cni/bin"]]

def systemdOps : List Op :=
  [.write serviceFile serviceContents, .command "systemctl" ["daemon-reload"],
    .command "systemctl" ["enable", "cni-dhcp.service"],
    .command "systemctl" ["start", "cni-dhcp.service"]]

/-- What `initialize` may do on host `h`, in this order: install `containerd`
with `pkgManager` and download `nerdctl` where `nerdctl` is not found, create
the CNI directory, write the CNI config for `interface` where it is missing,
download the CNI plugins where the DHCP plugin is missing, set up the systemd
unit and start the daemon. -/
def provisioningPlan (h : Host) (arch pkgManager interface : String) : List Op :=
  (if "nerdctl" ∈ h.found then [] else containerdOps pkgManager ++ [nerdctlOp arch]) ++
    (.createDirAll cniDir ::
      if cniConfig ∈ h.files then [] else [.write cniConfig (cniConfigContents interface)]) ++
    ((if dhcpBin ∈ h.files then [] else cniPluginsOps arch) ++
      (systemdOps ++ [.spawn dhcpBin ["daemon"]]))

/-! ## Following a plan -/

/-- `w'` comes after `w` on the same architecture, and the operations logged
in between are a selection of `plan`, in its order. -/
def Follows (plan : List Op) (w w' : World) : Prop :=
  w'.arch = w.arch ∧ ∃ ops, w'.log = w.log ++ ops ∧ ops.Sublist plan

namespace Follows

variable {p q : List Op} {w w₁ w₂ w₃ : World}

theorem of_log (plan : List Op) {w w' : World} (ha : w'.arch = w.arch) (hl : w'.log = w.log) :
    Follows plan w w' :=
  ⟨ha, [], by rw [hl, List.append_nil], List.nil_sublist _⟩

theorem refl (plan : List Op) (w : World) : Follows plan w w := of_log plan rfl rfl

theorem of_count (plan : List Op) (w : World) (n : Nat) : Follows plan w { w with count := n } :=
  refl plan w

theorem mono (hp : p.Sublist q) (h : Follows p w₁ w₂) : Follows q w₁ w₂ :=
  ⟨h.1, h.2.imp fun _ h' => ⟨h'.1, h'.2.trans hp⟩⟩

theorem append (h₁ : Follows p w₁ w₂) (h₂ : Follows q w₂ w₃) : Follows (p ++ q) w₁ w₃ := by
  obtain ⟨ha₁, ops₁, hl₁, hs₁⟩ := h₁
  obtain ⟨ha₂, ops₂, hl₂, hs₂⟩ := h₂
  exact ⟨ha₂.trans ha₁, ops₁ ++ ops₂, by rw [hl₂, hl₁, List.append_assoc], hs₁.append hs₂⟩

end Follows

section Bind

variable {α β : Type} {x : Setup α} {f : α → Setup β} {w : World}

/-- A run of `x >>= f` follows `x`'s plan, then `f`'s. -/
theorem follows_bind {p q : List Op} (hx : Follows p w (x w).world)
    (hf : ∀ a, (x w).result = .ok a → Follows q (x w).world (f a (x w).world).world) :
    Follows (p ++ q) w ((x >>= f) w).world := by
  rw [world_bind]
  split
  · next a ha => exact hx.append (hf a ha)
  · exact hx.mono (List.sublist_append_left p q)

/-- A step that logs nothing leaves the plan to the steps after it. -/
theorem follows_bind_nil {q : List Op} (hx : Follows [] w (x w).world)
    (hf : ∀ a, (x w).result = .ok a → Follows q (x w).world (f a (x w).world).world) :
    Follows q w ((x >>= f) w).world :=
  follows_bind hx hf

theorem world_bind_of_ok {a : α} (h : (x w).result = .ok a) :
    ((x >>= f) w).world = (f a (x w).world).world := by
  rw [world_bind, h]

theorem world_bind_of_error {e : String} (h : (x w).result = .error e) :
    ((x >>= f) w).world = (x w).world := by
  rw [world_bind, h]

end Bind

/-! ## One lemma per function -/

section Functions

variable (w : World)

theorem which_follows (program : String) : Follows [] w (which program w).world := by
  rw [world_which]
  exact .of_count [] w _

theorem firstManager_follows (ms : List (String × String)) :
    Follows [] w (firstManager ms w).world := by
  induction ms generalizing w with
  | nil => exact .refl [] w
  | cons m rest ih =>
    exact follows_bind (which_follows w m.1) fun found _ => by
      cases found
      · exact ih _
      · exact .refl [] _

theorem runCommand_follows (effect : Effect) (cmd : String) (args : List String) :
    Follows [.command cmd args] w (runCommand effect cmd args w).world := by
  have h : (runCommand effect cmd args w).world.arch = w.arch ∧
      (runCommand effect cmd args w).world.log = w.log ++ [.command cmd args] := by
    cases hs : (w.replies w.count (.command cmd args)).started <;>
      cases hc : (w.replies w.count (.command cmd args)).success <;>
      simp [runCommand, result_bind, world_bind, hs, hc]
  exact ⟨h.1, _, h.2, .refl _⟩

theorem createDirAll_follows (path : String) :
    Follows [.createDirAll path] w (createDirAll path w).world :=
  ⟨by rw [world_createDirAll], _, by rw [world_createDirAll], .refl _⟩

theorem write_follows (path contents : String) :
    Follows [.write path contents] w (write path contents w).world := by
  have h : (write path contents w).world.arch = w.arch ∧
      (write path contents w).world.log = w.log ++ [.write path contents] := by
    cases hs : (w.replies w.count (.write path contents)).started <;>
      cases hc : (w.replies w.count (.write path contents)).success <;>
      simp [write, result_bind, world_bind, hs, hc]
  exact ⟨h.1, _, h.2, .refl _⟩

theorem spawn_follows (effect : Effect) (program : String) (args : List String) :
    Follows [.spawn program args] w (spawn effect program args w).world := by
  have h : (spawn effect program args w).world.arch = w.arch ∧
      (spawn effect program args w).world.log = w.log ++ [.spawn program args] := by
    cases hs : (w.replies w.count (.spawn program args)).started <;>
      cases hc : (w.replies w.count (.spawn program args)).success <;>
      simp [spawn, result_bind, world_bind, hs, hc]
  exact ⟨h.1, _, h.2, .refl _⟩

/-- Package managers `ensure_container_runtime` has no installer for. -/
theorem installContainerd_unsupported {pkgManager : String}
    (hpkg : pkgManager ∉ ["apt", "yum", "dnf", "pacman"]) :
    installContainerd pkgManager = throw ("Please install containerd/nerdctl manually for " ++ pkgManager) := by
  simp only [List.mem_cons, List.mem_singleton, List.not_mem_nil, or_false, not_or] at hpkg
  unfold installContainerd
  split <;> simp_all

theorem installContainerd_follows (pkgManager : String) :
    Follows (containerdOps pkgManager) w (installContainerd pkgManager w).world := by
  by_cases hpkg : pkgManager ∈ ["apt", "yum", "dnf", "pacman"]
  · simp only [List.mem_cons, List.mem_singleton, List.not_mem_nil, or_false] at hpkg
    rcases hpkg with rfl | rfl | rfl | rfl
    · exact follows_bind (runCommand_follows w _ _ _) fun _ _ => runCommand_follows _ _ _ _
    all_goals exact runCommand_follows w _ _ _
  · rw [installContainerd_unsupported hpkg]
    exact .refl _ w

theorem installNerdctl_follows {arch : String} (ha : w.arch = arch) :
    Follows [nerdctlOp arch] w (installNerdctl w).world :=
  follows_bind_nil (.refl [] w) fun _ h => by
    cases h
    rw [← ha]
    exact runCommand_follows w _ _ _

/-- The install commands run only where `which` has not found `nerdctl` on
`h`, a host the run's host has grown from. -/
theorem ensureContainerRuntime_follows (pkgManager : String) {h : Host} (hle : h ≤ w.host) :
    Follows (if "nerdctl" ∈ h.found then [] else containerdOps pkgManager ++ [nerdctlOp w.arch])
      w (ensureContainerRuntime pkgManager w).world := by
  refine follows_bind_nil (which_follows w "nerdctl") fun found hfound => ?_
  cases found
  · have hn : "nerdctl" ∉ h.found := fun hn => by
      rw [result_which] at hfound
      split at hfound <;> simp_all [hle.1 hn]
    rw [if_neg hn]
    refine follows_bind_nil (.refl [] _) fun _ hu => ?_
    cases hu
    have h₁ := installContainerd_follows (which "nerdctl" w).world pkgManager
    refine follows_bind h₁ fun _ _ => follows_bind_nil (which_follows _ "nerdctl") fun found _ => ?_
    cases found
    · refine installNerdctl_follows _ ?_
      rw [world_which]
      exact h₁.1.trans (by rw [world_which])
    · exact .refl _ _
  · exact .refl _ _

end Functions

section Interface

variable (w : World)

@[simp] theorem world_probeInterface (script : String) :
    (probeInterface script w).world = { w with count := w.count + 1 } := by
  cases hs : (w.replies w.count (.command "sh" ["-c", script])).started <;>
    simp [probeInterface, result_bind, world_bind, hs]

/-- A probe answers only a non-empty name with no whitespace around it. -/
theorem probeInterface_some {script interface : String}
    (h : (probeInterface script w).result = .ok (some interface)) :
    interface.data ≠ [] ∧ Rust.trim interface.data = interface.data := by
  cases hs : (w.replies w.count (.command "sh" ["-c", script])).started <;>
    simp [probeInterface, result_bind, world_bind, hs] at h
  obtain ⟨⟨_, hne⟩, rfl⟩ := h
  refine ⟨fun hnil => ?_, Rust.trim_trim _⟩
  dsimp only at hnil
  rw [hnil] at hne
  exact absurd hne (by decide)

theorem detectNetworkInterface_ok {interface : String}
    (h : (detectNetworkInterface w).result = .ok interface) :
    interface.data ≠ [] ∧ Rust.trim interface.data = interface.data := by
  obtain ⟨o, ho, h, -⟩ := bind_ok h
  cases o with
  | some i =>
    cases h
    exact probeInterface_some w ho
  | none =>
    obtain ⟨_, -, h, -⟩ := bind_ok h
    obtain ⟨o', ho', h, -⟩ := bind_ok h
    cases o' with
    | some i =>
      cases h
      exact probeInterface_some _ ho'
    | none =>
      obtain ⟨_, -, h, -⟩ := bind_ok h
      cases h

theorem probeInterface_follows (script : String) : Follows [] w (probeInterface script w).world := by
  rw [world_probeInterface]
  exact .of_count [] w _

theorem detectNetworkInterface_follows : Follows [] w (detectNetworkInterface w).world := by
  refine follows_bind_nil (probeInterface_follows w _) fun o _ => ?_
  cases o with
  | some _ => exact .refl [] _
  | none =>
    refine follows_bind_nil (.refl [] _) fun _ hu => ?_
    cases hu
    refine follows_bind_nil (probeInterface_follows _ _) fun o _ => ?_
    cases o with
    | some _ => exact .refl [] _
    | none => exact follows_bind_nil (.refl [] _) fun _ _ => .refl [] _

theorem setupCniNetworking_follows {h : Host} (hle : h ≤ w.host) :
    ∃ interface, (interface.data ≠ [] ∧ Rust.trim interface.data = interface.data) ∧
      Follows (.createDirAll cniDir ::
          if cniConfig ∈ h.files then [] else [.write cniConfig (cniConfigContents interface)])
        w (setupCniNetworking w).world := by
  have hhost : (createDirAll cniDir w).world.host = w.host := by rw [world_createDirAll]
  let detected := detectNetworkInterface (createDirAll cniDir w).world
  refine ⟨match detected.result with
    | .ok interface => interface
    | .error _ => "eth0", ?_, ?_⟩
  · cases hd : detected.result with
    | ok interface => exact detectNetworkInterface_ok _ hd
    | error _ => exact (by decide : ("eth0" : String).data ≠ [] ∧ Rust.trim "eth0".data = "eth0".data)
  rw [← List.singleton_append]
  refine follows_bind (createDirAll_follows w cniDir) fun _ _ =>
    follows_bind_nil (.refl [] _) fun found hfound => ?_
  rw [world_pathExists]
  rw [result_pathExists, hhost] at hfound
  cases hfound
  by_cases hc : cniConfig ∈ w.host.files
  · rw [decide_eq_true hc]
    exact .refl _ _
  rw [decide_eq_false hc, if_neg fun hc' => hc (hle.2.1 hc')]
  refine follows_bind_nil (.refl [] _) fun _ _ =>
    follows_bind_nil (detectNetworkInterface_follows _) fun interface hi => ?_
  have hd : detected.result = .ok interface := hi
  rw [hd]
  exact write_follows _ _ _

end Interface

section Daemon

variable (w : World)

theorem isDhcpDaemonRunning_follows : Follows [] w (isDhcpDaemonRunning w).world := by
  rw [world_isDhcpDaemonRunning]
  exact .of_count [] w _

theorem installCniPlugins_follows {arch : String} (ha : w.arch = arch) :
    Follows (cniPluginsOps arch) w (installCniPlugins w).world :=
  follows_bind_nil (.refl [] w) fun _ h => by
    cases h
    rw [← ha]
    exact follows_bind (createDirAll_follows w _) fun _ _ => runCommand_follows _ _ _ _

theorem setupDhcpSystemdService_follows : Follows systemdOps w (setupDhcpSystemdService w).world :=
  follows_bind_nil (which_follows w "systemctl") fun found _ => by
    cases found
    · exact follows_bind_nil (.refl [] _) fun _ h => by cases h
    · exact follows_bind_nil (.refl [] _) fun _ _ =>
        follows_bind (write_follows _ _ _) fun _ _ => follows_bind (runCommand_follows _ _ _ _)
          fun _ _ => follows_bind (runCommand_follows _ _ _ _) fun _ _ => runCommand_follows _ _ _ _

theorem isOk_follows {x : Setup Unit} {p : List Op} (hx : Follows p w (x w).world) :
    Follows p w (isOk x w).world := by
  have hbind : ((x >>= fun _ => pure true) w).world = (x w).world := by
    rw [world_bind]
    split <;> rfl
  unfold isOk
  rw [world_tryCatch]
  split <;> (rw [hbind]; exact hx)

theorem startDhcpDaemon_follows :
    Follows (systemdOps ++ [.spawn dhcpBin ["daemon"]]) w (startDhcpDaemon w).world :=
  follows_bind (isOk_follows w (setupDhcpSystemdService_follows w)) fun ok _ => by
    cases ok
    · exact follows_bind_nil (.refl [] _) fun _ _ => follows_bind (spawn_follows _ _ _ _) fun _ _ =>
        follows_bind_nil (isDhcpDaemonRunning_follows _) fun running _ => by
          cases running <;> exact .refl [] _
    · exact .refl _ _

theorem ensureDhcpDaemon_follows {h : Host} (hle : h ≤ w.host) :
    Follows ((if dhcpBin ∈ h.files then [] else cniPluginsOps w.arch) ++
      (systemdOps ++ [.spawn dhcpBin ["daemon"]])) w (ensureDhcpDaemon w).world := by
  refine follows_bind_nil (isDhcpDaemonRunning_follows w) fun running _ => ?_
  have hw₁ : (isDhcpDaemonRunning w).world.host = w.host ∧
      (isDhcpDaemonRunning w).world.arch = w.arch := by
    rw [world_isDhcpDaemonRunning]
    exact ⟨rfl, rfl⟩
  cases running
  · refine follows_bind_nil (.refl [] _) fun _ _ =>
      follows_bind_nil (.refl [] _) fun found hfound => ?_
    rw [result_pathExists] at hfound
    cases found
    · have hmissing : dhcpBin ∉ h.files := fun hd => by
        simp only [Except.ok.injEq, decide_eq_false_iff_not] at hfound
        exact hfound (hw₁.1 ▸ hle.2.1 hd)
      rw [if_neg hmissing]
      exact follows_bind (installCniPlugins_follows _ hw₁.2) fun _ _ => startDhcpDaemon_follows _
    · exact follows_bind_nil (.refl [] _) fun _ _ =>
        (startDhcpDaemon_follows _).mono (List.sublist_append_right _ _)
  · exact .refl _ _

end Daemon

/-- A guarded step is a selection of the step. -/
theorem ite_nil_sublist_self {P : Prop} [Decidable P] (l : List Op) :
    (if P then [] else l).Sublist l := by
  split
  · exact List.nil_sublist _
  · exact .refl _

/-- The two downloads differ for every architecture: one command line ends in
`nerdctl`, the other in `bin`. -/
theorem nerdctlOp_ne_plugins (arch : String) : nerdctlOp arch ≠
    .command "sh" ["-c", "curl -fsSL " ++ cniPluginsUrl arch ++ " | tar -xz -C /opt/cni/bin"] := by
  intro h
  simp only [nerdctlOp, Op.command.injEq, List.cons.injEq, and_true, true_and] at h
  have hlast := congrArg (fun s : String => s.data.getLast?) h
  have e₁ : (" | tar -xz -C /usr/local/bin nerdctl" : String).data.getLast? = some 'l' := rfl
  have e₂ : (" | tar -xz -C /opt/cni/bin" : String).data.getLast? = some 'n' := rfl
  simp only [String.data_append, List.getLast?_append, e₁, e₂, Option.or_some, Option.some.injEq] at hlast
  exact absurd hlast (by decide)

theorem provisioningPlan_nodup (h : Host) (arch pkgManager interface : String) :
    (provisioningPlan h arch pkgManager interface).Nodup := by
  have hsub : (provisioningPlan h arch pkgManager interface).Sublist
      (containerdOps pkgManager ++ [nerdctlOp arch] ++
        (.createDirAll cniDir :: [.write cniConfig (cniConfigContents interface)]) ++
        (cniPluginsOps arch ++ (systemdOps ++ [.spawn dhcpBin ["daemon"]]))) :=
    ((ite_nil_sublist_self _).append ((ite_nil_sublist_self _).cons₂ _)).append
      ((ite_nil_sublist_self _).append (.refl _))
  refine hsub.nodup ?_
  have hne := nerdctlOp_ne_plugins arch
  unfold containerdOps
  split <;> simpa [nerdctlOp, cniPluginsOps, systemdOps, cniConfig, cniDir, serviceFile, dhcpBin]
    using hne

section Run

variable (w : World)

theorem initializeSystem_follows :
    ∃ pkgManager interface,
      ((detectPackageManager w).result = .ok pkgManager ∨ (initializeSystem w).world.log = w.log) ∧
      (interface.data ≠ [] ∧ Rust.trim interface.data = interface.data) ∧
      Follows (provisioningPlan w.host w.arch pkgManager interface) w (initializeSystem w).world := by
  have h₁ : Follows [] w (detectPackageManager w).world := firstManager_follows w managers
  cases hd : (detectPackageManager w).result with
  | error e =>
    refine ⟨"", "eth0", .inr ?_, by decide, ?_⟩ <;> rw [initializeSystem, world_bind_of_error hd]
    · exact h₁.2.elim fun ops ⟨hl, hs⟩ => by rw [hl, List.sublist_nil.mp hs, List.append_nil]
    · exact h₁.mono (List.nil_sublist _)
  | ok pkgManager =>
    let w₁ := (detectPackageManager w).world
    have hle₁ : w.host ≤ w₁.host := (detectPackageManager w).later.host_le
    have h₂ := ensureContainerRuntime_follows w₁ pkgManager hle₁
    rw [h₁.1] at h₂
    let w₂ := (ensureContainerRuntime pkgManager w₁).world
    have hle₂ : w.host ≤ w₂.host := le_trans hle₁ (ensureContainerRuntime pkgManager w₁).later.host_le
    cases he : (ensureContainerRuntime pkgManager w₁).result with
    | error e =>
      refine ⟨pkgManager, "eth0", .inl rfl, by decide, ?_⟩
      rw [initializeSystem, world_bind_of_ok hd, world_bind_of_error he]
      exact (h₁.append h₂).mono (List.sublist_append_left _ _ |>.trans (List.sublist_append_left _ _))
    | ok _ =>
      obtain ⟨interface, hi, h₃⟩ := setupCniNetworking_follows w₂ hle₂
      refine ⟨pkgManager, interface, .inl rfl, hi, ?_⟩
      rw [initializeSystem, world_bind_of_ok hd, world_bind_of_ok he]
      have h₃₄ := follows_bind h₃ fun _ _ => by
        have h₄ := ensureDhcpDaemon_follows _
          (le_trans hle₂ (setupCniNetworking w₂).later.host_le)
        rwa [h₃.1, h₂.1, h₁.1] at h₄
      exact (h₁.append (h₂.append h₃₄)).mono (by simp only [provisioningPlan, List.nil_append, List.append_assoc]; exact .refl _)

/-- Every run of `initialize` logs, in order and none twice, a selection of
the provisioning plan of the host it starts on, for the package manager it
detected; the CNI config it may write names a non-empty interface with no
whitespace around it. -/
theorem initializeSystem_follows_plan :
    ∃ pkgManager interface ops, (initializeSystem w).world.log = w.log ++ ops ∧
      ops.Sublist (provisioningPlan w.host w.arch pkgManager interface) ∧ ops.Nodup ∧
      ((detectPackageManager w).result = .ok pkgManager ∨ ops = []) ∧
      interface.data ≠ [] ∧ Rust.trim interface.data = interface.data := by
  obtain ⟨pkgManager, interface, hdetect, hi, -, ops, hlog, hsub⟩ := initializeSystem_follows w
  refine ⟨pkgManager, interface, ops, hlog, hsub, hsub.nodup (provisioningPlan_nodup _ _ _ _),
    hdetect.imp_right fun h => ?_, hi⟩
  rw [hlog] at h
  simpa using h

end Run

end AeroAgent.SystemSetup
