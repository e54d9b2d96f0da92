import AeroAgent.SystemSetup.Idempotence
import AeroAgent.SystemSetup.Plan
import Mathlib.Data.String.Basic
/-!
# What `initialize` needs of a host

`detect_package_manager` answers the first manager of its table that `which`
finds (`firstManager_result`), and `ensure_container_runtime` has no
installer for `zypper`, the last of them.

* `initializeSystem_ok_iff` — on a host that does everything asked of it,
  `initialize` succeeds exactly when a manager of the table is installed and
  either `nerdctl` is too or the manager is one that has an installer.
-/

namespace AeroAgent.SystemSetup

open Setup

/-- `which` can be started whenever it is asked. -/
def WhichWorks (replies : Nat → Op → Reply) : Prop :=
  ∀ n program, (replies n (.command "which" [program])).started = true

/-- The name `detect_package_manager` should report on `h`: that of the first
manager of its table that is installed. -/
def installedManager (h : Host) : Option String :=
  (managers.find? fun m => m.1 ∈ h.found).map Prod.snd

section Detect

variable (w : World)

theorem which_result {program : String} (hw : WhichWorks w.replies) :
    (which program w).result = .ok (decide (program ∈ w.host.found)) := by
  rw [result_which, if_pos (hw _ _)]

theorem firstManager_result (ms : List (String × String)) (hw : WhichWorks w.replies) :
    (firstManager ms w).result = match (ms.find? fun m => m.1 ∈ w.host.found).map Prod.snd with
      | some name => .ok name
      | none => .error "No supported package manager found" := by
  induction ms generalizing w with
  | nil => rfl
  | cons m rest ih =>
    obtain ⟨cmd, name⟩ := m
    have hrest := ih (which cmd w).world (by rw [(which cmd w).later.replies_eq]; exact hw)
    have hhost : (which cmd w).world.host = w.host := by rw [world_which]
    rw [hhost] at hrest
    rw [firstManager, result_bind, which_result w hw]
    by_cases hm : cmd ∈ w.host.found
    · simp [hm]
    · simp only [hm, decide_False, List.find?_cons, Bool.false_eq_true, if_false]
      exact hrest

/-- Where `which` does not find `nerdctl`, `ensure_container_runtime` fails
for a manager it has no installer for. -/
theorem ensureContainerRuntime_unsupported {pkgManager : String} (hw : WhichWorks w.replies)
    (hn : "nerdctl" ∉ w.host.found) (hpkg : pkgManager ∉ ["apt", "yum", "dnf", "pacman"]) :
    (ensureContainerRuntime pkgManager w).result =
      .error ("Please install containerd/nerdctl manually for " ++ pkgManager) := by
  have hwhich : (which "nerdctl" w).result = .ok false := by rw [which_result w hw]; simp [hn]
  rw [ensureContainerRuntime, result_bind, hwhich]
  simp only [Bool.false_eq_true, if_false]
  rw [result_bind, result_pure, result_bind, installContainerd_unsupported hpkg]

end Detect

/-! ## A host that does everything asked of it -/

/-- The first probe of `detect_network_interface`. -/
def routeProbe : Op :=
  .command "sh" ["-c", "ip route show default | awk '/default/ \x7bprint $5\x7d' | head -n1"]

/-- A host that does everything asked of it: every operation starts and
succeeds, and its default route names an interface. -/
structure Cooperates (w : World) : Prop where
  succeeds : ∀ n op, (w.replies n op).started = true ∧ (w.replies n op).success = true
  route : ∀ n, Rust.trim (w.replies n routeProbe).stdout.data ≠ []

section Cooperative

variable {w : World}

theorem Cooperates.later (hc : Cooperates w) {w' : World} (hl : Later w w') : Cooperates w' :=
  ⟨fun n op => hl.replies_eq ▸ hc.succeeds n op, fun n => hl.replies_eq ▸ hc.route n⟩

theorem Cooperates.step (hc : Cooperates w) {α : Type} (x : Setup α) : Cooperates (x w).world :=
  hc.later (x w).later

theorem Cooperates.whichWorks (hc : Cooperates w) : WhichWorks w.replies := fun n _ => (hc.succeeds n _).1

theorem result_bind_ok {α β : Type} {x : Setup α} {f : α → Setup β} {a : α} {b : β}
    (hx : (x w).result = .ok a) (hf : (f a (x w).world).result = .ok b) :
    ((x >>= f) w).result = .ok b := by
  rw [result_bind, hx]
  exact hf

theorem runCommand_coop (hc : Cooperates w) (effect : Effect) (cmd : String) (args : List String) :
    (runCommand effect cmd args w).result = .ok () := by
  obtain ⟨hs, hsucc⟩ := hc.succeeds w.count (.command cmd args)
  simp [runCommand, result_bind, world_bind, hs, hsucc]

theorem write_coop (hc : Cooperates w) (path contents : String) :
    (write path contents w).result = .ok () := by
  obtain ⟨hs, hsucc⟩ := hc.succeeds w.count (.write path contents)
  simp [write, result_bind, world_bind, hs, hsucc]

theorem createDirAll_coop (hc : Cooperates w) (path : String) :
    (createDirAll path w).result = .ok () := by
  obtain ⟨hs, hsucc⟩ := hc.succeeds w.count (.createDirAll path)
  simp [result_createDirAll, hs, hsucc]

/-- A spawned process that runs establishes its effect. -/
theorem spawn_coop (hc : Cooperates w) (effect : Effect) (program : String) (args : List String) :
    (spawn effect program args w).result = .ok () ∧
      (spawn effect program args w).world.host = effect.apply w.host := by
  obtain ⟨hs, hsucc⟩ := hc.succeeds w.count (.spawn program args)
  simp [spawn, result_bind, world_bind, hs, hsucc]

theorem installContainerd_coop (hc : Cooperates w) {pkgManager : String}
    (hp : pkgManager ∈ ["apt", "yum", "dnf", "pacman"]) :
    (installContainerd pkgManager w).result = .ok () := by
  simp only [List.mem_cons, List.mem_singleton, List.not_mem_nil, or_false] at hp
  rcases hp with rfl | rfl | rfl | rfl
  · exact result_bind_ok (runCommand_coop hc _ _ _) (runCommand_coop (hc.later (runCommand _ _ _ w).later) _ _ _)
  all_goals exact runCommand_coop hc _ _ _

theorem installNerdctl_coop (hc : Cooperates w) : (installNerdctl w).result = .ok () :=
  result_bind_ok (result_arch w) (runCommand_coop hc _ _ _)

theorem ensureContainerRuntime_coop (hc : Cooperates w) {pkgManager : String}
    (hp : "nerdctl" ∈ w.host.found ∨ pkgManager ∈ ["apt", "yum", "dnf", "pacman"]) :
    (ensureContainerRuntime pkgManager w).result = .ok () := by
  refine result_bind_ok (which_result w hc.whichWorks) ?_
  by_cases hn : "nerdctl" ∈ w.host.found
  · simp only [hn, decide_True, if_true]
    rfl
  · simp only [hn, decide_False, Bool.false_eq_true, if_false]
    have hc₁ := hc.step (which "nerdctl")
    refine result_bind_ok rfl (result_bind_ok (installContainerd_coop hc₁ (hp.resolve_left hn)) ?_)
    have hc₂ := hc₁.step (installContainerd pkgManager)
    refine result_bind_ok (which_result _ hc₂.whichWorks) ?_
    split
    · rfl
    · exact installNerdctl_coop (hc₂.step (which "nerdctl"))

theorem isEmpty_mk {l : List Char} (h : l ≠ []) : (⟨l⟩ : String).isEmpty = false := by
  rw [Bool.eq_false_iff]
  intro he
  exact h (congrArg String.data ((String.isEmpty_iff _).mp he))

theorem detectNetworkInterface_coop (hc : Cooperates w) :
    ∃ interface, (detectNetworkInterface w).result = .ok interface := by
  obtain ⟨hs, hsucc⟩ := hc.succeeds w.count routeProbe
  have hprobe : (probeInterface "ip route show default | awk '/default/ \x7bprint $5\x7d' | head -n1"
      w).result = .ok (some ⟨Rust.trim (w.replies w.count routeProbe).stdout.data⟩) := by
    have hne := isEmpty_mk (hc.route w.count)
    simp only [routeProbe] at hs hsucc hne ⊢
    simp [probeInterface, result_bind, world_bind, hs, hsucc, hne]
  exact ⟨_, result_bind_ok hprobe rfl⟩

theorem setupCniNetworking_coop (hc : Cooperates w) : (setupCniNetworking w).result = .ok () := by
  refine result_bind_ok (createDirAll_coop hc _) (result_bind_ok (result_pathExists _ _) ?_)
  split
  · rfl
  · have hc₁ := hc.step (createDirAll cniDir)
    obtain ⟨interface, hi⟩ := detectNetworkInterface_coop hc₁
    exact result_bind_ok rfl (result_bind_ok hi (write_coop (hc₁.step detectNetworkInterface) _ _))

theorem isOk_ok (x : Setup Unit) : ∃ ok, (isOk x w).result = .ok ok := by
  unfold isOk
  rw [result_tryCatch]
  split
  · exact ⟨_, rfl⟩
  · exact ⟨false, rfl⟩

theorem startDhcpDaemon_coop (hc : Cooperates w) : (startDhcpDaemon w).result = .ok () := by
  obtain ⟨ok, hok⟩ := isOk_ok (w := w) setupDhcpSystemdService
  refine result_bind_ok hok ?_
  cases ok
  · have hc₁ := hc.step (isOk setupDhcpSystemdService)
    obtain ⟨hspawn, hhost⟩ := spawn_coop hc₁ .startDaemon dhcpBin ["daemon"]
    have hc₂ := hc₁.step (spawn .startDaemon dhcpBin ["daemon"])
    refine result_bind_ok rfl (result_bind_ok hspawn (result_bind_ok
      (result_isDhcpDaemonRunning _) ?_))
    simp [(hc₂.succeeds _ pgrep).1, (hc₂.succeeds _ pgrep).2, hhost, Effect.apply]
  · rfl

theorem ensureDhcpDaemon_coop (hc : Cooperates w) : (ensureDhcpDaemon w).result = .ok () := by
  refine result_bind_ok (result_isDhcpDaemonRunning w) ?_
  split
  · rfl
  · have hc₁ := hc.step isDhcpDaemonRunning
    refine result_bind_ok rfl (result_bind_ok (result_pathExists _ _) ?_)
    split
    · exact result_bind_ok rfl (startDhcpDaemon_coop hc₁)
    · have hplugins : (installCniPlugins (isDhcpDaemonRunning w).world).result = .ok () :=
        result_bind_ok (result_arch _) (result_bind_ok (createDirAll_coop hc₁ _)
          (runCommand_coop (hc₁.step (createDirAll "/opt/cni/bin")) _ _ _))
      exact result_bind_ok hplugins (startDhcpDaemon_coop (hc₁.step installCniPlugins))

end Cooperative

/-- On a host that does everything asked of it, `initialize` succeeds exactly
when a package manager of its table is installed and either `nerdctl` already
is or that manager is one `ensure_container_runtime` installs with. -/
theorem initializeSystem_ok_iff (w : World) (hc : Cooperates w) :
    (initializeSystem w).result = .ok () ↔ ∃ name, installedManager w.host = some name ∧
      ("nerdctl" ∈ w.host.found ∨ name ∈ ["apt", "yum", "dnf", "pacman"]) := by
  have hd := firstManager_result w managers hc.whichWorks
  have hhost := (firstManager_idle managers w).1
  have hc₁ := hc.step detectPackageManager
  constructor
  · intro h
    obtain ⟨name, hname, hrest, -⟩ := bind_ok h
    refine ⟨name, ?_, ?_⟩
    · have hfind := hname.symm.trans hd
      unfold installedManager
      generalize (managers.find? fun m => m.1 ∈ w.host.found).map Prod.snd = o at hfind
      cases o <;> simp_all
    · by_contra hp
      simp only [not_or] at hp
      have he := @ensureContainerRuntime_unsupported _ name hc₁.whichWorks (hhost ▸ hp.1) hp.2
      obtain ⟨_, hok, -⟩ := bind_ok hrest
      rw [he] at hok
      cases hok
  · rintro ⟨name, hname, hp⟩
    have hdn : (detectPackageManager w).result = .ok name := by
      unfold installedManager at hname
      rw [detectPackageManager, hd, hname]
    exact result_bind_ok hdn (result_bind_ok (ensureContainerRuntime_coop hc₁ (hhost ▸ hp))
      (result_bind_ok (setupCniNetworking_coop (hc₁.step _))
        (ensureDhcpDaemon_coop ((hc₁.step _).step _))))

/-- A bare host with `apt-get` whose operations all succeed is provisioned. -/
theorem initializeSystem_ok_apt :
    let w : World := ⟨⟨["apt-get"], [], false⟩, "x86_64", fun _ _ => ⟨true, true, "eth0", ""⟩, 0, []⟩
    Cooperates w ∧ (initializeSystem w).result = .ok () :=
  let w : World := ⟨⟨["apt-get"], [], false⟩, "x86_64", fun _ _ => ⟨true, true, "eth0", ""⟩, 0, []⟩
  have hc : Cooperates w :=
    ⟨fun _ _ => ⟨rfl, rfl⟩, fun _ => by show Rust.trim "eth0".data ≠ []; decide⟩
  ⟨hc, (initializeSystem_ok_iff w hc).2 ⟨"apt", rfl, .inr (by decide)⟩⟩

end AeroAgent.SystemSetup
