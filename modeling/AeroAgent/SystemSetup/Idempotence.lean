import AeroAgent.SystemSetup.Provision
/-!
# What `initialize` leaves behind, and running it twice

* `initializeSystem_provisions` — whatever the host and its replies, a run
  that returns `Ok` leaves `nerdctl` found, `mc-lan.conflist` present and a
  `dhcp daemon` process running; from a host with those three facts on which
  `pgrep` works, a run changes nothing on the host and logs no operation but
  creating the CNI directory; so a second run after a successful one changes
  nothing either;
* `initializeSystem_pgrep_missing` — where `pgrep` cannot be started,
  `is_dhcp_daemon_running` answers `false`: a run on a provisioned host
  rewrites the systemd unit and runs `systemctl`, and so does every run after
  it.
-/

namespace AeroAgent.SystemSetup

open Setup

/-- The three facts a successful run establishes. -/
structure Provisioned (h : Host) : Prop where
  nerdctl_found : "nerdctl" ∈ h.found
  config_exists : cniConfig ∈ h.files
  daemon_running : h.daemonRunning = true

/-- `pgrep` runs normally whenever it is asked, so it reports whether the
daemon runs. -/
def PgrepWorks (replies : Nat → Op → Reply) : Prop :=
  ∀ n, (replies n pgrep).started = true ∧ (replies n pgrep).success = true

/-! ## A run that returns `Ok` -/

section Ensures

variable {P : Host → Prop}

theorem installNerdctl_triple : Triple P installNerdctl fun _ s => "nerdctl" ∈ s.found :=
  .bind (.trivial _) fun _ => runCommand_triple fun _ => List.mem_cons_self _ _

theorem ensureContainerRuntime_triple (pkgManager : String) :
    Triple P (ensureContainerRuntime pkgManager) fun _ s => "nerdctl" ∈ s.found :=
  .bind (which_triple "nerdctl") fun _ =>
    .ite (fun hf => .pure fun _ h => h.2 hf) fun _ =>
      .bind (.trivial _) fun _ => .bind (.trivial _) fun _ =>
        .bind (which_triple "nerdctl") fun _ =>
          .ite (fun hf => .pure fun _ h => h.2 hf) fun _ => installNerdctl_triple

theorem setupCniNetworking_triple : Triple P setupCniNetworking fun _ s => cniConfig ∈ s.files :=
  .bind (.trivial _) fun _ =>
    .bind (pathExists_triple cniConfig) fun _ =>
      .ite (fun hf => .pure fun _ h => h.2 hf) fun _ =>
        .bind (.trivial _) fun _ => .bind (.trivial _) fun _ => write_triple _ _

theorem setupDhcpSystemdService_triple :
    Triple P setupDhcpSystemdService fun _ s => s.daemonRunning = true :=
  .bind (.trivial _) fun _ =>
    .ite (fun _ => .bind (.trivial _) fun _ =>
        .bind (.trivial _) fun _ => .bind (.trivial _) fun _ => .bind (.trivial _) fun _ =>
          runCommand_triple fun _ => rfl)
      fun _ => .throw_bind

theorem startDhcpDaemon_triple : Triple P startDhcpDaemon fun _ s => s.daemonRunning = true :=
  .bind (isOk_triple setupDhcpSystemdService_triple) fun _ =>
    .ite (fun hok => .pure fun _ h => h hok) fun _ =>
      .bind (.trivial _) fun _ => .bind (.trivial _) fun _ =>
        .bind isDhcpDaemonRunning_triple fun _ =>
          .ite (fun hr => .pure fun _ h => h.2 hr) fun _ => .throw

theorem ensureDhcpDaemon_triple : Triple P ensureDhcpDaemon fun _ s => s.daemonRunning = true :=
  .bind isDhcpDaemonRunning_triple fun _ =>
    .ite (fun hr => .pure fun _ h => h.2 hr) fun _ =>
      .bind (.trivial _) fun _ => .bind (.trivial _) fun _ =>
        .ite (fun _ => .bind (.trivial _) fun _ => startDhcpDaemon_triple)
          fun _ => .bind (.trivial _) fun _ => startDhcpDaemon_triple

end Ensures

theorem initializeSystem_triple : Triple (fun _ => True) initializeSystem fun _ => Provisioned :=
  .bind (.trivial _) fun pkgManager =>
    .bind (ensureContainerRuntime_triple pkgManager) fun _ =>
      .bind (setupCniNetworking_triple.and (.frame _ fun _ _ hle h => hle.1 h)) fun _ =>
        (ensureDhcpDaemon_triple.and (.frame _ fun _ _ hle h => ⟨hle.2.1 h.1, hle.1 h.2⟩)).mono
          (fun _ => id) fun _ _ h => ⟨h.2.2, h.2.1, h.1⟩

/-! ## A run on a provisioned host -/

/-- `w'` follows `w` with no change to the host, and the only operation logged
in between is creating the CNI directory. -/
def Idle (w w' : World) : Prop :=
  w'.host = w.host ∧ ∃ ops, w'.log = w.log ++ ops ∧ ∀ op ∈ ops, op = .createDirAll cniDir

theorem Idle.refl (w : World) : Idle w w := ⟨rfl, [], by simp⟩

theorem Idle.trans {w₁ w₂ w₃ : World} (h₁ : Idle w₁ w₂) (h₂ : Idle w₂ w₃) : Idle w₁ w₃ := by
  obtain ⟨hh₁, ops₁, hl₁, hops₁⟩ := h₁
  obtain ⟨hh₂, ops₂, hl₂, hops₂⟩ := h₂
  refine ⟨hh₂.trans hh₁, ops₁ ++ ops₂, by rw [hl₂, hl₁, List.append_assoc], ?_⟩
  intro op hop
  rcases List.mem_append.mp hop with h | h
  exacts [hops₁ op h, hops₂ op h]

/-- The operations logged since `w` are only ever the creation of the CNI directory. -/
theorem Idle.new_ops {w w' : World} (h : Idle w w') :
    ∀ op ∈ w'.log.drop w.log.length, op = .createDirAll cniDir := by
  obtain ⟨-, ops, hl, hops⟩ := h
  simpa [hl] using hops

/-- A world that differs from `w` only in the operations asked is idle after `w`. -/
theorem Idle.of_count (w : World) (n : Nat) : Idle w { w with count := n } := Idle.refl w

theorem which_idle (program : String) (w : World) : Idle w (which program w).world := by
  rw [world_which]
  exact Idle.of_count w _

theorem firstManager_idle (managers : List (String × String)) (w : World) :
    Idle w (firstManager managers w).world := by
  induction managers generalizing w with
  | nil => exact .refl w
  | cons m rest ih =>
    obtain ⟨cmd, name⟩ := m
    cases hs : (w.replies w.count (.command "which" [cmd])).started
    · simpa [firstManager, world_bind, result_which, hs] using Idle.of_count w (w.count + 1)
    · by_cases hf : cmd ∈ w.host.found
      · simpa [firstManager, world_bind, result_which, hs, hf] using Idle.of_count w (w.count + 1)
      · simpa [firstManager, world_bind, result_which, hs, hf] using (which_idle cmd w).trans (ih _)

theorem ensureContainerRuntime_idle (pkgManager : String) {w : World}
    (h : "nerdctl" ∈ w.host.found) : Idle w (ensureContainerRuntime pkgManager w).world := by
  cases hs : (w.replies w.count (.command "which" ["nerdctl"])).started <;>
    simpa [ensureContainerRuntime, world_bind, result_which, hs, h] using
      Idle.of_count w (w.count + 1)

theorem setupCniNetworking_idle {w : World} (h : cniConfig ∈ w.host.files) :
    Idle w (setupCniNetworking w).world := by
  have hidle : Idle w { w with count := w.count + 1, log := w.log ++ [.createDirAll cniDir] } :=
    ⟨rfl, [_], rfl, by simp⟩
  cases hs : (w.replies w.count (.createDirAll cniDir)).started <;>
    cases hc : (w.replies w.count (.createDirAll cniDir)).success <;>
    simpa [setupCniNetworking, world_bind, result_createDirAll, hs, hc, h] using hidle

theorem ensureDhcpDaemon_idle {w : World} (h : w.host.daemonRunning = true)
    (hp : PgrepWorks w.replies) : Idle w (ensureDhcpDaemon w).world := by
  simpa [ensureDhcpDaemon, world_bind, hp w.count, h] using Idle.of_count w (w.count + 1)

theorem initializeSystem_idle {w : World} (hw : Provisioned w.host) (hp : PgrepWorks w.replies) :
    Idle w (initializeSystem w).world := by
  have h₁ : Idle w (detectPackageManager w).world := firstManager_idle managers w
  refine @rel_bind _ _ Idle Idle.trans detectPackageManager _ w h₁ fun pkgManager _ => ?_
  have h₂ := ensureContainerRuntime_idle pkgManager (h₁.1 ▸ hw.nerdctl_found)
  refine @rel_bind _ _ Idle Idle.trans (ensureContainerRuntime pkgManager) _ _ h₂ fun _ _ => ?_
  have h₃ := setupCniNetworking_idle (h₂.1 ▸ h₁.1 ▸ hw.config_exists)
  refine @rel_bind _ _ Idle Idle.trans setupCniNetworking _ _ h₃ fun _ _ => ensureDhcpDaemon_idle ?_ ?_
  · rw [h₃.1, h₂.1, h₁.1]
    exact hw.daemon_running
  · rw [(setupCniNetworking _).later.replies_eq, (ensureContainerRuntime _ _).later.replies_eq,
      (detectPackageManager w).later.replies_eq]
    exact hp

theorem initializeSystem_provisions (w : World) :
    ((initializeSystem w).result = .ok () → Provisioned (initializeSystem w).world.host) ∧
    (Provisioned w.host → PgrepWorks w.replies → Idle w (initializeSystem w).world) ∧
    ((initializeSystem w).result = .ok () → PgrepWorks w.replies →
      Idle (initializeSystem w).world (initializeSystem (initializeSystem w).world).world) := by
  refine ⟨fun h => initializeSystem_triple w () trivial h, fun hw hp => initializeSystem_idle hw hp,
    fun h hp => initializeSystem_idle (initializeSystem_triple w () trivial h) ?_⟩
  rw [(initializeSystem w).later.replies_eq]
  exact hp

/-- A provisioned host with `apt-get` and `systemctl` on which every operation,
`pgrep` included, succeeds: a run there changes nothing. -/
theorem initializeSystem_provisions_idle :
    let w : World := ⟨⟨["apt-get", "nerdctl", "systemctl"], [cniConfig, dhcpBin], true⟩, "x86_64",
      fun _ _ => ⟨true, true, "", ""⟩, 0, []⟩
    Provisioned w.host ∧ PgrepWorks w.replies ∧ Idle w (initializeSystem w).world :=
  let w : World := ⟨⟨["apt-get", "nerdctl", "systemctl"], [cniConfig, dhcpBin], true⟩, "x86_64",
    fun _ _ => ⟨true, true, "", ""⟩, 0, []⟩
  have hp : Provisioned w.host := ⟨by decide, by decide, rfl⟩
  have hg : PgrepWorks w.replies := fun _ => ⟨rfl, rfl⟩
  ⟨hp, hg, (initializeSystem_provisions w).2.1 hp hg⟩

/-! ## When `pgrep` cannot run -/

/-- A provisioned host with `apt-get` and `systemctl`, on which `pgrep` cannot be
started and every other operation succeeds. -/
def pgrepMissing : World :=
  ⟨⟨["apt-get", "nerdctl", "systemctl"], [cniConfig, dhcpBin], true⟩, "x86_64",
    fun _ op => if op = pgrep then ⟨false, false, "", "No such file or directory (os error 2)"⟩
      else ⟨true, true, "", ""⟩, 0, []⟩

theorem initializeSystem_pgrep_missing :
    Provisioned pgrepMissing.host ∧ ¬Idle pgrepMissing (initializeSystem pgrepMissing).world ∧
    (initializeSystem pgrepMissing).result = .ok () ∧
    ¬Idle (initializeSystem pgrepMissing).world
      (initializeSystem (initializeSystem pgrepMissing).world).world := by
  let ops : List Op := [.createDirAll cniDir, .write serviceFile serviceContents,
    .command "systemctl" ["daemon-reload"], .command "systemctl" ["enable", "cni-dhcp.service"],
    .command "systemctl" ["start", "cni-dhcp.service"]]
  have h₁ : (initializeSystem pgrepMissing).world.log = ops := rfl
  have h₂ : (initializeSystem (initializeSystem pgrepMissing).world).world.log = ops ++ ops := rfl
  refine ⟨⟨by decide, by decide, rfl⟩, fun h => ?_, rfl, fun h => ?_⟩
  · nomatch h.new_ops (.write serviceFile serviceContents) (by rw [h₁]; simp [ops, pgrepMissing])
  · nomatch h.new_ops (.write serviceFile serviceContents) (by rw [h₂, h₁]; simp [ops])

end AeroAgent.SystemSetup
