import Mathlib.Order.Basic
import Mathlib.Data.List.Basic
/-!
# The host `SystemSetup` provisions

`SystemSetup` probes the host and changes it through external commands and
the file system.  The host is modelled by the facts it probes and changes:
the programs `which` finds, the files that exist, and whether a process
matching `dhcp daemon` runs.  Every external operation gets a reply from the
host, which may differ from one invocation to the next: whether the operation
could be started, whether it succeeded, and its output.  An operation that
succeeds establishes its effect, and no effect removes a fact.

`Setup` is `ExceptT String (StateM World)` written out, with one change: what
a function returns carries the proof that its world is `Later` than the one
it started from (the host has kept every fact, the log has only grown).  So
every function built from these operations keeps the host's facts, by its
type.
-/

namespace AeroAgent.SystemSetup

/-- The facts `SystemSetup` probes and changes. -/
structure Host where
  found : List String
  files : List String
  daemonRunning : Bool
  deriving DecidableEq, Repr

instance : Preorder Host where
  le h h' := h.found ⊆ h'.found ∧ h.files ⊆ h'.files ∧ (h.daemonRunning → h'.daemonRunning)
  le_refl _ := ⟨fun _ => id, fun _ => id, id⟩
  le_trans _ _ _ h₁ h₂ := ⟨fun _ hx => h₂.1 (h₁.1 hx), fun _ hx => h₂.2.1 (h₁.2.1 hx), h₂.2.2 ∘ h₁.2.2⟩

/-- What an operation that succeeds establishes on the host. -/
inductive Effect
  | nothing
  | install (program : String)
  | create (path : String)
  | startDaemon
  deriving DecidableEq, Repr

def Effect.apply : Effect → Host → Host
  | .nothing, h => h
  | .install program, h => { h with found := program :: h.found }
  | .create path, h => { h with files := path :: h.files }
  | .startDaemon, h => { h with daemonRunning := true }

theorem Effect.le_apply (e : Effect) (h : Host) : h ≤ e.apply h := by
  cases e
  · exact le_rfl
  · exact ⟨List.subset_cons_self _ _, fun _ => id, id⟩
  · exact ⟨fun _ => id, List.subset_cons_self _ _, id⟩
  · exact ⟨fun _ => id, fun _ => id, fun _ => rfl⟩

/-- An operation on the host: an external command, a file-system call, or a
process started in the background. -/
inductive Op
  | command (program : String) (args : List String)
  | createDirAll (path : String)
  | write (path contents : String)
  | spawn (program : String) (args : List String)
  deriving DecidableEq, Repr

/-- The host's reply to one operation: whether it could be started, whether it
succeeded, and what it printed (for an I/O error, its message). -/
structure Reply where
  started : Bool
  success : Bool
  stdout : String
  stderr : String
  deriving DecidableEq, Repr

/-- The host, the architecture the agent was built for, the host's reply to
the `n`-th operation, the operations asked so far, and the log of the
operations that can change the host. -/
structure World where
  host : Host
  arch : String
  replies : Nat → Op → Reply
  count : Nat
  log : List Op

/-- `w'` comes after `w` in one run. -/
structure Later (w w' : World) : Prop where
  host_le : w.host ≤ w'.host
  log_prefix : w.log <+: w'.log
  replies_eq : w'.replies = w.replies

theorem Later.refl (w : World) : Later w w := ⟨le_rfl, List.prefix_refl _, rfl⟩

theorem Later.trans {w₁ w₂ w₃ : World} (h₁ : Later w₁ w₂) (h₂ : Later w₂ w₃) : Later w₁ w₃ :=
  ⟨le_trans h₁.host_le h₂.host_le, h₁.log_prefix.trans h₂.log_prefix,
    h₂.replies_eq.trans h₁.replies_eq⟩

/-- What a `Setup` function returns from world `w`. -/
structure Outcome (w : World) (α : Type) where
  result : Except String α
  world : World
  later : Later w world

/-- An outcome from `w'`, seen from an earlier `w`. -/
def Outcome.after {w w' : World} (o : Outcome w' α) (h : Later w w') : Outcome w α :=
  ⟨o.result, o.world, h.trans o.later⟩

def Setup (α : Type) : Type := (w : World) → Outcome w α

namespace Setup

/-- `?`: an error ends the function in the world it had reached. -/
protected def bind (x : Setup α) (f : α → Setup β) : Setup β := fun w =>
  match x w with
  | ⟨.ok a, w', h⟩ => (f a w').after h
  | ⟨.error e, w', h⟩ => ⟨.error e, w', h⟩

protected def tryCatch (x : Setup α) (handle : String → Setup α) : Setup α := fun w =>
  match x w with
  | ⟨.error e, w', h⟩ => (handle e w').after h
  | o => o

instance : Monad Setup where
  pure a w := ⟨.ok a, w, .refl w⟩
  bind := Setup.bind

instance : MonadExceptOf String Setup where
  throw e w := ⟨.error e, w, .refl w⟩
  tryCatch := Setup.tryCatch

/-! ## Running a `Setup` function -/

section Run

variable {α β : Type} (w : World)

@[simp] theorem result_pure (a : α) : ((pure a : Setup α) w).result = .ok a := rfl

@[simp] theorem world_pure (a : α) : ((pure a : Setup α) w).world = w := rfl

@[simp] theorem result_throw (e : String) : ((throw e : Setup α) w).result = .error e := rfl

@[simp] theorem world_throw (e : String) : ((throw e : Setup α) w).world = w := rfl

theorem result_bind (x : Setup α) (f : α → Setup β) :
    ((x >>= f) w).result = match (x w).result with
      | .ok a => (f a (x w).world).result
      | .error e => .error e := by
  show (Setup.bind x f w).result = _
  unfold Setup.bind
  rcases x w with ⟨_ | _, _, _⟩ <;> rfl

theorem world_bind (x : Setup α) (f : α → Setup β) :
    ((x >>= f) w).world = match (x w).result with
      | .ok a => (f a (x w).world).world
      | .error _ => (x w).world := by
  show (Setup.bind x f w).world = _
  unfold Setup.bind
  rcases x w with ⟨_ | _, _, _⟩ <;> rfl

/-- A step that succeeded: a bind succeeds only through its first part. -/
theorem bind_ok {x : Setup α} {f : α → Setup β} {w : World} {b : β}
    (h : ((x >>= f) w).result = .ok b) :
    ∃ a, (x w).result = .ok a ∧ (f a (x w).world).result = .ok b ∧
      ((x >>= f) w).world = (f a (x w).world).world := by
  rw [result_bind] at h
  rw [world_bind]
  split at h
  · next a ha => exact ⟨a, ha, h, rfl⟩
  · cases h

/-- A relation that composes, holding of each step a run takes, holds of the
run. -/
theorem rel_bind {R : World → World → Prop} (htrans : ∀ {a b c}, R a b → R b c → R a c)
    {x : Setup α} {f : α → Setup β} {w : World} (hx : R w (x w).world)
    (hf : ∀ a, (x w).result = .ok a → R (x w).world (f a (x w).world).world) :
    R w ((x >>= f) w).world := by
  rw [world_bind]
  split
  · next a ha => exact htrans hx (hf a ha)
  · exact hx

theorem result_tryCatch (x : Setup α) (handle : String → Setup α) :
    (tryCatch x handle w).result = match (x w).result with
      | .ok a => .ok a
      | .error e => (handle e (x w).world).result := by
  show (Setup.tryCatch x handle w).result = _
  unfold Setup.tryCatch
  rcases x w with ⟨_ | _, _, _⟩ <;> rfl

theorem world_tryCatch (x : Setup α) (handle : String → Setup α) :
    (tryCatch x handle w).world = match (x w).result with
      | .ok _ => (x w).world
      | .error e => (handle e (x w).world).world := by
  show (Setup.tryCatch x handle w).world = _
  unfold Setup.tryCatch
  rcases x w with ⟨_ | _, _, _⟩ <;> rfl

end Run

end Setup

/-! ## Triples

`Triple P x Q`: run from a host satisfying `P`, `x` returns `Ok(a)` only on a
host satisfying `Q a`.  Errors are left out: a function that fails promises
nothing. -/

/-- Partial correctness of a `Setup` function, on the host. -/
def Triple (P : Host → Prop) (x : Setup α) (Q : α → Host → Prop) : Prop :=
  ∀ w a, P w.host → (x w).result = .ok a → Q a (x w).world.host

namespace Triple

variable {P P' : Host → Prop} {Q Q' : α → Host → Prop}

theorem bind {x : Setup α} {f : α → Setup β} {R : β → Host → Prop} (hx : Triple P x Q)
    (hf : ∀ a, Triple (Q a) (f a) R) : Triple P (x >>= f) R := by
  intro w b hP h
  obtain ⟨a, ha, hb, hw⟩ := Setup.bind_ok h
  rw [hw]
  exact hf a _ b (hx w a hP ha) hb

theorem pure {a : α} (h : ∀ s, P s → Q a s) : Triple P (pure a) Q := by
  intro w b hP hb
  cases hb
  exact h _ hP

theorem throw {e : String} : Triple P (throw e : Setup α) Q := by
  intro _ _ _ h
  cases h

theorem trivial (x : Setup α) : Triple P x fun _ _ => True :=
  fun _ _ _ _ => True.intro

/-- A step after an error never runs. -/
theorem throw_bind {e : String} {f : α → Setup β} {R : β → Host → Prop} :
    Triple P (MonadExcept.throw e >>= f) R := by
  intro _ _ _ h
  cases h

theorem ite {c : Prop} [Decidable c] {x y : Setup α} (hx : c → Triple P x Q)
    (hy : ¬c → Triple P y Q) : Triple P (if c then x else y) Q := by
  split
  · exact hx ‹_›
  · exact hy ‹_›

theorem mono {x : Setup α} (hx : Triple P x Q) (hP : ∀ s, P' s → P s)
    (hQ : ∀ a s, Q a s → Q' a s) : Triple P' x Q' :=
  fun w a hP' ha => hQ a _ (hx w a (hP _ hP') ha)

theorem and {x : Setup α} (h₁ : Triple P x Q) (h₂ : Triple P x Q') :
    Triple P x fun a s => Q a s ∧ Q' a s :=
  fun w a hP ha => ⟨h₁ w a hP ha, h₂ w a hP ha⟩

/-- Every function keeps the facts of the host it starts from. -/
theorem frame (x : Setup α) (hP : ∀ s s', s ≤ s' → P s → P s') : Triple P x fun _ => P :=
  fun w _ hP' _ => hP _ _ (x w).later.host_le hP'

end Triple

/-! ## Operations on the host -/

/-- The host's reply to the next operation. -/
def ask (op : Op) : Setup Reply := fun w =>
  ⟨.ok (w.replies w.count op), { w with count := w.count + 1 }, ⟨le_rfl, List.prefix_refl _, rfl⟩⟩

/-- Log, before it runs, an operation that can change the host. -/
def record (op : Op) : Setup Unit := fun w =>
  ⟨.ok (), { w with log := w.log ++ [op] }, ⟨le_rfl, List.prefix_append _ _, rfl⟩⟩

def establish (e : Effect) : Setup Unit := fun w =>
  ⟨.ok (), { w with host := e.apply w.host }, ⟨e.le_apply w.host, List.prefix_refl _, rfl⟩⟩

def host : Setup Host := fun w => ⟨.ok w.host, w, .refl w⟩

/-- `std::env::consts::ARCH`. -/
def arch : Setup String := fun w => ⟨.ok w.arch, w, .refl w⟩

section Operations

variable (w : World)

@[simp] theorem result_ask (op : Op) : (ask op w).result = .ok (w.replies w.count op) := rfl

@[simp] theorem world_ask (op : Op) : (ask op w).world = { w with count := w.count + 1 } := rfl

@[simp] theorem result_record (op : Op) : (record op w).result = .ok () := rfl

@[simp] theorem world_record (op : Op) : (record op w).world = { w with log := w.log ++ [op] } :=
  rfl

@[simp] theorem result_establish (e : Effect) : (establish e w).result = .ok () := rfl

@[simp] theorem world_establish (e : Effect) :
    (establish e w).world = { w with host := e.apply w.host } := rfl

@[simp] theorem result_host : (host w).result = .ok w.host := rfl

@[simp] theorem world_host : (host w).world = w := rfl

@[simp] theorem result_arch : (arch w).result = .ok w.arch := rfl

@[simp] theorem world_arch : (arch w).world = w := rfl

end Operations

end AeroAgent.SystemSetup
