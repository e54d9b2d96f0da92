import AeroAgent.RuntimeManager.Output
/-!
# `stream_logs`: the two-pipe pump

`stream_logs` spawns `nerdctl logs -f`, wraps the child's `stdout` and
`stderr` in line readers and loops on `tokio::select!` over the two
`next_line()` futures: a line goes to the callback, the end of either pipe
breaks the loop with `Ok(())`, and a read error is returned.  Which branch
completes at each pass is a schedule; `next_line` is cancellation safe, so the
branch that loses a race loses no data, and every schedule is possible.

The callback's arguments are kept tagged with the pipe each came from; the
callback itself receives the text only.

* `streamLogs_pipes` — under every schedule each pipe's lines reach the
  callback in order and none twice; the loop returns only once a pipe is
  exhausted, after all of that pipe's lines, with that pipe's ending; and it
  returns once the schedule is longer than both pipes' lines together;
* `streamLogs_loses_lines` — when `select!` takes the end of `stdout` first,
  the loop returns `Ok(())` and no line of `stderr` reaches the callback.
-/

namespace AeroAgent.RuntimeManager

/-- The two pipes of the `nerdctl logs -f` child. -/
inductive Pipe
  | stdout
  | stderr
  deriving DecidableEq, Repr

/-- A pipe as `Lines::next_line` reads it: the lines not yet read, then how the
pipe ends, at end of file or with a read error. -/
structure LineReader where
  pending : List String
  ending : Except String Unit

/-- `Lines::next_line`: the next line, `None` at end of file, or the read error. -/
def LineReader.nextLine : LineReader → Except String (Option (String × LineReader))
  | ⟨l :: ls, e⟩ => .ok (some (l, ⟨ls, e⟩))
  | ⟨[], .ok ()⟩ => .ok none
  | ⟨[], .error e⟩ => .error e

/-- The lines of a tagged trace that came from pipe `b`, in order. -/
def linesFrom (b : Pipe) (t : List (Pipe × String)) : List String :=
  t.filterMap fun x => if x.1 = b then some x.2 else none

@[simp] theorem linesFrom_nil (b : Pipe) : linesFrom b [] = [] := rfl

@[simp] theorem linesFrom_append_single (b b' : Pipe) (t : List (Pipe × String)) (l : String) :
    linesFrom b (t ++ [(b', l)]) = linesFrom b t ++ if b' = b then [l] else [] := by
  by_cases h : b' = b <;> simp [linesFrom, h]

/-- The loop's state: the two readers and the callback's arguments so far. -/
structure Pump where
  stdout : LineReader
  stderr : LineReader
  delivered : List (Pipe × String)

namespace Pump

/-- The loop's state before its first pass. -/
def start (out err : LineReader) : Pump := ⟨out, err, []⟩

def reader (p : Pump) : Pipe → LineReader
  | .stdout => p.stdout
  | .stderr => p.stderr

/-- The state once the callback got `l` from pipe `b`, whose reader is now `r`. -/
def deliver (p : Pump) (b : Pipe) (l : String) (r : LineReader) : Pump :=
  match b with
  | .stdout => ⟨r, p.stderr, p.delivered ++ [(.stdout, l)]⟩
  | .stderr => ⟨p.stdout, r, p.delivered ++ [(.stderr, l)]⟩

/-- The lines both readers still hold. -/
def unread (p : Pump) : Nat :=
  (p.reader .stdout).pending.length + (p.reader .stderr).pending.length

@[simp] theorem delivered_start (out err : LineReader) : (start out err).delivered = [] := rfl

@[simp] theorem delivered_deliver (p : Pump) (b : Pipe) (l : String) (r : LineReader) :
    (p.deliver b l r).delivered = p.delivered ++ [(b, l)] := by
  cases b <;> rfl

@[simp] theorem reader_deliver (p : Pump) (b b' : Pipe) (l : String) (r : LineReader) :
    (p.deliver b l r).reader b' = if b' = b then r else p.reader b' := by
  cases b <;> cases b' <;> rfl

theorem unread_deliver {p : Pump} {b : Pipe} {l : String} {ls : List String}
    (h : (p.reader b).pending = l :: ls) (e : Except String Unit) :
    (p.deliver b l ⟨ls, e⟩).unread + 1 = p.unread := by
  cases b <;> simp_all [unread] <;> omega

end Pump

/-- What one pass of the loop leads to. -/
inductive Pass
  | next (p : Pump)
  | exit (result : AgentResult Unit)

/-- One pass of the loop in which `select!` completes the branch of pipe `b`. -/
def selectOnce (p : Pump) (b : Pipe) : Pass :=
  match (p.reader b).nextLine with
  | .ok (some (l, r)) => .next (p.deliver b l r)
  | .ok none => .exit (.ok ())
  | .error e => .exit (.error (.io e))

/-- The loop under a schedule, the branch `select!` completes at each pass: the
callback's arguments, and the result once the loop has returned. -/
def selectLoop : Pump → List Pipe → List (Pipe × String) × Option (AgentResult Unit)
  | p, [] => (p.delivered, none)
  | p, b :: bs =>
    match selectOnce p b with
    | .next p' => selectLoop p' bs
    | .exit r => (p.delivered, some r)

/-- `stream_logs` after `spawn`, which gave the child's two pipes (`None` for
one not captured) or an I/O error. -/
def streamLogs (spawned : Except String (Option LineReader × Option LineReader))
    (branches : List Pipe) : List (Pipe × String) × Option (AgentResult Unit) :=
  match spawned with
  | .error e => ([], some (.error (.io e)))
  | .ok (none, _) => ([], some (.error (.internalError "Failed to capture stdout")))
  | .ok (some _, none) => ([], some (.error (.internalError "Failed to capture stderr")))
  | .ok (some out, some err) => selectLoop (.start out err) branches

/-! ## One pass -/

/-- Everything a pass can do: deliver the chosen pipe's next line, or, when it
has none left, return its ending. -/
theorem selectOnce_cases (p : Pump) (b : Pipe) :
    (∃ l ls, (p.reader b).pending = l :: ls ∧
      selectOnce p b = .next (p.deliver b l ⟨ls, (p.reader b).ending⟩)) ∨
    ((p.reader b).pending = [] ∧ selectOnce p b = .exit ((p.reader b).ending.mapError .io)) := by
  unfold selectOnce
  rcases p.reader b with ⟨_ | ⟨l, ls⟩, e | ⟨⟩⟩
  · exact .inr ⟨rfl, rfl⟩
  · exact .inr ⟨rfl, rfl⟩
  · exact .inl ⟨l, ls, rfl, rfl⟩
  · exact .inl ⟨l, ls, rfl, rfl⟩

/-- `p` is reached from `q` by reading only: for each pipe, the lines the
callback got from it followed by the unread ones are the same, and so is its
ending. -/
def ReadFrom (q p : Pump) : Prop :=
  ∀ b, linesFrom b p.delivered ++ (p.reader b).pending =
      linesFrom b q.delivered ++ (q.reader b).pending ∧
    (p.reader b).ending = (q.reader b).ending

theorem ReadFrom.refl (p : Pump) : ReadFrom p p := fun _ => ⟨rfl, rfl⟩

theorem ReadFrom.trans {p q r : Pump} (h₁ : ReadFrom p q) (h₂ : ReadFrom q r) : ReadFrom p r :=
  fun b => ⟨(h₂ b).1.trans (h₁ b).1, (h₂ b).2.trans (h₁ b).2⟩

theorem readFrom_deliver {p : Pump} {b : Pipe} {l : String} {ls : List String}
    (h : (p.reader b).pending = l :: ls) :
    ReadFrom p (p.deliver b l ⟨ls, (p.reader b).ending⟩) := by
  intro b'
  by_cases hb : b' = b
  · subst hb
    simp [h]
  · simp [hb, Ne.symm hb]

/-! ## The loop -/

theorem selectLoop_next {p p' : Pump} {b : Pipe} (bs : List Pipe) (h : selectOnce p b = .next p') :
    selectLoop p (b :: bs) = selectLoop p' bs := by
  simp [selectLoop, h]

theorem selectLoop_exit {p : Pump} {b : Pipe} {r : AgentResult Unit} (bs : List Pipe)
    (h : selectOnce p b = .exit r) : selectLoop p (b :: bs) = (p.delivered, some r) := by
  simp [selectLoop, h]

/-- The loop only reads, returns the callback's arguments, and returns a
result only when the chosen pipe is exhausted: its ending. -/
theorem selectLoop_spec (p : Pump) (bs : List Pipe) :
    ∃ p', ReadFrom p p' ∧ (selectLoop p bs).1 = p'.delivered ∧
      ∀ r, (selectLoop p bs).2 = some r →
        ∃ b, (p'.reader b).pending = [] ∧ r = (p'.reader b).ending.mapError .io := by
  induction bs generalizing p with
  | nil => exact ⟨p, .refl p, rfl, by simp [selectLoop]⟩
  | cons b bs ih =>
    rcases selectOnce_cases p b with ⟨l, ls, hl, hstep⟩ | ⟨hnil, hstep⟩
    · obtain ⟨p', hread, hdel, hret⟩ := ih (p.deliver b l ⟨ls, (p.reader b).ending⟩)
      rw [selectLoop_next _ hstep]
      exact ⟨p', (readFrom_deliver hl).trans hread, hdel, hret⟩
    · rw [selectLoop_exit _ hstep]
      exact ⟨p, .refl p, rfl, fun r hr => ⟨b, hnil, (Option.some.inj hr).symm⟩⟩

/-- Every pass reads a line or returns, so a schedule longer than the unread
lines reaches a return. -/
theorem selectLoop_returns (p : Pump) (bs : List Pipe) (h : p.unread < bs.length) :
    (selectLoop p bs).2.isSome := by
  induction bs generalizing p with
  | nil => simp at h
  | cons b bs ih =>
    rcases selectOnce_cases p b with ⟨l, ls, hl, hstep⟩ | ⟨_, hstep⟩
    · rw [selectLoop_next _ hstep]
      have := Pump.unread_deliver hl (p.reader b).ending
      exact ih _ (by simp at h; omega)
    · simp [selectLoop_exit _ hstep]

theorem streamLogs_pipes (out err : LineReader) (branches : List Pipe) :
    (∀ b, linesFrom b (streamLogs (.ok (some out, some err)) branches).1 <+:
      ((Pump.start out err).reader b).pending) ∧
    (∀ r, (streamLogs (.ok (some out, some err)) branches).2 = some r → ∃ b,
      linesFrom b (streamLogs (.ok (some out, some err)) branches).1 =
        ((Pump.start out err).reader b).pending ∧
      r = ((Pump.start out err).reader b).ending.mapError .io) ∧
    (out.pending.length + err.pending.length < branches.length →
      (streamLogs (.ok (some out, some err)) branches).2.isSome) := by
  obtain ⟨p, hread, hdel, hret⟩ := selectLoop_spec (.start out err) branches
  simp only [streamLogs, hdel]
  refine ⟨fun b => ⟨_, (hread b).1.trans (by simp)⟩, fun r hr => ?_,
    selectLoop_returns (.start out err) branches⟩
  obtain ⟨b, hnil, rfl⟩ := hret r hr
  refine ⟨b, ?_, by rw [(hread b).2]⟩
  simpa [hnil] using (hread b).1

/-! ## Lines lost at the end of `stdout` -/

theorem selectLoop_stdout_first (ls : List String) (err : LineReader)
    (d : List (Pipe × String)) :
    selectLoop ⟨⟨ls, .ok ()⟩, err, d⟩ (List.replicate (ls.length + 1) .stdout) =
      (d ++ ls.map (Pipe.stdout, ·), some (.ok ())) := by
  induction ls generalizing d with
  | nil => simp [selectLoop, selectOnce, Pump.reader, LineReader.nextLine]
  | cons l ls ih =>
    have hstep : selectOnce ⟨⟨l :: ls, .ok ()⟩, err, d⟩ .stdout =
        .next ⟨⟨ls, .ok ()⟩, err, d ++ [(.stdout, l)]⟩ := rfl
    rw [List.length_cons, List.replicate_succ, selectLoop_next _ hstep, ih]
    simp

theorem streamLogs_loses_lines (ls : List String) (err : LineReader) :
    streamLogs (.ok (some ⟨ls, .ok ()⟩, some err)) (List.replicate (ls.length + 1) .stdout) =
      (ls.map (Pipe.stdout, ·), some (.ok ())) :=
  selectLoop_stdout_first ls err []

end AeroAgent.RuntimeManager
