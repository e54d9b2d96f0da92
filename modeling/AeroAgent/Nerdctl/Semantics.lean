import AeroAgent.Nerdctl.Grammar
import Mathlib.Data.Nat.Digits
/-!
# What a `nerdctl` command line asks for

The operation an argument vector denotes, once `Nerdctl.Grammar` has split it
into options and operands: numbers are decimal, a `-v` value splits at `:` into
source, target and options, a `-p` value into host address, host port and
container port, and an `-e` value at its first `=`.
-/

namespace AeroAgent.Nerdctl

/-- Decimal digits after an accumulated value. -/
def decimalDigits : Nat → List Char → Option Nat
  | acc, [] => some acc
  | acc, c :: cs => if c.isDigit then decimalDigits (10 * acc + (c.toNat - '0'.toNat)) cs else none

/-- A non-empty string of decimal digits. -/
def parseDecimal (s : String) : Option Nat :=
  if s.data = [] then none else decimalDigits 0 s.data

theorem digitChar_decimal : ∀ d < 10,
    (Nat.digitChar d).isDigit = true ∧ (Nat.digitChar d).toNat - '0'.toNat = d := by
  decide

/-- Reading back the digits `Nat.toDigitsCore` writes in front of `ds`. -/
theorem decimalDigits_toDigitsCore (fuel : Nat) :
    ∀ (n acc : Nat) (ds : List Char), n < fuel →
      ∃ k, decimalDigits acc (Nat.toDigitsCore 10 fuel n ds) =
        decimalDigits (acc * 10 ^ k + n) ds := by
  induction fuel with
  | zero => intro n _ _ h; omega
  | succ fuel ih =>
    intro n acc ds h
    have hd := digitChar_decimal (n % 10) (Nat.mod_lt _ (by omega))
    by_cases hq : n / 10 = 0
    · refine ⟨1, ?_⟩
      simp only [Nat.toDigitsCore, hq, if_true, decimalDigits, hd.1, hd.2]
      congr 1
      omega
    · obtain ⟨k, hk⟩ := ih (n / 10) acc (Nat.digitChar (n % 10) :: ds) (by omega)
      refine ⟨k + 1, ?_⟩
      simp only [Nat.toDigitsCore, hq, if_false, hk, decimalDigits, hd.1, if_true, hd.2]
      congr 1
      rw [Nat.pow_succ, ← Nat.mul_assoc]
      generalize acc * 10 ^ k = m
      omega

theorem toDigitsCore_ne_nil (b fuel n : Nat) (ds : List Char) :
    Nat.toDigitsCore b (fuel + 1) n ds ≠ [] := by
  induction fuel generalizing n ds with
  | zero => simp only [Nat.toDigitsCore]; split <;> simp
  | succ fuel ih =>
    rw [Nat.toDigitsCore]
    split
    · simp
    · exact ih _ _

theorem parseDecimal_toString (n : Nat) : parseDecimal (toString n) = some n := by
  have hdata : (toString n).data = Nat.toDigitsCore 10 (n + 1) n [] := rfl
  obtain ⟨k, hk⟩ := decimalDigits_toDigitsCore (n + 1) n 0 [] (by omega)
  simp [parseDecimal, hdata, toDigitsCore_ne_nil, hk, decimalDigits]

theorem isDigit_of_decimalDigits {acc m : Nat} {cs : List Char}
    (h : decimalDigits acc cs = some m) : ∀ c ∈ cs, c.isDigit = true := by
  induction cs generalizing acc with
  | nil => simp
  | cons c cs ih =>
    simp only [decimalDigits] at h
    split at h
    · exact List.forall_mem_cons.mpr ⟨‹_›, ih h⟩
    · cases h

/-- A decimal numeral has no `:` in it, so it never splits a `-p` value. -/
theorem colon_not_mem_toString (n : Nat) : ':' ∉ (toString n).data := by
  intro hmem
  have h := parseDecimal_toString n
  simp only [parseDecimal] at h
  split at h
  · cases h
  · exact absurd (isDigit_of_decimalDigits h ':' hmem) (by decide)

/-- A memory size in MiB, written `{n}m`. -/
def parseMemory (s : String) : Option Nat :=
  match s.data.reverse with
  | 'm' :: ds => parseDecimal ⟨ds.reverse⟩
  | _ => none

theorem parseMemory_toString (n : Nat) : parseMemory (toString n ++ "m") = some n := by
  simp [parseMemory, String.data_append, parseDecimal_toString]

structure Volume where
  source : String
  target : String
  options : Option String
  deriving DecidableEq, Repr

def parseVolume (s : String) : Option Volume :=
  match s.data.splitOn ':' with
  | [src, dst] => some ⟨⟨src⟩, ⟨dst⟩, none⟩
  | [src, dst, opts] => some ⟨⟨src⟩, ⟨dst⟩, some ⟨opts⟩⟩
  | _ => none

theorem parseVolume_data {src : String} (h : ':' ∉ src.data) :
    parseVolume (src ++ ":/data") = some ⟨src, "/data", none⟩ := by
  have hsplit : (src.data ++ ':' :: "/data".data).splitOn ':' = [src.data, "/data".data] := by
    rw [splitOn_append_cons h, splitOn_of_not_mem (by decide)]
  simp [parseVolume, String.data_append, hsplit]

structure PortMapping where
  hostIp : String
  hostPort : Nat
  containerPort : Nat
  deriving DecidableEq, Repr

def parsePublish (s : String) : Option PortMapping :=
  match s.data.splitOn ':' with
  | [ip, hostPort, containerPort] => do
    let h ← parseDecimal ⟨hostPort⟩
    let c ← parseDecimal ⟨containerPort⟩
    pure ⟨⟨ip⟩, h, c⟩
  | _ => none

theorem parsePublish_all (ip : String) (n : Nat) (hip : ':' ∉ ip.data) :
    parsePublish (ip ++ ":" ++ toString n ++ ":" ++ toString n) = some ⟨ip, n, n⟩ := by
  have hsplit : (ip.data ++ ':' :: ((toString n).data ++ ':' :: (toString n).data)).splitOn ':' =
      [ip.data, (toString n).data, (toString n).data] := by
    rw [splitOn_append_cons hip, splitOn_append_cons (colon_not_mem_toString n),
      splitOn_of_not_mem (colon_not_mem_toString n)]
  simp [parsePublish, String.data_append, hsplit, parseDecimal_toString]

inductive Network
  | bridge
  | host
  | named (name : String)
  deriving DecidableEq, Repr

/-- The network a `--network` value selects; without one, the default bridge. -/
def Network.ofFlag : Option String → Network
  | none => .bridge
  | some n => if n = "host" then .host else if n = "bridge" then .bridge else .named n

structure RunRequest where
  memoryMib : Option Nat
  cpus : Option Nat
  volumes : List Volume
  workdir : Option String
  network : Network
  publish : List PortMapping
  env : List (String × String)
  name : Option String
  detach : Bool
  image : String
  command : List String
  deriving DecidableEq, Repr

inductive Operation
  | run (request : RunRequest)
  | start (containers : List String)
  | stop (time : Option Nat) (containers : List String)
  | kill (signal : Option String) (containers : List String)
  | rm (force : Bool) (containers : List String)
  | logs (tail : Option Nat) (follow timestamps : Bool) (containers : List String)
  | ps (all : Bool) (format : Option String)
  | stats (noStream : Bool) (format : Option String) (containers : List String)
  | exec (container : String) (command : List String)
  | inspect (format : Option String) (targets : List String)
  deriving DecidableEq, Repr

structure Invocation where
  «namespace» : Option String
  operation : Operation
  deriving DecidableEq, Repr

/-- The last value of an option, decoded; an undecodable value is an error. -/
def decodeLast {α : Type} (f : String → Option α) (name : String) (opts : List Opt) :
    Except CliError (Option α) :=
  match lastValue name opts with
  | none => .ok none
  | some v => match f v with
    | some a => .ok (some a)
    | none => .error (.badValue name v)

/-- Values of an option, each decoded; the first undecodable one is an error. -/
def decodeAll {α : Type} (f : String → Option α) (name : String) :
    List String → Except CliError (List α)
  | [] => .ok []
  | v :: vs => match f v with
    | some a => (decodeAll f name vs).map (a :: ·)
    | none => .error (.badValue name v)

/-- Every value of a repeatable option, decoded. -/
def decodeEach {α : Type} (f : String → Option α) (name : String) (opts : List Opt) :
    Except CliError (List α) :=
  decodeAll f name (values name opts)

def decodeRun (opts : List Opt) : List String → Except CliError Operation
  | [] => .error (.missingOperand "run")
  | image :: command => do
    let memoryMib ← decodeLast parseMemory "--memory" opts
    let cpus ← decodeLast parseDecimal "--cpus" opts
    let volumes ← decodeEach parseVolume "--volume" opts
    let publish ← decodeEach parsePublish "--publish" opts
    let env ← decodeEach (splitOnce '=') "--env" opts
    pure (.run ⟨memoryMib, cpus, volumes, lastValue "--workdir" opts,
      Network.ofFlag (lastValue "--network" opts), publish, env, lastValue "--name" opts,
      present "--detach" opts, image, command⟩)

def decodeExec (_ : List Opt) : List String → Except CliError Operation
  | [] => .error (.missingOperand "exec")
  | container :: command => .ok (.exec container command)

/-- A subcommand: its option table, whether options may follow operands, and
the operation its options and operands denote. -/
structure CommandSpec where
  name : String
  options : List OptionSpec
  interspersed : Bool
  decode : List Opt → List String → Except CliError Operation

def valueOpt (spelling canonical : String) : OptionSpec := ⟨spelling, canonical, .value⟩

def flagOpt (spelling canonical : String) : OptionSpec := ⟨spelling, canonical, .flag⟩

def runCommand : CommandSpec :=
  ⟨"run", [valueOpt "--memory" "--memory", valueOpt "--cpus" "--cpus",
    valueOpt "-v" "--volume", valueOpt "--volume" "--volume",
    valueOpt "-w" "--workdir", valueOpt "--workdir" "--workdir",
    valueOpt "--network" "--network", valueOpt "-p" "--publish",
    valueOpt "--publish" "--publish", valueOpt "-e" "--env", valueOpt "--env" "--env",
    valueOpt "--name" "--name", flagOpt "-d" "--detach", flagOpt "--detach" "--detach"],
    false, decodeRun⟩

def startCommand : CommandSpec :=
  ⟨"start", [], true, fun _ xs => .ok (.start xs)⟩

def stopCommand : CommandSpec :=
  ⟨"stop", [valueOpt "-t" "--time", valueOpt "--time" "--time"], true,
    fun opts xs => do .ok (.stop (← decodeLast parseDecimal "--time" opts) xs)⟩

def killCommand : CommandSpec :=
  ⟨"kill", [valueOpt "-s" "--signal", valueOpt "--signal" "--signal"], true,
    fun opts xs => .ok (.kill (lastValue "--signal" opts) xs)⟩

def rmCommand : CommandSpec :=
  ⟨"rm", [flagOpt "-f" "--force", flagOpt "--force" "--force"], true,
    fun opts xs => .ok (.rm (present "--force" opts) xs)⟩

def logsCommand : CommandSpec :=
  ⟨"logs", [valueOpt "--tail" "--tail", flagOpt "-f" "--follow", flagOpt "--follow" "--follow",
    flagOpt "-t" "--timestamps", flagOpt "--timestamps" "--timestamps"], true,
    fun opts xs => do
      .ok (.logs (← decodeLast parseDecimal "--tail" opts) (present "--follow" opts)
        (present "--timestamps" opts) xs)⟩

def psCommand : CommandSpec :=
  ⟨"ps", [flagOpt "-a" "--all", flagOpt "--all" "--all", valueOpt "--format" "--format"], true,
    fun opts _ => .ok (.ps (present "--all" opts) (lastValue "--format" opts))⟩

def statsCommand : CommandSpec :=
  ⟨"stats", [flagOpt "--no-stream" "--no-stream", valueOpt "--format" "--format"], true,
    fun opts xs => .ok (.stats (present "--no-stream" opts) (lastValue "--format" opts) xs)⟩

def execCommand : CommandSpec :=
  ⟨"exec", [], false, decodeExec⟩

def inspectCommand : CommandSpec :=
  ⟨"inspect", [valueOpt "--format" "--format"], true,
    fun opts xs => .ok (.inspect (lastValue "--format" opts) xs)⟩

def commands : List CommandSpec :=
  [runCommand, startCommand, stopCommand, killCommand, rmCommand, logsCommand, psCommand,
    statsCommand, execCommand, inspectCommand]

theorem runCommand_interspersed : runCommand.interspersed = false := rfl

theorem runCommand_decode : runCommand.decode = decodeRun := rfl

def globalOptions : List OptionSpec :=
  [valueOpt "--namespace" "--namespace"]

/-- The invocation an argument vector denotes: global options up to the
subcommand, then the subcommand's own options and operands. -/
def readCommandLine (args : List String) : Except CliError Invocation := do
  let (globals, rest) ← parseOptions globalOptions false args
  match rest with
  | [] => .error .missingCommand
  | name :: rest =>
    match commands.find? (·.name = name) with
    | none => .error (.unknownCommand name)
    | some spec =>
      let (opts, operands) ← parseOptions spec.options spec.interspersed rest
      let operation ← spec.decode opts operands
      pure ⟨lastValue "--namespace" globals, operation⟩

/-- After `--namespace {ns}` and a known subcommand, the reading is the
subcommand's own. -/
theorem read_namespace (name : String) (spec : CommandSpec) {ns : String} {rest : List String}
    (hname : isOption name = false) (hspec : commands.find? (·.name = name) = some spec) :
    readCommandLine ("--namespace" :: ns :: name :: rest) =
      (do
        let (opts, operands) ← parseOptions spec.options spec.interspersed rest
        let operation ← spec.decode opts operands
        pure ⟨some ns, operation⟩) := by
  rw [readCommandLine, parseOptions_value globalOptions "--namespace" "--namespace" rfl rfl rfl,
    parseOptions_operand_stop hname]
  simp [Except.map, bind, Except.bind, hspec, lastValue, consOpt]

/-- A subcommand that reads options after its operands, whose own arguments
split into `opts` and `operands`: the reading is what it decodes from them. -/
theorem read_interspersed (name : String) (spec : CommandSpec) (opts : List Opt)
    (operands : List String) {ns : String} {rest : List String} {op : Operation}
    (hname : isOption name = false) (hspec : commands.find? (·.name = name) = some spec)
    (hi : spec.interspersed = true)
    (hsplit : parseOptions spec.options true rest = .ok (opts, operands))
    (hdecode : spec.decode opts operands = .ok op) :
    readCommandLine ("--namespace" :: ns :: name :: rest) = .ok ⟨some ns, op⟩ := by
  rw [read_namespace name spec hname hspec, hi, hsplit]
  simp [bind, Except.bind, hdecode, pure, Except.pure]

end AeroAgent.Nerdctl
