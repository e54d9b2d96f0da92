import Mathlib.Data.List.Basic
/-!
# The `nerdctl` command line

How `nerdctl` reads an argument vector.  Before the first operand an element
beginning with `-` is an option; an option that takes a value consumes the
next element, or carries it inline after `=`.  `run` and `exec` stop reading
options at the first operand, since what follows is the container command;
the other subcommands keep reading options after their operands, as cobra
commands do by default.  An option missing from a command's table is an
error.

Only the options the runtime adapter writes are in the tables, each under its
short and long spelling.
-/

namespace AeroAgent.Nerdctl

inductive Arity
  | flag
  | value
  deriving DecidableEq, Repr

/-- A spelling of an option, the option it names, and whether it takes a value. -/
structure OptionSpec where
  spelling : String
  canonical : String
  arity : Arity
  deriving DecidableEq, Repr

/-- An option as read: its canonical name and its value, if any. -/
structure Opt where
  name : String
  value : Option String
  deriving DecidableEq, Repr

inductive CliError
  | unknownOption (spelling : String)
  | missingValue (spelling : String)
  | missingCommand
  | unknownCommand (name : String)
  | badValue (option value : String)
  | missingOperand (command : String)
  deriving DecidableEq, Repr

/-- An element beginning with `-` is read as an option. -/
def isOption (a : String) : Bool :=
  a.data.head? == some '-'

/-- `s` split at its first `c`, when it has one. -/
def splitOnce (c : Char) (s : String) : Option (String × String) :=
  match s.data.splitOn c with
  | k :: v :: vs => some (⟨k⟩, ⟨[c].intercalate (v :: vs)⟩)
  | _ => none

@[simp] theorem mk_data (s : String) : String.mk s.data = s := rfl

theorem splitOn_of_not_mem {c : Char} {k : List Char} (hk : c ∉ k) : k.splitOn c = [k] :=
  List.splitOnP_eq_single _ k fun _ hx h => hk (beq_iff_eq.mp h ▸ hx)

theorem splitOn_append_cons {c : Char} {k : List Char} (hk : c ∉ k) (v : List Char) :
    (k ++ c :: v).splitOn c = k :: v.splitOn c :=
  List.splitOnP_first (· == c) k (fun _ hx h => hk (beq_iff_eq.mp h ▸ hx)) c (by simp) v

theorem splitOnce_append {c : Char} {k v : List Char} (hk : c ∉ k) :
    splitOnce c ⟨k ++ c :: v⟩ = some (⟨k⟩, ⟨v⟩) := by
  have hsplit := splitOn_append_cons hk v
  obtain ⟨w, ws, hw⟩ : ∃ w ws, v.splitOn c = w :: ws :=
    List.exists_cons_of_ne_nil (List.splitOnP_ne_nil _ v)
  have hv : [c].intercalate (w :: ws) = v := by rw [← hw, List.intercalate_splitOn]
  simp only [splitOnce, hsplit, hw, hv]

theorem splitOnce_append_sep {c : Char} (k v : String) (hk : c ∉ k.data) :
    splitOnce c (k ++ ⟨[c]⟩ ++ v) = some (k, v) := by
  have h : k ++ ⟨[c]⟩ ++ v = ⟨k.data ++ c :: v.data⟩ := by
    apply String.ext; simp [String.data_append]
  rw [h, splitOnce_append hk]

def lookupSpec (table : List OptionSpec) (spelling : String) : Option OptionSpec :=
  table.find? (·.spelling = spelling)

def consOpt (o : Opt) (r : List Opt × List String) : List Opt × List String :=
  (o :: r.1, r.2)

def consOperand (a : String) (r : List Opt × List String) : List Opt × List String :=
  (r.1, a :: r.2)

/-- Options and operands of an argument vector under an option table. -/
def parseOptions (table : List OptionSpec) (interspersed : Bool) :
    List String → Except CliError (List Opt × List String)
  | [] => .ok ([], [])
  | a :: rest =>
    if isOption a then
      match splitOnce '=' a with
      | some (spelling, v) =>
        match lookupSpec table spelling with
        | some spec => (parseOptions table interspersed rest).map (consOpt ⟨spec.canonical, some v⟩)
        | none => .error (.unknownOption spelling)
      | none =>
        match lookupSpec table a with
        | some ⟨_, canonical, .flag⟩ =>
          (parseOptions table interspersed rest).map (consOpt ⟨canonical, none⟩)
        | some ⟨_, canonical, .value⟩ =>
          match rest with
          | v :: rest' => (parseOptions table interspersed rest').map (consOpt ⟨canonical, some v⟩)
          | [] => .error (.missingValue a)
        | none => .error (.unknownOption a)
    else if interspersed then (parseOptions table interspersed rest).map (consOperand a)
    else .ok ([], a :: rest)

section Steps

variable {interspersed : Bool} {rest : List String}

theorem parseOptions_value (table : List OptionSpec) (a canonical : String) {v : String}
    (ha : isOption a = true) (hs : splitOnce '=' a = none)
    (hl : lookupSpec table a = some ⟨a, canonical, .value⟩) :
    parseOptions table interspersed (a :: v :: rest) =
      (parseOptions table interspersed rest).map (consOpt ⟨canonical, some v⟩) := by
  simp [parseOptions, ha, hs, hl]

theorem parseOptions_flag (table : List OptionSpec) (a canonical : String)
    (ha : isOption a = true) (hs : splitOnce '=' a = none)
    (hl : lookupSpec table a = some ⟨a, canonical, .flag⟩) :
    parseOptions table interspersed (a :: rest) =
      (parseOptions table interspersed rest).map (consOpt ⟨canonical, none⟩) := by
  simp [parseOptions, ha, hs, hl]

theorem parseOptions_inline (table : List OptionSpec) (spec : OptionSpec) {a spelling v : String}
    (ha : isOption a = true) (hs : splitOnce '=' a = some (spelling, v))
    (hl : lookupSpec table spelling = some spec) :
    parseOptions table interspersed (a :: rest) =
      (parseOptions table interspersed rest).map (consOpt ⟨spec.canonical, some v⟩) := by
  simp [parseOptions, ha, hs, hl]

theorem parseOptions_operand_stop {table : List OptionSpec} {a : String}
    (ha : isOption a = false) :
    parseOptions table false (a :: rest) = .ok ([], a :: rest) := by
  simp [parseOptions, ha]

theorem parseOptions_operand {table : List OptionSpec} {a : String} (ha : isOption a = false) :
    parseOptions table true (a :: rest) = (parseOptions table true rest).map (consOperand a) := by
  simp [parseOptions, ha]

end Steps

/-- The last value given to an option, as a repeated string option keeps it. -/
def lastValue (name : String) (opts : List Opt) : Option String :=
  ((opts.filter (·.name = name)).getLast?).bind (·.value)

/-- Every value given to a repeatable option, in order. -/
def values (name : String) (opts : List Opt) : List String :=
  (opts.filter (·.name = name)).filterMap (·.value)

def present (name : String) (opts : List Opt) : Bool :=
  opts.any (·.name = name)

end AeroAgent.Nerdctl
