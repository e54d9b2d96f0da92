import Mathlib.Data.List.Basic
import Mathlib.Data.List.DropRight
/-!
# `str::lines` and `str::trim`

The two string operations the adapter applies to `nerdctl`'s output, on the
characters of a string.  `lines` splits at each `\n`, removes one `\r` right
before it, and yields no empty line after a final `\n`; a `\r` not followed by
`\n` stays.  `trim` removes characters with the Unicode `White_Space` property
from both ends, as `char::is_whitespace` decides it.

The main facts: `lines_append` (lines of a concatenation split at a line end),
`lines_lfToCrlf` (CRLF line endings give the same lines as LF ones) and
`trim_eq_nil_iff` (a line trims to nothing exactly when it is all whitespace).
-/

namespace AeroAgent.Rust

/-- `char::is_whitespace`: ASCII space and `\t` to `\r`, and above `\x7f` the
Unicode `White_Space` characters. -/
def isWhitespace (c : Char) : Bool :=
  let n := c.toNat
  (0x09 ≤ n && n ≤ 0x0D) || n == 0x20 || n == 0x85 || n == 0xA0 || n == 0x1680 ||
    (0x2000 ≤ n && n ≤ 0x200A) || n == 0x2028 || n == 0x2029 || n == 0x202F || n == 0x205F ||
    n == 0x3000

/-- `str::trim`. -/
def trim (s : List Char) : List Char :=
  ((s.dropWhile isWhitespace).reverse.dropWhile isWhitespace).reverse

/-- A `\r` ending a line kept reversed. -/
def dropCr : List Char → List Char
  | [] => []
  | c :: acc => if c = '\r' then acc else c :: acc

@[simp] theorem dropCr_cr (acc : List Char) : dropCr ('\r' :: acc) = acc := by
  simp [dropCr]

/-- `str::lines` after `acc`, the current line so far, reversed. -/
def linesAux : List Char → List Char → List (List Char)
  | acc, [] => if acc = [] then [] else [acc.reverse]
  | acc, c :: cs => if c = '\n' then (dropCr acc).reverse :: linesAux [] cs else linesAux (c :: acc) cs

/-- `str::lines`. -/
def lines (s : List Char) : List (List Char) :=
  linesAux [] s

/-- The text with each `\n` not preceded by `\r` replaced by `\r\n`; `prev` is
the character before. -/
def lfToCrlf : Option Char → List Char → List Char
  | _, [] => []
  | prev, c :: cs =>
    if c = '\n' ∧ prev ≠ some '\r' then '\r' :: '\n' :: lfToCrlf (some c) cs
    else c :: lfToCrlf (some c) cs

example : lines "a\r\n\nb\r".data = ["a".data, [], "b\r".data] := by decide

/-! ## `trim` -/

theorem all_of_dropWhile {p : Char → Bool} {s : List Char} (h : ∀ c ∈ s.dropWhile p, p c) :
    ∀ c ∈ s, p c := by
  intro c hc
  rw [← List.takeWhile_append_dropWhile p s, List.mem_append] at hc
  exact hc.elim (List.mem_takeWhile_imp ·) (h c)

theorem trim_eq_nil_iff (s : List Char) : trim s = [] ↔ ∀ c ∈ s, isWhitespace c := by
  simp only [trim, List.reverse_eq_nil_iff, List.dropWhile_eq_nil_iff, List.mem_reverse]
  exact ⟨all_of_dropWhile, fun h c hc => h c ((List.dropWhile_suffix _).subset hc)⟩

/-- A trimmed string trims to itself: `trim` is `rdropWhile` after
`dropWhile`, and what it keeps starts where `dropWhile` stopped. -/
theorem trim_trim (s : List Char) : trim (trim s) = trim s := by
  have hpre := List.rdropWhile_prefix isWhitespace (s.dropWhile isWhitespace)
  have hd : (trim s).dropWhile isWhitespace = trim s := by
    rw [List.dropWhile_eq_self_iff]
    intro hl
    have h0 := List.dropWhile_get_zero_not isWhitespace s (Nat.lt_of_lt_of_le hl hpre.length_le)
    simp only [List.get_eq_getElem] at h0 ⊢
    rwa [← hpre.getElem hl] at h0
  show List.rdropWhile isWhitespace ((trim s).dropWhile isWhitespace) = trim s
  rw [hd]
  exact List.rdropWhile_idempotent _ _

/-! ## `lines` -/

theorem linesAux_eq_nil_iff (acc s : List Char) : linesAux acc s = [] ↔ acc = [] ∧ s = [] := by
  induction s generalizing acc with
  | nil => by_cases h : acc = [] <;> simp [linesAux, h]
  | cons c cs ih =>
    by_cases hc : c = '\n'
    · simp [linesAux, hc]
    · simp [linesAux, hc, ih]

theorem lines_eq_nil_iff (s : List Char) : lines s = [] ↔ s = [] := by
  simp [lines, linesAux_eq_nil_iff]

/-- A line is made of characters of the current line or of the input. -/
theorem mem_of_mem_linesAux {acc s l : List Char} (hl : l ∈ linesAux acc s) :
    ∀ c ∈ l, c ∈ acc ∨ c ∈ s := by
  induction s generalizing acc with
  | nil =>
    by_cases h : acc = [] <;> simp_all [linesAux]
  | cons d cs ih =>
    by_cases hd : d = '\n'
    · simp only [linesAux, hd, if_true, List.mem_cons] at hl
      rcases hl with rfl | hl
      · intro c hc
        refine .inl ?_
        rw [List.mem_reverse] at hc
        cases acc with
        | nil => simp [dropCr] at hc
        | cons a acc =>
          simp only [dropCr] at hc
          split at hc
          · exact List.mem_cons_of_mem _ hc
          · exact hc
      · intro c hc
        rcases ih hl c hc with h | h
        · simp at h
        · exact .inr (List.mem_cons_of_mem _ h)
    · simp only [linesAux, hd, if_false] at hl
      intro c hc
      rcases ih hl c hc with h | h
      · rcases List.mem_cons.mp h with rfl | h
        · exact .inr (List.mem_cons_self _ _)
        · exact .inl h
      · exact .inr (List.mem_cons_of_mem _ h)

theorem mem_of_mem_lines {s l : List Char} (hl : l ∈ lines s) : ∀ c ∈ l, c ∈ s := fun c hc =>
  (mem_of_mem_linesAux hl c hc).resolve_left (List.not_mem_nil c)

/-- Lines of a concatenation whose first part ends a line. -/
theorem linesAux_append (acc a b : List Char) (ha : a.getLast? = some '\n') :
    linesAux acc (a ++ b) = linesAux acc a ++ linesAux [] b := by
  induction a generalizing acc with
  | nil => simp at ha
  | cons c a ih =>
    by_cases hnil : a = []
    · subst hnil
      simp only [List.getLast?_singleton, Option.some.injEq] at ha
      simp [linesAux, ha]
    · have ha' : a.getLast? = some '\n' := by
        cases a with
        | nil => contradiction
        | cons x xs => simpa [List.getLast?_cons_cons] using ha
      by_cases hc : c = '\n'
      · simp [linesAux, hc, ih [] ha']
      · simp [linesAux, hc, ih _ ha']

theorem lines_append {a b : List Char} (ha : a = [] ∨ a.getLast? = some '\n') :
    lines (a ++ b) = lines a ++ lines b := by
  rcases ha with rfl | ha
  · rfl
  · exact linesAux_append [] a b ha

/-- Replacing the LF line endings by CRLF changes no line. -/
theorem linesAux_lfToCrlf (s : List Char) :
    ∀ (acc : List Char) (prev : Option Char), (prev = some '\r' ↔ acc.head? = some '\r') →
      linesAux acc (lfToCrlf prev s) = linesAux acc s := by
  induction s with
  | nil => intro _ _ _; rfl
  | cons c cs ih =>
    intro acc prev hprev
    by_cases hc : c = '\n'
    · subst hc
      by_cases hcr : prev = some '\r'
      · simp [lfToCrlf, hcr, linesAux, ih [] (some '\n') (by simp)]
      · have hacc : dropCr acc = acc := by
          cases acc with
          | nil => rfl
          | cons a acc =>
            have : a ≠ '\r' := fun h => hcr (hprev.mpr (by simp [h]))
            simp [dropCr, this]
        simp [lfToCrlf, hcr, linesAux, hacc, ih [] (some '\n') (by simp)]
    · simp [lfToCrlf, hc, linesAux, ih (c :: acc) (some c) (by simp)]

theorem lines_lfToCrlf (s : List Char) : lines (lfToCrlf none s) = lines s :=
  linesAux_lfToCrlf s [] none (by simp)

end AeroAgent.Rust
