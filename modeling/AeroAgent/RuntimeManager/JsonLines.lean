import AeroAgent.RuntimeManager.Output
import Mathlib.Data.List.Forall2
/-!
# Newline-delimited JSON from `nerdctl`

`list_containers` decodes every line of `nerdctl ps`'s output that is not
whitespace-only, in order; `get_stats` decodes the first line of
`nerdctl stats`'s output, whitespace-only or not.

* `listContainers_lines` — `list_containers` succeeds exactly when every
  non-blank line decodes, with those values in order, and otherwise fails
  with the first failing line's decode error; its result depends only on the
  non-blank lines, so it ignores whitespace-only lines inserted at a line
  boundary and CRLF line endings, and a trailing newline unless the text ends
  in a bare `\r`;
* `listContainers_trailing_cr` — after a bare `\r`, a trailing newline does
  change the last line, and with it `serde_json`'s error position;
* `getStats_blank_first_line` — `get_stats` decodes an empty first line
  instead of skipping it.
-/

namespace AeroAgent.RuntimeManager

open Rust Output

/-- A line `list_containers` does not skip. -/
def nonBlank (line : List Char) : Bool := !(trim line).isEmpty

/-- The lines of a text that are not whitespace-only, in order. -/
def contentLines (s : List Char) : List (List Char) := (lines s).filter nonBlank

section Decoder

variable (decode : String → Except String ContainerInfo)

/-- The loop only ever sees the non-blank lines. -/
theorem parseContainerLines_filter (ls : List (List Char)) (acc : List ContainerInfo) :
    parseContainerLines decode ls acc = parseContainerLines decode (ls.filter nonBlank) acc := by
  induction ls generalizing acc with
  | nil => rfl
  | cons l ls ih =>
    by_cases hl : (trim l).isEmpty
    · simp [parseContainerLines, nonBlank, hl, ih]
    · simp only [parseContainerLines, hl, List.filter_cons, nonBlank, Bool.not_false, if_true,
        if_false, Bool.false_eq_true]
      split <;> simp [ih]

/-- The loop's vector is the lines' decodes, in order, after what it held. -/
theorem parseContainerLines_eq_ok_iff (ls : List (List Char)) (hls : ∀ l ∈ ls, nonBlank l)
    (acc xs : List ContainerInfo) :
    parseContainerLines decode ls acc = .ok xs ↔
      ∃ ys, xs = acc ++ ys ∧ List.Forall₂ (fun l x => decode ⟨l⟩ = .ok x) ls ys := by
  induction ls generalizing acc with
  | nil => simp [parseContainerLines, eq_comm]
  | cons l ls ih =>
    have hl : (trim l).isEmpty = false := by simpa [nonBlank] using hls l (List.mem_cons_self _ _)
    have hls' : ∀ l ∈ ls, nonBlank l := fun l' h' => hls l' (List.mem_cons_of_mem _ h')
    simp only [parseContainerLines, hl, Bool.false_eq_true, if_false, List.forall₂_cons_left_iff]
    cases hd : decode ⟨l⟩ with
    | error e => simp
    | ok c =>
      simp only [ih hls', List.append_assoc, List.singleton_append]
      constructor
      · rintro ⟨ys, rfl, hys⟩
        exact ⟨c :: ys, rfl, c, ys, rfl, hys, rfl⟩
      · rintro ⟨_, rfl, c', ys, hc, hys, rfl⟩
        cases hc
        exact ⟨ys, rfl, hys⟩

/-- The loop fails with the error of the first line that does not decode. -/
theorem parseContainerLines_eq_error_iff (ls : List (List Char)) (hls : ∀ l ∈ ls, nonBlank l)
    (acc : List ContainerInfo) (e : AgentError) :
    parseContainerLines decode ls acc = .error e ↔
      ∃ pre l post m, ls = pre ++ l :: post ∧ (∀ l' ∈ pre, ∃ x, decode ⟨l'⟩ = .ok x) ∧
        decode ⟨l⟩ = .error m ∧ e = .json m := by
  induction ls generalizing acc with
  | nil => simp [parseContainerLines]
  | cons l ls ih =>
    have hl : (trim l).isEmpty = false := by simpa [nonBlank] using hls l (List.mem_cons_self _ _)
    have hls' : ∀ l ∈ ls, nonBlank l := fun l' h' => hls l' (List.mem_cons_of_mem _ h')
    simp only [parseContainerLines, hl, Bool.false_eq_true, if_false]
    cases hd : decode ⟨l⟩ with
    | error m =>
      simp only [Except.error.injEq]
      constructor
      · rintro rfl
        exact ⟨[], l, ls, m, rfl, by simp, hd, rfl⟩
      · rintro ⟨_ | ⟨p, pre⟩, l', post, m', hls, hpre, hm, rfl⟩
        · simp only [List.nil_append, List.cons.injEq] at hls
          rw [← hls.1, hd] at hm
          cases hm
          rfl
        · simp only [List.cons_append, List.cons.injEq] at hls
          obtain ⟨x, hx⟩ := hpre p (List.mem_cons_self _ _)
          rw [← hls.1, hd] at hx
          cases hx
    | ok c =>
      rw [ih hls']
      constructor
      · rintro ⟨pre, l', post, m, rfl, hpre, hm, rfl⟩
        refine ⟨l :: pre, l', post, m, rfl, ?_, hm, rfl⟩
        rintro l'' (_ | ⟨_, h⟩)
        exacts [⟨c, hd⟩, hpre l'' h]
      · rintro ⟨_ | ⟨p, pre⟩, l', post, m, hls, hpre, hm, rfl⟩
        · simp only [List.nil_append, List.cons.injEq] at hls
          rw [← hls.1, hd] at hm
          cases hm
        · simp only [List.cons_append, List.cons.injEq] at hls
          exact ⟨pre, l', post, m, hls.2, fun l'' h => hpre l'' (List.mem_cons_of_mem _ h), hm, rfl⟩

theorem listContainers_eq (s stderr : String) :
    listContainers decode (.ok ⟨true, s, stderr⟩) =
      parseContainerLines decode (contentLines s.data) [] := by
  simp [listContainers, contentLines, ← parseContainerLines_filter]

end Decoder

/-! ## Which lines are content -/

theorem contentLines_whitespace {w : List Char} (hw : ∀ c ∈ w, isWhitespace c) :
    contentLines w = [] :=
  List.filter_eq_nil_iff.mpr fun l hl => by
    simpa [nonBlank, trim_eq_nil_iff] using fun c hc => hw c (mem_of_mem_lines hl c hc)

theorem contentLines_append {a b : List Char} (ha : a = [] ∨ a.getLast? = some '\n') :
    contentLines (a ++ b) = contentLines a ++ contentLines b := by
  simp [contentLines, lines_append ha]

/-- Whitespace-only lines inserted at a line boundary are skipped: the inserted
text ends a line, or nothing follows it. -/
theorem contentLines_insert (a w b : List Char) (ha : a = [] ∨ a.getLast? = some '\n')
    (hw : ∀ c ∈ w, isWhitespace c) (hwb : w.getLast? = some '\n' ∨ b = []) :
    contentLines (a ++ w ++ b) = contentLines (a ++ b) := by
  rw [List.append_assoc, contentLines_append ha, contentLines_append ha]
  rcases hwb with hw' | rfl
  · rw [contentLines_append (.inr hw'), contentLines_whitespace hw, List.nil_append]
  · rw [List.append_nil, contentLines_whitespace hw]; rfl

theorem contentLines_lfToCrlf (s : List Char) : contentLines (lfToCrlf none s) = contentLines s := by
  simp [contentLines, lines_lfToCrlf]

/-- A newline after a text that does not end in `\r` adds at most a blank line. -/
theorem linesAux_append_newline (acc s : List Char)
    (hs : (acc.reverse ++ s).getLast? ≠ some '\r') :
    (linesAux acc (s ++ ['\n'])).filter nonBlank = (linesAux acc s).filter nonBlank := by
  induction s generalizing acc with
  | nil =>
    cases acc with
    | nil => simp [linesAux, nonBlank, trim, dropCr]
    | cons a acc =>
      have ha : a ≠ '\r' := by simpa using hs
      simp [linesAux, dropCr, ha]
  | cons c s ih =>
    rw [List.cons_append]
    by_cases hc : c = '\n'
    · have hs' : ([] ++ s).getLast? ≠ some '\r' := by
        cases s with
        | nil => simp
        | cons x xs => simpa using hs
      simp only [linesAux, hc, if_true, List.filter_cons, ih [] hs']
    · simp only [linesAux, hc, if_false]
      exact ih (c :: acc) (by simpa using hs)

/-- A trailing newline, and whitespace-only lines after it, add no content
line to a text that does not end in `\r`. -/
theorem contentLines_trailing (s w : List Char) (hs : s.getLast? ≠ some '\r')
    (hw : ∀ c ∈ w, isWhitespace c) : contentLines (s ++ '\n' :: w) = contentLines s := by
  have hnl : contentLines (s ++ ['\n']) = contentLines s :=
    linesAux_append_newline [] s (by simpa using hs)
  rw [show s ++ '\n' :: w = (s ++ ['\n']) ++ w by simp, contentLines_append (.inr (by simp)),
    contentLines_whitespace hw, List.append_nil, hnl]

/-! ## `list_containers` -/

/-- `list_containers` on the output of a successful `nerdctl ps`: its
containers are the decodes of the content lines in order, its error that of the
first content line that does not decode.  Whitespace-only lines inserted at a
line boundary, a trailing newline (and whitespace-only lines after it) on a text
that does not end in `\r`, and CRLF line endings leave the result unchanged. -/
theorem listContainers_lines (decode : String → Except String ContainerInfo) (s stderr : String) :
    (∀ xs, listContainers decode (.ok ⟨true, s, stderr⟩) = .ok xs ↔
      List.Forall₂ (fun l x => decode ⟨l⟩ = .ok x) (contentLines s.data) xs) ∧
    (∀ e, listContainers decode (.ok ⟨true, s, stderr⟩) = .error e ↔
      ∃ pre l post m, contentLines s.data = pre ++ l :: post ∧
        (∀ l' ∈ pre, ∃ x, decode ⟨l'⟩ = .ok x) ∧ decode ⟨l⟩ = .error m ∧ e = .json m) ∧
    (∀ a w b, s.data = a ++ b → (a = [] ∨ a.getLast? = some '\n') →
      (∀ c ∈ w, isWhitespace c) → (w.getLast? = some '\n' ∨ b = []) →
      listContainers decode (.ok ⟨true, ⟨a ++ w ++ b⟩, stderr⟩) =
        listContainers decode (.ok ⟨true, s, stderr⟩)) ∧
    (s.data.getLast? ≠ some '\r' → ∀ w, (∀ c ∈ w, isWhitespace c) →
      listContainers decode (.ok ⟨true, ⟨s.data ++ '\n' :: w⟩, stderr⟩) =
        listContainers decode (.ok ⟨true, s, stderr⟩)) ∧
    listContainers decode (.ok ⟨true, ⟨lfToCrlf none s.data⟩, stderr⟩) =
      listContainers decode (.ok ⟨true, s, stderr⟩) := by
  have hcontent : ∀ l ∈ contentLines s.data, nonBlank l := fun _ hl => (List.mem_filter.mp hl).2
  simp only [listContainers_eq]
  refine ⟨fun xs => ?_, parseContainerLines_eq_error_iff decode _ hcontent [], ?_, ?_, ?_⟩
  · simp [parseContainerLines_eq_ok_iff decode _ hcontent]
  · rintro a w b hs ha hw hwb
    rw [hs, contentLines_insert a w b ha hw hwb]
  · intro hs w hw
    rw [contentLines_trailing s.data w hs hw]
  · rw [contentLines_lfToCrlf]

/-- After a bare `\r` a trailing newline changes the last line, `{\r` becoming
`{`, and `serde_json` reports the end of an unterminated object at the
line's last column, so the error changes with it. -/
theorem listContainers_trailing_cr :
    let serdeEof : String → Except String ContainerInfo :=
      fun l => .error ("EOF while parsing an object at line 1 column " ++ toString l.length)
    listContainers serdeEof (.ok ⟨true, "\x7b\r\n", ""⟩) ≠
      listContainers serdeEof (.ok ⟨true, "\x7b\r", ""⟩) := by
  intro serdeEof h
  have h1 : listContainers serdeEof (.ok ⟨true, "\x7b\r\n", ""⟩) =
      .error (.json "EOF while parsing an object at line 1 column 1") := rfl
  have h2 : listContainers serdeEof (.ok ⟨true, "\x7b\r", ""⟩) =
      .error (.json "EOF while parsing an object at line 1 column 2") := rfl
  rw [h1, h2] at h
  injection h with h
  injection h with h
  exact absurd h (by decide)

/-! ## `get_stats` -/

/-- `get_stats` decodes the first line as `str::lines` gives it, blank or not:
it answers `No stats returned` only on empty output, and after a blank first
line it never reads the rest. -/
theorem getStats_blank_first_line (decode : String → Except String ContainerStats)
    (s stderr : String) :
    (getStats decode (.ok ⟨true, s, stderr⟩) = .error (.containerError "No stats returned") ↔
      s = "") ∧
    getStats decode (.ok ⟨true, "\n" ++ s, stderr⟩) = getStats decode (.ok ⟨true, "\n", stderr⟩) := by
  refine ⟨?_, rfl⟩
  simp only [getStats, if_true]
  cases h : lines s.data with
  | nil => simpa using String.ext ((lines_eq_nil_iff _).mp h)
  | cons l ls =>
    have hs : s ≠ "" := by rintro rfl; cases h
    simp only [hs, iff_false]
    split <;> simp

end AeroAgent.RuntimeManager
