import GrammarWorkbench.Highlight.Line

/-!
# Highlighting line by line

Marking a text from its start finds the lines one after the other, while the lines of a document
are cut out beforehand. Both see the same lines. A line feed at the end of a text makes one more
line for the latter, but an empty line has no marks, whatever state it starts in.
-/

set_option autoImplicit false

namespace GrammarWorkbench.Text

theorem splitLines_eq_splitOn (text : List Char) : splitLines text = text.splitOn '\n' := by
  induction text with
  | nil => rfl
  | cons c cs ih =>
    rw [splitLines, List.splitOn_cons_eq_if_modifyHead, ← ih]
    by_cases hc : c = '\n'
    · simp [hc]
    · simp only [hc, if_false, beq_iff_eq]
      split
      · rename_i hnil
        rw [ih] at hnil
        exact absurd hnil (List.splitOn_ne_nil '\n' cs)
      · rename_i hcons
        rw [hcons, List.modifyHead_cons]

theorem splitLines_ne_nil (text : List Char) : splitLines text ≠ [] := by
  rw [splitLines_eq_splitOn]
  exact List.splitOn_ne_nil '\n' text

theorem intercalate_splitLines (text : List Char) :
    List.intercalate ['\n'] (splitLines text) = text := by
  rw [splitLines_eq_splitOn]
  exact List.intercalate_splitOn '\n'

theorem splitLines_intercalate {lines : List (List Char)} (hne : lines ≠ [])
    (hlines : ∀ l ∈ lines, '\n' ∉ l) : splitLines (List.intercalate ['\n'] lines) = lines := by
  rw [splitLines_eq_splitOn]
  exact List.splitOn_intercalate '\n' hlines hne

theorem splitLines_of_notMem {line : List Char} (h : '\n' ∉ line) : splitLines line = [line] := by
  have hjoin : splitLines (List.intercalate ['\n'] [line]) = [line] :=
    splitLines_intercalate (by simp) (by simpa using h)
  simpa using hjoin

theorem splitLines_append {line : List Char} (h : '\n' ∉ line) (rest : List Char) :
    splitLines (line ++ '\n' :: rest) = line :: splitLines rest := by
  induction line with
  | nil => simp [splitLines]
  | cons c cs ih =>
    have hc : c ≠ '\n' := fun heq => h (by simp [heq])
    rw [List.cons_append, splitLines, if_neg hc, ih fun hmem => h (List.mem_cons_of_mem _ hmem)]

theorem notMem_of_mem_splitLines {text line : List Char} (h : line ∈ splitLines text) :
    '\n' ∉ line := by
  induction text generalizing line with
  | nil =>
    simp only [splitLines, List.mem_singleton] at h
    simp [h]
  | cons c cs ih =>
    rw [splitLines] at h
    by_cases hc : c = '\n'
    · rw [if_pos hc] at h
      rcases List.mem_cons.mp h with rfl | h
      · simp
      · exact ih h
    · rw [if_neg hc] at h
      obtain ⟨first, more, hcs⟩ := List.exists_cons_of_ne_nil (splitLines_ne_nil cs)
      rw [hcs] at h ih
      rcases List.mem_cons.mp h with rfl | h
      · have hfirst : '\n' ∉ first := ih List.mem_cons_self
        simp [hfirst, Ne.symm hc]
      · exact ih (List.mem_cons_of_mem _ h)

end GrammarWorkbench.Text

namespace GrammarWorkbench.Highlight

open GrammarWorkbench.Text

def highlightLines (offset : Nat) (state : LineState) : List (List Char) → List Mark
  | [] => []
  | line :: lines =>
    let (marks, state') := highlightLine (withoutReturn line) state
    marks.map (·.shift offset) ++ highlightLines (offset + byteLength line + 1) state' lines

theorem highlightLines_cons (offset : Nat) (state : LineState) (line : List Char)
    (lines : List (List Char)) : highlightLines offset state (line :: lines) =
      (highlightLine (withoutReturn line) state).1.map (·.shift offset) ++
        highlightLines (offset + byteLength line + 1) (highlightLine (withoutReturn line) state).2
          lines := rfl

theorem highlightLine_nil (state : LineState) : highlightLine [] state = ([], state) := by
  simp [highlightLine, scanLine, markFrom, Cursor.start]

theorem highlightFrom_cons (offset : Nat) (state : LineState) (c : Char) (cs line : List Char)
    (hline : (c :: cs).takeWhile (· != '\n') = line) : highlightFrom 0 offset state (c :: cs) =
      (highlightLine (withoutReturn line) state).1.map (·.shift offset) ++
        highlightFrom line.length (offset + c.utf8Size)
          (highlightLine (withoutReturn line) state).2 cs := by
  subst hline
  rfl

theorem highlightFrom_skip (skip offset : Nat) (state : LineState) (text : List Char) :
    highlightFrom skip offset state text =
      highlightFrom 0 (offset + byteLength (text.take skip)) state (text.drop skip) := by
  induction text generalizing skip offset with
  | nil => cases skip <;> simp [highlightFrom]
  | cons c cs ih =>
    cases skip with
    | zero => simp
    | succ skip =>
      rw [highlightFrom, ih]
      simp [Nat.add_assoc]

/-- A text that is not empty begins with a line, which is all of it or ends at a line feed. -/
theorem line_cases (c : Char) (cs : List Char) :
    '\n' ∉ (c :: cs).takeWhile (· != '\n') ∧
      ((c :: cs).takeWhile (· != '\n') = c :: cs ∨
        ∃ rest, c :: cs = (c :: cs).takeWhile (· != '\n') ++ '\n' :: rest) := by
  constructor
  · intro hmem
    have hall := List.all_takeWhile (p := (· != '\n')) (l := c :: cs)
    rw [List.all_eq_true] at hall
    simpa using hall _ hmem
  · have hcut := List.takeWhile_append_dropWhile (p := (· != '\n')) (l := c :: cs)
    cases hdrop : (c :: cs).dropWhile (· != '\n') with
    | nil =>
      rw [hdrop, List.append_nil] at hcut
      exact Or.inl hcut
    | cons d rest =>
      have hd : d = '\n' := by
        have hhead := List.head?_dropWhile_not (· != '\n') (c :: cs)
        rw [hdrop] at hhead
        simpa using hhead
      rw [hdrop, hd] at hcut
      exact Or.inr ⟨rest, hcut.symm⟩

/-- Marking a text from its start is marking its lines. -/
theorem highlightFrom_eq (text : List Char) (offset : Nat) (state : LineState) :
    highlightFrom 0 offset state text = highlightLines offset state (splitLines text) := by
  induction hn : text.length using Nat.strongRecOn generalizing text offset state with
  | _ n ih =>
    cases text with
    | nil => simp [highlightFrom, splitLines, highlightLines, withoutReturn, highlightLine_nil]
    | cons c cs =>
      obtain ⟨hline, hrest⟩ := line_cases c cs
      generalize hfirst : (c :: cs).takeWhile (· != '\n') = line at hline hrest
      rw [highlightFrom_cons _ _ _ _ _ hfirst, highlightFrom_skip]
      rcases hrest with rfl | ⟨rest, hrest⟩
      · -- the line is all there is
        have hdrop : cs.drop (c :: cs).length = [] := by simp
        rw [hdrop, splitLines_of_notMem hline, highlightFrom, highlightLines_cons, highlightLines]
      · have hdrop : cs.drop line.length = rest := by
          have hcut := congrArg (List.drop (line.length + 1)) hrest
          simpa using hcut
        have htake : c.utf8Size + byteLength (cs.take line.length) = byteLength line + 1 := by
          have hcut := congrArg (fun text => byteLength (text.take (line.length + 1))) hrest
          have hlast : '\n'.utf8Size = 1 := rfl
          simpa [List.take_append, List.take_of_length_le, hlast] using hcut
        have hlen : rest.length < n := by
          have hcut := congrArg List.length hrest
          simp only [List.length_append, List.length_cons] at hcut hn
          omega
        rw [hrest, splitLines_append hline, highlightLines_cons, hdrop, Nat.add_assoc, htake,
          ih _ hlen rest _ _ rfl, Nat.add_assoc]

end GrammarWorkbench.Highlight
