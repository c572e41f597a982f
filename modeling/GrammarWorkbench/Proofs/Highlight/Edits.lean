import Mathlib.Data.List.Induction
import GrammarWorkbench.Highlight.Document
import GrammarWorkbench.Proofs.Highlight.Lines

/-!
# Edited documents

A document that has been edited is the document of its text: every line has the state, the marks
and the end that a scan of the whole text gives it. An edit may stop scanning at a line that
starts in the state it was last scanned from, because the lines behind it were scanned in turn
from there.
-/

set_option autoImplicit false

namespace GrammarWorkbench.Highlight

open GrammarWorkbench.Text

def stateBehind (state : LineState) : List (List Char) → LineState
  | [] => state
  | line :: lines => stateBehind (highlightLine (withoutReturn line) state).2 lines

def entryStates (state : LineState) : List (List Char) → List LineState
  | [] => []
  | line :: lines => state :: entryStates (highlightLine (withoutReturn line) state).2 lines

def scanLines (state : LineState) : List (List Char) → List Line
  | [] => []
  | line :: lines =>
    (Line.fresh line).scan state ::
      scanLines (highlightLine (withoutReturn line) state).2 lines

def changedRun (old new : List LineState) : Nat :=
  ((old.zip new).takeWhile fun p => p.1 != p.2).length

section Scan

variable (state : LineState)

theorem map_text_scanLines (lines : List (List Char)) :
    (scanLines state lines).map (·.text) = lines := by
  induction lines generalizing state with
  | nil => rfl
  | cons line lines ih =>
    rw [scanLines, List.map_cons, ih]
    rfl

theorem map_entry_scanLines (lines : List (List Char)) :
    (scanLines state lines).map (·.entry) = entryStates state lines := by
  induction lines generalizing state with
  | nil => rfl
  | cons line lines ih =>
    rw [scanLines, List.map_cons, ih]
    rfl

theorem length_scanLines (lines : List (List Char)) :
    (scanLines state lines).length = lines.length := by
  have htexts := congrArg List.length (map_text_scanLines state lines)
  rwa [List.length_map] at htexts

theorem scanLines_append (lines more : List (List Char)) :
    scanLines state (lines ++ more) =
      scanLines state lines ++ scanLines (stateBehind state lines) more := by
  induction lines generalizing state with
  | nil => rfl
  | cons line lines ih => rw [List.cons_append, scanLines, scanLines, ih]; rfl

theorem stateBehind_append (lines more : List (List Char)) :
    stateBehind state (lines ++ more) = stateBehind (stateBehind state lines) more := by
  induction lines generalizing state with
  | nil => rfl
  | cons line lines ih => exact ih _

theorem scanLines_take (lines : List (List Char)) (n : Nat) :
    (scanLines state lines).take n = scanLines state (lines.take n) := by
  induction lines generalizing state n with
  | nil => simp [scanLines]
  | cons line lines ih =>
    cases n with
    | zero => rfl
    | succ n => rw [scanLines, List.take_succ_cons, List.take_succ_cons, scanLines, ih]

theorem scanLines_drop (lines : List (List Char)) (n : Nat) :
    (scanLines state lines).drop n =
      scanLines (stateBehind state (lines.take n)) (lines.drop n) := by
  induction lines generalizing state n with
  | nil => simp [scanLines]
  | cons line lines ih =>
    cases n with
    | zero => rfl
    | succ n =>
      rw [scanLines, List.drop_succ_cons, List.drop_succ_cons, List.take_succ_cons, stateBehind,
        ih]

theorem entryStates_drop (lines : List (List Char)) (n : Nat) :
    (entryStates state lines).drop n =
      entryStates (stateBehind state (lines.take n)) (lines.drop n) := by
  rw [← map_entry_scanLines, ← List.map_drop, scanLines_drop, map_entry_scanLines]

theorem exitState_scanLines (lines : List (List Char)) :
    Document.exitState (scanLines .initial lines) = stateBehind .initial lines := by
  induction lines using List.reverseRecOn with
  | nil => rfl
  | append_singleton lines line _ =>
    rw [scanLines_append, stateBehind_append, Document.exitState]
    simp [scanLines, stateBehind, Line.scan, Line.fresh]

theorem marksFrom_scanLines (offset : Nat) (lines : List (List Char)) :
    Document.marksFrom offset (scanLines state lines) = highlightLines offset state lines := by
  induction lines generalizing state offset with
  | nil => rfl
  | cons line lines ih =>
    rw [scanLines, Document.marksFrom, highlightLines_cons, ih]
    rfl

end Scan

section Rescan

theorem rescan_cons (must : Nat) (state : LineState) (l : Line) (ls : List Line) :
    rescan must state (l :: ls) =
      if must = 0 ∧ l.entry = state then (l :: ls, 0)
      else (l.scan state :: (rescan (must - 1) (l.scan state).exit ls).1,
        (rescan (must - 1) (l.scan state).exit ls).2 + 1) := rfl

theorem rescan_fresh (state : LineState) (lines : List (List Char)) (behind : List Line) :
    rescan lines.length state (lines.map Line.fresh ++ behind) =
      (scanLines state lines ++ (rescan 0 (stateBehind state lines) behind).1,
        lines.length + (rescan 0 (stateBehind state lines) behind).2) := by
  induction lines generalizing state with
  | nil => simp [scanLines, stateBehind]
  | cons line lines ih =>
    rw [List.map_cons, List.cons_append, rescan_cons, if_neg (by simp), List.length_cons,
      Nat.add_sub_cancel, show ((Line.fresh line).scan state).exit =
        (highlightLine (withoutReturn line) state).2 from rfl, ih]
    simp only [scanLines, stateBehind, List.cons_append, Prod.mk.injEq, true_and]
    omega

/-- Lines that were scanned in turn before are scanned until one starts in its old state. All of
them are then as if scanned from the new state. -/
theorem rescan_scanned (old state : LineState) (lines : List (List Char)) :
    rescan 0 state (scanLines old lines) =
      (scanLines state lines, changedRun (entryStates old lines) (entryStates state lines)) := by
  induction lines generalizing old state with
  | nil => rfl
  | cons line lines ih =>
    rw [scanLines, rescan_cons]
    by_cases heq : old = state
    · subst heq
      rw [if_pos ⟨rfl, rfl⟩]
      simp [scanLines, entryStates, changedRun]
    · have hentry : ((Line.fresh line).scan old).entry ≠ state := heq
      rw [if_neg fun h => hentry h.2, show ((Line.fresh line).scan old).scan state =
        (Line.fresh line).scan state from rfl, show ((Line.fresh line).scan state).exit =
        (highlightLine (withoutReturn line) state).2 from rfl, ih]
      simp [scanLines, entryStates, changedRun, heq]

end Rescan

namespace Document

theorem ofText_eq (text : List Char) :
    ofText text = ⟨scanLines .initial (splitLines text)⟩ := by
  have hall := rescan_fresh .initial (splitLines text) []
  rw [List.append_nil] at hall
  rw [ofText, freshLines, List.length_map, hall]
  simp [rescan]

theorem text_mk_scanLines (state : LineState) (lines : List (List Char)) :
    text ⟨scanLines state lines⟩ = List.intercalate ['\n'] lines := by
  rw [text, map_text_scanLines]

theorem text_ofText (text : List Char) : (ofText text).text = text := by
  rw [ofText_eq, text_mk_scanLines, intercalate_splitLines]

/-- The marks of a document that has not been edited are those of its text. -/
theorem marks_ofText (text : List Char) : (ofText text).marks = highlight text := by
  rw [ofText_eq, marks, marksFrom_scanLines, highlight, highlightFrom_eq]

end Document

/-- A text with some of its lines replaced: those before `start` and those from `stop` on stay, and
the lines of another text stand between them. -/
def splicedText (text : List Char) (start stop : Nat) (inserted : List Char) : List Char :=
  List.intercalate ['\n']
    ((splitLines text).take start ++ splitLines inserted ++
      (splitLines text).drop (max start stop))

theorem splitLines_splicedText (text : List Char) (start stop : Nat) (inserted : List Char) :
    splitLines (splicedText text start stop inserted) =
      (splitLines text).take start ++ splitLines inserted ++
        (splitLines text).drop (max start stop) := by
  apply splitLines_intercalate
  · simp [splitLines_ne_nil]
  · intro line hline
    rw [List.mem_append, List.mem_append] at hline
    rcases hline with (hline | hline) | hline
    · exact notMem_of_mem_splitLines (List.mem_of_mem_take hline)
    · exact notMem_of_mem_splitLines hline
    · exact notMem_of_mem_splitLines (List.mem_of_mem_drop hline)

theorem entryStates_behind (text : List Char) (start stop : Nat) (inserted : List Char) :
    (entryStates .initial (splitLines (splicedText text start stop inserted))).drop
        (min start (splitLines text).length + (splitLines inserted).length) =
      entryStates (stateBehind .initial ((splitLines text).take start ++ splitLines inserted))
        ((splitLines text).drop (max start stop)) := by
  have hlen : min start (splitLines text).length + (splitLines inserted).length =
      ((splitLines text).take start ++ splitLines inserted).length := by simp
  rw [entryStates_drop, splitLines_splicedText, hlen, List.take_left, List.drop_left]

/-- A splice of the document of a text gives the document of the text with the lines replaced. -/
theorem splice_ofText (text : List Char) (start stop : Nat) (inserted : List Char) :
    (Document.ofText text).splice start stop inserted =
      (.ofText (splicedText text start stop inserted),
        (splitLines inserted).length +
          changedRun ((entryStates .initial (splitLines text)).drop (max start stop))
            ((entryStates .initial (splitLines (splicedText text start stop inserted))).drop
              (min start (splitLines text).length + (splitLines inserted).length))) := by
  have hstop : max (min start (splitLines text).length) (min stop (splitLines text).length) =
      min (max start stop) (splitLines text).length := by omega
  rw [Document.ofText_eq text, Document.splice]
  dsimp only
  -- the range may be cut off at the end of the text, where nothing is left to take or drop
  rw [length_scanLines, hstop, scanLines_take, scanLines_drop, ← List.take_eq_take_min,
    ← List.drop_eq_drop_min, ← List.take_eq_take_min]
  rw [exitState_scanLines, Document.freshLines, List.length_map, rescan_fresh, rescan_scanned]
  rw [← List.append_assoc, ← scanLines_append, ← stateBehind_append, ← scanLines_append]
  rw [entryStates_behind, entryStates_drop, Document.ofText_eq, splitLines_splicedText]

inductive Edit where
  | splice (start stop : Nat) (text : List Char)
  | replaceLine (index : Nat) (text : List Char)

namespace Edit

def start : Edit → Nat
  | splice start _ _ => start
  | replaceLine index _ => index

def stop : Edit → Nat
  | splice _ stop _ => stop
  | replaceLine index _ => index + 1

def inserted : Edit → List Char
  | splice _ _ text => text
  | replaceLine _ text => text

def apply (d : Document) : Edit → Document × Nat
  | splice start stop text => d.splice start stop text
  | replaceLine index text => d.replaceLine index text

def newText (e : Edit) (text : List Char) : List Char :=
  splicedText text e.start e.stop e.inserted

/-- The lines that are put in, and those behind them that start in another state than before. -/
def scanned (e : Edit) (text : List Char) (old : List LineState) : Nat :=
  let new := entryStates .initial (splitLines (e.newText text))
  let behind := min e.start (splitLines text).length + (splitLines e.inserted).length
  (splitLines e.inserted).length + changedRun (old.drop (max e.start e.stop)) (new.drop behind)

/-- An edit of the document of a text gives the document of the new text. -/
theorem apply_ofText (e : Edit) (text : List Char) :
    e.apply (.ofText text) = (.ofText (e.newText text),
      e.scanned text (entryStates .initial (splitLines text))) := by
  cases e with
  | splice start stop inserted => exact splice_ofText text start stop inserted
  | replaceLine index inserted => exact splice_ofText text index (index + 1) inserted

end Edit

def edited (text : List Char) (edits : List Edit) : Document :=
  edits.foldl (fun d e => (e.apply d).1) (.ofText text)

/-- However it was edited, a document is that of the text which the edits lead to. -/
theorem edited_eq (text : List Char) (edits : List Edit) :
    edited text edits = .ofText (edits.foldl (fun text e => e.newText text) text) := by
  rw [edited]
  induction edits generalizing text with
  | nil => rfl
  | cons e edits ih =>
    rw [List.foldl_cons, List.foldl_cons, e.apply_ofText]
    exact ih (e.newText text)

/-- The marks of a document are those of its text, at first and after every edit. An edit replaces
lines of the text, and scans the lines it puts in and as many behind them as start in another
state than they were last scanned from. -/
theorem edits_highlighted (text : List Char) (edits : List Edit) :
    (Document.ofText text).text = text ∧
    (edited text edits).marks = highlight (edited text edits).text ∧
    ∀ e : Edit,
      (e.apply (edited text edits)).1.marks =
        highlight (e.apply (edited text edits)).1.text ∧
      (e.apply (edited text edits)).1.text = e.newText (edited text edits).text ∧
      (e.apply (edited text edits)).2 =
        e.scanned (edited text edits).text ((edited text edits).lines.map (·.entry)) := by
  rw [edited_eq]
  generalize edits.foldl (fun text e => e.newText text) text = t
  have hentries : (Document.ofText t).lines.map (·.entry) =
      entryStates .initial (splitLines t) := by
    rw [Document.ofText_eq]
    exact map_entry_scanLines .initial (splitLines t)
  refine ⟨Document.text_ofText text, ?_, ?_⟩
  · rw [Document.marks_ofText, Document.text_ofText]
  · intro e
    rw [e.apply_ofText, hentries, Document.marks_ofText, Document.text_ofText,
      Document.text_ofText]
    exact ⟨rfl, rfl, rfl⟩

end GrammarWorkbench.Highlight
