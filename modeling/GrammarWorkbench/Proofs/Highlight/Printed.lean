import GrammarWorkbench.Proofs.Highlight.Marks
import GrammarWorkbench.Proofs.Text.Positions
import GrammarWorkbench.Render.Color

/-!
# Printing a highlighted text

A writer that cuts the text at its marks, one after the other, finds every part it asks for, since
the marks cut the text. What it writes is the highlighted text, and without colours that is the text
with a line feed at its end.
-/

set_option autoImplicit false

namespace GrammarWorkbench.Highlight

open GrammarWorkbench.Text GrammarWorkbench.Render

/-- Writes a text from an offset on by cutting parts out of the whole text at the marks. It fails
where there is no part between two offsets. -/
def writeParts? (before behind : MarkKind → String) (text : List Char) :
    (written : Nat) → List Mark → Option String
  | written, [] => do return String.ofList (← slice? text written (byteLength text))
  | written, m :: ms => do
    let plain ← slice? text written m.start
    let marked ← slice? text m.start m.stop
    let rest ← writeParts? before behind text m.stop ms
    return String.ofList plain ++ before m.kind ++ String.ofList marked ++ behind m.kind ++ rest

theorem splitBytes_append (cs ds : List Char) :
    splitBytes (byteLength cs) (cs ++ ds) = (cs, ds) := by
  induction cs with
  | nil => cases ds <;> simp [splitBytes]
  | cons c cs ih =>
    have hpos := c.utf8Size_pos
    have hne : c.utf8Size + byteLength cs ≠ 0 := by omega
    rw [List.cons_append, splitBytes, byteLength_cons, if_neg hne, Nat.add_sub_cancel_left, ih]

/-- The writer takes the plain text before a mark, the text of the mark and what is behind it. -/
theorem writeMarks_mark (before behind : MarkKind → String) (offset : Nat)
    (plain inside rest : List Char) (kind : MarkKind) (marks : List Mark) :
    writeMarks before behind offset
        (⟨offset + byteLength plain, offset + byteLength (plain ++ inside), kind⟩ :: marks)
        (plain ++ inside ++ rest) =
      String.ofList plain ++ before kind ++ String.ofList inside ++ behind kind ++
        writeMarks before behind (offset + byteLength (plain ++ inside)) marks rest := by
  have hinside : offset + byteLength (plain ++ inside) - (offset + byteLength plain) =
      byteLength inside := by
    rw [byteLength_append]
    omega
  rw [writeMarks, Nat.add_sub_cancel_left, hinside, List.append_assoc, splitBytes_append]
  dsimp only
  rw [splitBytes_append]

/-- Every part that is asked for is there, and what is written is the same. -/
theorem writeParts?_eq (before behind : MarkKind → String) {offset : Nat} {rest : List Char}
    {marks : List Mark} (h : Cuts offset rest marks) {done : List Char}
    (hoffset : offset = byteLength done) :
    writeParts? before behind (done ++ rest) offset marks =
      some (writeMarks before behind offset marks rest) := by
  induction h generalizing done with
  | @none offset rest =>
    subst hoffset
    have hslice := slice?_append done rest []
    rw [List.append_nil] at hslice
    rw [writeParts?, hslice]
    rfl
  | @mark offset plain inside rest kind marks _ _ _ _ ih =>
    subst hoffset
    have hplain := slice?_append done plain (inside ++ rest)
    have hmarked := slice?_append (done ++ plain) inside rest
    have hdone : byteLength done + byteLength (plain ++ inside) =
        byteLength (done ++ (plain ++ inside)) := (byteLength_append _ _).symm
    have hrest := ih hdone
    rw [writeMarks_mark]
    simp only [← List.append_assoc, ← byteLength_append] at hplain hmarked hrest ⊢
    rw [writeParts?, hplain]
    dsimp only
    simp only [hmarked, hrest]
    rfl

theorem writeMarks_plain {offset : Nat} {text : List Char} {marks : List Mark}
    (h : Cuts offset text marks) :
    writeMarks (fun _ => "") (fun _ => "") offset marks text = String.ofList text := by
  induction h with
  | none => rfl
  | mark _ _ _ _ ih =>
    rw [writeMarks_mark, ih]
    simp [String.ofList_append, String.append_assoc]

def opening (colors : Bool) (kind : MarkKind) : String :=
  if colors then (styleOf kind).begin else ""

def closing (colors : Bool) (_ : MarkKind) : String := if colors then reset else ""

/-- The marks of a text are not empty. Each covers a part of the text that holds no end of a line,
and each ends at or before the start of the next one. So cutting the text at the marks never fails
and gives what is written, and without colours that is the text, with a line feed at the end if the
text has none there. -/
theorem highlight_marks_printed (text : List Char) :
    (∀ m ∈ highlight text, m.start < m.stop ∧ Span.PartOf ⟨m.start, m.stop⟩ text ∧
      ∀ before c behind, text = before ++ c :: behind → EndsLine c behind →
        ¬ (m.start ≤ byteLength before ∧ byteLength before < m.stop)) ∧
    (highlight text).Pairwise (fun m m' => m.stop ≤ m'.start) ∧
    (∀ colors, ((writeParts? (opening colors) (closing colors) text 0 (highlight text)).map
        fun written => if text.getLast? = some '\n' then written else written ++ "\n") =
      some (writeHighlighted colors text)) ∧
    writeHighlighted false text =
      String.ofList (if text.getLast? = some '\n' then text else text ++ ['\n']) := by
  have hcuts := highlight_cuts text
  refine ⟨?_, hcuts.pairwise, ?_, ?_⟩
  · intro m hm
    refine ⟨hcuts.start_lt_stop hm, ?_, fun _ _ _ => hcuts.endsLine_uncovered hm⟩
    obtain ⟨before, inside, behind, htext, hstart, hstop, -⟩ := hcuts.of_mem hm
    refine ⟨before, inside, behind, htext, ?_⟩
    rw [hstart, hstop, byteLength_append, Nat.zero_add, Nat.zero_add]
  · intro colors
    have hparts := writeParts?_eq (opening colors) (closing colors) hcuts byteLength_nil.symm
    rw [List.nil_append] at hparts
    rw [hparts]
    rfl
  · have hplain := writeMarks_plain hcuts
    rw [writeHighlighted]
    simp only [Bool.false_eq_true, if_false, hplain]
    split
    · rfl
    · rw [String.ofList_append]

def mixedText : List Char := "/*é\r\n*/x \x7by\n\x7d".toList

theorem mixedText_marks : highlight mixedText =
    [⟨0, 4, .comment⟩, ⟨6, 8, .comment⟩, ⟨8, 9, .parserRule⟩, ⟨10, 12, .action⟩,
      ⟨13, 14, .action⟩] := by decide +kernel

theorem highlight_marks_printed_mixed :
    ⟨0, 4, .comment⟩ ∈ highlight mixedText ∧ Span.PartOf ⟨0, 4⟩ mixedText ∧
    (highlight mixedText).Pairwise (fun m m' => m.stop ≤ m'.start) ∧
    writeHighlighted false mixedText = String.ofList (mixedText ++ ['\n']) := by
  have hmem : ⟨0, 4, .comment⟩ ∈ highlight mixedText := by
    rw [mixedText_marks]
    exact List.mem_cons_self
  obtain ⟨hmarks, hpairwise, -, hplain⟩ := highlight_marks_printed mixedText
  refine ⟨hmem, (hmarks _ hmem).2.1, hpairwise, ?_⟩
  rw [hplain, if_neg (by decide)]

end GrammarWorkbench.Highlight
