import GrammarWorkbench.Proofs.Highlight.Marks
import GrammarWorkbench.Proofs.Text.Positions

/-!
# Block comments

A comment is scanned line by line. Its first line opens it, and each line after that starts inside
it, up to the line that holds its end. So every line of it has one mark, without the carriage return
at its end, and none if nothing is left of it. Behind the comment a scan goes on as at the start of
a text.
-/

set_option autoImplicit false

namespace GrammarWorkbench.Highlight

open GrammarWorkbench.Text

theorem scanComment_cons {c : Char} {cs : List Char} (h : ¬ (c = '*' ∧ cs.head? = some '/')) :
    scanComment (c :: cs) = (scanComment cs).map (· + 1) := by
  apply scanComment.eq_3
  rintro tail rfl rfl
  exact h ⟨rfl, rfl⟩

theorem scanComment_eq_none {cs : List Char} (h : ¬ ['*', '/'] <:+: cs) :
    scanComment cs = none := by
  induction cs with
  | nil => rfl
  | cons c cs ih =>
    have hrest : ¬ ['*', '/'] <:+: cs := fun hin => h (hin.trans (List.suffix_cons c cs).isInfix)
    rw [scanComment_cons, ih hrest]
    · rfl
    · rintro ⟨rfl, hhead⟩
      obtain ⟨tail, rfl⟩ := List.head?_eq_some_iff.mp hhead
      exact h ⟨[], tail, rfl⟩

theorem scanComment_append {body : List Char} (h : ¬ ['*', '/'] <:+: body) (rest : List Char) :
    scanComment (body ++ '*' :: '/' :: rest) = some (body.length + 2) := by
  induction body with
  | nil => rfl
  | cons c body ih =>
    have hbody : ¬ ['*', '/'] <:+: body := fun hin =>
      h (hin.trans (List.suffix_cons c body).isInfix)
    rw [List.cons_append, scanComment_cons, ih hbody]
    · simp
    · rintro ⟨rfl, hhead⟩
      cases body with
      | nil => cases hhead
      | cons d body =>
        obtain rfl := Option.some.inj hhead
        exact h ⟨[], body, rfl⟩

section Line

variable {k : Cursor}

theorem scanLine_inside (hskip : k.skip = 0) (hstate : k.state = ⟨true, 0⟩) {cs : List Char}
    (h : ¬ ['*', '/'] <:+: cs) :
    scanLine k cs = (markFrom k.start (k.offset + byteLength cs) .comment, ⟨true, 0⟩) := by
  cases cs with
  | nil => simp [scanLine, hstate]
  | cons c cs =>
    rw [scanLine, if_neg (by rw [hskip]; omega), if_pos (by rw [hstate]), scanComment_eq_none h,
      hstate]

theorem scanLine_ending (hskip : k.skip = 0) (hstate : k.state = ⟨true, 0⟩) {body : List Char}
    (h : ¬ ['*', '/'] <:+: body) (hstart : k.start ≤ k.offset) :
    scanLine k (body ++ ['*', '/']) =
      (markFrom k.start (k.offset + byteLength (body ++ ['*', '/'])) .comment, .initial) := by
  obtain ⟨c, cs, htext⟩ : ∃ c cs, body ++ ['*', '/'] = c :: cs :=
    List.exists_cons_of_ne_nil (by simp)
  have hscan := scanComment_append h []
  have hlength : (c :: cs).length = body.length + 2 := by rw [← htext]; simp
  have hpos := length_le_byteLength (c :: cs)
  have hmark : markFrom k.start (k.offset + byteLength (c :: cs)) .comment =
      [⟨k.start, k.offset + byteLength (c :: cs), .comment⟩] := if_pos (by omega)
  rw [htext] at hscan ⊢
  rw [scanLine, if_neg (by rw [hskip]; omega), if_pos (by rw [hstate]), hscan, ← hlength]
  dsimp only
  rw [scanLine_next _ (by simp), List.take_length, List.drop_length, hmark, Cursor.behind,
    List.take_length]
  simp [scanLine, Cursor.pass, hstate, LineState.initial]

end Line

/-- What a line of a comment begins with, and the state it starts in: the sign that opens the
comment, or nothing inside it. -/
inductive Leads : List Char → LineState → Prop
  | opened : Leads ['/', '*'] .initial
  | inside : Leads [] ⟨true, 0⟩

namespace Leads

variable {lead : List Char} {state : LineState}

/-- Behind the sign a line is scanned as inside the comment, with a mark that begins at the sign. -/
theorem exists_cursor (h : Leads lead state) : ∃ k : Cursor, k.skip = 0 ∧ k.state = ⟨true, 0⟩ ∧
    k.start = 0 ∧ k.offset = byteLength lead ∧
    ∀ cs, highlightLine (lead ++ cs) state = scanLine k cs := by
  cases h with
  | opened =>
    refine ⟨Cursor.pass ⟨0, ⟨true, 0⟩, some 0, none, 0⟩ ['/', '*'], rfl, rfl, rfl, rfl, ?_⟩
    intro cs
    rfl
  | inside => exact ⟨⟨0, ⟨true, 0⟩, none, none, 0⟩, rfl, rfl, rfl, rfl, fun cs => rfl⟩

theorem highlightLine_inside (h : Leads lead state) {cs : List Char} (hcs : ¬ ['*', '/'] <:+: cs) :
    highlightLine (lead ++ cs) state =
      (markFrom 0 (byteLength (lead ++ cs)) .comment, ⟨true, 0⟩) := by
  obtain ⟨k, hskip, hstate, hstart, hoffset, hline⟩ := h.exists_cursor
  rw [hline, scanLine_inside hskip hstate hcs, hstart, hoffset, byteLength_append]

theorem highlightLine_ending (h : Leads lead state) {body : List Char}
    (hbody : ¬ ['*', '/'] <:+: body) :
    highlightLine (lead ++ (body ++ ['*', '/'])) state =
      (markFrom 0 (byteLength (lead ++ (body ++ ['*', '/']))) .comment, .initial) := by
  obtain ⟨k, hskip, hstate, hstart, hoffset, hline⟩ := h.exists_cursor
  rw [hline, scanLine_ending hskip hstate hbody (by omega), hstart, hoffset,
    byteLength_append lead]

theorem getLast?_ne (h : Leads lead state) : lead.getLast? ≠ some '\r' := by
  cases h <;> decide

theorem notMem (h : Leads lead state) : '\n' ∉ lead := by
  cases h <;> decide

end Leads

def commentMarks : (offset : Nat) → List (List Char) → List Mark
  | _, [] => []
  | offset, line :: lines =>
    markFrom offset (offset + byteLength (withoutReturn line)) .comment ++
      commentMarks (offset + byteLength line + 1) lines

theorem withoutReturn_of_getLast? {line : List Char} (h : line.getLast? ≠ some '\r') :
    withoutReturn line = line := if_neg h

theorem withoutReturn_append {lead : List Char} (h : lead.getLast? ≠ some '\r') (cs : List Char) :
    withoutReturn (lead ++ cs) = lead ++ withoutReturn cs := by
  cases cs with
  | nil =>
    rw [List.append_nil, withoutReturn_of_getLast? h]
    simp [withoutReturn]
  | cons c cs =>
    have hlast : (lead ++ c :: cs).getLast? = (c :: cs).getLast? :=
      List.getLast?_append_of_ne_nil _ (by simp)
    rw [withoutReturn, withoutReturn, hlast]
    split
    · rw [List.dropLast_append_of_ne_nil (by simp)]
    · rfl

theorem shift_markFrom (start stop : Nat) (kind : MarkKind) (bytes : Nat) :
    (markFrom start stop kind).map (·.shift bytes) =
      markFrom (start + bytes) (stop + bytes) kind := by
  unfold markFrom
  by_cases hlt : start < stop
  · rw [if_pos hlt, if_pos (by omega)]
    rfl
  · rw [if_neg hlt, if_neg (by omega)]
    rfl

theorem highlightLines_shift (offset bytes : Nat) (state : LineState) (lines : List (List Char)) :
    highlightLines (offset + bytes) state lines =
      (highlightLines offset state lines).map (·.shift bytes) := by
  induction lines generalizing offset state with
  | nil => rfl
  | cons line lines ih =>
    have hoffset : offset + bytes + byteLength line + 1 = offset + byteLength line + 1 + bytes := by
      omega
    have hshift (m : Mark) : m.shift (offset + bytes) = (m.shift offset).shift bytes := by
      simp only [Mark.shift, Nat.add_assoc]
    rw [highlightLines_cons, highlightLines_cons, hoffset, ih, List.map_append, List.map_map]
    simp only [hshift, Function.comp_def]

/-- A text that is empty or begins with the end of a line. -/
def AtLineEnd (text : List Char) : Prop :=
  text = [] ∨ ['\n'] <+: text ∨ ['\r', '\n'] <+: text

/-- A line in front of a text that is empty or begins with the end of a line: the line is scanned
on its own, and the text behind it as if it followed an empty line. -/
theorem highlightLines_before {line rest : List Char} (hfeed : '\n' ∉ line)
    (hlast : line.getLast? ≠ some '\r') (hrest : AtLineEnd rest) (offset : Nat)
    (state : LineState) :
    highlightLines offset state (splitLines (line ++ rest)) =
      (highlightLine line state).1.map (·.shift offset) ++
        highlightLines (offset + byteLength line) (highlightLine line state).2
          (splitLines rest) := by
  have hempty (state : LineState) : highlightLine (withoutReturn []) state = ([], state) :=
    highlightLine_nil state
  rcases hrest with rfl | ⟨rest, rfl⟩ | ⟨rest, rfl⟩
  · rw [List.append_nil, splitLines_of_notMem hfeed, highlightLines_cons,
      withoutReturn_of_getLast? hlast, splitLines, highlightLines_cons, hempty]
    simp [highlightLines]
  · rw [List.singleton_append, splitLines_append hfeed, highlightLines_cons,
      withoutReturn_of_getLast? hlast, show '\n' :: rest = [] ++ '\n' :: rest from rfl,
      splitLines_append (by simp), highlightLines_cons, hempty]
    simp
  · have hreturn : '\n' ∉ line ++ ['\r'] := by simp [hfeed]
    have hsplit : line ++ (['\r', '\n'] ++ rest) = (line ++ ['\r']) ++ '\n' :: rest := by simp
    have hsize : '\r'.utf8Size = 1 := rfl
    rw [hsplit, splitLines_append hreturn, highlightLines_cons, withoutReturn_append hlast,
      show withoutReturn ['\r'] = [] from rfl, List.append_nil,
      show ['\r', '\n'] ++ rest = ['\r'] ++ '\n' :: rest from rfl, splitLines_append (by simp),
      highlightLines_cons, show withoutReturn ['\r'] = [] from rfl, highlightLine_nil]
    simp [hsize, Nat.add_assoc]

/-- A line in which the comment does not end, in front of others. -/
theorem highlightLines_open {lead : List Char} {state : LineState} (hlead : Leads lead state)
    {line : List Char} (hfeed : '\n' ∉ line) (hline : ¬ ['*', '/'] <:+: line) (offset : Nat)
    (more : List Char) :
    highlightLines offset state (splitLines (lead ++ line ++ '\n' :: more)) =
      markFrom offset (offset + byteLength (withoutReturn (lead ++ line))) .comment ++
        highlightLines (offset + byteLength (lead ++ line) + 1) ⟨true, 0⟩ (splitLines more) := by
  have hopen : ¬ ['*', '/'] <:+: withoutReturn line := fun hin =>
    hline (hin.trans (withoutReturn_isPrefix line).isInfix)
  rw [splitLines_append (by simp [hlead.notMem, hfeed]), highlightLines_cons,
    withoutReturn_append hlead.getLast?_ne, hlead.highlightLine_inside hopen, shift_markFrom,
    Nat.zero_add, Nat.add_comm (byteLength (lead ++ withoutReturn line))]

/-- The lines of a comment, from its sign or from inside, and what is behind it. -/
theorem highlightLines_comment {lead : List Char} {state : LineState} (hlead : Leads lead state)
    {body rest : List Char} (hbody : ¬ ['*', '/'] <:+: body) (hrest : AtLineEnd rest)
    (offset : Nat) :
    highlightLines offset state (splitLines (lead ++ (body ++ ['*', '/']) ++ rest)) =
      commentMarks offset (splitLines (lead ++ (body ++ ['*', '/']))) ++
        highlightLines (offset + byteLength (lead ++ (body ++ ['*', '/']))) .initial
          (splitLines rest) := by
  induction hn : body.length using Nat.strongRecOn generalizing lead state body offset with
  | _ n ih =>
    by_cases hmem : '\n' ∈ body
    · -- the first line goes on behind its end, and the next one starts inside the comment
      obtain ⟨line, more, rfl, hline⟩ := List.eq_append_cons_of_mem hmem
      have hopen : ¬ ['*', '/'] <:+: line := fun hin =>
        hbody (hin.trans (List.prefix_append _ _).isInfix)
      have hmore : ¬ ['*', '/'] <:+: more := fun hin =>
        hbody (hin.trans ((List.suffix_cons _ _).trans (List.suffix_append _ _)).isInfix)
      have hshorter : more.length < n := by
        rw [List.length_append, List.length_cons] at hn
        omega
      have hrec := ih _ hshorter .inside hmore (offset + byteLength (lead ++ line) + 1) rfl
      have hcomment : lead ++ (line ++ '\n' :: more ++ ['*', '/']) =
          lead ++ line ++ '\n' :: (more ++ ['*', '/']) := by simp
      have hall : lead ++ line ++ '\n' :: (more ++ ['*', '/']) ++ rest =
          lead ++ line ++ '\n' :: (more ++ ['*', '/'] ++ rest) := by simp
      have hlength : offset + byteLength (lead ++ line) + 1 + byteLength (more ++ ['*', '/']) =
          offset + byteLength (lead ++ line ++ '\n' :: (more ++ ['*', '/'])) := by
        rw [byteLength_append (lead ++ line), byteLength_cons, show '\n'.utf8Size = 1 from rfl]
        omega
      rw [List.nil_append, hlength] at hrec
      rw [hcomment, hall, highlightLines_open hlead hline hopen, hrec,
        splitLines_append (by simp [hlead.notMem, hline]), commentMarks, ← List.append_assoc]
    · have hfeed : '\n' ∉ lead ++ (body ++ ['*', '/']) := by
        simp [hlead.notMem, hmem]
      have hlast : (lead ++ (body ++ ['*', '/'])).getLast? ≠ some '\r' := by
        simp [List.getLast?_append]
      rw [highlightLines_before hfeed hlast hrest, hlead.highlightLine_ending hbody,
        splitLines_of_notMem hfeed, commentMarks, commentMarks, withoutReturn_of_getLast? hlast,
        shift_markFrom, Nat.zero_add, List.append_nil, Nat.add_comm offset (byteLength _)]

theorem map_slice?_markFrom (done line rest : List Char) :
    (markFrom (byteLength done) (byteLength done + byteLength (withoutReturn line)) .comment).map
        (fun m => slice? (done ++ (line ++ rest)) m.start m.stop) =
      ([withoutReturn line].filter (· ≠ [])).map some := by
  obtain ⟨tail, htail⟩ := withoutReturn_isPrefix line
  by_cases hempty : withoutReturn line = []
  · simp [hempty, markFrom]
  · have hpos := List.length_pos_iff.mpr hempty
    have hle := length_le_byteLength (withoutReturn line)
    have hslice := slice?_append done (withoutReturn line) (tail ++ rest)
    have htext : done ++ withoutReturn line ++ (tail ++ rest) = done ++ (line ++ rest) := by
      rw [List.append_assoc, ← List.append_assoc _ tail, htail]
    rw [htext, byteLength_append] at hslice
    rw [markFrom, if_pos (by omega)]
    simp [hslice, hempty]

theorem map_slice?_commentMarks (lines : List (List Char)) (done : List Char) :
    (commentMarks (byteLength done) lines).map
        (fun m => slice? (done ++ List.intercalate ['\n'] lines) m.start m.stop) =
      ((lines.map withoutReturn).filter (· ≠ [])).map some := by
  induction lines generalizing done with
  | nil => rfl
  | cons line lines ih =>
    have hsplit : ((line :: lines).map withoutReturn).filter (· ≠ []) =
        [withoutReturn line].filter (· ≠ []) ++ (lines.map withoutReturn).filter (· ≠ []) := by
      rw [List.map_cons, ← List.singleton_append, List.filter_append]
    rw [commentMarks, List.map_append, hsplit, List.map_append]
    cases lines with
    | nil => simpa [commentMarks] using map_slice?_markFrom done line []
    | cons next lines =>
      have hrec := ih (done ++ line ++ ['\n'])
      have hlength : byteLength (done ++ line ++ ['\n']) =
          byteLength done + byteLength line + 1 := by
        rw [byteLength_append, byteLength_append]
        rfl
      have htext : done ++ line ++ ['\n'] ++ List.intercalate ['\n'] (next :: lines) =
          done ++ (line ++ (['\n'] ++ List.intercalate ['\n'] (next :: lines))) := by simp
      rw [hlength, htext] at hrec
      rw [List.intercalate_cons_cons, List.append_assoc line, map_slice?_markFrom, hrec]

/-- A character of a line that is no return at its end is covered by the mark of the line. -/
theorem markFrom_covers {line before left : List Char} {c : Char}
    (hline : line = before ++ c :: left) (hreturn : c = '\r' → left ≠ []) (offset : Nat) :
    ∃ m ∈ markFrom offset (offset + byteLength (withoutReturn line)) .comment,
      m.start ≤ offset + byteLength before ∧ offset + byteLength before < m.stop := by
  have hpos := c.utf8Size_pos
  have hbytes : byteLength line = byteLength before + (c.utf8Size + byteLength left) := by
    rw [hline, byteLength_append, byteLength_cons]
  have hlt : byteLength before < byteLength (withoutReturn line) := by
    rcases withoutReturn_cases line with heq | ⟨heq, -⟩
    · have hlength := congrArg byteLength heq
      rw [byteLength_append, show byteLength ['\r'] = 1 from rfl] at hlength
      have hleft : left ≠ [] := by
        rintro rfl
        have hlast := congrArg List.getLast? (heq.symm.trans hline)
        simp only [List.getLast?_append, List.getLast?_singleton, Option.some_or,
          Option.some.injEq] at hlast
        exact hreturn hlast.symm rfl
      have hsome := List.length_pos_iff.mpr hleft
      have hle := length_le_byteLength left
      omega
    · rw [← heq]
      omega
  refine ⟨⟨offset, offset + byteLength (withoutReturn line), .comment⟩, ?_, ?_, ?_⟩
  · rw [markFrom, if_pos (by omega)]
    exact List.mem_singleton.mpr rfl
  · exact Nat.le_add_right _ _
  · exact Nat.add_lt_add_left hlt offset

/-- The marks of lines cover every character that does not end a line, if there is no return at the
end of the last line. -/
theorem exists_commentMark {lines : List (List Char)} {before behind : List Char} {c : Char}
    (htext : List.intercalate ['\n'] lines = before ++ c :: behind)
    (hlast : (c :: behind).getLast? ≠ some '\r') (hends : ¬ EndsLine c behind) (offset : Nat) :
    ∃ m ∈ commentMarks offset lines,
      m.start ≤ offset + byteLength before ∧ offset + byteLength before < m.stop := by
  induction lines generalizing before offset with
  | nil => simp at htext
  | cons line lines ih =>
    cases lines with
    | nil =>
      have hline : line = before ++ c :: behind := by simpa using htext
      obtain ⟨m, hm, hcovers⟩ := markFrom_covers hline (by rintro rfl rfl; exact hlast rfl) offset
      exact ⟨m, List.mem_append_left _ hm, hcovers⟩
    | cons next lines =>
      rw [List.intercalate_cons_cons, List.append_assoc, List.singleton_append] at htext
      rcases List.append_eq_append_iff.mp htext with ⟨more, rfl, hmore⟩ | ⟨left, hline, hleft⟩
      · cases more with
        | nil => exact absurd (.inl (List.cons.inj hmore).1.symm) hends
        | cons d more =>
          obtain ⟨rfl, htail⟩ := List.cons.inj hmore
          obtain ⟨m, hm, hcovers⟩ := ih htail (offset + byteLength line + 1)
          have hlength : offset + byteLength line + 1 + byteLength more =
              offset + byteLength (line ++ '\n' :: more) := by
            rw [byteLength_append, byteLength_cons, show '\n'.utf8Size = 1 from rfl]
            omega
          rw [hlength] at hcovers
          exact ⟨m, List.mem_append_right _ hm, hcovers⟩
      · cases left with
        | nil => exact absurd (.inl (List.cons.inj hleft).1) hends
        | cons d left =>
          obtain ⟨rfl, rfl⟩ := List.cons.inj hleft
          have hreturn : c = '\r' → left ≠ [] := by
            rintro rfl rfl
            exact hends (.inr ⟨rfl, rfl⟩)
          obtain ⟨m, hm, hcovers⟩ := markFrom_covers hline hreturn offset
          exact ⟨m, List.mem_append_left _ hm, hcovers⟩

theorem commentMarks_kind {lines : List (List Char)} {offset : Nat} :
    ∀ m ∈ commentMarks offset lines, m.kind = .comment := by
  induction lines generalizing offset with
  | nil => simp [commentMarks]
  | cons line lines ih =>
    intro m hm
    rcases List.mem_append.mp hm with hm | hm
    · unfold markFrom at hm
      split at hm
      · rw [List.mem_singleton.mp hm]
      · cases hm
    · exact ih m hm

/-- A block comment whose body does not hold its end, with nothing or the end of a line behind it:
the marks begin with one mark for each line of the comment that is not empty without its end. These
cover exactly the characters of the comment that end no line. The marks behind them are those of the
text behind the comment. -/
theorem highlight_blockComment {body rest : List Char} (hbody : ¬ ['*', '/'] <:+: body)
    (hrest : rest = [] ∨ ['\n'] <+: rest ∨ ['\r', '\n'] <+: rest) :
    let comment := ['/', '*'] ++ body ++ ['*', '/']
    ∃ marks, highlight (comment ++ rest) =
        marks ++ (highlight rest).map (·.shift (byteLength comment)) ∧
      (∀ m ∈ marks, m.kind = .comment) ∧
      marks.map (fun m => slice? comment m.start m.stop) =
        (((splitLines comment).map withoutReturn).filter (· ≠ [])).map some ∧
      ∀ before c behind, comment = before ++ c :: behind →
        ((∃ m ∈ marks, m.start ≤ byteLength before ∧ byteLength before < m.stop) ↔
          ¬ EndsLine c behind) := by
  intro comment
  have hcomment : comment = ['/', '*'] ++ (body ++ ['*', '/']) := by simp [comment]
  have hmarks {rest : List Char} (hrest : AtLineEnd rest) : highlight (comment ++ rest) =
      commentMarks 0 (splitLines comment) ++
        (highlight rest).map (·.shift (byteLength comment)) := by
    rw [highlight, highlight, highlightFrom_eq, highlightFrom_eq, hcomment,
      highlightLines_comment .opened hbody hrest, highlightLines_shift]
  have hown : highlight comment = commentMarks 0 (splitLines comment) := by
    have hnone := hmarks (.inl rfl)
    simpa [highlight, highlightFrom] using hnone
  refine ⟨commentMarks 0 (splitLines comment), hmarks hrest, commentMarks_kind, ?_, ?_⟩
  · have hslices := map_slice?_commentMarks (splitLines comment) []
    rwa [List.nil_append, intercalate_splitLines] at hslices
  · intro before c behind htext
    constructor
    · rintro ⟨m, hm, hcovers⟩ hends
      rw [← hown] at hm
      exact (highlight_cuts comment).endsLine_uncovered hm htext hends hcovers
    · intro hends
      have hlast : (c :: behind).getLast? ≠ some '\r' := by
        have hslash : comment.getLast? = some '/' := List.getLast?_append_of_ne_nil _ (by simp)
        rw [htext, List.getLast?_append_of_ne_nil _ (by simp)] at hslash
        simp [hslash]
      have hlines : List.intercalate ['\n'] (splitLines comment) = before ++ c :: behind := by
        rw [intercalate_splitLines, htext]
      simpa using exists_commentMark hlines hlast hends 0

def starredBody : List Char := "*é\r\n\r\n/ *".toList

def behindComment : List Char := "\r\n;".toList

theorem highlight_blockComment_starred :
    ¬ ['*', '/'] <:+: starredBody ∧ ['\r', '\n'] <+: behindComment ∧
    highlight (['/', '*'] ++ starredBody ++ ['*', '/'] ++ behindComment) =
      [⟨0, 5, .comment⟩, ⟨9, 14, .comment⟩, ⟨16, 17, .delimiter⟩] ∧
    ∃ marks, highlight (['/', '*'] ++ starredBody ++ ['*', '/'] ++ behindComment) =
        marks ++ (highlight behindComment).map (·.shift 14) ∧
      ∀ m ∈ marks, m.kind = .comment := by
  have hbody : ¬ ['*', '/'] <:+: starredBody := by simp [starredBody, List.infix_cons_iff]
  have hrest : ['\r', '\n'] <+: behindComment := ⟨_, rfl⟩
  obtain ⟨marks, hmarks, hkind, -⟩ := highlight_blockComment hbody (.inr (.inr hrest))
  exact ⟨hbody, hrest, by decide +kernel, marks, hmarks, hkind⟩

end GrammarWorkbench.Highlight
