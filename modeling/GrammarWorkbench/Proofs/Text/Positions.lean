import GrammarWorkbench.Proofs.Reading.Places
import GrammarWorkbench.Text.LineTable
import Mathlib.Data.List.DropRight
import Mathlib.Data.List.Induction
import Mathlib.Data.Prod.Lex
import Mathlib.Order.Bounds.Basic
import Mathlib.Order.Interval.Set.Basic

/-!
# Positions by counting

The position of an offset is found by walking over the text. It is the one that counting gives: the
line feeds before the nearest boundary and the characters behind the last of them. A table of line
starts leads to the same position without ever failing, and positions are in the order of the
boundaries they belong to.
-/

set_option autoImplicit false

namespace GrammarWorkbench.Text

/-- The walk to an offset ends behind the characters that end at or before it. -/
theorem exists_walked (p : Position) (text : List Char) (offset : Nat) :
    ∃ before behind, text = before ++ behind ∧ byteLength before ≤ offset ∧
      (∀ c ∈ behind.head?, offset < byteLength before + c.utf8Size) ∧
      positionFrom p text offset = before.foldl Position.after p := by
  induction text generalizing p offset with
  | nil => exact ⟨[], [], rfl, Nat.zero_le _, by simp, rfl⟩
  | cons c cs ih =>
    by_cases hc : c.utf8Size ≤ offset
    · obtain ⟨before, behind, hcs, hle, hnext, hwalk⟩ := ih (p.after c) (offset - c.utf8Size)
      refine ⟨c :: before, behind, by rw [hcs, List.cons_append], ?_, ?_, ?_⟩
      · rw [byteLength_cons]
        omega
      · intro d hd
        have hlt := hnext d hd
        rw [byteLength_cons]
        omega
      · rw [positionFrom, if_pos hc, hwalk, List.foldl_cons]
    · refine ⟨[], c :: cs, rfl, Nat.zero_le _, ?_, ?_⟩
      · intro d hd
        obtain rfl := Option.some.inj hd
        rw [byteLength_nil]
        omega
      · rw [positionFrom, if_neg hc, List.foldl_nil]

/-- A boundary of a text with a known part lies in the part or behind the next character. -/
theorem IsBoundary.le_or_next {before behind : List Char} {o : Nat}
    (h : IsBoundary (before ++ behind) o) :
    o ≤ byteLength before ∨ ∃ c ∈ behind.head?, byteLength before + c.utf8Size ≤ o := by
  obtain ⟨before', behind', htext, rfl⟩ := h
  rcases List.append_eq_append_iff.mp htext with ⟨more, rfl, rfl⟩ | ⟨more, rfl, rfl⟩
  · cases more with
    | nil => simp
    | cons c more => exact .inr ⟨c, rfl, by simp⟩
  · simp

def boundariesUpTo (text : List Char) (offset : Nat) : Set Nat :=
  {o | IsBoundary text o ∧ o ≤ min offset (byteLength text)}

theorem isGreatest_walked {before behind : List Char} {offset : Nat}
    (hle : byteLength before ≤ offset)
    (hnext : ∀ c ∈ behind.head?, offset < byteLength before + c.utf8Size) :
    IsGreatest (boundariesUpTo (before ++ behind) offset) (byteLength before) := by
  constructor
  · have hboundary : IsBoundary (before ++ behind) (byteLength before) := ⟨before, behind, rfl, rfl⟩
    exact ⟨hboundary, le_min hle hboundary.le_length⟩
  · rintro o ⟨ho, hup⟩
    rcases ho.le_or_next with hin | ⟨c, hc, hbehind⟩
    · exact hin
    · have hlt := hnext c hc
      have hup' := hup.trans (min_le_left _ _)
      omega

def lastLine (text : List Char) : List Char := text.rtakeWhile (· != '\n')

def linesBefore (text : List Char) : List Char := text.rdropWhile (· != '\n')

theorem linesBefore_append_lastLine (text : List Char) :
    linesBefore text ++ lastLine text = text := List.rdropWhile_append_rtakeWhile

theorem lastLine_feed (text : List Char) : lastLine (text ++ ['\n']) = [] :=
  List.rtakeWhile_concat_neg _ _ _ (by decide)

theorem lastLine_concat (text : List Char) {c : Char} (hc : c ≠ '\n') :
    lastLine (text ++ [c]) = lastLine text ++ [c] :=
  List.rtakeWhile_concat_pos _ _ _ (by simpa using hc)

theorem linesBefore_feed (text : List Char) : linesBefore (text ++ ['\n']) = text ++ ['\n'] :=
  List.rdropWhile_concat_neg _ _ _ (by decide)

theorem linesBefore_concat (text : List Char) {c : Char} (hc : c ≠ '\n') :
    linesBefore (text ++ [c]) = linesBefore text :=
  List.rdropWhile_concat_pos _ _ _ (by simpa using hc)

/-- The position behind a text: its line feeds and the characters of its last line. -/
theorem endPosition_eq (text : List Char) :
    endPosition text = ⟨1 + text.count '\n', 1 + (lastLine text).length⟩ := by
  induction text using List.reverseRecOn with
  | nil => rfl
  | append_singleton text c ih =>
    have hstep : endPosition (text ++ [c]) = (endPosition text).after c := by
      simp [endPosition]
    rw [hstep, ih, Position.after]
    by_cases hc : c = '\n'
    · subst hc
      simp [lastLine_feed, Nat.add_assoc]
    · have hcount : [c].count '\n' = 0 := by simp [hc]
      simp [hc, hcount, lastLine_concat, Nat.add_assoc]

namespace Position

def order (p : Position) : ℕ ×ₗ ℕ := toLex (p.line, p.column)

theorem order_lt_after (p : Position) (c : Char) : p.order < (p.after c).order := by
  rw [order, order, Prod.Lex.toLex_lt_toLex, after]
  by_cases hc : c = '\n'
  · simp [hc]
  · simp [hc]

theorem order_le_foldl (p : Position) (cs : List Char) : p.order ≤ (cs.foldl after p).order := by
  induction cs generalizing p with
  | nil => exact le_refl _
  | cons c cs ih => exact (p.order_lt_after c).le.trans (ih (p.after c))

end Position

/-- The position behind a text is before that behind any longer one. -/
theorem endPosition_order_lt (text : List Char) (c : Char) (more : List Char) :
    (endPosition text).order < (endPosition (text ++ c :: more)).order := by
  have hmore : endPosition (text ++ c :: more) =
      more.foldl Position.after ((endPosition text).after c) := by
    rw [endPosition, List.foldl_append, List.foldl_cons, endPosition]
  rw [hmore]
  exact (Position.order_lt_after _ c).trans_le (Position.order_le_foldl _ more)

theorem strictMonoOn_position (text : List Char) :
    StrictMonoOn (fun o => (position text o).order) {o | IsBoundary text o} := by
  rintro o ⟨before, behind, htext, rfl⟩ o' ⟨before', behind', htext', rfl⟩ hlt
  have hstart : position text (byteLength before) = endPosition before := by
    rw [htext, position_append]
  have hstop : position text (byteLength before') = endPosition before' := by
    rw [htext', position_append]
  simp only [hstart, hstop]
  rcases List.append_eq_append_iff.mp (htext.symm.trans htext') with
    ⟨more, rfl, -⟩ | ⟨more, rfl, -⟩
  · cases more with
    | nil => simp at hlt
    | cons c more => exact endPosition_order_lt before c more
  · rw [byteLength_append] at hlt
    omega

theorem mem_lineStartsFrom {offset o : Nat} {text : List Char}
    (h : o ∈ lineStartsFrom offset text) : offset < o ∧ o ≤ offset + byteLength text := by
  induction text generalizing offset with
  | nil => simp [lineStartsFrom] at h
  | cons c cs ih =>
    have hfeed : '\n'.utf8Size = 1 := rfl
    have hpos := c.utf8Size_pos
    rw [lineStartsFrom] at h
    rw [byteLength_cons]
    by_cases hc : c = '\n'
    · rw [if_pos hc] at h
      subst hc
      rcases List.mem_cons.mp h with rfl | h
      · omega
      · have hbounds := ih h
        omega
    · rw [if_neg hc] at h
      have hbounds := ih h
      omega

theorem lineStartsFrom_append (offset : Nat) (text more : List Char) :
    lineStartsFrom offset (text ++ more) =
      lineStartsFrom offset text ++ lineStartsFrom (offset + byteLength text) more := by
  induction text generalizing offset with
  | nil => rfl
  | cons c cs ih =>
    have hfeed : '\n'.utf8Size = 1 := rfl
    rw [List.cons_append, lineStartsFrom, lineStartsFrom, byteLength_cons]
    by_cases hc : c = '\n'
    · rw [if_pos hc, if_pos hc, ih, hc, hfeed, Nat.add_assoc, List.cons_append]
    · rw [if_neg hc, if_neg hc, ih, Nat.add_assoc]

theorem length_lineStartsFrom (offset : Nat) (text : List Char) :
    (lineStartsFrom offset text).length = text.count '\n' := by
  induction text generalizing offset with
  | nil => rfl
  | cons c cs ih =>
    rw [lineStartsFrom]
    by_cases hc : c = '\n'
    · simp [hc, ih]
    · simp [hc, ih]

/-- The last line of a text starts where the lines before it end. -/
theorem getElem?_lineStarts (text : List Char) :
    (0 :: lineStartsFrom 0 text)[text.count '\n']? = some (byteLength (linesBefore text)) := by
  induction text using List.reverseRecOn with
  | nil => rfl
  | append_singleton text c ih =>
    rw [lineStartsFrom_append, ← List.cons_append]
    by_cases hc : c = '\n'
    · subst hc
      have hfeed : '\n'.utf8Size = 1 := rfl
      have hlength : (0 :: lineStartsFrom 0 text).length = text.count '\n' + 1 := by
        rw [List.length_cons, length_lineStartsFrom]
      rw [linesBefore_feed, List.getElem?_append_right (by simp [hlength])]
      simp [hlength, lineStartsFrom, hfeed]
    · have hcount : (text ++ [c]).count '\n' = text.count '\n' := by simp [hc]
      rw [linesBefore_concat text hc, hcount, List.getElem?_append_left]
      · exact ih
      · rw [List.length_cons, length_lineStartsFrom]
        omega

/-- Halving finds where a condition stops to hold. -/
theorem partitionPoint_eq {holds : Nat → Bool} {front back : List Nat}
    (hfront : ∀ n ∈ front, holds n) (hback : ∀ n ∈ back, ¬ holds n) {lo hi : Nat}
    (hlo : lo ≤ front.length) (hhi : front.length ≤ hi) (hsize : hi ≤ (front ++ back).length) :
    partitionPoint holds (front ++ back).toArray lo hi = front.length := by
  fun_induction partitionPoint holds (front ++ back).toArray lo hi with
  | case1 lo hi hlt middle hany ih =>
    apply ih _ hhi hsize
    -- the condition holds in the middle, so the middle is in the front
    by_contra hmiddle
    have hback' : (front ++ back)[middle]? = back[middle - front.length]? :=
      List.getElem?_append_right (by omega)
    simp only [List.getElem?_toArray, hback', Option.any_eq_true] at hany
    obtain ⟨n, hn, hholds⟩ := hany
    exact hback n (List.mem_of_getElem? hn) hholds
  | case2 lo hi hlt middle hany ih =>
    apply ih hlo _ (by omega)
    by_contra hmiddle
    have hin : middle < front.length := by omega
    simp only [List.getElem?_toArray, List.getElem?_append_left hin,
      List.getElem?_eq_getElem hin] at hany
    exact hany (hfront _ (List.getElem_mem hin))
  | case3 lo hi hge => omega

theorem boundaryBelow_eq {text : List Char} {offset o : Nat}
    (h : IsGreatest {o | IsBoundary text o ∧ o ≤ offset} o) : boundaryBelow text offset = o := by
  induction offset with
  | zero =>
    have hle := h.1.2
    rw [boundaryBelow]
    omega
  | succ offset ih =>
    rw [boundaryBelow]
    by_cases hboundary : IsBoundary text (offset + 1)
    · rw [if_pos hboundary.dropBytes_isSome]
      have hge := h.2 ⟨hboundary, le_refl _⟩
      have hle := h.1.2
      omega
    · have hnone : ¬ (dropBytes? text (offset + 1)).isSome := by
        intro hsome
        obtain ⟨rest, hrest⟩ := Option.isSome_iff_exists.mp hsome
        obtain ⟨before, htext, hoffset⟩ := dropBytes?_eq_some.mp hrest
        exact hboundary ⟨before, rest, htext, hoffset⟩
      rw [if_neg hnone]
      apply ih
      have hne : o ≠ offset + 1 := fun heq => hboundary (heq ▸ h.1.1)
      have hle := h.1.2
      exact ⟨⟨h.1.1, by omega⟩, fun o' ho' => h.2 ⟨ho'.1, by have := ho'.2; omega⟩⟩

theorem slice?_append (before inside behind : List Char) :
    slice? (before ++ inside ++ behind) (byteLength before) (byteLength (before ++ inside)) =
      some inside := by
  have hrest : dropBytes? (before ++ inside ++ behind) (byteLength before) =
      some (inside ++ behind) := dropBytes?_eq_some.mpr ⟨before, by simp, rfl⟩
  have hbehind : dropBytes? (before ++ inside ++ behind) (byteLength (before ++ inside)) =
      some behind := dropBytes?_eq_some.mpr ⟨before ++ inside, rfl, rfl⟩
  rw [slice?, hrest, hbehind]
  simp

theorem LineTable.position?_eq {before behind : List Char} {offset : Nat}
    (h : IsGreatest (boundariesUpTo (before ++ behind) offset) (byteLength before)) :
    (ofText (before ++ behind)).position? offset = some (endPosition before) := by
  have hplace : boundaryBelow (before ++ behind) (min offset (byteLength (before ++ behind))) =
      byteLength before := boundaryBelow_eq h
  have hline : partitionPoint (· ≤ byteLength before)
      (0 :: lineStartsFrom 0 (before ++ behind)).toArray 0
      (0 :: lineStartsFrom 0 (before ++ behind)).toArray.size = before.count '\n' + 1 := by
    have hfront : (0 :: lineStartsFrom 0 before).length = before.count '\n' + 1 := by
      rw [List.length_cons, length_lineStartsFrom]
    rw [lineStartsFrom_append, ← List.cons_append, ← hfront]
    apply partitionPoint_eq
    · intro n hn
      rcases List.mem_cons.mp hn with rfl | hn
      · simp
      · have hbounds := mem_lineStartsFrom hn
        simpa using hbounds.2
    · intro n hn
      have hbounds := mem_lineStartsFrom hn
      simp only [decide_eq_true_eq]
      omega
    · exact Nat.zero_le _
    · simp
    · simp
  have hstart : (0 :: lineStartsFrom 0 (before ++ behind))[before.count '\n']? =
      some (byteLength (linesBefore before)) := by
    rw [lineStartsFrom_append, ← List.cons_append, List.getElem?_append_left]
    · exact getElem?_lineStarts before
    · rw [List.length_cons, length_lineStartsFrom]
      omega
  have hinside : slice? (before ++ behind) (byteLength (linesBefore before)) (byteLength before) =
      some (lastLine before) := by
    have hcut := slice?_append (linesBefore before) (lastLine before) behind
    rwa [linesBefore_append_lastLine] at hcut
  rw [endPosition_eq, position?]
  simp only [ofText, hplace, hline, Nat.add_sub_cancel, List.getElem?_toArray, hstart]
  simp [hinside, Nat.add_comm]

/-- The position of an offset counts the line feeds before the last boundary up to it, and the
characters behind the last of them. The table of lines always leads to it. Positions are in the
order of the boundaries, so no two boundaries have one position. -/
theorem position_counts (text : List Char) :
    (∀ offset, ∃ before behind, text = before ++ behind ∧
      IsGreatest {o | IsBoundary text o ∧ o ≤ min offset (byteLength text)} (byteLength before) ∧
      position text offset =
        ⟨1 + before.count '\n', 1 + (before.rtakeWhile (· != '\n')).length⟩ ∧
      (LineTable.ofText text).position? offset = some (position text offset)) ∧
    endPosition text = position text (byteLength text) ∧
    StrictMonoOn (fun o => toLex ((position text o).line, (position text o).column))
      {o | IsBoundary text o} ∧
    Set.InjOn (position text) {o | IsBoundary text o} := by
  refine ⟨?_, ?_, strictMonoOn_position text, ?_⟩
  · intro offset
    obtain ⟨before, behind, rfl, hle, hnext, hwalk⟩ := exists_walked .first text offset
    have hgreatest := isGreatest_walked hle hnext
    have hposition : position (before ++ behind) offset = endPosition before := hwalk
    refine ⟨before, behind, rfl, hgreatest, ?_, ?_⟩
    · rw [hposition, endPosition_eq, lastLine]
    · rw [hposition, LineTable.position?_eq hgreatest]
  · have hend := position_append text []
    rw [List.append_nil] at hend
    exact hend.symm
  · intro o ho o' ho' heq
    exact (strictMonoOn_position text).injOn ho ho' (congrArg Position.order heq)

/-- The fourth byte is inside the first character of the second line. -/
example : position "a\né=".toList 3 = ⟨2, 1⟩ := by decide

end GrammarWorkbench.Text
