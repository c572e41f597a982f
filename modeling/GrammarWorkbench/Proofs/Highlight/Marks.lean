import GrammarWorkbench.Proofs.Highlight.Lines
import GrammarWorkbench.Proofs.Reading.Places

/-!
# Marks cut a text

The marks of a text follow one another from the left, with text between them that stays as it is.
None of them is empty, each begins and ends between two characters, and none holds the end of a
line. This is so for the scan of a line, where a mark begins at the place that opened a comment or
an action, and from there for all lines.
-/

set_option autoImplicit false

namespace GrammarWorkbench.Text

/-- A character that starts in a part of a text belongs to the part. -/
theorem exists_inside {before behind before' inside behind' : List Char} {c : Char}
    (htext : before ++ c :: behind = before' ++ inside ++ behind')
    (hstart : byteLength before' ≤ byteLength before)
    (hstop : byteLength before < byteLength (before' ++ inside)) :
    ∃ left right, before = before' ++ left ∧ inside = left ++ c :: right ∧
      behind = right ++ behind' := by
  have hpos := c.utf8Size_pos
  have hlonger : ∃ left, before = before' ++ left := by
    rw [List.append_assoc] at htext
    rcases List.append_eq_append_iff.mp htext with ⟨more, rfl, hmore⟩ | ⟨left, rfl, -⟩
    · cases more with
      | nil => exact ⟨[], by simp⟩
      | cons d more =>
        have hd := d.utf8Size_pos
        rw [byteLength_append, byteLength_cons] at hstart
        omega
    · exact ⟨left, rfl⟩
  obtain ⟨left, rfl⟩ := hlonger
  rw [List.append_assoc, List.append_assoc, List.append_cancel_left_eq] at htext
  rw [byteLength_append, byteLength_append, Nat.add_lt_add_iff_left] at hstop
  rcases List.append_eq_append_iff.mp htext with ⟨right, rfl, hright⟩ | ⟨more, rfl, -⟩
  · cases right with
    | nil =>
      rw [List.append_nil] at hstop
      omega
    | cons d right =>
      obtain ⟨rfl, rfl⟩ := List.cons.inj hright
      exact ⟨left, right, rfl, rfl, rfl⟩
  · rw [byteLength_append] at hstop
    omega

end GrammarWorkbench.Text

namespace GrammarWorkbench.Highlight

open GrammarWorkbench.Text

/-- A character with what is behind it ends a line: it is a line feed, or a carriage return right
before one. -/
def EndsLine (c : Char) (behind : List Char) : Prop :=
  c = '\n' ∨ c = '\r' ∧ behind.head? = some '\n'

/-- Marks that cut a text, which starts at an offset, from the left. What they cover holds no end
of a line. -/
inductive Cuts : Nat → List Char → List Mark → Prop
  | none {offset : Nat} {text : List Char} : Cuts offset text []
  | mark {offset : Nat} {before inside behind : List Char} {kind : MarkKind} {marks : List Mark}
      (hne : inside ≠ []) (hfeed : '\n' ∉ inside)
      (hreturn : inside.getLast? = some '\r' → behind.head? ≠ some '\n')
      (hrest : Cuts (offset + byteLength (before ++ inside)) behind marks) :
      Cuts offset (before ++ inside ++ behind)
        (⟨offset + byteLength before, offset + byteLength (before ++ inside), kind⟩ :: marks)

namespace Cuts

theorem behind {offset : Nat} {text : List Char} {marks : List Mark} (before : List Char)
    (h : Cuts (offset + byteLength before) text marks) : Cuts offset (before ++ text) marks := by
  cases h with
  | none => exact .none
  | @mark _ before' inside behind kind marks hne hfeed hreturn hrest =>
    have hoffset (more : List Char) :
        offset + byteLength before + byteLength more = offset + byteLength (before ++ more) := by
      rw [byteLength_append, Nat.add_assoc]
    rw [hoffset] at hrest
    rw [hoffset, hoffset]
    simp only [← List.append_assoc] at hrest ⊢
    exact .mark hne hfeed hreturn hrest

/-- The marks of a text and those of the text behind it. A carriage return and the line feed that
it stands before may not be parted. -/
theorem append {offset : Nat} {text more : List Char} {marks marks' : List Mark}
    (h : Cuts offset text marks) (hmore : Cuts (offset + byteLength text) more marks')
    (hseam : text.getLast? = some '\r' → more.head? ≠ some '\n') :
    Cuts offset (text ++ more) (marks ++ marks') := by
  induction h with
  | none => exact hmore.behind _
  | @mark offset before inside behind kind marks hne hfeed hreturn hrest ih =>
    rw [List.append_assoc (before ++ inside)]
    refine .mark hne hfeed ?_ (ih ?_ ?_)
    · intro hlast
      cases behind with
      | nil => exact hseam (by simp [List.getLast?_append, hlast])
      | cons c behind => exact hreturn hlast
    · rwa [byteLength_append (before ++ inside), ← Nat.add_assoc] at hmore
    · intro hlast
      exact hseam (by simp [List.getLast?_append, hlast])

theorem shift {offset : Nat} {text : List Char} {marks : List Mark} (h : Cuts offset text marks)
    (bytes : Nat) : Cuts (offset + bytes) text (marks.map (·.shift bytes)) := by
  induction h with
  | none => exact .none
  | @mark offset before inside behind kind marks hne hfeed hreturn hrest ih =>
    have hoffset (n : Nat) : offset + n + bytes = offset + bytes + n := by omega
    rw [List.map_cons, Mark.shift, hoffset, hoffset]
    rw [hoffset] at ih
    exact .mark hne hfeed hreturn ih

theorem first {offset stop : Nat} {inside behind : List Char} {kind : MarkKind} {marks : List Mark}
    (hne : inside ≠ []) (hfeed : '\n' ∉ inside ++ behind)
    (hstop : stop = offset + byteLength inside) (hrest : Cuts stop behind marks) :
    Cuts offset (inside ++ behind) (⟨offset, stop, kind⟩ :: marks) := by
  subst hstop
  rw [List.mem_append, not_or] at hfeed
  refine @Cuts.mark offset [] inside behind kind marks hne hfeed.1 ?_ hrest
  intro _ hhead
  exact hfeed.2 (List.mem_of_head? hhead)

/-- A mark over a whole text without line feeds, if the text is not empty. -/
theorem markFrom {offset stop : Nat} {text : List Char} (kind : MarkKind) (hfeed : '\n' ∉ text)
    (hstop : stop = offset + byteLength text) : Cuts offset text (markFrom offset stop kind) := by
  unfold Highlight.markFrom
  split
  · have hne : text ≠ [] := by
      rintro rfl
      rw [byteLength_nil] at hstop
      omega
    have hwhole : Cuts offset (text ++ []) [⟨offset, stop, kind⟩] :=
      first hne (by simpa) hstop .none
    rwa [List.append_nil] at hwhole
  · exact .none

theorem of_mem {offset : Nat} {text : List Char} {marks : List Mark} (h : Cuts offset text marks)
    {m : Mark} (hm : m ∈ marks) : ∃ before inside behind, text = before ++ inside ++ behind ∧
      m.start = offset + byteLength before ∧ m.stop = offset + byteLength (before ++ inside) ∧
      inside ≠ [] ∧ '\n' ∉ inside ∧
      (inside.getLast? = some '\r' → behind.head? ≠ some '\n') := by
  induction h with
  | none => cases hm
  | @mark offset before inside behind kind marks hne hfeed hreturn hrest ih =>
    rcases List.mem_cons.mp hm with rfl | hm
    · exact ⟨before, inside, behind, rfl, rfl, rfl, hne, hfeed, hreturn⟩
    · obtain ⟨before', inside', behind', rfl, hstart, hstop, hcovered⟩ := ih hm
      refine ⟨before ++ inside ++ before', inside', behind', by simp, ?_, ?_, hcovered⟩
      · rw [hstart, byteLength_append (before ++ inside), Nat.add_assoc]
      · rw [hstop, List.append_assoc (before ++ inside), byteLength_append (before ++ inside),
          Nat.add_assoc]

theorem start_lt_stop {offset : Nat} {text : List Char} {marks : List Mark}
    (h : Cuts offset text marks) {m : Mark} (hm : m ∈ marks) : m.start < m.stop := by
  obtain ⟨before, inside, behind, -, hstart, hstop, hne, -⟩ := h.of_mem hm
  have hpos := List.length_pos_iff.mpr hne
  have hle := length_le_byteLength inside
  rw [hstart, hstop, byteLength_append]
  omega

theorem pairwise {offset : Nat} {text : List Char} {marks : List Mark}
    (h : Cuts offset text marks) : marks.Pairwise fun m m' => m.stop ≤ m'.start := by
  induction h with
  | none => exact .nil
  | mark _ _ _ hrest ih =>
    refine .cons ?_ ih
    intro m hm
    obtain ⟨before, inside, behind, -, hstart, -⟩ := hrest.of_mem hm
    rw [hstart]
    exact Nat.le_add_right _ _

theorem endsLine_uncovered {text : List Char} {marks : List Mark} (h : Cuts 0 text marks) {m : Mark}
    (hm : m ∈ marks) {before behind : List Char} {c : Char} (htext : text = before ++ c :: behind)
    (hends : EndsLine c behind) : ¬ (m.start ≤ byteLength before ∧ byteLength before < m.stop) := by
  rintro ⟨hstart, hstop⟩
  obtain ⟨before', inside, behind', htext', hstart', hstop', -, hfeed, hreturn⟩ := h.of_mem hm
  rw [hstart', Nat.zero_add] at hstart
  rw [hstop', Nat.zero_add] at hstop
  obtain ⟨left, right, -, hinside, hbehind⟩ :=
    exists_inside (htext.symm.trans htext') hstart hstop
  rcases hends with rfl | ⟨rfl, hhead⟩
  · exact hfeed (by simp [hinside])
  · rw [hbehind] at hhead
    cases right with
    | nil => exact hreturn (by simp [hinside]) hhead
    | cons d right =>
      obtain rfl := Option.some.inj hhead
      exact hfeed (by simp [hinside])

end Cuts

theorem quotedLength_le (close : Char) (cs : List Char) : quotedLength close cs ≤ cs.length := by
  fun_induction quotedLength close cs with
  | case1 => exact Nat.le_refl _
  | case2 => simp
  | case3 => simp
  | case4 => simp only [List.length_cons]; omega
  | case5 => simp
  | case6 => simp only [List.length_cons]; omega

theorem isWordChar_of_starts {c : Char} (h : c.isAlpha || c == '_') : isWordChar c := by
  rcases Bool.or_eq_true_iff.mp h with halpha | hline
  · have hlt : c.toNat < 128 := by
      rcases Bool.or_eq_true_iff.mp halpha with hcase | hcase
      · have hle : c.val ≤ 90 := (of_decide_eq_true hcase).2
        exact Nat.lt_of_le_of_lt hle (by decide)
      · have hle : c.val ≤ 122 := of_decide_eq_true (Bool.and_eq_true_iff.mp hcase).2
        exact Nat.lt_of_le_of_lt hle (by decide)
    rw [isWordChar, if_pos hlt, Char.isAlphanum, halpha]
    rfl
  · rw [beq_iff_eq.mp hline]
    decide

theorem word?_used {before : Option Char} {cs : List Char} {l : Lexeme} {used : Nat}
    (h : word? before cs = some (l, used)) : 0 < used ∧ used ≤ cs.length := by
  cases cs with
  | nil => cases h
  | cons c cs =>
    rw [word?] at h
    split at h
    · rename_i hstarts
      obtain ⟨-, rfl⟩ := Prod.mk.inj (Option.some.inj h)
      have hword := isWordChar_of_starts (Bool.and_eq_true_iff.mp hstarts).1
      rw [List.takeWhile_cons_of_pos hword, List.length_cons, List.length_cons]
      have hle := (List.takeWhile_prefix isWordChar (l := cs)).length_le
      omega
    · cases h

/-- What is found takes at least one character, and no more than there are. -/
theorem lexeme?_used {before : Option Char} {cs : List Char} {l : Lexeme} {used : Nat}
    (h : lexeme? before cs = some (l, used)) : 0 < used ∧ used ≤ cs.length := by
  unfold lexeme? at h
  split at h
  case h_1 cs =>
    obtain ⟨-, rfl⟩ := Prod.mk.inj (Option.some.inj h)
    have hle := (List.takeWhile_prefix (fun c => c != '\r' && c != '\n') (l := cs)).length_le
    simp only [List.length_cons]
    omega
  case h_3 cs =>
    obtain ⟨-, rfl⟩ := Prod.mk.inj (Option.some.inj h)
    have hle := quotedLength_le '\'' cs
    simp only [List.length_cons]
    omega
  case h_4 cs =>
    obtain ⟨-, rfl⟩ := Prod.mk.inj (Option.some.inj h)
    have hle := quotedLength_le ']' cs
    simp only [List.length_cons]
    omega
  case h_9 =>
    split at h
    · cases h; simp
    · split at h
      · cases h; simp
      · exact word?_used h
  case h_10 => cases h
  all_goals cases h; simp

theorem scanAction_used {quote : Option Char} {escaped : Bool} {depth used : Nat}
    {cs : List Char} (h : (scanAction quote escaped depth cs).1 = some used) :
    0 < used ∧ used ≤ cs.length := by
  have hfurther {r : Option Nat} {n k : Nat}
      (hr : ∀ {used}, r = some used → 0 < used ∧ used ≤ n)
      (hused : r.map (· + 1) = some k) : 0 < k ∧ k ≤ n + 1 := by
    obtain ⟨m, hm, rfl⟩ := Option.map_eq_some_iff.mp hused
    have hle := hr hm
    omega
  fun_induction scanAction quote escaped depth cs generalizing used with
  | case1 => cases h
  | case8 =>
    cases h
    simp
  | _ =>
    rename_i ih
    exact hfurther ih h

theorem scanComment_used {cs : List Char} {used : Nat} (h : scanComment cs = some used) :
    0 < used ∧ used ≤ cs.length := by
  fun_induction scanComment cs generalizing used with
  | case1 => cases h
  | case2 => cases h; simp
  | case3 c cs hne ih =>
    obtain ⟨n, hn, rfl⟩ := Option.map_eq_some_iff.mp h
    have hle := ih hn
    simp only [List.length_cons]
    omega

namespace LineState

def IsOpen (state : LineState) : Prop := state.inComment ∨ 0 < state.actionDepth

end LineState

namespace Cursor

def pass (k : Cursor) (cs : List Char) : Cursor :=
  { k with skip := 0, before := cs.getLast?.or k.before, offset := k.offset + byteLength cs }

/-- A cursor in a line, in which `held` has been passed since a comment or an action was opened. -/
structure Holds (k : Cursor) (held : List Char) : Prop where
  skip : k.skip = 0
  offset : k.offset = k.start + byteLength held
  opened : k.opened.isSome → k.state.IsOpen

/-- Outside comments and actions nothing was opened and nothing is held. -/
theorem Holds.outside {k : Cursor} {held : List Char} (h : k.Holds held)
    (hclosed : ¬ k.state.IsOpen) : k.opened = none ∧ k.start = k.offset ∧ held = [] := by
  have hnone : k.opened = none := by
    cases hopened : k.opened with
    | none => rfl
    | some o => exact absurd (h.opened (by simp [hopened])) hclosed
  have hstart : k.start = k.offset := by rw [start, hnone, Option.getD_none]
  have hoffset := h.offset
  have hlength := length_le_byteLength held
  rw [hstart] at hoffset
  exact ⟨hnone, hstart, List.length_eq_zero_iff.mp (by omega)⟩

theorem start_pass {k : Cursor} {cs : List Char} (h : k.opened = none) :
    (k.pass cs).start = k.offset + byteLength cs := by
  rw [start, pass, h, Option.getD_none]

/-- Behind characters nothing is held if nothing was opened on the line. -/
theorem holds_pass {k : Cursor} (cs : List Char) (h : k.opened = none) : (k.pass cs).Holds [] where
  skip := rfl
  offset := by rw [start_pass h, byteLength_nil, Nat.add_zero, pass]
  opened := by simp [pass, h]

theorem holds_opened {k : Cursor} (cs : List Char) (h : k.opened = some k.offset)
    (hopen : k.state.IsOpen) : (k.pass cs).Holds cs where
  skip := rfl
  offset := by simp [pass, start, h]
  opened := fun _ => hopen

end Cursor

theorem scanLine_skip (k : Cursor) (cs rest : List Char) (h : k.skip = cs.length) :
    scanLine k (cs ++ rest) = scanLine (k.pass cs) rest := by
  induction cs generalizing k with
  | nil =>
    obtain ⟨skip, state, opened, before, offset⟩ := k
    obtain rfl : skip = 0 := h
    rfl
  | cons c cs ih =>
    have hpos : 0 < k.skip := by
      rw [h]
      exact Nat.succ_pos _
    have hskip : (k.next c (k.skip - 1)).skip = cs.length := by
      rw [Cursor.next, h, List.length_cons, Nat.add_sub_cancel]
    have hpass : (k.next c (k.skip - 1)).pass cs = k.pass (c :: cs) := by
      cases cs <;> simp [Cursor.pass, Cursor.next, Nat.add_assoc, List.getLast?_cons]
    rw [List.cons_append, scanLine, if_pos hpos, ih _ hskip, hpass]

theorem scanLine_next (k : Cursor) {c : Char} {cs : List Char} {used : Nat}
    (hused : 0 < used ∧ used ≤ (c :: cs).length) : scanLine (k.next c (used - 1)) cs =
      scanLine (k.pass ((c :: cs).take used)) ((c :: cs).drop used) := by
  obtain ⟨n, rfl⟩ : ∃ n, used = n + 1 := ⟨used - 1, by omega⟩
  have hle := hused.2
  rw [List.length_cons] at hle
  have hlength : (cs.take n).length = n := List.length_take_of_le (by omega)
  have hpass : (k.next c n).pass (cs.take n) = k.pass (c :: cs.take n) := by
    cases cs.take n <;> simp [Cursor.pass, Cursor.next, Nat.add_assoc, List.getLast?_cons]
  have hskip := scanLine_skip (k.next c n) (cs.take n) (cs.drop n) (by rw [hlength]; rfl)
  rw [List.take_append_drop] at hskip
  rw [Nat.add_sub_cancel, List.take_succ_cons, List.drop_succ_cons, hskip, hpass]

inductive ScanStep (k : Cursor) (text : List Char) : List Mark → Prop
  | goOn (kind : MarkKind) (hopen : k.state.IsOpen) :
    ScanStep k text (markFrom k.start (k.offset + byteLength text) kind)
  | close {used : Nat} (kind : MarkKind) (state : LineState) (hopen : k.state.IsOpen)
      (hused : 0 < used ∧ used ≤ text.length) :
    ScanStep k text (⟨k.start, k.behind text used, kind⟩ ::
      (scanLine (Cursor.pass { k with opened := none, state := state } (text.take used))
        (text.drop used)).1)
  | opening {used : Nat} (state : LineState) (hclosed : ¬ k.state.IsOpen) (hopen : state.IsOpen)
      (hused : 0 < used ∧ used ≤ text.length) :
    ScanStep k text
      (scanLine (Cursor.pass { k with opened := some k.offset, state := state } (text.take used))
        (text.drop used)).1
  | found {used : Nat} (kind : MarkKind) (hclosed : ¬ k.state.IsOpen)
      (hused : 0 < used ∧ used ≤ text.length) :
    ScanStep k text (⟨k.offset, k.behind text used, kind⟩ ::
      (scanLine (k.pass (text.take used)) (text.drop used)).1)
  | pass {used : Nat} (hclosed : ¬ k.state.IsOpen) (hused : 0 < used ∧ used ≤ text.length) :
    ScanStep k text (scanLine (k.pass (text.take used)) (text.drop used)).1

theorem scanLine_step {k : Cursor} (hskip : k.skip = 0) (c : Char) (cs : List Char) :
    ScanStep k (c :: cs) (scanLine k (c :: cs)).1 := by
  rw [scanLine, if_neg (by rw [hskip]; omega)]
  by_cases hcomment : k.state.inComment
  · have hopen : k.state.IsOpen := .inl hcomment
    rw [if_pos hcomment]
    cases hscan : scanComment (c :: cs) with
    | none => exact .goOn _ hopen
    | some used =>
      have hused := scanComment_used hscan
      dsimp only
      rw [scanLine_next _ hused]
      exact .close _ _ hopen hused
  · rw [if_neg hcomment]
    by_cases haction : 0 < k.state.actionDepth
    · have hopen : k.state.IsOpen := .inr haction
      rw [if_pos haction]
      rcases hscan : scanAction none false k.state.actionDepth (c :: cs) with ⟨_ | used, depth⟩
      · exact .goOn _ hopen
      · have hused := scanAction_used (congrArg Prod.fst hscan)
        dsimp only
        rw [scanLine_next _ hused]
        exact .close _ _ hopen hused
    · have hclosed : ¬ k.state.IsOpen := by
        rintro (hin | hin)
        · exact hcomment hin
        · exact haction hin
      rw [if_neg haction]
      rcases hfound : lexeme? k.before (c :: cs) with _ | ⟨kind | _ | _, used⟩
      · have hused : 0 < 1 ∧ 1 ≤ (c :: cs).length := by simp
        dsimp only
        rw [show (0 : Nat) = 1 - 1 from rfl, scanLine_next k hused]
        exact .pass hclosed hused
      · have hused := lexeme?_used hfound
        dsimp only
        rw [scanLine_next k hused]
        exact .found kind hclosed hused
      · have hused := lexeme?_used hfound
        dsimp only
        rw [scanLine_next _ hused]
        exact .opening _ hclosed (by simp [LineState.IsOpen]) hused
      · have hused := lexeme?_used hfound
        dsimp only
        rw [scanLine_next _ hused]
        exact .opening _ hclosed (by simp [LineState.IsOpen]) hused

section Scan

variable {k : Cursor} {held text : List Char} {marks : List Mark}

theorem cuts_open (h : k.Holds held) (hfeed : '\n' ∉ held ++ text) (kind : MarkKind) :
    Cuts k.start (held ++ text) (markFrom k.start (k.offset + byteLength text) kind) :=
  .markFrom kind hfeed (by rw [h.offset, byteLength_append, Nat.add_assoc])

theorem cuts_closed (h : k.Holds held) (hfeed : '\n' ∉ held ++ text) {used : Nat}
    (hused : 0 < used ∧ used ≤ text.length) (kind : MarkKind)
    (hrest : Cuts (k.offset + byteLength (text.take used)) (text.drop used) marks) :
    Cuts k.start (held ++ text) (⟨k.start, k.behind text used, kind⟩ :: marks) := by
  have hstop : k.behind text used = k.start + byteLength (held ++ text.take used) := by
    rw [Cursor.behind, h.offset, byteLength_append, Nat.add_assoc]
  have hne : held ++ text.take used ≠ [] := by
    intro hnil
    have hlength := congrArg List.length (List.append_eq_nil_iff.mp hnil).2
    rw [List.length_take_of_le hused.2, List.length_nil] at hlength
    omega
  have hsplit : held ++ text = (held ++ text.take used) ++ text.drop used := by
    rw [List.append_assoc, List.take_append_drop]
  rw [hsplit] at hfeed ⊢
  exact .first hne hfeed hstop hrest

end Scan

/-- The scan of the rest of a line cuts it, together with what is held. -/
theorem scanLine_cuts {k : Cursor} {held text : List Char} (h : k.Holds held)
    (hfeed : '\n' ∉ held ++ text) : Cuts k.start (held ++ text) (scanLine k text).1 := by
  induction hn : text.length using Nat.strongRecOn generalizing k held text with
  | _ n ih =>
    cases text with
    | nil =>
      rw [scanLine]
      dsimp only
      split
      · exact cuts_open h hfeed _
      · exact .none
    | cons c cs =>
      have hstep := scanLine_step h.skip c cs
      generalize (scanLine k (c :: cs)).1 = marks at hstep ⊢
      generalize c :: cs = text at *
      -- behind some characters there is less to scan
      have hrest (k' : Cursor) {held' : List Char} {used : Nat}
          (hused : 0 < used ∧ used ≤ text.length) (hholds : (k'.pass (text.take used)).Holds held')
          (hheld : held' ⊆ text) : Cuts (k'.pass (text.take used)).start
            (held' ++ text.drop used) (scanLine (k'.pass (text.take used)) (text.drop used)).1 := by
        refine ih _ ?_ hholds ?_ rfl
        · rw [List.length_drop]
          omega
        · intro hmem
          rcases List.mem_append.mp hmem with hmem | hmem
          · exact hfeed (List.mem_append_right _ (hheld hmem))
          · exact hfeed (List.mem_append_right _ (List.mem_of_mem_drop hmem))
      cases hstep with
      | goOn kind hopen => exact cuts_open h hfeed kind
      | close kind state hopen hused =>
        have hcuts := hrest { k with opened := none, state := state } hused
          (Cursor.holds_pass _ rfl) (List.nil_subset _)
        exact cuts_closed h hfeed hused kind hcuts
      | opening state hclosed hopen hused =>
        obtain ⟨-, hstart, rfl⟩ := h.outside hclosed
        have hcuts := hrest { k with opened := some k.offset, state := state } hused
          (Cursor.holds_opened _ rfl hopen) (List.take_subset _ _)
        rw [List.take_append_drop] at hcuts
        rw [hstart, List.nil_append]
        exact hcuts
      | found kind hclosed hused =>
        obtain ⟨hnone, hstart, rfl⟩ := h.outside hclosed
        have hcuts := hrest k hused (Cursor.holds_pass _ hnone) (List.nil_subset _)
        rw [Cursor.start_pass hnone] at hcuts
        rw [← hstart]
        exact cuts_closed h hfeed hused kind hcuts
      | @pass used hclosed hused =>
        obtain ⟨hnone, hstart, rfl⟩ := h.outside hclosed
        have hcuts := hrest k hused (Cursor.holds_pass _ hnone) (List.nil_subset _)
        rw [Cursor.start_pass hnone] at hcuts
        have hall := Cuts.behind (text.take used) hcuts
        rw [List.nil_append, List.take_append_drop] at hall
        rwa [hstart, List.nil_append]

theorem highlightLine_cuts {line : List Char} (hfeed : '\n' ∉ line) (state : LineState) :
    Cuts 0 line (highlightLine line state).1 := by
  have hholds : (⟨0, state, none, none, 0⟩ : Cursor).Holds [] := ⟨rfl, rfl, by simp⟩
  exact scanLine_cuts hholds hfeed

/-- What is left of a line without its carriage return, with what is taken away. -/
theorem withoutReturn_cases (line : List Char) :
    line = withoutReturn line ++ ['\r'] ∨
      line = withoutReturn line ∧ line.getLast? ≠ some '\r' := by
  unfold withoutReturn
  split
  · rename_i hlast
    obtain ⟨before, rfl⟩ := List.getLast?_eq_some_iff.mp hlast
    simp
  · rename_i hlast
    exact .inr ⟨rfl, hlast⟩

theorem withoutReturn_isPrefix (line : List Char) : withoutReturn line <+: line := by
  rcases withoutReturn_cases line with heq | ⟨heq, -⟩
  · exact ⟨_, heq.symm⟩
  · exact ⟨[], by rw [List.append_nil, ← heq]⟩

theorem cuts_line {line rest : List Char} (hfeed : '\n' ∉ line) (offset : Nat) (state : LineState)
    {marks : List Mark} (hrest : Cuts (offset + byteLength line) rest marks) :
    Cuts offset (line ++ rest)
      ((highlightLine (withoutReturn line) state).1.map (·.shift offset) ++ marks) := by
  have hfeed' : '\n' ∉ withoutReturn line := fun hmem =>
    hfeed ((withoutReturn_isPrefix line).subset hmem)
  have hline := (highlightLine_cuts hfeed' state).shift offset
  rw [Nat.zero_add] at hline
  rcases withoutReturn_cases line with heq | ⟨heq, hlast⟩
  · generalize withoutReturn line = body at heq hline
    subst heq
    rw [byteLength_append, ← Nat.add_assoc] at hrest
    rw [List.append_assoc]
    exact hline.append (hrest.behind ['\r']) (fun _ => by simp)
  · rw [← heq] at hline ⊢
    exact hline.append hrest (fun hreturn => absurd hreturn hlast)

theorem highlightLines_cuts {lines : List (List Char)} (hlines : ∀ line ∈ lines, '\n' ∉ line)
    (offset : Nat) (state : LineState) :
    Cuts offset (List.intercalate ['\n'] lines) (highlightLines offset state lines) := by
  induction lines generalizing offset state with
  | nil => exact .none
  | cons line lines ih =>
    have hfeed : '\n' ∉ line := hlines line List.mem_cons_self
    have hrest := ih fun other hother => hlines other (List.mem_cons_of_mem _ hother)
    rw [highlightLines_cons]
    cases lines with
    | nil =>
      have hnone : Cuts (offset + byteLength line) [] [] := .none
      have hcuts := cuts_line hfeed offset state hnone
      simpa [highlightLines] using hcuts
    | cons next lines =>
      rw [List.intercalate_cons_cons, List.append_assoc]
      apply cuts_line hfeed
      apply Cuts.behind
      exact hrest _ _

theorem highlight_cuts (text : List Char) : Cuts 0 text (highlight text) := by
  have hlines : ∀ line ∈ splitLines text, '\n' ∉ line := fun _ => notMem_of_mem_splitLines
  have hcuts := highlightLines_cuts hlines 0 .initial
  rwa [intercalate_splitLines, ← highlightFrom_eq, ← highlight] at hcuts

end GrammarWorkbench.Highlight
