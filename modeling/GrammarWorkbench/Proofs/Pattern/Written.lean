import GrammarWorkbench.Proofs.Pattern.Words
import GrammarWorkbench.Proofs.Pattern.WrittenSets

/-!
# Reading the written form of a pattern

A written pattern is read sign by sign, with the groups that are open on a stack: an operator
belongs to the part before it, a bar divides the innermost group, and a closing parenthesis makes
that group a part of the one around it. The written form of a pattern is read as a pattern with the
same language, however its parts are nested.
-/

set_option autoImplicit false

namespace GrammarWorkbench.Pattern.Written

open GrammarWorkbench.Text GrammarWorkbench.Declaration GrammarWorkbench.Derivation
open scoped Computability

inductive Sign where
  | part (p : Pattern)
  | opening
  | closing
  | bar
  | operator (kind : RepeatKind) (greedy : Bool)

def operator? : Char → Option RepeatKind
  | '?' => some .optional
  | '*' => some .zeroOrMore
  | '+' => some .oneOrMore
  | _ => none

def isSign (c : Char) : Bool :=
  ['\\', '.', '+', '*', '?', '(', ')', '|', '[', ']', '\x7b', '\x7d', '^', '$'].contains c

def isPunctuation (c : Char) : Bool := 32 < c.toNat && c.toNat < 127 && !c.isAlphanum

/-- The sign at `c`, with the number of characters used behind `c`. A question mark behind an
operator belongs to it. -/
def sign? (c : Char) (cs : List Char) : Option (Sign × Nat) :=
  match operator? c with
  | some kind =>
    if cs.head? = some '?' then some (.operator kind false, 1) else some (.operator kind true, 0)
  | none =>
    match c, cs with
    | '(', '?' :: ':' :: _ => some (.opening, 2)
    | '(', '?' :: 's' :: ':' :: '.' :: ')' :: _ => some (.part .anyChar, 5)
    | ')', _ => some (.closing, 0)
    | '|', _ => some (.bar, 0)
    | '[', cs => (set? cs).map fun (set, used) => (.part (.one set), used)
    | '\\', d :: _ => if isPunctuation d then some (.part (.literal [d]), 1) else none
    | c, _ => if isSign c then none else some (.part (.literal [c]), 0)

/-- What has been read of a group: the branches that are complete and the parts of the last one,
both from the last to the first. -/
structure Frame where
  branches : List Pattern
  parts : List Pattern

namespace Frame

def empty : Frame := ⟨[], []⟩

def add (f : Frame) (ps : List Pattern) : Frame := ⟨f.branches, ps.reverse ++ f.parts⟩

def divide (f : Frame) : Frame := ⟨sequence f.parts.reverse :: f.branches, []⟩

def pattern (f : Frame) : Pattern := choice f.divide.branches.reverse

end Frame

abbrev Groups := Frame × List Frame

def step : Sign → Groups → Option Groups
  | .part p, (f, outer) => some (f.add [p], outer)
  | .opening, (f, outer) => some (.empty, f :: outer)
  | .closing, (f, g :: outer) => some (g.add [.group f.pattern], outer)
  | .closing, (_, []) => none
  | .bar, (f, outer) => some (f.divide, outer)
  | .operator kind greedy, (⟨branches, p :: parts⟩, outer) =>
    some (⟨branches, .loop kind greedy p :: parts⟩, outer)
  | .operator _ _, (⟨_, []⟩, _) => none

def run : Nat → List Char → Groups → Option Groups
  | _, [], groups => some groups
  | skip + 1, _ :: cs, groups => run skip cs groups
  | 0, c :: cs, groups => do
    let (sign, used) ← sign? c cs
    run used cs (← step sign groups)

def pattern? (text : List Char) : Option Pattern := do
  let (f, outer) ← run 0 text (.empty, [])
  if outer.isEmpty then some f.pattern else none

example : pattern? "a|[^b-d\\x\x7b5D\x7d]*?\\.".toList =
    some (choice [sequence [.literal ['a']], sequence [
      .loop .zeroOrMore false (.one ⟨true, [.span 'b' 'd', .single ']']⟩),
      .literal ['.']]]) := by
  decide

theorem run_skip (cs rest : List Char) (groups : Groups) :
    run cs.length (cs ++ rest) groups = run 0 rest groups := by
  induction cs with
  | nil => rfl
  | cons c cs ih => exact ih

theorem run_sign {c : Char} {cs rest : List Char} {sign : Sign} (groups : Groups)
    (h : sign? c (cs ++ rest) = some (sign, cs.length)) :
    run 0 (c :: (cs ++ rest)) groups = (step sign groups).bind (run 0 rest) := by
  rw [run, h]
  cases hstep : step sign groups <;> simp [hstep, run_skip]

/-- A text is read as some parts wherever it stands in a sequence. Only a question mark behind it
could change its last operator. -/
structure Reads (text : List Char) (ps : List Pattern) : Prop where
  head (rest : List Char) (h : rest.head? ≠ some '?') : (text ++ rest).head? ≠ some '?'
  run (rest : List Char) (h : rest.head? ≠ some '?') (f : Frame) (outer : List Frame) :
    run 0 (text ++ rest) (f, outer) = run 0 rest (f.add ps, outer)

theorem Frame.add_append (f : Frame) (ps qs : List Pattern) :
    (f.add ps).add qs = f.add (ps ++ qs) := by
  simp [Frame.add]

theorem reads_nil : Reads [] [] where
  head _ h := h
  run _ _ _ _ := rfl

theorem Reads.append {s t : List Char} {ps qs : List Pattern} (hs : Reads s ps) (ht : Reads t qs) :
    Reads (s ++ t) (ps ++ qs) where
  head rest h := by
    rw [List.append_assoc]
    exact hs.head _ (ht.head rest h)
  run rest h f outer := by
    rw [List.append_assoc, hs.run _ (ht.head rest h), ht.run rest h, Frame.add_append]

theorem reads_part {c : Char} {cs : List Char} {p : Pattern} (hc : c ≠ '?')
    (h : ∀ rest, sign? c (cs ++ rest) = some (.part p, cs.length)) : Reads (c :: cs) [p] where
  head rest _ := by simpa using hc
  run rest _ f outer := by
    rw [List.cons_append, run_sign _ (h rest)]
    rfl

theorem sign?_of_not_isSign {c : Char} (h : isSign c = false) (cs : List Char) :
    sign? c cs = some (.part (.literal [c]), 0) := by
  have hne : ∀ d, isSign d → c ≠ d := by
    rintro d hd rfl
    rw [h] at hd
    cases hd
  have hoperator : operator? c = none := by
    unfold operator?
    split
    · exact absurd rfl (hne '?' rfl)
    · exact absurd rfl (hne '*' rfl)
    · exact absurd rfl (hne '+' rfl)
    · rfl
  unfold sign?
  simp only [hoperator]
  split
  · exact absurd rfl (hne '(' rfl)
  · exact absurd rfl (hne '(' rfl)
  · exact absurd rfl (hne ')' rfl)
  · exact absurd rfl (hne '|' rfl)
  · exact absurd rfl (hne '[' rfl)
  · exact absurd rfl (hne '\\' rfl)
  · simp [h]

theorem reads_char (c : Char) :
    Reads (if isMeta c then ['\\', c] else [c]) [.literal [c]] := by
  by_cases hmeta : isMeta c
  · have hpunct : "\\.+*?()|[]\x7b\x7d^$#&-~".toList.all isPunctuation := by decide
    have hc := List.all_eq_true.mp hpunct c (List.contains_iff_mem.mp hmeta)
    rw [if_pos hmeta]
    apply reads_part (by decide)
    intro rest
    simp [sign?, operator?, hc]
  · have hsigns : ∀ d, isSign d → isMeta d := by
      intro d hd
      have hall : ['\\', '.', '+', '*', '?', '(', ')', '|', '[', ']', '\x7b', '\x7d', '^', '$'].all
          isMeta := by decide
      exact List.all_eq_true.mp hall d (List.contains_iff_mem.mp hd)
    have hsign : isSign c = false := Bool.eq_false_iff.mpr fun hc => hmeta (hsigns c hc)
    rw [if_neg hmeta]
    apply reads_part
    · rintro rfl
      cases hsign
    · exact sign?_of_not_isSign hsign

theorem reads_literal (text : List Char) :
    Reads (renderLiteral text).toList (text.map fun c => .literal [c]) := by
  rw [renderLiteral, String.toList_ofList]
  induction text with
  | nil => exact reads_nil
  | cons c cs ih => exact (reads_char c).append ih

theorem reads_set {s : CharSet} (h : SetWritten s) : Reads s.render.toList [.one s] := by
  obtain ⟨cs, hrender, hset⟩ := set?_render h
  rw [hrender]
  apply reads_part (by decide)
  intro rest
  simp [sign?, operator?, hset]

theorem run_bar (rest : List Char) (f : Frame) (outer : List Frame) :
    run 0 ('|' :: rest) (f, outer) = run 0 rest (f.divide, outer) := rfl

theorem run_opening (rest : List Char) (f : Frame) (outer : List Frame) :
    run 0 ('(' :: '?' :: ':' :: rest) (f, outer) = run 0 rest (.empty, f :: outer) := rfl

theorem run_closing (rest : List Char) (f g : Frame) (outer : List Frame) :
    run 0 (')' :: rest) (f, g :: outer) = run 0 rest (g.add [.group f.pattern], outer) := rfl

theorem reads_anyChar : Reads "(?s:.)".toList [.anyChar] :=
  reads_part (by decide) fun _ => rfl

theorem run_branches {ss : List (List Char)} {bs : List (List Pattern)}
    (h : List.Forall₂ Reads ss bs) (hne : bs ≠ []) {rest : List Char}
    (hrest : rest.head? ≠ some '?') (done : List Pattern) (outer : List Frame) :
    ∃ f, run 0 (['|'].intercalate ss ++ rest) (⟨done, []⟩, outer) = run 0 rest (f, outer) ∧
      f.pattern = choice (done.reverse ++ bs.map sequence) := by
  induction h generalizing done with
  | nil => exact absurd rfl hne
  | @cons s ps ss bs hs htail ih =>
    cases htail with
    | nil =>
      refine ⟨Frame.add ⟨done, []⟩ ps, ?_, ?_⟩
      · rw [List.intercalate_singleton]
        exact hs.run rest hrest _ outer
      · simp [Frame.pattern, Frame.divide, Frame.add]
    | @cons s' ps' ss' bs' hs' htail' =>
      obtain ⟨f, hrun, hpattern⟩ := ih (by simp) (sequence ps :: done)
      refine ⟨f, ?_, ?_⟩
      · rw [List.intercalate_cons_cons, List.append_assoc, List.append_assoc, hs.run _ (by simp),
          ← hrun, List.singleton_append, run_bar]
        simp [Frame.divide, Frame.add]
      · simp [hpattern]

def grouped (ss : List (List Char)) : List Char :=
  '(' :: '?' :: ':' :: (['|'].intercalate ss ++ [')'])

theorem run_grouped {ss : List (List Char)} {bs : List (List Pattern)}
    (h : List.Forall₂ Reads ss bs) (hne : bs ≠ []) (rest : List Char) (f : Frame)
    (outer : List Frame) : run 0 (grouped ss ++ rest) (f, outer) =
      run 0 rest (f.add [.group (choice (bs.map sequence))], outer) := by
  have hclose : (')' :: rest).head? ≠ some '?' := by simp
  obtain ⟨g, hrun, hpattern⟩ := run_branches h hne hclose [] (f :: outer)
  have htext : grouped ss ++ rest = '(' :: '?' :: ':' :: (['|'].intercalate ss ++ ')' :: rest) := by
    simp [grouped]
  rw [htext, run_opening]
  exact hrun.trans (by rw [run_closing, hpattern]; rfl)

theorem reads_grouped {ss : List (List Char)} {bs : List (List Pattern)}
    (h : List.Forall₂ Reads ss bs) (hne : bs ≠ []) :
    Reads (grouped ss) [.group (choice (bs.map sequence))] where
  head _ _ := by simp [grouped]
  run rest _ f outer := run_grouped h hne rest f outer

theorem run_operator (kind : RepeatKind) (greedy : Bool) {rest : List Char}
    (hrest : rest.head? ≠ some '?') (f : Frame) (p : Pattern) (outer : List Frame) :
    run 0 ((renderOperator kind greedy).toList ++ rest) (f.add [p], outer) =
      run 0 rest (f.add [.loop kind greedy p], outer) := by
  cases kind <;> cases greedy <;>
    simp [renderOperator, run, sign?, operator?, hrest, step, Frame.add]

theorem reads_loop {s : List Char} {ps : List Pattern} (h : Reads s ps) (kind : RepeatKind)
    (greedy : Bool) : Reads (grouped [s] ++ (renderOperator kind greedy).toList)
      [.loop kind greedy (.group (sequence ps))] where
  head _ _ := by simp [grouped]
  run rest hrest f outer := by
    rw [List.append_assoc, run_grouped (.cons h .nil) (by simp)]
    exact run_operator kind greedy hrest f _ outer

theorem words_sequence_literals (text : List Char) :
    (sequence (text.map fun c => .literal [c])).words = (literal text).words := by
  induction text with
  | nil => rfl
  | cons c cs ih =>
    rw [List.map_cons, words_sequence_cons, ih]
    ext w
    simp [Language.mem_mul, eq_comm]

def ReadsBranches (ss : List String) (bs : List (List Pattern)) : Prop :=
  List.Forall₂ Reads (ss.map String.toList) bs

/-- The branches of a choice are put together as one sequence of parts. -/
theorem ReadsBranches.together {ss : List String} {bs : List (List Pattern)}
    (h : ReadsBranches ss bs) (hne : bs ≠ []) :
    ∃ ps, Reads (renderChoice ss).toList ps ∧
      (sequence ps).words = (choice (bs.map sequence)).words := by
  have hgroup : (∀ s, ss ≠ [s]) → (renderChoice ss).toList = grouped (ss.map String.toList) := by
    intro hss
    rw [renderChoice]
    · simp [grouped]
    · exact hss
  match ss, bs, h with
  | [], [], _ => exact absurd rfl hne
  | [s], [ps], .cons hs _ => exact ⟨ps, hs, rfl⟩
  | s :: s' :: ss, bs, h =>
    refine ⟨[.group (choice (bs.map sequence))], ?_, ?_⟩
    · rw [hgroup (by simp)]
      exact reads_grouped h hne
    · simp [words]

def PatternWritten (p : Pattern) : Prop := ∀ s ∈ p.sets, SetWritten s

/-- The written branches of a pattern are read as patterns that have its language together. -/
theorem readsBranches_render {p : Pattern} (h : PatternWritten p) :
    ∃ bs, ReadsBranches p.renderBranches bs ∧ bs ≠ [] ∧
      (choice (bs.map sequence)).words = p.words := by
  have hone {s : String} {ps : List Pattern} (hs : Reads s.toList ps) : ReadsBranches [s] [ps] :=
    .cons hs .nil
  induction p with
  | nothing => exact ⟨[[]], hone reads_nil, by simp, rfl⟩
  | literal text =>
    exact ⟨_, hone (reads_literal text), by simp, words_sequence_literals text⟩
  | one set =>
    exact ⟨_, hone (reads_set (h set (by simp [sets]))), by simp, by simp [choice]⟩
  | anyChar => exact ⟨_, hone reads_anyChar, by simp, by simp [choice]⟩
  | seq p q ihp ihq =>
    obtain ⟨bs, hp, hne, hwords⟩ := ihp fun s hs => h s (List.mem_append_left _ hs)
    obtain ⟨cs, hq, hne', hwords'⟩ := ihq fun s hs => h s (List.mem_append_right _ hs)
    obtain ⟨ps, hps, hps'⟩ := hp.together hne
    obtain ⟨qs, hqs, hqs'⟩ := hq.together hne'
    refine ⟨[ps ++ qs], hone ?_, by simp, ?_⟩
    · rw [String.toList_append]
      exact hps.append hqs
    · change (sequence (ps ++ qs)).words = p.words * q.words
      rw [words_sequence_append, hps', hqs', hwords, hwords']
  | alt p q ihp ihq =>
    obtain ⟨bs, hp, hne, hwords⟩ := ihp fun s hs => h s (List.mem_append_left _ hs)
    obtain ⟨cs, hq, hne', hwords'⟩ := ihq fun s hs => h s (List.mem_append_right _ hs)
    obtain ⟨ps, hps, hps'⟩ := hp.together hne
    refine ⟨ps :: cs, .cons hps hq, by simp, ?_⟩
    rw [List.map_cons, words_choice_cons (by simpa using hne'), hps', hwords, hwords']
    rfl
  | group p ih =>
    obtain ⟨bs, hp, hne, hwords⟩ := ih h
    obtain ⟨ps, hps, hps'⟩ := hp.together hne
    refine ⟨[[.group (sequence ps)]], hone ?_, by simp, ?_⟩
    · have hgroup := reads_grouped (.cons hps .nil) (by simp)
      simpa [grouped, choice] using hgroup
    · simp [choice, words, hps', hwords]
  | loop kind greedy p ih =>
    obtain ⟨bs, hp, hne, hwords⟩ := ih h
    obtain ⟨ps, hps, hps'⟩ := hp.together hne
    refine ⟨[[.loop kind greedy (.group (sequence ps))]], hone ?_, by simp, ?_⟩
    · have hloop := reads_loop hps kind greedy
      simpa [grouped] using hloop
    · simp [choice, words, hps', hwords]

theorem pattern?_render {p : Pattern} (h : PatternWritten p) :
    ∃ q, pattern? p.render.toList = some q ∧ q.words = p.words := by
  obtain ⟨bs, hp, hne, hwords⟩ := readsBranches_render h
  obtain ⟨ps, hps, hps'⟩ := hp.together hne
  have hrun := hps.run [] (by simp) .empty []
  rw [List.append_nil] at hrun
  refine ⟨sequence ps, ?_, hps'.trans hwords⟩
  rw [pattern?, render, hrun]
  simp [run, Frame.add, Frame.pattern, Frame.divide, Frame.empty, choice]

end GrammarWorkbench.Pattern.Written
