import GrammarWorkbench.Proofs.Lexing.Division
import Mathlib.Data.List.DropRight

/-!
# What the lexer puts out

A segment whose rule is marked `more` only begins a token. Every other segment ends one: together
with the segments marked `more` right before it, it makes a token, unless its rule says to skip it
or no rule matched it, which is a defect. The lexer puts out exactly these tokens and defects of
the division of the input.
-/

set_option autoImplicit false

namespace GrammarWorkbench.Run

open GrammarWorkbench.Text GrammarWorkbench.Diagnostic GrammarWorkbench.Model

def textOf (segs : List Segment) : List Char := segs.flatMap (·.text)

def modesBehind (segs : List Segment) : Modes := segs.foldl Modes.behind .initial

namespace Segment

def isMore (seg : Segment) : Bool := seg.rule.any (·.action.more)

end Segment

/-- The segments that begin the token at the end of some segments: all those marked `more` there. -/
def begun (before : List Segment) : List Segment := before.rtakeWhile Segment.isMore

/-- The segments before the token that is begun at the end of some segments. -/
def settled (before : List Segment) : List Segment := before.rdropWhile Segment.isMore

def defectBehind (before text : List Char) (kind : String → Kind) : Defect where
  kind := kind (String.ofList (visible text))
  span := some ⟨byteLength before, byteLength (before ++ text)⟩
  position := some (endPosition before)

def tokenAt (v : Vocabulary) (before : List Segment) (seg : Segment) : Option Token :=
  match seg.rule with
  | none => none
  | some rule =>
    if rule.action.more || rule.action.skip then none
    else
      let start := textOf (settled before)
      let text := textOf (begun before ++ [seg])
      let type := rule.action.retype.getD rule.type
      some {
        typeName := v.displayName type
        type := type
        text := text
        span := ⟨byteLength start, byteLength (start ++ text)⟩
        position := endPosition start
        channel := rule.action.channel }

/-- The defects at a segment: one for every return to nowhere, and one if no rule matched it. -/
def defectsAt (before : List Segment) (seg : Segment) : List Defect :=
  List.replicate ((modesBehind before).failures seg.modeChanges)
      (defectBehind (textOf before) seg.text .emptyModeStack) ++
    match seg.rule with
    | some _ => []
    | none =>
      [defectBehind (textOf (settled before)) (textOf (begun before ++ [seg])) .tokenRecognition]

def places (before : List Segment) : List Segment → List (List Segment × Segment)
  | [] => []
  | seg :: segs => (before, seg) :: places (before ++ [seg]) segs

def lexedAt (v : Vocabulary) (ps : List (List Segment × Segment)) : Lexed where
  tokens := ps.filterMap fun p => tokenAt v p.1 p.2
  defects := ps.flatMap fun p => defectsAt p.1 p.2

@[simp] theorem textOf_append (segs segs' : List Segment) :
    textOf (segs ++ segs') = textOf segs ++ textOf segs' := List.flatMap_append

@[simp] theorem textOf_singleton (seg : Segment) : textOf [seg] = seg.text := by simp [textOf]

theorem settled_append_begun (before : List Segment) : settled before ++ begun before = before :=
  List.rdropWhile_append_rtakeWhile

@[simp] theorem modesBehind_concat (before : List Segment) (seg : Segment) :
    modesBehind (before ++ [seg]) = (modesBehind before).behind seg := by simp [modesBehind]

theorem places_append (before segs segs' : List Segment) :
    places before (segs ++ segs') = places before segs ++ places (before ++ segs) segs' := by
  induction segs generalizing before with
  | nil => simp [places]
  | cons seg segs ih => simp [places, ih]

theorem tokens_concat (v : Vocabulary) (segs : List Segment) (seg : Segment) :
    (lexedAt v (places [] (segs ++ [seg]))).tokens =
      (lexedAt v (places [] segs)).tokens ++ (tokenAt v segs seg).toList := by
  rw [places_append]
  cases htoken : tokenAt v segs seg <;> simp [lexedAt, places, htoken]

def stateBehind (before : List Segment) : LexerState where
  mode := (modesBehind before).current
  stack := (modesBehind before).saved
  pending :=
    if begun before = [] then none
    else some (byteLength (textOf (settled before)), textOf (begun before))

theorem stateBehind_mode (before : List Segment) :
    (stateBehind before).mode = (modesBehind before).current := rfl

theorem stateBehind_begun (before : List Segment) :
    (stateBehind before).begun (byteLength (textOf before)) =
      (byteLength (textOf (settled before)), textOf (begun before)) := by
  by_cases hnone : begun before = []
  · have hall : settled before = before := by
      have happend := settled_append_begun before
      rwa [hnone, List.append_nil] at happend
    simp [stateBehind, LexerState.begun, hnone, hall, textOf]
  · simp [stateBehind, LexerState.begun, hnone]

section Step

variable {input : List Char}

theorem inText_eq_defectBehind {before text rest : List Char} (h : input = before ++ rest)
    (kind : String → Kind) :
    Defect.inText input (kind (String.ofList (visible text)))
        ⟨byteLength before, byteLength before + byteLength text⟩ =
      defectBehind before text kind := by
  simp [Defect.inText, defectBehind, h, position_append]

/-- The changes of mode of a segment lead to the modes behind it, with a defect for each return to
nowhere. -/
theorem changeModes_eq (span : Span) (matched : List Char) (s : LexerState)
    (cs : List ModeChange) :
    changeModes input span matched s cs =
      ({ s with
          mode := (cs.foldl Modes.change ⟨s.mode, s.stack⟩).current
          stack := (cs.foldl Modes.change ⟨s.mode, s.stack⟩).saved },
        List.replicate (Modes.failures ⟨s.mode, s.stack⟩ cs)
          (.inText input (.emptyModeStack (String.ofList (visible matched))) span)) := by
  induction cs generalizing s with
  | nil => rfl
  | cons c cs ih =>
    rw [changeModes]
    cases c with
    | set mode => simp [changeMode, ih, Modes.failures, Modes.change]
    | push mode => simp [changeMode, ih, Modes.failures, Modes.change]
    | pop =>
      cases hstack : s.stack with
      | nil =>
        simp [changeMode, ih, Modes.failures, Modes.change, hstack, List.replicate_add]
      | cons mode stack => simp [changeMode, ih, Modes.failures, Modes.change, hstack]

/-- Behind a segment that only begins a token the token is longer by it. -/
theorem stateBehind_more {before : List Segment} {seg : Segment} (h : seg.isMore) :
    stateBehind (before ++ [seg]) =
      ⟨((modesBehind before).behind seg).current, ((modesBehind before).behind seg).saved,
        some (byteLength (textOf (settled before)), textOf (begun before) ++ seg.text)⟩ := by
  have hbegun : begun (before ++ [seg]) = begun before ++ [seg] :=
    List.rtakeWhile_concat_pos _ _ _ h
  have hsettled : settled (before ++ [seg]) = settled before :=
    List.rdropWhile_concat_pos _ _ _ h
  simp [stateBehind, hbegun, hsettled]

theorem stateBehind_end {before : List Segment} {seg : Segment} (h : ¬ seg.isMore) :
    stateBehind (before ++ [seg]) =
      ⟨((modesBehind before).behind seg).current, ((modesBehind before).behind seg).saved,
        none⟩ := by
  have hbegun : begun (before ++ [seg]) = [] := List.rtakeWhile_concat_neg _ _ _ h
  simp [stateBehind, hbegun]

theorem afterMatch_eq (v : Vocabulary) {before : List Segment} {matched rest : List Char}
    {rule : TokenRule} (h : input = textOf before ++ rest) :
    afterMatch input v (stateBehind before) (byteLength (textOf before)) matched rule =
      (stateBehind (before ++ [⟨matched, some rule⟩]),
        lexedAt v [(before, ⟨matched, some rule⟩)]) := by
  have hstart : input = textOf (settled before) ++ (textOf (begun before) ++ rest) := by
    rw [← List.append_assoc, ← textOf_append, settled_append_begun, h]
  rw [afterMatch, changeModes_eq, stateBehind_begun, inText_eq_defectBehind h .emptyModeStack]
  by_cases hmore : rule.action.more
  · have hstate : stateBehind (before ++ [⟨matched, some rule⟩]) = _ := stateBehind_more hmore
    rw [hstate]
    simp [hmore, lexedAt, tokenAt, defectsAt, Segment.modeChanges, Modes.behind, stateBehind]
  · have hstate : stateBehind (before ++ [⟨matched, some rule⟩]) = _ := stateBehind_end hmore
    rw [hstate]
    by_cases hskip : rule.action.skip
    · simp [hmore, hskip, lexedAt, tokenAt, defectsAt, Segment.modeChanges, Modes.behind,
        stateBehind]
    · have hposition := position_append (textOf (settled before)) (textOf (begun before) ++ rest)
      rw [← hstart] at hposition
      simp [hmore, hskip, lexedAt, tokenAt, defectsAt, Segment.modeChanges, Modes.behind,
        stateBehind, makeToken, hposition]

theorem afterMismatch_eq (v : Vocabulary) {before : List Segment} {c : Char} {rest : List Char}
    (h : input = textOf before ++ rest) :
    afterMismatch input (stateBehind before) (byteLength (textOf before)) c =
      (stateBehind (before ++ [⟨[c], none⟩]), lexedAt v [(before, ⟨[c], none⟩)]) := by
  have hstart : input = textOf (settled before) ++ (textOf (begun before) ++ rest) := by
    rw [← List.append_assoc, ← textOf_append, settled_append_begun, h]
  have hstate : stateBehind (before ++ [⟨[c], none⟩]) = _ :=
    stateBehind_end (by simp [Segment.isMore])
  rw [afterMismatch, stateBehind_begun, hstate]
  dsimp only
  rw [inText_eq_defectBehind hstart .tokenRecognition]
  simp [lexedAt, tokenAt, defectsAt, Segment.modeChanges, Modes.behind, Modes.failures, stateBehind]

end Step

section Run

variable {g : Grammar} {input : List Char}

theorem lexedAt_cons (v : Vocabulary) (p : List Segment × Segment)
    (ps : List (List Segment × Segment)) :
    lexedAt v (p :: ps) = lexedAt v [p] ++ lexedAt v ps := by
  show lexedAt v ([p] ++ ps) = (lexedAt v [p]).append (lexedAt v ps)
  simp only [lexedAt, Lexed.append, List.filterMap_append, List.flatMap_append]

/-- The characters of a match that has been dealt with are passed over. -/
theorem lexFrom_skip (s : LexerState) (offset : Nat) (matched rest : List Char) :
    lexFrom g input matched.length s offset (matched ++ rest) =
      lexFrom g input 0 s (offset + byteLength matched) rest := by
  induction matched generalizing offset with
  | nil => rfl
  | cons c cs ih => simp [lexFrom, ih, Nat.add_assoc]

theorem lexFrom_cons (s : LexerState) (offset : Nat) (c : Char) (cs : List Char) :
    lexFrom g input 0 s offset (c :: cs) =
      match bestMatch (modeRules g s.mode) (c :: cs) with
      | some (n, rule) =>
        let (s', out) := afterMatch input g.vocabulary s offset ((c :: cs).take n) rule
        out ++ lexFrom g input (n - 1) s' (offset + c.utf8Size) cs
      | none =>
        let (s', out) := afterMismatch input s offset c
        out ++ lexFrom g input 0 s' (offset + c.utf8Size) cs := by
  rw [lexFrom]
  cases bestMatch (modeRules g s.mode) (c :: cs) <;> rfl

theorem lexFrom_cut {before : List Segment} {seg : Segment} {rest : List Char}
    (hinput : input = textOf before ++ (seg.text ++ rest)) (hne : seg.text ≠ [])
    (hcut : seg.CutBy (modeRules g (modesBehind before).current) (seg.text ++ rest)) :
    lexFrom g input 0 (stateBehind before) (byteLength (textOf before)) (seg.text ++ rest) =
      lexedAt g.vocabulary [(before, seg)] ++
        lexFrom g input 0 (stateBehind (before ++ [seg])) (byteLength (textOf (before ++ [seg])))
          rest := by
  obtain ⟨text, rule⟩ := seg
  obtain ⟨c, cs, rfl⟩ : ∃ c cs, text = c :: cs := List.exists_cons_of_ne_nil hne
  cases rule with
  | some rule =>
    have hbest : bestMatch (modeRules g (modesBehind before).current) (c :: (cs ++ rest)) =
        some ((c :: cs).length, rule) := LongestMatch.bestMatch_eq hcut (by simp)
    have htake : (c :: (cs ++ rest)).take (c :: cs).length = c :: cs := by simp
    rw [List.cons_append, lexFrom_cons, stateBehind_mode, hbest]
    dsimp only
    rw [htake, afterMatch_eq g.vocabulary hinput, List.length_cons, Nat.add_sub_cancel,
      lexFrom_skip]
    simp [Nat.add_assoc]
  | none =>
    obtain ⟨hnone, c', hc'⟩ := hcut
    obtain rfl : cs = [] := (List.cons.inj hc').2
    have hbest : bestMatch (modeRules g (modesBehind before).current) (c :: rest) = none :=
      bestMatch_eq_none hnone
    rw [List.cons_append, List.nil_append, lexFrom_cons, stateBehind_mode, hbest]
    dsimp only
    rw [afterMismatch_eq g.vocabulary hinput]
    simp

/-- A run from the start of a segment puts out the tokens and defects of the segments that are
left. -/
theorem lexFrom_divides {before segs : List Segment} {rest : List Char}
    (h : Divides g (modesBehind before) rest segs) (hinput : input = textOf before ++ rest) :
    lexFrom g input 0 (stateBehind before) (byteLength (textOf before)) rest =
      lexedAt g.vocabulary (places before segs) := by
  generalize hmodes : modesBehind before = m at h
  induction h generalizing before with
  | done => simp [lexFrom, places, lexedAt]
  | cut hne hcut _ ih =>
    subst hmodes
    rw [lexFrom_cut hinput hne hcut, ih (by simp [hinput]) (by simp), places]
    exact (lexedAt_cons _ _ _).symm

end Run

theorem Divides.textOf_eq {g : Grammar} {m : Modes} {text : List Char} {segs : List Segment}
    (h : Divides g m text segs) : textOf segs = text := by
  induction h with
  | done => rfl
  | cut _ _ _ ih => simpa [textOf] using ih

theorem Divides.ne_nil {g : Grammar} {m : Modes} {text : List Char} {segs : List Segment}
    (h : Divides g m text segs) : ∀ seg ∈ segs, seg.text ≠ [] := by
  induction h with
  | done => simp
  | cut hne _ _ ih =>
    intro seg hseg
    rcases List.mem_cons.mp hseg with rfl | hseg
    · exact hne
    · exact ih seg hseg

theorem eq_append_of_mem_places {before segs : List Segment} {p : List Segment × Segment}
    (h : p ∈ places before segs) : ∃ after, before ++ segs = p.1 ++ p.2 :: after := by
  induction segs generalizing before with
  | nil => simp [places] at h
  | cons seg segs ih =>
    rw [places] at h
    rcases List.mem_cons.mp h with rfl | h
    · exact ⟨segs, rfl⟩
    · obtain ⟨after, hafter⟩ := ih h
      exact ⟨after, by simpa using hafter⟩

/-- A token that stands in an input: a text that is not empty, where its span and position say. -/
structure Token.StandsIn (t : Token) (input : List Char) : Prop where
  text_ne_nil : t.text ≠ []
  placed : ∃ before after, input = before ++ t.text ++ after ∧
    t.span = ⟨byteLength before, byteLength (before ++ t.text)⟩ ∧ t.position = endPosition before

theorem tokenAt_standsIn {v : Vocabulary} {before after : List Segment} {seg : Segment} {t : Token}
    (ht : tokenAt v before seg = some t) (hne : seg.text ≠ []) :
    t.StandsIn (textOf (before ++ seg :: after)) := by
  unfold tokenAt at ht
  split at ht
  · cases ht
  · split at ht
    · cases ht
    · cases ht
      constructor
      · simp [hne]
      · refine ⟨textOf (settled before), textOf after, ?_, rfl, rfl⟩
        conv_lhs => rw [← settled_append_begun before]
        simp [textOf]

/-- An accepted grammar divides an input in exactly one way, and the lexer puts out the tokens and
defects of this division, each token with the part of the input it stands for. -/
theorem tokenize_divides {grammar : List Char} {start : Option String} {g : Grammar}
    (h : compile grammar start = .ok g) (input : List Char) :
    ∃ segs, Divides g .initial input segs ∧
      (∀ segs', Divides g .initial input segs' → segs' = segs) ∧
      tokenize g input false = .ok (lexedAt g.vocabulary (places [] segs)) ∧
      ∀ t ∈ (lexedAt g.vocabulary (places [] segs)).tokens, t.StandsIn input := by
  obtain ⟨segs, hsegs⟩ := exists_divides h .initial input
  refine ⟨segs, hsegs, fun segs' h' => h'.unique hsegs, ?_, ?_⟩
  · have hrun : lexFrom g input 0 (stateBehind []) (byteLength (textOf [])) input = _ :=
      lexFrom_divides hsegs rfl
    exact congrArg Except.ok hrun
  · intro t ht
    obtain ⟨p, hp, htoken⟩ := List.mem_filterMap.mp ht
    obtain ⟨after, hafter⟩ := eq_append_of_mem_places hp
    rw [List.nil_append] at hafter
    have hseg : p.2.text ≠ [] := hsegs.ne_nil p.2 (by simp [hafter])
    rw [← hsegs.textOf_eq, hafter]
    exact tokenAt_standsIn htoken hseg

def quotedGrammar : List Char :=
  "Q:'\"'->more,pushMode(S);P:'p'->popMode;W:' '->skip;mode S;E:'\"'->popMode;C:'a'->more;".toList

def quotedInput : List Char := "\"a\" p?".toList

theorem quotedInput_tokens : ∃ g ∈ (compile quotedGrammar none).toOption,
    ∃ lexed ∈ (tokenize g quotedInput false).toOption,
      lexed.tokens.map (·.text) = ["\"a\"".toList, "p".toList] ∧
        lexed.defects.map (·.kind) = [.emptyModeStack "p", .tokenRecognition "?"] := by
  decide +kernel

theorem tokenize_divides_quoted : ∃ g segs, compile quotedGrammar none = .ok g ∧
    Divides g .initial quotedInput segs ∧
    (lexedAt g.vocabulary (places [] segs)).tokens.map (·.text) =
      ["\"a\"".toList, "p".toList] ∧
    (lexedAt g.vocabulary (places [] segs)).defects.map (·.kind) =
      [.emptyModeStack "p", .tokenRecognition "?"] := by
  obtain ⟨g, hg, lexed, hlexed, htokens, hdefects⟩ := quotedInput_tokens
  have hcompiled := Derivation.toOption_eq_some.mp hg
  obtain ⟨segs, hsegs, -, hrun, -⟩ := tokenize_divides hcompiled quotedInput
  obtain rfl : lexedAt g.vocabulary (places [] segs) = lexed :=
    Except.ok.inj (hrun.symm.trans (Derivation.toOption_eq_some.mp hlexed))
  exact ⟨g, segs, hcompiled, hsegs, htokens, hdefects⟩

end GrammarWorkbench.Run
