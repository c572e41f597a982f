import GrammarWorkbench.Proofs.Closed.Grammar
import GrammarWorkbench.Proofs.Lexing.Division
import GrammarWorkbench.Proofs.Parsing.Invariant
import GrammarWorkbench.Run.Interpret

/-!
# Runs of closed grammars

A parse ends early only where it calls a rule: there is no room for the call, the run is cancelled,
or the rule does not exist. In a closed grammar the last of these cannot happen, and the lexer is
always in a mode that exists.
-/

set_option autoImplicit false

namespace GrammarWorkbench.Run

open GrammarWorkbench.Text GrammarWorkbench.Diagnostic GrammarWorkbench.Model
open GrammarWorkbench.Compile GrammarWorkbench.Derivation

def FailsOnly {α : Type} (P : Defect → Prop) (m : Parse α) : Prop :=
  ∀ ts d, m ts = .error d → P d

section Fails

variable {α β : Type} {P : Defect → Prop}

theorem FailsOnly.value (a : α) : FailsOnly P (Parse.value a) := by
  intro ts d h
  cases h

theorem FailsOnly.bind {m : Parse α} {f : α → Parse β} (hm : FailsOnly P m)
    (hf : ∀ a, FailsOnly P (f a)) : FailsOnly P (m >>= f) := by
  intro ts d h
  rcases Parse.bind_error.mp h with hfirst | ⟨a, -, hnext⟩
  · exact hm ts d hfirst
  · exact hf a.value a.rest d hnext

theorem repeatWhile_fails {enters : Nat → Bool} {body : Parse (List Tree)}
    (h : FailsOnly P body) (n : Nat) : FailsOnly P (repeatWhile enters body n) := by
  induction n with
  | zero => exact .value _
  | succ n ih =>
    intro ts d hd
    simp only [repeatWhile] at hd
    split at hd
    · refine FailsOnly.bind h (fun first => .bind ?_ fun more => .value _) ts d hd
      intro ts' d' hd'
      dsimp only at hd'
      split at hd'
      · exact ih ts' d' hd'
      · cases hd'
    · cases hd

theorem extendOperand_fails {index precedence : Nat} {operators : Operators Lookahead}
    {run : Nat → Parse (List Tree)} (h : ∀ i, FailsOnly P (run i)) (n : Nat) (left : Tree) :
    FailsOnly P (extendOperand index operators precedence run n left) := by
  induction n generalizing left with
  | zero => exact .value _
  | succ n ih =>
    intro ts d hd
    simp only [extendOperand] at hd
    split at hd
    · cases hd
    · refine FailsOnly.bind (h _) (fun children => ?_) ts d hd
      intro ts' d' hd'
      dsimp only at hd'
      split at hd'
      · exact ih _ ts' d' hd'
      · cases hd'

variable {p : ParserConfig} {call : Nat → Nat → Parse Tree}

theorem parseTerminal_fails (terminal : TokenMatch) : FailsOnly P (parseTerminal p terminal) := by
  intro ts d hd
  simp only [parseTerminal] at hd
  split_ifs at hd

theorem parseNothing_fails : FailsOnly P (parseNothing p) := by
  intro ts d hd
  simp only [parseNothing] at hd
  split_ifs at hd

def CallsFail (P : Defect → Prop) (call : Nat → Nat → Parse Tree) (refs : List Reference) : Prop :=
  ∀ ref ∈ refs, ∀ i ∈ ref.index?, ∀ q, FailsOnly P (call i q)

theorem CallsFail.left {refs refs' : List Reference} (h : CallsFail P call (refs ++ refs')) :
    CallsFail P call refs :=
  fun ref href => h ref (List.mem_append_left _ href)

theorem CallsFail.right {refs refs' : List Reference} (h : CallsFail P call (refs ++ refs')) :
    CallsFail P call refs' :=
  fun ref href => h ref (List.mem_append_right _ href)

theorem loop_fails {kind : Declaration.RepeatKind} {greedy : Bool} {exit note : Lookahead}
    {alternatives : List (RuleAlternative Lookahead)}
    (h : FailsOnly P (parseBlock p call ⟨note, alternatives⟩)) :
    FailsOnly P (parseElement p call (.loop kind greedy exit ⟨note, alternatives⟩)) := by
  intro ts d hd
  cases kind with
  | optional =>
    simp only [parseElement] at hd
    split at hd
    · exact h ts d hd
    · cases hd
  | zeroOrMore =>
    simp only [parseElement] at hd
    exact repeatWhile_fails h _ ts d hd
  | oneOrMore =>
    simp only [parseElement] at hd
    refine FailsOnly.bind h (fun first => .bind ?_ fun more => .value _) ts d hd
    exact fun ts' => repeatWhile_fails h _ ts'

mutual

theorem element_fails : ∀ e : Element Lookahead, CallsFail P call (elementReferences e) →
    FailsOnly P (parseElement p call e)
  | .token terminal, _ => by
    rw [parseElement]
    exact parseTerminal_fails terminal
  | .rule index, h => by
    rw [parseElement]
    exact .bind (h (.rule index) (by simp [elementReferences]) index rfl 0) fun _ => .value _
  | .operand index precedence, h => by
    rw [parseElement]
    exact .bind (h (.operand index) (by simp [elementReferences]) index rfl precedence)
      fun _ => .value _
  | .block body, h => by
    rw [elementReferences] at h
    rw [parseElement]
    exact block_fails body h
  | .loop kind greedy exit body, h => by
    rw [elementReferences] at h
    have hbody := block_fails body h
    obtain ⟨note, alternatives⟩ := body
    exact loop_fails hbody

theorem sequence_fails : ∀ es : Sequence Lookahead, CallsFail P call (sequenceReferences es) →
    FailsOnly P (parseSequence p call es)
  | [], _ => by
    rw [parseSequence]
    exact .value _
  | e :: es, h => by
    rw [sequenceReferences] at h
    rw [parseSequence]
    exact .bind (element_fails e h.left) fun _ =>
      .bind (sequence_fails es h.right) fun _ => .value _

theorem alternative_fails : ∀ as : List (RuleAlternative Lookahead),
    CallsFail P call (choiceReferences as) → ∀ i, FailsOnly P (parseAlternative p call as i)
  | [], _, _ => by
    rw [parseAlternative]
    exact .value _
  | ⟨_, _, elements⟩ :: _, h, 0 => by
    rw [choiceReferences] at h
    rw [parseAlternative]
    exact sequence_fails elements h.left
  | ⟨_, _, _⟩ :: as, h, i + 1 => by
    rw [choiceReferences] at h
    rw [parseAlternative]
    exact alternative_fails as h.right i

theorem block_fails : ∀ b : RuleBlock Lookahead, CallsFail P call (blockReferences b) →
    FailsOnly P (parseBlock p call b)
  | ⟨note, alternatives⟩, h => by
    rw [blockReferences] at h
    intro ts d hd
    simp only [parseBlock] at hd
    split at hd
    · exact alternative_fails alternatives h _ ts d hd
    · exact parseNothing_fails ts d hd

end

end Fails

def Ends (limit : Nat) (isCancelled : Bool) (d : Defect) : Prop :=
  d = .unplaced (.recursionLimit limit) ∨ isCancelled ∧ d = .unplaced .cancelled

/-- Calls of the rules of a closed grammar. The induction is on the room for calls: the rules that
one calls exist as well. -/
theorem callRule_ends {p : ParserConfig} (hclosed : Closed p.grammar) (room : Nat) :
    ∀ i < p.grammar.parserRules.length, ∀ q,
      FailsOnly (Ends p.limit p.isCancelled) (callRule p room i q) := by
  induction room with
  | zero =>
    intro i _ q ts d hd
    cases hd
    exact .inl rfl
  | succ room ih =>
    intro i hi q ts d hd
    rw [callRule] at hd
    split at hd
    · rename_i hcancelled
      cases hd
      exact .inr ⟨hcancelled, rfl⟩
    · have hrule := List.getElem?_eq_getElem hi
      obtain ⟨-, hself⟩ := hclosed.rule i _ hrule
      have hcalls {refs : List Reference} (hrefs : ∀ ref ∈ refs,
          ref.Within p.grammar.vocabulary.size p.grammar.parserRules.length i) :
          CallsFail (Ends p.limit p.isCancelled) (callRule p room) refs := by
        intro ref href j hj
        exact ih j ((hrefs ref href).index_lt hj)
      simp only [hrule] at hd
      refine FailsOnly.bind (block_fails _ (hcalls hself.follows)) (fun children => ?_) ts d hd
      cases hoperators : p.grammar.parserRules[i].operators with
      | none => exact .value _
      | some o =>
        have hrefs := (hself.operators o hoperators).2.1
        obtain ⟨⟨note, alternatives⟩, precedence⟩ := o
        rw [blockReferences] at hrefs
        exact fun ts' => extendOperand_fails (alternative_fails alternatives (hcalls hrefs)) _ _ ts'

theorem runGrammar_ends {g : Grammar} (hclosed : Closed g) {input : List Char} {maxDepth : Nat}
    {isCancelled : Bool} {d : Defect} (h : runGrammar g input maxDepth isCancelled = .error d) :
    Ends maxDepth isCancelled d := by
  unfold runGrammar tokenize at h
  split at h
  · rename_i d' hlexed
    split at hlexed
    · rename_i hcancelled
      cases hlexed
      cases h
      exact .inr ⟨(Bool.and_eq_true_iff.mp hcancelled).1, rfl⟩
    · cases hlexed
  · split at h
    · cases h
    · rename_i hparser
      split at h
      · rename_i hnone
        exact absurd (List.isEmpty_iff.mpr (hclosed.start_none.mp hnone)) hparser
      · rename_i start hstart
        split at h
        · rename_i d' hparse
          cases h
          unfold parse at hparse
          dsimp only at hparse
          split at hparse
          · rename_i hcall
            cases hparse
            exact callRule_ends (p := ⟨g, input, .atEnd input, maxDepth, isCancelled⟩) hclosed _
              start (hclosed.start_lt start hstart) 0 _ _ hcall
          · cases hparse
        · cases h

def lexInModes (g : Grammar) (input : List Char) :
    (skip : Nat) → LexerState → (offset : Nat) → List Char → Option Lexed
  | _, s, _, [] => if s.mode < g.modes.length then some ⟨[], []⟩ else none
  | skip + 1, s, offset, c :: cs =>
    if s.mode < g.modes.length then lexInModes g input skip s (offset + c.utf8Size) cs else none
  | 0, s, offset, c :: cs =>
    if s.mode < g.modes.length then
      let (used, s', out) :=
        match bestMatch (modeRules g s.mode) (c :: cs) with
        | some (n, rule) =>
          (n - 1, afterMatch input g.vocabulary s offset ((c :: cs).take n) rule)
        | none => (0, afterMismatch input s offset c)
      (lexInModes g input used s' (offset + c.utf8Size) cs).map (out ++ ·)
    else none

section Modes

variable {g : Grammar} {s : LexerState} (input matched : List Char)

structure ModesExist (g : Grammar) (s : LexerState) : Prop where
  current : s.mode < g.modes.length
  stacked : ∀ mode ∈ s.stack, mode < g.modes.length

theorem changeMode_exist (h : ModesExist g s) (span : Span) {change : ModeChange}
    (hchange : ModeWithin g.modes.length change) :
    ModesExist g (changeMode input span matched s change).1 := by
  cases change with
  | set mode => exact ⟨hchange, h.stacked⟩
  | push mode =>
    refine ⟨hchange, ?_⟩
    intro m hm
    rcases List.mem_cons.mp hm with rfl | hm
    · exact h.current
    · exact h.stacked m hm
  | pop =>
    rw [changeMode]
    cases hstack : s.stack with
    | nil => exact h
    | cons mode stack =>
      have hall := h.stacked
      rw [hstack] at hall
      exact ⟨hall mode (by simp), fun m hm => hall m (by simp [hm])⟩

theorem changeModes_exist (h : ModesExist g s) (span : Span) {changes : List ModeChange}
    (hchanges : ∀ change ∈ changes, ModeWithin g.modes.length change) :
    ModesExist g (changeModes input span matched s changes).1 := by
  induction changes generalizing s with
  | nil => exact h
  | cons change changes ih =>
    exact ih (changeMode_exist input matched h span (hchanges change (by simp)))
      (fun c hc => hchanges c (by simp [hc]))

theorem afterMatch_exist (h : ModesExist g s) (v : Vocabulary) (offset : Nat) {rule : TokenRule}
    (hrule : ∀ change ∈ rule.action.modeChanges, ModeWithin g.modes.length change) :
    ModesExist g (afterMatch input v s offset matched rule).1 := by
  have hchanged := changeModes_exist input matched h ⟨offset, offset + byteLength matched⟩ hrule
  unfold afterMatch
  dsimp only
  split
  · exact ⟨hchanged.current, hchanged.stacked⟩
  · exact ⟨hchanged.current, hchanged.stacked⟩

theorem mem_of_bestMatch {rules : List TokenRule} {text : List Char} {n : Nat} {rule : TokenRule}
    (h : bestMatch rules text = some (n, rule)) : rule ∈ rules := by
  have hbest := bestMatch_isBest rules text
  rw [h] at hbest
  exact hbest.2.mem

end Modes

theorem lexInModes_eq {g : Grammar} {s : LexerState} (hclosed : Closed g)
    (input rest : List Char) (skip : Nat) (offset : Nat) (h : ModesExist g s) :
    lexInModes g input skip s offset rest = some (lexFrom g input skip s offset rest) := by
  induction rest generalizing skip s offset with
  | nil => simp [lexInModes, lexFrom, h.current]
  | cons c cs ih =>
    cases skip with
    | succ skip =>
      rw [lexInModes, if_pos h.current, lexFrom]
      exact ih skip _ h
    | zero =>
      rw [lexInModes, if_pos h.current]
      simp only [lexFrom]
      cases hbest : bestMatch (modeRules g s.mode) (c :: cs) with
      | none =>
        have hnext : ModesExist g (afterMismatch input s offset c).1 := ⟨h.current, h.stacked⟩
        simp only [ih _ _ hnext, Option.map_some]
      | some found =>
        obtain ⟨m, hm, hmem⟩ := mem_modeRules (mem_of_bestMatch hbest)
        have hnext := afterMatch_exist input ((c :: cs).take found.1) h g.vocabulary offset
          (hclosed.tokenRule m hm found.2 hmem).action.modes
        simp only [ih _ _ hnext, Option.map_some]

/-- An accepted grammar refers only to what is there. So a run of it ends early only for the depth
of its calls or a cancellation, and its lexer is always in a mode that exists. -/
theorem compiled_closed_runs {text : List Char} {start : Option String} {g : Grammar}
    (h : compile text start = .ok g) :
    Closed g ∧
    (∀ input maxDepth isCancelled d, runGrammar g input maxDepth isCancelled = .error d →
      d = .unplaced (.recursionLimit maxDepth) ∨ isCancelled ∧ d = .unplaced .cancelled) ∧
    ∀ input, lexInModes g input 0 .initial 0 input =
      some (lexFrom g input 0 .initial 0 input) := by
  have hclosed := compile_closed h
  refine ⟨hclosed, ?_, ?_⟩
  · intro input maxDepth isCancelled d hd
    exact runGrammar_ends hclosed hd
  · intro input
    exact lexInModes_eq hclosed input input 0 0 ⟨hclosed.modes_pos, by simp [LexerState.initial]⟩

theorem expressionText_stopped : ∃ g ∈ (compile expressionText none).toOption,
    (runGrammar g "1+1".toList 0 false).toOption.isNone := by
  decide +kernel

theorem compiled_closed_runs_expression : ∃ g d, compile expressionText none = .ok g ∧ Closed g ∧
    runGrammar g "1+1".toList 0 false = .error d ∧ d = .unplaced (.recursionLimit 0) ∧
    lexInModes g "1+1".toList 0 .initial 0 "1+1".toList =
      some (lexFrom g "1+1".toList 0 .initial 0 "1+1".toList) := by
  obtain ⟨g, hg, hstopped⟩ := expressionText_stopped
  have hok := toOption_eq_some.mp hg
  obtain ⟨hclosed, hends, hmodes⟩ := compiled_closed_runs hok
  cases hrun : runGrammar g "1+1".toList 0 false with
  | ok r =>
    rw [hrun] at hstopped
    cases hstopped
  | error d =>
    rcases hends _ _ _ _ hrun with hlimit | ⟨hcancelled, -⟩
    · exact ⟨g, d, hok, hclosed, hrun, hlimit, hmodes _⟩
    · cases hcancelled

end GrammarWorkbench.Run
