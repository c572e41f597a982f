import GrammarWorkbench.Proofs.Derivation.Accepted
import GrammarWorkbench.Proofs.Lookahead.Settled

/-!
# Notes play no part in the lookahead

Rules with their lookahead written into them have the same table as before, and writing the
lookahead once more changes nothing. So an accepted grammar can be spoken of without the rules it
was made from.
-/

set_option autoImplicit false

namespace GrammarWorkbench.Analysis

open GrammarWorkbench.Model GrammarWorkbench.Derivation

section Annotated

variable {α : Type} (w : Vocabulary) (s : Table) (v : Vocabulary) (t : Table)

mutual

theorem elementLook_annotate (after : Lookahead) : ∀ e : Element α,
    elementLook v t (annotateElement w s after e) = elementLook v t e
  | .token _ | .rule _ | .operand _ _ => by simp [annotateElement, elementLook]
  | .block body => by simp [annotateElement, elementLook, blockLook_annotate body]
  | .loop _ _ _ body => by simp [annotateElement, elementLook, blockLook_annotate body]

theorem sequenceLook_annotate : ∀ es : Sequence α,
    sequenceLook v t (annotateSequence w s es) = sequenceLook v t es
  | [] => by simp [annotateSequence, sequenceLook]
  | e :: es => by
    rw [annotateSequence, sequenceLook, sequenceLook, elementLook_annotate _ e,
      sequenceLook_annotate es]

theorem choiceLook_annotate : ∀ as : List (RuleAlternative α),
    choiceLook v t (annotateChoice w s as) = choiceLook v t as
  | [] => by simp [annotateChoice, choiceLook]
  | ⟨_, _, es⟩ :: as => by
    rw [annotateChoice, choiceLook, choiceLook, sequenceLook_annotate es, choiceLook_annotate as]

theorem blockLook_annotate : ∀ b : RuleBlock α,
    blockLook v t (annotateBlock w s b) = blockLook v t b
  | ⟨_, as⟩ => by
    rw [annotateBlock, blockLook, blockLook, choiceLook_annotate as]
    cases as <;> simp [annotateChoice]

end

mutual

theorem elementTerminals_annotate (after : Lookahead) : ∀ e : Element α,
    elementTerminals (annotateElement w s after e) = elementTerminals e
  | .token _ | .rule _ | .operand _ _ => by simp [annotateElement, elementTerminals]
  | .block body => by simp [annotateElement, elementTerminals, blockTerminals_annotate body]
  | .loop _ _ _ body => by simp [annotateElement, elementTerminals, blockTerminals_annotate body]

theorem sequenceTerminals_annotate : ∀ es : Sequence α,
    sequenceTerminals (annotateSequence w s es) = sequenceTerminals es
  | [] => by simp [annotateSequence, sequenceTerminals]
  | e :: es => by
    rw [annotateSequence, sequenceTerminals, sequenceTerminals, elementTerminals_annotate _ e,
      sequenceTerminals_annotate es]

theorem choiceTerminals_annotate : ∀ as : List (RuleAlternative α),
    choiceTerminals (annotateChoice w s as) = choiceTerminals as
  | [] => by simp [annotateChoice, choiceTerminals]
  | ⟨_, _, es⟩ :: as => by
    rw [annotateChoice, choiceTerminals, choiceTerminals, sequenceTerminals_annotate es,
      choiceTerminals_annotate as]

theorem blockTerminals_annotate : ∀ b : RuleBlock α,
    blockTerminals (annotateBlock w s b) = blockTerminals b
  | ⟨_, as⟩ => by rw [annotateBlock, blockTerminals, blockTerminals, choiceTerminals_annotate as]

end

mutual

theorem annotateElement_annotate (after before : Lookahead) : ∀ e : Element α,
    annotateElement v t after (annotateElement w s before e) = annotateElement v t after e
  | .token _ | .rule _ | .operand _ _ => by simp [annotateElement]
  | .block body => by simp [annotateElement, annotateBlock_annotate body]
  | .loop _ _ _ body => by simp [annotateElement, annotateBlock_annotate body]

theorem annotateSequence_annotate : ∀ es : Sequence α,
    annotateSequence v t (annotateSequence w s es) = annotateSequence v t es
  | [] => by simp [annotateSequence]
  | e :: es => by
    rw [annotateSequence, annotateSequence, annotateSequence, annotateElement_annotate _ _ e,
      annotateSequence_annotate es, sequenceLook_annotate]

theorem annotateChoice_annotate : ∀ as : List (RuleAlternative α),
    annotateChoice v t (annotateChoice w s as) = annotateChoice v t as
  | [] => by simp [annotateChoice]
  | ⟨_, _, es⟩ :: as => by
    rw [annotateChoice, annotateChoice, annotateChoice, annotateSequence_annotate es,
      annotateChoice_annotate as, sequenceLook_annotate]

theorem annotateBlock_annotate : ∀ b : RuleBlock α,
    annotateBlock v t (annotateBlock w s b) = annotateBlock v t b
  | ⟨note, as⟩ => by
    have hlook := blockLook_annotate w s v t (⟨note, as⟩ : RuleBlock α)
    rw [annotateBlock] at hlook
    rw [annotateBlock, annotateBlock, annotateBlock, annotateChoice_annotate as, hlook]

end

theorem ruleLook_annotate (r : ParserRule α) :
    ruleLook v t (annotateRule w s r) = ruleLook v t r := by
  unfold ruleLook annotateRule
  cases r.operators <;> simp [blockLook_annotate]

theorem ruleTerminals_annotate (r : ParserRule α) :
    ruleTerminals (annotateRule w s r) = ruleTerminals r := by
  unfold ruleTerminals annotateRule
  cases r.operators <;> simp [blockTerminals_annotate]

theorem annotateRule_annotate (r : ParserRule α) :
    annotateRule v t (annotateRule w s r) = annotateRule v t r := by
  unfold annotateRule
  cases r.operators <;> simp [annotateBlock_annotate]

theorem refreshFrom_annotate (rules : List (ParserRule α)) (i : Nat) :
    refreshFrom v i (rules.map (annotateRule w s)) t = refreshFrom v i rules t := by
  induction rules generalizing i t with
  | nil => rfl
  | cons r rs ih => rw [List.map_cons, refreshFrom, refreshFrom, ruleLook_annotate, ih]

theorem settle_annotate (rules : List (ParserRule α)) (n : Nat) :
    settle v (rules.map (annotateRule w s)) n t = settle v rules n t := by
  have hround (t : Table) : refresh v (rules.map (annotateRule w s)) t = refresh v rules t :=
    refreshFrom_annotate w s v t rules 0
  induction n generalizing t with
  | zero => rfl
  | succ n ih => rw [settle_succ, settle_succ, hround, ih]

theorem table_annotate (rules : List (ParserRule α)) :
    table v (rules.map (annotateRule w s)) = table v rules := by
  unfold table
  rw [settle_annotate, foldl_ruleTerminals, foldl_ruleTerminals]
  simp [Function.comp_def, ruleTerminals_annotate]

end Annotated

section Accepted

variable {text : List Char} {g : Grammar} {d : DeclaredGrammar} {rules : List (ParserRule Unit)}

theorem accepted_table (acc : Accepted text g d rules) :
    table g.vocabulary g.parserRules = table g.vocabulary rules := by
  rw [acc.annotated, table_annotate]

theorem accepted_annotated (acc : Accepted text g d rules) :
    g.parserRules.map (annotateRule g.vocabulary (table g.vocabulary g.parserRules)) =
      g.parserRules := by
  rw [accepted_table acc]
  conv_rhs => rw [acc.annotated]
  rw [acc.annotated, List.map_map]
  congr 1
  funext r
  exact annotateRule_annotate _ _ _ _ r

end Accepted

end GrammarWorkbench.Analysis
