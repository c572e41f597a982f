import GrammarWorkbench.Analysis.Lookahead
import GrammarWorkbench.Proofs.Derivation.Words

/-!
# Notes do not change words

Writing the lookahead into rules leaves their words and their lookahead as they are.
-/

set_option autoImplicit false

namespace GrammarWorkbench.Derivation

open GrammarWorkbench.Model GrammarWorkbench.Analysis
open scoped Computability

section Words

variable {σ α : Type} {terminal : Set Nat → Language σ} {call : Nat → Nat → Language σ}
variable (v : Vocabulary) (t : Table)

theorem annotateChoice_eq_map (as : List (RuleAlternative α)) :
    annotateChoice v t as = as.map fun a =>
      ⟨a.label, sequenceLook v t a.elements, annotateSequence v t a.elements⟩ := by
  induction as with
  | nil => simp [annotateChoice]
  | cons a as ih => simp [annotateChoice, ih]

theorem annotateBlock_alternatives (b : RuleBlock α) :
    (annotateBlock v t b).alternatives = annotateChoice v t b.alternatives := by
  obtain ⟨note, as⟩ := b
  rw [annotateBlock]

mutual

theorem elementWords_annotate (after : Lookahead) : ∀ e : Element α,
    elementWords terminal call (annotateElement v t after e) = elementWords terminal call e
  | .token _ | .rule _ | .operand _ _ => by simp [annotateElement, elementWords]
  | .block body => by simp [annotateElement, elementWords, blockWords_annotate body]
  | .loop _ _ _ body => by simp [annotateElement, elementWords, blockWords_annotate body]

theorem sequenceWords_annotate : ∀ es : Sequence α,
    sequenceWords terminal call (annotateSequence v t es) = sequenceWords terminal call es
  | [] => by simp [annotateSequence, sequenceWords]
  | e :: es => by
    rw [annotateSequence, sequenceWords, sequenceWords, elementWords_annotate _ e,
      sequenceWords_annotate es]

theorem choiceWords_annotate : ∀ as : List (RuleAlternative α),
    choiceWords terminal call (annotateChoice v t as) = choiceWords terminal call as
  | [] => by simp [annotateChoice, choiceWords]
  | ⟨_, _, es⟩ :: as => by
    rw [annotateChoice, choiceWords, choiceWords, sequenceWords_annotate es,
      choiceWords_annotate as]

theorem blockWords_annotate : ∀ b : RuleBlock α,
    blockWords terminal call (annotateBlock v t b) = blockWords terminal call b
  | ⟨note, as⟩ => by
    rw [annotateBlock, blockWords, blockWords, choiceWords_annotate as]
    cases as <;> simp [annotateChoice]

end

theorem operatorWords_annotate (o : Option (Operators α)) (q : Nat) :
    operatorWords terminal call
        (o.map fun o => ⟨annotateBlock v t o.block, o.precedence⟩ :
          Option (Operators Lookahead)) q =
      operatorWords terminal call o q := by
  cases o with
  | none => rw [Option.map_none, operatorWords_none, operatorWords_none]
  | some o =>
    ext w
    constructor
    · rintro ⟨_, ho, pair, hmem, hq, hw⟩
      cases ho
      rw [annotateBlock_alternatives, annotateChoice_eq_map, List.zip_map_left] at hmem
      obtain ⟨a, ha, rfl⟩ := List.mem_map.mp hmem
      exact ⟨o, rfl, a, ha, hq, by rwa [← sequenceWords_annotate v t]⟩
    · rintro ⟨_, ho, a, hmem, hq, hw⟩
      cases ho
      refine ⟨_, rfl, (⟨a.1.label, sequenceLook v t a.1.elements,
        annotateSequence v t a.1.elements⟩, a.2), ?_, hq, by rwa [sequenceWords_annotate v t]⟩
      rw [annotateBlock_alternatives, annotateChoice_eq_map, List.zip_map_left]
      exact List.mem_map.mpr ⟨a, hmem, rfl⟩

theorem ruleWords_annotate (r : ParserRule α) (q : Nat) :
    ruleWords terminal call (annotateRule v t r) q = ruleWords terminal call r q := by
  rw [ruleWords, ruleWords, ← blockWords_annotate v t r.block,
    ← operatorWords_annotate v t r.operators]
  rfl

end Words

theorem compiledWords_annotate {α : Type} (v : Vocabulary) (t : Table)
    (rules : List (ParserRule α)) :
    compiledWords (rules.map (annotateRule v t)) = compiledWords rules := by
  have hstep : wordsStep (rules.map (annotateRule v t)) = wordsStep rules := by
    ext1
    funext call i q
    cases hr : rules[i]? with
    | none => rw [wordsStep_none hr, wordsStep_none (by simp [hr])]
    | some r =>
      have hr' : (rules.map (annotateRule v t))[i]? = some (annotateRule v t r) := by simp [hr]
      rw [wordsStep_some hr, wordsStep_some hr', ruleWords_annotate]
  rw [compiledWords, compiledWords, hstep]

end GrammarWorkbench.Derivation
