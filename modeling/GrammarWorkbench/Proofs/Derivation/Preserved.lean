import GrammarWorkbench.Proofs.Derivation.Accepted
import GrammarWorkbench.Proofs.Derivation.Annotated

/-!
# Splitting a rule keeps its language

The main statement: a word of token types is derived by the declared alternatives of a rule if and
only if the compiled rule derives it at precedence zero. The bounds on the operands of operators
neither reject a sentence nor add one.
-/

set_option autoImplicit false

namespace GrammarWorkbench.Derivation

open GrammarWorkbench.Model GrammarWorkbench.Compile
open scoped Computability

section Inclusions

variable {text : List Char} {g : Grammar} {d : DeclaredGrammar} {rules : List (ParserRule Unit)}

theorem declaredRuleWords_le {i : Nat} {r : Declaration.RuleDecl} (hr : d.rules[i]? = some r) :
    declaredRuleWords d typeWords (declaredWords d) r ≤ declaredWords d i := fun _ hw =>
  mem_declaredWords.mpr ⟨r, hr, hw⟩

theorem declaredWords_le_compiledWords (acc : Accepted text g d rules) :
    declaredWords d ≤ fun i => compiledWords rules i 0 := by
  apply declaredWords_le
  intro i r hr
  exact parserRule_complete (acc.name i r hr) (acc.index i r hr) (acc.clean i r hr)
    (compiledWords rules) (compiledWords_some (acc.compiled i r hr))

theorem compiledWords_le_declaredWords (acc : Accepted text g d rules) :
    compiledWords rules ≤ fun i _ => declaredWords d i := by
  apply compiledWords_le
  intro i rule hrule q
  obtain ⟨r, hr, rfl⟩ := acc.exists_declared hrule
  obtain ⟨hblock, hops⟩ := parserRule_sound typeWords (acc.name i r hr) (acc.index i r hr)
    (acc.clean i r hr) (declaredWords d)
  exact mul_kstar_le (hblock.trans (declaredRuleWords_le hr))
    ((hops q).trans (declaredRuleWords_le hr))

end Inclusions

/-- The rewriting of rules that start with themselves preserves their language. -/
theorem declared_words_iff_compiled {text : List Char} {start : Option String} {g : Grammar}
    (h : compile text start = .ok g) :
    ∃ d, DeclaredGrammar.ofText? text = some d ∧
      ∀ i w, w ∈ declaredWords d i ↔ w ∈ compiledWords g.parserRules i 0 := by
  obtain ⟨d, rules, acc⟩ := compile_accepted h
  refine ⟨d, acc.declared, fun i w => ?_⟩
  rw [acc.annotated, compiledWords_annotate]
  exact ⟨fun hw => declaredWords_le_compiledWords acc i hw,
    fun hw => compiledWords_le_declaredWords acc i 0 hw⟩

theorem declared_words_iff_compiled_expression :
    ∃ g d, compile expressionText none = .ok g ∧
      DeclaredGrammar.ofText? expressionText = some d ∧
      ∀ i w, w ∈ declaredWords d i ↔ w ∈ compiledWords g.parserRules i 0 := by
  obtain ⟨g, hg⟩ := expressionText_accepted
  obtain ⟨d, hd, hw⟩ := declared_words_iff_compiled hg
  exact ⟨g, d, hg, hd, hw⟩

end GrammarWorkbench.Derivation
