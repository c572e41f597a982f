import GrammarWorkbench.Proofs.Derivation.Accepted
import GrammarWorkbench.Proofs.Pattern.Progress
import GrammarWorkbench.Proofs.Reading.Literals
import GrammarWorkbench.Run.Lexer

/-!
# Token rules of accepted grammars

A pattern that matches the empty text is a defect of its lexer rule, and literals are not empty. So
every match of a token rule of an accepted grammar takes a character.
-/

set_option autoImplicit false

namespace GrammarWorkbench.Run

open GrammarWorkbench.Text GrammarWorkbench.Declaration GrammarWorkbench.Diagnostic
open GrammarWorkbench.Model GrammarWorkbench.Compile GrammarWorkbench.Pattern
open GrammarWorkbench.Derivation

section Rules

variable {lex : Lexicon} {s : CommandScope}

theorem tokenRuleOf_takes {source : List Char} {decl : RuleDecl} {type : Nat} {pattern : Pattern}
    {action : TokenAction} {rule : TokenRule}
    (h : (tokenRuleOf source decl type true pattern action).value = some rule) :
    rule.pattern.matchesEmpty = false := by
  unfold tokenRuleOf at h
  split at h
  · cases h
  · by_cases hempty : pattern.matchesEmpty
    · simp [hempty, Checked.missing] at h
    · simp only [hempty, Bool.and_false, Bool.false_eq_true, if_false, Checked.value_pure] at h
      cases h
      simpa using hempty

/-- The token rules of a lexer rule without defects take a character. -/
theorem tokenRules_takes {decl : RuleDecl} (h : (tokenRules lex s decl).defects = []) :
    ∀ rule ∈ (tokenRules lex s decl).value, rule.pattern.matchesEmpty = false := by
  intro rule hrule
  simp only [tokenRules, Checked.defects_bind, List.append_eq_nil_iff] at h
  simp only [tokenRules, Checked.value_bind, h.2.1, List.isEmpty_nil] at hrule
  split at hrule
  · simp at hrule
  · rw [Checked.value_eachSome] at hrule
    obtain ⟨entry, -, hvalue⟩ := List.mem_filterMap.mp hrule
    exact tokenRuleOf_takes hvalue

theorem rulesByMode_takes {decls : List RuleDecl} (h : (rulesByMode lex s decls).defects = []) :
    ∀ entry ∈ (rulesByMode lex s decls).value, entry.2.pattern.matchesEmpty = false := by
  induction decls with
  | nil => simp [rulesByMode]
  | cons decl decls ih =>
    intro entry hentry
    by_cases hfragment : decl.fragment.isSome
    · simp only [rulesByMode, hfragment, if_true, Checked.defects_bind, Checked.defects_pure,
        List.append_nil, List.nil_append, List.append_eq_nil_iff] at h
      simp only [rulesByMode, hfragment, if_true, Checked.value_bind, Checked.value_pure,
        List.map_nil, List.nil_append] at hentry
      exact ih h.2 entry hentry
    · simp only [rulesByMode, hfragment, Bool.false_eq_true, if_false, Checked.defects_bind,
        Checked.defects_pure, List.append_nil, List.append_eq_nil_iff] at h
      simp only [rulesByMode, hfragment, Bool.false_eq_true, if_false, Checked.value_bind,
        Checked.value_pure, List.mem_append, List.mem_map] at hentry
      rcases hentry with ⟨rule, hrule, rfl⟩ | hentry
      · exact tokenRules_takes h.1 rule hrule
      · exact ih h.2 entry hentry

theorem literalRule_takes {v : Vocabulary} {literal : List Char × Nat} {rule : TokenRule}
    (hne : literal.1 ≠ []) (h : (literalRule v literal).value = some rule) :
    rule.pattern.matchesEmpty = false := by
  unfold literalRule at h
  dsimp only at h
  split at h
  · cases h
  · cases h
    simpa [matchesEmpty] using hne

/-- The rules of all modes are those of the literals and of the lexer rules. -/
theorem lexerModes_takes {implicit : List (List Char × Nat)} {decls : List RuleDecl}
    (himplicit : ∀ literal ∈ implicit, literal.1 ≠ [])
    (h : (lexerModes lex s implicit decls).defects = []) :
    ∀ mode ∈ (lexerModes lex s implicit decls).value, ∀ rule ∈ mode.rules,
      rule.pattern.matchesEmpty = false := by
  simp only [lexerModes, Checked.defects_bind, Checked.defects_pure, List.append_nil,
    List.append_eq_nil_iff] at h
  intro mode hmode rule hrule
  simp only [lexerModes, Checked.value_bind, Checked.value_pure, List.mem_mapIdx] at hmode
  obtain ⟨i, hi, rfl⟩ := hmode
  obtain ⟨entry, hentry, rfl⟩ := List.mem_map.mp hrule
  rcases List.mem_append.mp (List.mem_filter.mp hentry).1 with hliteral | hlexer
  · obtain ⟨rule, hmade, rfl⟩ := List.mem_map.mp hliteral
    rw [Checked.value_eachSome] at hmade
    obtain ⟨literal, hmem, hvalue⟩ := List.mem_filterMap.mp hmade
    exact literalRule_takes (himplicit literal hmem) hvalue
  · exact rulesByMode_takes h.2 entry hlexer

end Rules

/-- The literals that are given tokens of their own are among those used. -/
theorem declareTokens_implicit {names : List Ident} {lexerDecls parserDecls : List RuleDecl}
    (h : ∀ r ∈ parserDecls, NoneEmpty (alternativesLiterals r.alternatives)) :
    ∀ literal ∈ (declareTokens names lexerDecls parserDecls).implicit, literal.1 ≠ [] := by
  apply List.foldlRecOn (motive := fun state : Vocabulary × List (List Char × Nat) =>
    ∀ literal ∈ state.2, literal.1 ≠ [])
  · simp
  · intro state hstate text htext
    obtain ⟨r, hr, htext⟩ := List.mem_flatMap.mp htext
    unfold addImplicit
    split
    · exact hstate
    · intro literal hliteral
      rcases List.mem_append.mp hliteral with hliteral | hliteral
      · exact hstate literal hliteral
      · rw [List.mem_singleton.mp hliteral]
        exact h r hr text htext

/-- No token rule of an accepted grammar matches the empty text. -/
theorem modes_take {text : List Char} {start : Option String} {g : Grammar}
    (h : compile text start = .ok g) :
    ∀ mode ∈ g.modes, ∀ rule ∈ mode.rules, rule.pattern.matchesEmpty = false := by
  obtain ⟨decl, hread, hclean, rfl⟩ := compile_ok h
  simp only [grammarOf, Checked.defects_bind, List.append_eq_nil_iff, each_report_defects] at hclean
  obtain ⟨hwhole, hmodes, -⟩ := hclean
  have hdefects : allRuleDefects text decl.value.kind [] decl.value.rules = [] := by
    simp only [grammarDefects, List.append_eq_nil_iff] at hwhole
    exact hwhole.2
  have hfirst := (unique_of_no_defects hdefects).1
  rw [hfirst] at hmodes
  intro mode hmode
  simp only [grammarOf, hfirst, Checked.value_bind, Checked.value_pure] at hmode
  apply lexerModes_takes _ hmodes mode hmode
  apply declareTokens_implicit
  intro r hr
  exact read_noneEmpty hread r (List.mem_filter.mp hr).1

theorem mem_modeRules {g : Grammar} {i : Nat} {rule : TokenRule} (h : rule ∈ modeRules g i) :
    ∃ mode ∈ g.modes, rule ∈ mode.rules := by
  unfold modeRules at h
  split at h
  · rename_i mode hmode
    exact ⟨mode, List.mem_of_getElem? hmode, h⟩
  · cases h

/-- Every match of a token rule of an accepted grammar takes a character. -/
theorem matchLength_pos {text : List Char} {start : Option String} {g : Grammar}
    (h : compile text start = .ok g) {mode : Nat} {rule : TokenRule}
    (hrule : rule ∈ modeRules g mode) {rest : List Char} {n : Nat}
    (hn : rule.pattern.matchLength rest = some n) : 0 < n := by
  have hempty : rule.pattern.matchesEmpty = false := by
    obtain ⟨m, hm, hrule⟩ := mem_modeRules hrule
    exact modes_take h m hm rule hrule
  rcases Nat.eq_zero_or_pos n with rfl | hpos
  · have hmatches := matchesEmpty_of_matchLength_zero hn
    rw [hempty] at hmatches
    cases hmatches
  · exact hpos

end GrammarWorkbench.Run
