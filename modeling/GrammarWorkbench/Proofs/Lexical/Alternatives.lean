import GrammarWorkbench.Proofs.Lexical.Compiled
import GrammarWorkbench.Proofs.Pattern.Matched

/-!
# Alternatives with one action and with several

A lexer rule has one pattern if its alternatives end in the same commands, and else one for each
alternative. Either way something is matched at the same places, and it is a text of the rule. A
rule without lazy repetitions is matched equally far both ways. With one it need not be: the single
pattern takes the first text it prefers, whereas the furthest of several patterns is taken, each
matched by preference only if there is a lazy repetition in it.
-/

set_option autoImplicit false

namespace GrammarWorkbench.Lexical

open GrammarWorkbench.Text GrammarWorkbench.Declaration GrammarWorkbench.Diagnostic
open GrammarWorkbench.Model GrammarWorkbench.Compile GrammarWorkbench.Pattern

section Patterns

variable {lex : Lexicon} {own : Bool} {inline : Ident → Checked Pattern}

theorem value_alternativePatterns (as : List AltDecl) :
    (alternativePatterns lex own inline as).value =
      as.map fun a => choice (alternativePatterns lex own inline [a]).value := by
  induction as with
  | nil => rfl
  | cons a as ih =>
    rw [List.map_cons, ← ih]
    simp [alternativePatterns, choice]

/-- The pattern of all alternatives is the choice of those of each. -/
theorem rulePatterns_together (lex : Lexicon) (r : RuleDecl) :
    (rulePatterns lex r true).value = [choice (rulePatterns lex r false).value] := by
  simp only [rulePatterns, if_true, Bool.false_eq_true, if_false, Checked.value_bind,
    Checked.value_pure, Checked.value_each, ofAlternatives]
  rw [value_alternativePatterns]

theorem rulePatterns_ne_nil {r : RuleDecl} (hne : r.alternatives ≠ []) :
    (rulePatterns lex r false).value ≠ [] := by
  simpa [rulePatterns, Checked.value_each] using hne

end Patterns

/-- A pattern and its pieces have matches at the same places, which end where a match of the pattern
can end. They end at the same offset unless there are several pieces, a lazy repetition and more
than one possible end. -/
structure MatchedAlike (p : Pattern) (pieces : List Pattern) (input : List Char) (offset : Nat) :
    Prop where
  unmatched : p.matchEnd? input offset = none ↔ ∀ q ∈ pieces, q.matchEnd? input offset = none
  together : ∀ e, p.matchEnd? input offset = some e → e ∈ p.possibleEnds input offset
  apart : ∀ e, furthestEnd? pieces input offset = some e → e ∈ p.possibleEnds input offset
  same : pieces.length = 1 ∨ p.isLazy = false ∨ (p.possibleEnds input offset).Subsingleton →
    furthestEnd? pieces input offset = p.matchEnd? input offset

theorem matchedAlike_choice {ps : List Pattern} (hne : ps ≠ []) (input : List Char)
    (offset : Nat) : MatchedAlike (choice ps) ps input offset where
  unmatched := matchEnd?_choice_eq_none_iff hne
  together _ := matchEnd?_mem_possibleEnds
  apart e he := by
    obtain ⟨p, hp, he⟩ := List.mem_filterMap.mp (List.max?_eq_some_iff.mp he).1
    exact (mem_possibleEnds_choice hne).mpr ⟨p, hp, matchEnd?_mem_possibleEnds he⟩
  same := by
    rintro (hsole | hgreedy | hone)
    · obtain ⟨p, rfl⟩ := List.length_eq_one_iff.mp hsole
      exact furthestEnd?_singleton p
    · exact furthestEnd?_of_greedy hne hgreedy
    · exact furthestEnd?_of_subsingleton hne hone

/-- The patterns in use for a lexer rule of an accepted grammar are one for all its alternatives or
one for each, and at every place of every text both are matched alike. -/
theorem alternatives_matched_alike {text : List Char} {start : Option String} {g : Grammar}
    (h : compile text start = .ok g) :
    ∃ decl, read text = .ok decl ∧ ∀ r ∈ decl.value.rules, r.isLexerRule →
      ∃ p, (rulePatterns ⟨text, decl.value.rules⟩ r true).value = [p] ∧
        (r.fragment = none → (∀ q, q ∈ patternsOf g r.name.name ↔ q = p) ∨
          ∀ q, q ∈ patternsOf g r.name.name ↔
            q ∈ (rulePatterns ⟨text, decl.value.rules⟩ r false).value) ∧
        ∀ input offset, MatchedAlike p (rulePatterns ⟨text, decl.value.rules⟩ r false).value
          input offset := by
  obtain ⟨decl, hread, hsound, hpatterns⟩ := compile_patterns h
  refine ⟨decl, hread, ?_⟩
  intro r hr hlexer
  refine ⟨_, rulePatterns_together _ r, ?_, ?_⟩
  · intro hfragment
    obtain ⟨together, hmem⟩ := hpatterns r hr hlexer hfragment
    cases together with
    | true =>
      left
      intro q
      rw [hmem q, rulePatterns_together, List.mem_singleton]
    | false => exact .inr hmem
  · exact matchedAlike_choice (rulePatterns_ne_nil (hsound.filled r hr).1)

def skippingText : List Char := "B:'b'+|'bbc'->skip;".toList

theorem skippingText_accepted : ∃ g ∈ (compile skippingText none).toOption,
    ∃ decl ∈ (read skippingText).toOption, ∃ r ∈ decl.value.rules, r.isLexerRule ∧
      patternsOf g r.name.name = (rulePatterns ⟨skippingText, decl.value.rules⟩ r false).value ∧
      ∀ p ∈ (rulePatterns ⟨skippingText, decl.value.rules⟩ r true).value, p.isLazy = false ∧
        p.matchEnd? "abbc".toList 1 = some 4 := by
  decide +kernel

theorem alternatives_matched_alike_skipping : ∃ g decl, compile skippingText none = .ok g ∧
    read skippingText = .ok decl ∧ ∃ r ∈ decl.value.rules,
      furthestEnd? (patternsOf g r.name.name) "abbc".toList 1 = some 4 := by
  obtain ⟨g, hg, decl, hread, r, hr, hlexer, hpieces, hpattern⟩ := skippingText_accepted
  have hcompile := Derivation.toOption_eq_some.mp hg
  have hread := Derivation.toOption_eq_some.mp hread
  obtain ⟨decl', hread', halike⟩ := alternatives_matched_alike hcompile
  obtain rfl : decl = decl' := Except.ok.inj (hread.symm.trans hread')
  obtain ⟨p, hp, -, hmatched⟩ := halike r hr hlexer
  obtain ⟨hgreedy, hend⟩ := hpattern p (by rw [hp]; exact List.mem_singleton_self p)
  refine ⟨g, decl, hcompile, hread, r, hr, ?_⟩
  rw [hpieces, (hmatched "abbc".toList 1).same (.inr (.inl hgreedy)), hend]

def hidingText : List Char := "A : 'a'+? | 'aa' -> channel(HIDDEN) ;".toList

/-- Of two letters the rule takes both, and would take one if its alternatives had one pattern. -/
theorem alternatives_matched_apart : ∃ g ∈ (compile hidingText none).toOption,
    ∃ decl ∈ (read hidingText).toOption, ∃ r ∈ decl.value.rules, r.isLexerRule ∧
      patternsOf g r.name.name = (rulePatterns ⟨hidingText, decl.value.rules⟩ r false).value ∧
      furthestEnd? (rulePatterns ⟨hidingText, decl.value.rules⟩ r false).value "aa".toList 0 =
        some 2 ∧
      ∀ p ∈ (rulePatterns ⟨hidingText, decl.value.rules⟩ r true).value,
        p.matchEnd? "aa".toList 0 = some 1 := by
  decide +kernel

end GrammarWorkbench.Lexical
