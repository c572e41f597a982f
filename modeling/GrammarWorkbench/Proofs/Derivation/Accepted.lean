import GrammarWorkbench.Compile.Grammar
import GrammarWorkbench.Proofs.Derivation.Split

/-!
# Accepted documents

A grammar is handed out only if nothing in its document is defective. Then every declared parser
rule is compiled without a defect, under its own index, and the rules have no cycle of calls from
the left that the search would find.
-/

set_option autoImplicit false

namespace GrammarWorkbench.Derivation

open GrammarWorkbench.Text GrammarWorkbench.Declaration GrammarWorkbench.Diagnostic
open GrammarWorkbench.Model GrammarWorkbench.Compile GrammarWorkbench.Analysis

/-- What holds of an accepted document: `d` are its parser rules as declared, and `rules` the
compiled ones before their lookahead is written into them. -/
structure Accepted (text : List Char) (g : Grammar) (d : DeclaredGrammar)
    (rules : List (ParserRule Unit)) : Prop where
  declared : DeclaredGrammar.ofText? text = some d
  vocabulary : g.vocabulary = d.types.vocabulary
  annotated : g.parserRules =
    rules.map (annotateRule g.vocabulary (table g.vocabulary rules))
  acyclic : leftRecursion g.vocabulary rules (table g.vocabulary rules) = []
  length_eq : rules.length = d.rules.length
  clean (i : Nat) (r : RuleDecl) : d.rules[i]? = some r →
    (parserRule (d.scope text r.name.name) i r).defects = []
  compiled (i : Nat) (r : RuleDecl) : d.rules[i]? = some r →
    rules[i]? = some (parserRule (d.scope text r.name.name) i r).value
  name (i : Nat) (r : RuleDecl) : d.rules[i]? = some r → ¬ isTokenName r.name.name
  index (i : Nat) (r : RuleDecl) : d.rules[i]? = some r →
    d.ruleNames.idxOf? r.name.name = some i

theorem Accepted.exists_declared {text : List Char} {g : Grammar} {d : DeclaredGrammar}
    {rules : List (ParserRule Unit)} (acc : Accepted text g d rules) {i : Nat}
    {rule : ParserRule Unit} (hrule : rules[i]? = some rule) :
    ∃ r, d.rules[i]? = some r ∧ rule = (parserRule (d.scope text r.name.name) i r).value := by
  obtain ⟨hi, -⟩ := List.getElem?_eq_some_iff.mp hrule
  have hr := List.getElem?_eq_getElem (acc.length_eq ▸ hi)
  refine ⟨_, hr, ?_⟩
  have := (acc.compiled i _ hr).symm.trans hrule
  exact (Option.some.inj this).symm

section Defects

theorem each_report_defects (ds : List Defect) : (Checked.each Checked.report ds).defects = ds := by
  induction ds with
  | nil => rfl
  | cons d ds ih => simp [Checked.each, Checked.report, ih]

theorem each_report_map {α : Type} (f : α → Defect) (as : List α) :
    (Checked.each (fun a => Checked.report (f a)) as).defects = as.map f := by
  induction as with
  | nil => rfl
  | cons a as ih =>
    rw [Checked.each, Checked.defects_bind, Checked.defects_bind, ih]
    simp [Checked.report]

/-- Without a second definition of a rule every rule is the first of its name. -/
theorem unique_of_no_defects {source : List Char} {kind : GrammarKind} {seen : List String}
    {rs : List RuleDecl} (h : allRuleDefects source kind seen rs = []) :
    firstOfEach (fun r : RuleDecl => r.name.name) seen rs = rs ∧
      (rs.map (·.name.name)).Nodup ∧ ∀ r ∈ rs, r.name.name ∉ seen := by
  induction rs generalizing seen with
  | nil => simp [firstOfEach]
  | cons r rs ih =>
    by_cases hseen : seen.contains r.name.name
    · simp only [allRuleDefects, hseen, if_true] at h
      cases h
    · simp only [allRuleDefects, hseen, Bool.false_eq_true, if_false,
        List.append_eq_nil_iff] at h
      obtain ⟨hfirst, hnodup, hnew⟩ := ih h.2
      have hr : r.name.name ∉ seen := by simpa using hseen
      refine ⟨by simp [firstOfEach, hr, hfirst], ?_, ?_⟩
      · rw [List.map_cons, List.nodup_cons]
        refine ⟨?_, hnodup⟩
        intro hmem
        obtain ⟨r', hr', heq⟩ := List.mem_map.mp hmem
        exact hnew r' hr' (by simp [heq])
      · intro r' hr'
        rcases List.mem_cons.mp hr' with rfl | hr'
        · exact hr
        · exact fun hmem => hnew r' hr' (List.mem_cons_of_mem _ hmem)

end Defects

section Rules

variable {source : List Char} {types : TokenTypes} {names : List String}

theorem numberedRules_length {first : Nat} {decls : List RuleDecl} :
    (numberedRules source types names first decls).value.length = decls.length := by
  induction decls generalizing first with
  | nil => rfl
  | cons r rs ih => simp [numberedRules, ih]

theorem numberedRules_get {first i : Nat} {decls : List RuleDecl} {r : RuleDecl}
    (h : (numberedRules source types names first decls).defects = []) (hr : decls[i]? = some r) :
    (parserRule ⟨source, types, names, r.name.name⟩ (first + i) r).defects = [] ∧
    (numberedRules source types names first decls).value[i]? =
      some (parserRule ⟨source, types, names, r.name.name⟩ (first + i) r).value := by
  induction decls generalizing first i with
  | nil => simp at hr
  | cons r' rs ih =>
    simp only [numberedRules, Checked.defects_bind, Checked.defects_pure, List.append_nil,
      List.append_eq_nil_iff] at h
    cases i with
    | zero =>
      obtain rfl : r' = r := by simpa using hr
      exact ⟨h.1, by simp [numberedRules]⟩
    | succ i =>
      have hi : first + 1 + i = first + (i + 1) := by omega
      have := ih h.2 (by simpa using hr)
      rw [hi] at this
      simpa [numberedRules] using this

end Rules

theorem idxOf?_of_nodup {rs : List RuleDecl} (hn : (rs.map (·.name.name)).Nodup) {i : Nat}
    {r : RuleDecl} (hr : rs[i]? = some r) :
    (rs.map (·.name.name)).idxOf? r.name.name = some i := by
  obtain ⟨hi, rfl⟩ := List.getElem?_eq_some_iff.mp hr
  rw [List.idxOf?_eq_some_iff]
  refine ⟨by simpa using hi, by simp, ?_⟩
  intro j hj heq
  have hlen : i < (rs.map (·.name.name)).length := by simpa using hi
  have hne := List.pairwise_iff_getElem.mp hn j i (hj.trans hlen) hlen hj
  exact hne (by simpa using heq)

section Vocabulary

theorem foldl_le {β γ : Type} {f : γ → β → γ} (size : γ → Nat)
    (h : ∀ c b, size c ≤ size (f c b)) (bs : List β) (c : γ) : size c ≤ size (bs.foldl f c) := by
  induction bs generalizing c with
  | nil => exact Nat.le_refl _
  | cons b bs ih => exact Nat.le_trans (h c b) (ih (f c b))

theorem size_le_add (v : Vocabulary) (name : String) : v.size ≤ (v.add name).size := by
  simp [Vocabulary.size, Vocabulary.add]

theorem size_le_ensure (v : Vocabulary) (name : String) : v.size ≤ (v.ensure name).size := by
  unfold Vocabulary.ensure
  split
  · exact Nat.le_refl _
  · exact size_le_add v name

theorem declareTokens_size_pos (names : List Ident) (lexerRules parserRules : List RuleDecl) :
    0 < (declareTokens names lexerRules parserRules).vocabulary.size := by
  have hnames := foldl_le Vocabulary.size
    (fun v (ident : Ident) => size_le_ensure v ident.name) names .initial
  have hliterals := foldl_le (fun state : Vocabulary × List (List Char × Nat) => state.1.size)
    (f := addImplicit (literalAliases (lexerRules.filter (·.fragment.isNone))))
    (fun state text => by
      unfold addImplicit
      split
      · exact Nat.le_refl _
      · exact size_le_add _ _)
    (parserRules.flatMap fun r => alternativesLiterals r.alternatives)
    (names.foldl (fun v ident => v.ensure ident.name) .initial, [])
  have hrules := foldl_le Vocabulary.size
    (fun v (r : RuleDecl) => size_le_ensure v r.name.name)
    (lexerRules.filter (·.fragment.isNone))
    ((parserRules.flatMap fun r => alternativesLiterals r.alternatives).foldl
      (addImplicit (literalAliases (lexerRules.filter (·.fragment.isNone))))
      (names.foldl (fun v ident => v.ensure ident.name) .initial, [])).1
  exact Nat.lt_of_lt_of_le (Nat.lt_of_lt_of_le (Nat.lt_of_lt_of_le Nat.zero_lt_one hnames)
    hliterals) hrules

theorem Accepted.size_pos {text : List Char} {g : Grammar} {d : DeclaredGrammar}
    {rules : List (ParserRule Unit)} (acc : Accepted text g d rules) : 0 < g.vocabulary.size := by
  obtain ⟨decl, -, rfl⟩ := Option.map_eq_some_iff.mp acc.declared
  rw [acc.vocabulary]
  exact declareTokens_size_pos _ _ _

end Vocabulary

/-- A document is accepted only if it can be read and neither reading nor compiling it finds a
defect. -/
theorem compile_ok {text : List Char} {start : Option String} {g : Grammar}
    (h : compile text start = .ok g) :
    ∃ decl, read text = .ok decl ∧ (grammarOf text start decl.value).defects = [] ∧
      (grammarOf text start decl.value).value = g := by
  unfold compile at h
  cases hread : read text with
  | error e => simp [hread] at h
  | ok decl =>
    simp only [hread] at h
    by_cases hempty : (decl >>= grammarOf text start).defects.isEmpty
    · rw [if_pos hempty] at h
      rw [List.isEmpty_iff, Checked.defects_bind, List.append_eq_nil_iff] at hempty
      exact ⟨decl, rfl, hempty.2, by simpa using h⟩
    · rw [if_neg hempty] at h
      cases h

theorem grammarOf_clean {text : List Char} {start : Option String} {g : GrammarDecl}
    (h : (grammarOf text start g).defects = []) :
    (g.rules.map (·.name.name)).Nodup ∧
    (parserRules text (DeclaredGrammar.ofDeclarations g).types
      (DeclaredGrammar.ofDeclarations g).rules).defects = [] ∧
    (grammarOf text start g).value.parserRules =
      (parserRules text (DeclaredGrammar.ofDeclarations g).types
        (DeclaredGrammar.ofDeclarations g).rules).value ∧
    (grammarOf text start g).value.vocabulary =
      (DeclaredGrammar.ofDeclarations g).types.vocabulary := by
  simp only [grammarOf, Checked.defects_bind, List.append_eq_nil_iff, each_report_defects] at h
  obtain ⟨hwhole, -, hrules, -⟩ := h
  have hdefects : allRuleDefects text g.kind [] g.rules = [] := by
    simp only [grammarDefects, List.append_eq_nil_iff] at hwhole
    exact hwhole.2
  obtain ⟨hfirst, hnodup, -⟩ := unique_of_no_defects hdefects
  rw [hfirst] at hrules
  refine ⟨hnodup, hrules, ?_, ?_⟩
  · simp only [grammarOf, hfirst, Checked.value_bind, Checked.value_pure]
    rfl
  · simp only [grammarOf, hfirst, Checked.value_bind, Checked.value_pure]
    rfl

/-- An accepted document has the parser rules it declares, all of them without defects. -/
theorem compile_accepted {text : List Char} {start : Option String} {g : Grammar}
    (h : compile text start = .ok g) : ∃ d rules, Accepted text g d rules := by
  obtain ⟨decl, hread, hclean, rfl⟩ := compile_ok h
  obtain ⟨hnodup, hdefects, hrules, hvoc⟩ := grammarOf_clean hclean
  have hdeclared : DeclaredGrammar.ofText? text =
      some (DeclaredGrammar.ofDeclarations decl.value) := by
    rw [DeclaredGrammar.ofText?, hread]
    rfl
  have hlexer : ∀ r ∈ (DeclaredGrammar.ofDeclarations decl.value).rules, ¬ r.isLexerRule := by
    intro r hr
    simpa using (List.mem_filter.mp hr).2
  have hnames : ((DeclaredGrammar.ofDeclarations decl.value).rules.map (·.name.name)).Nodup :=
    hnodup.sublist (List.filter_sublist.map _)
  generalize DeclaredGrammar.ofDeclarations decl.value = d at *
  simp only [parserRules, Checked.defects_bind, Checked.defects_pure, List.append_nil,
    List.append_eq_nil_iff, each_report_map, List.map_eq_nil_iff] at hdefects
  simp only [parserRules, Checked.value_bind, Checked.value_pure, ← hvoc] at hdefects hrules
  exact ⟨d, (numberedRules text d.types d.ruleNames 0 d.rules).value,
    { declared := hdeclared
      vocabulary := hvoc
      annotated := hrules
      acyclic := hdefects.2
      length_eq := numberedRules_length
      clean := fun i r hr => by
        have hrule := (numberedRules_get hdefects.1 hr).1
        rwa [Nat.zero_add] at hrule
      compiled := fun i r hr => by
        have hrule := (numberedRules_get hdefects.1 hr).2
        rwa [Nat.zero_add] at hrule
      name := fun i r hr => hlexer r (List.mem_of_getElem? hr)
      index := fun i r hr => idxOf?_of_nodup hnames hr }⟩

def expressionText : List Char := "e:e'*'e|e'+'e|'-'e|e'!'|'1';".toList

theorem toOption_eq_some {ε α : Type} {e : Except ε α} {a : α} :
    e.toOption = some a ↔ e = .ok a := by
  cases e <;> simp [Except.toOption]

theorem expressionText_accepted : ∃ g, compile expressionText none = .ok g := by
  have h : ∃ g ∈ (compile expressionText none).toOption, g.parserRules.length = 1 := by
    decide +kernel
  obtain ⟨g, hg, -⟩ := h
  exact ⟨g, toOption_eq_some.mp hg⟩

end GrammarWorkbench.Derivation
