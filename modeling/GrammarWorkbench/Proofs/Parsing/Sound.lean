import GrammarWorkbench.Proofs.Derivation.Accepted
import GrammarWorkbench.Proofs.Derivation.Annotated
import GrammarWorkbench.Proofs.Parsing.Invariant
import GrammarWorkbench.Proofs.Parsing.Leaves

/-!
# Trees without defects are derivation trees

A parse that reports nothing has read what was declared: its tree is a derivation tree of the
document before any rule is split, and its leaves are the tokens that were read. The end of the
input can be a leaf as well, any number of times, but only where no token is left.
-/

set_option autoImplicit false

namespace GrammarWorkbench.Run

open GrammarWorkbench.Model GrammarWorkbench.Analysis GrammarWorkbench.Compile
open GrammarWorkbench.Derivation
open scoped Computability

theorem parseTerminal_clean {p : ParserConfig} {m : TokenMatch} {ts : List Token}
    {r : Parsed (List Tree)} (h : parseTerminal p m ts = .ok r) (hclean : r.defects = []) :
    m.accepts (nextType ts) ∧ r = ⟨[.token (currentToken p ts)], [], ts.tail⟩ := by
  unfold parseTerminal at h
  by_cases hm : m.accepts (nextType ts)
  · rw [if_pos hm] at h
    exact ⟨hm, (Except.ok.inj h).symm⟩
  · rw [if_neg hm] at h
    dsimp only at h
    split_ifs at h <;> (obtain rfl := Except.ok.inj h; cases hclean)

theorem parseNothing_defects {p : ParserConfig} {ts : List Token} {r : Parsed (List Tree)}
    (h : parseNothing p ts = .ok r) : r.defects ≠ [] := by
  unfold parseNothing at h
  dsimp only at h
  split_ifs at h <;> (obtain rfl := Except.ok.inj h; simp)

/-- A run without defects reads words of what it is about, all of whose members are good, and
covers the tokens it uses up. -/
def cleanRun (p : ParserConfig) (good : Tree → Prop) (hend : p.endToken.isEnd)
    (htoken : ∀ t, good (.token t)) : RunInvariant p where
  holds l ts r := r.defects = [] →
    r.value ∈ l ∧ (∀ c ∈ r.value, good c) ∧
      Covers p.endToken ts (Tree.allLeafTokens r.value) r.rest
  mono hlm h hclean := ⟨hlm (h hclean).1, (h hclean).2⟩
  done ts _ := ⟨rfl, by simp, .refl _ ts⟩
  andThen := by
    intro l m ts r s hr hs hclean
    obtain ⟨hr0, hs0⟩ := List.append_eq_nil_iff.mp hclean
    obtain ⟨hrl, hrgood, hrc⟩ := hr hr0
    obtain ⟨hsm, hsgood, hsc⟩ := hs hs0
    refine ⟨Language.append_mem_mul hrl hsm, ?_, ?_⟩
    · intro c hc
      exact (List.mem_append.mp hc).elim (hrgood c) (hsgood c)
    · rw [allLeafTokens_append]
      exact hrc.trans hsc
  terminal := by
    intro m ts r hr hclean
    obtain ⟨hm, rfl⟩ := parseTerminal_clean hr hclean
    refine ⟨⟨currentToken p ts, ?_, rfl⟩, by simpa using htoken _, covers_current p ts⟩
    rwa [nextType_eq hend] at hm
  nothing hr hclean := absurd hclean (parseNothing_defects hr)

theorem parse_ok {g : Grammar} {input : List Char} {tokens : List Token} {limit start : Nat}
    {cancelled : Bool} {tree : Tree} {ds : List Diagnostic.Defect} :
    parse g input tokens limit cancelled start = .ok (tree, ds) ↔
      ∃ r, callRule ⟨g, input, .atEnd input, limit, cancelled⟩ limit start 0
        (visibleTokens tokens) = .ok r ∧ r.value = tree ∧ r.defects = ds := by
  unfold parse
  dsimp only
  split <;> simp_all

section Calls

variable {text : List Char} {g : Grammar} {d : DeclaredGrammar} {rules : List (ParserRule Unit)}
variable {p : ParserConfig}

/-- The children that the block of a compiled rule allows, and those that an operator allows
behind a node of the rule, are those of a declared alternative. -/
theorem compiled_children (acc : Accepted text g d rules) {i : Nat} {rule : ParserRule Lookahead}
    (hrule : g.parserRules[i]? = some rule) :
    ∃ r, d.rules[i]? = some r ∧
      blockWords leafWords (fun i _ => nodeWords i) rule.block ≤
        declaredRuleWords d leafWords nodeWords r ∧
      ∀ q, nodeWords i * operatorWords leafWords (fun i _ => nodeWords i) rule.operators q ≤
        declaredRuleWords d leafWords nodeWords r := by
  rw [acc.annotated, List.getElem?_map, Option.map_eq_some_iff] at hrule
  obtain ⟨plain, hplain, rfl⟩ := hrule
  obtain ⟨r, hr, rfl⟩ := acc.exists_declared hplain
  obtain ⟨hblock, hops⟩ := parserRule_sound leafWords (acc.name i r hr) (acc.index i r hr)
    (acc.clean i r hr) nodeWords
  refine ⟨r, hr, ?_, fun q => ?_⟩
  · simpa only [annotateRule, blockWords_annotate] using hblock
  · simpa only [annotateRule, operatorWords_annotate] using hops q

theorem callRule_clean (acc : Accepted text g d rules) (hg : p.grammar = g)
    (hend : p.endToken.isEnd) (room : Nat) :
    (cleanRun p (DerivationTree d) hend .token).Calls (callRule p room) fun i _ => nodeWords i := by
  subst hg
  apply RunInvariant.callRule_holds
  · intro i rule q ts c hrule hc hclean
    obtain ⟨r, hr, hblock, -⟩ := compiled_children acc hrule
    obtain ⟨hw, hgood, hcovers⟩ := hc hclean
    refine ⟨⟨c.value, rfl⟩, ?_, ?_⟩
    · simpa using DerivationTree.rule hr (hblock hw) hgood
    · simpa [Tree.allLeafTokens, Tree.leafTokens] using hcovers
  · intro i rule q start left ds ts c hrule hleft hc hclean
    obtain ⟨r, hr, -, hop⟩ := compiled_children acc hrule
    obtain ⟨hds, hcs⟩ := List.append_eq_nil_iff.mp hclean
    obtain ⟨hnode, hleftgood, hleftc⟩ := hleft hds
    obtain ⟨hw, hgood, hcovers⟩ := hc hcs
    refine ⟨⟨left :: c.value, rfl⟩, ?_, ?_⟩
    · have hchildren : ∀ t ∈ left :: c.value, DerivationTree d t := by
        intro t ht
        rcases List.mem_cons.mp ht with rfl | ht
        · exact hleftgood t (by simp)
        · exact hgood t ht
      simpa using DerivationTree.rule hr (hop q (Language.append_mem_mul hnode hw)) hchildren
    · simpa [Tree.allLeafTokens, Tree.leafTokens] using hleftc.trans hcovers

end Calls

theorem parse_clean {text : List Char} {g : Grammar} {d : DeclaredGrammar}
    {rules : List (ParserRule Unit)} (acc : Accepted text g d rules) {input : List Char}
    {tokens : List Token} {limit start : Nat} {cancelled : Bool} {tree : Tree}
    (hparse : parse g input tokens limit cancelled start = .ok (tree, [])) :
    DerivationTree d tree ∧ (∃ children, tree = .rule start children) ∧
      ∃ rest, Covers (.atEnd input) (visibleTokens tokens) tree.leafTokens rest := by
  obtain ⟨r, hr, rfl, hdefects⟩ := parse_ok.mp hparse
  have hrun := callRule_clean (p := ⟨g, input, .atEnd input, limit, cancelled⟩) acc rfl rfl
    limit start 0 _ r hr hdefects
  obtain ⟨⟨children, hnode⟩, htree, hcovers⟩ := hrun
  refine ⟨htree _ (by simp), ⟨children, by simpa using hnode⟩, r.rest, ?_⟩
  simpa [Tree.allLeafTokens] using hcovers

/-- The tree of a parse that reports nothing is a derivation tree of the document as declared,
with the start rule at its root, and its leaves but for ends of the input are the first tokens in
order. -/
theorem parse_derivationTree {text : List Char} {startName : Option String} {g : Grammar}
    (h : compile text startName = .ok g) {input : List Char} {tokens : List Token}
    (htypes : ∀ t ∈ visibleTokens tokens, t.type ≠ endType) {limit start : Nat} {cancelled : Bool}
    {tree : Tree} (hparse : parse g input tokens limit cancelled start = .ok (tree, [])) :
    ∃ d, DeclaredGrammar.ofText? text = some d ∧ DerivationTree d tree ∧
      (∃ children, tree = .rule start children) ∧
      tree.leafTokens.filter (!·.isEnd) <+: visibleTokens tokens := by
  obtain ⟨d, rules, acc⟩ := compile_accepted h
  obtain ⟨htree, hroot, rest, hcovers⟩ := parse_clean acc hparse
  refine ⟨d, acc.declared, htree, hroot, hcovers.isPrefix rfl fun t ht => ?_⟩
  simpa [Token.isEnd] using htypes t ht

def Token.ofType (type : Nat) : Token := ⟨"", type, [], .empty 0, .first, 0⟩

def expressionTokens : List Token := [5, 1, 3, 5, 2, 5, 4].map .ofType

theorem expressionTokens_parsed : ∃ g tree, compile expressionText none = .ok g ∧
    parse g [] expressionTokens 5 false 0 = .ok (tree, []) := by
  have h : ∃ g ∈ (compile expressionText none).toOption,
      ∃ r ∈ (parse g [] expressionTokens 5 false 0).toOption, r.2.isEmpty := by decide +kernel
  obtain ⟨g, hg, ⟨tree, ds⟩, hr, hds⟩ := h
  obtain rfl := List.isEmpty_iff.mp hds
  exact ⟨g, tree, toOption_eq_some.mp hg, toOption_eq_some.mp hr⟩

theorem parse_derivationTree_expression : ∃ g d tree,
    compile expressionText none = .ok g ∧
      parse g [] expressionTokens 5 false 0 = .ok (tree, []) ∧
      DeclaredGrammar.ofText? expressionText = some d ∧ DerivationTree d tree ∧
      (∃ children, tree = .rule 0 children) ∧
      tree.leafTokens.filter (!·.isEnd) <+: visibleTokens expressionTokens := by
  obtain ⟨g, tree, hg, hparse⟩ := expressionTokens_parsed
  obtain ⟨d, hd⟩ := parse_derivationTree hg (by decide) hparse
  exact ⟨g, d, tree, hg, hparse, hd⟩

end GrammarWorkbench.Run
