import GrammarWorkbench.Proofs.Derivation.Filled
import GrammarWorkbench.Proofs.Lookahead.Notes
import GrammarWorkbench.Proofs.Parsing.Reads
import GrammarWorkbench.Proofs.Parsing.Sound

/-!
# Sentences of predictive rules are parsed

If one token is enough to choose, then every derivation tree is the tree of a parse without
defects. The limit on the depth of calls is met if it is no less than the height of the tree.
-/

set_option autoImplicit false

namespace GrammarWorkbench.Run

open GrammarWorkbench.Declaration GrammarWorkbench.Model GrammarWorkbench.Analysis
open GrammarWorkbench.Compile GrammarWorkbench.Derivation
open scoped Computability

namespace Tree

mutual

def height : Tree → Nat
  | rule _ cs => allHeight cs + 1
  | token _ => 0
  | error _ _ => 0

def allHeight : List Tree → Nat
  | [] => 0
  | t :: ts => max (height t) (allHeight ts)

end

theorem height_le_allHeight {c : Tree} {cs : List Tree} (h : c ∈ cs) :
    c.height ≤ allHeight cs := by
  induction cs with
  | nil => cases h
  | cons t ts ih =>
    rw [allHeight]
    rcases List.mem_cons.mp h with rfl | h
    · exact Nat.le_max_left _ _
    · exact Nat.le_trans (ih h) (Nat.le_max_right _ _)

end Tree

section Calls

variable {p : ParserConfig} {start : Nat}

theorem callRule_eq {room i q : Nat} {r : ParserRule Lookahead} {ts rest : List Token}
    {w : List Tree} (hcancel : p.isCancelled = false) (hr : p.rules[i]? = some r)
    (hops : r.operators = none)
    (hblock : parseBlock p (callRule p room) r.block ts = .ok ⟨w, [], rest⟩) :
    callRule p (room + 1) i q ts = .ok ⟨.rule i w, [], rest⟩ := by
  simp only [callRule, hcancel, hr, hops, Bool.false_eq_true, if_false]
  exact Parse.bind_ok.mpr ⟨_, _, hblock, Parse.pure_ok.mpr rfl, rfl⟩

structure Prepared (p : ParserConfig) (start : Nat) : Prop where
  running : p.isCancelled = false
  isEnd : p.endToken.isEnd
  size_pos : 0 < p.vocabulary.size
  isLL1 : IsLL1 p.vocabulary p.rules start
  annotated : p.rules.map (annotateRule p.vocabulary p.table) = p.rules
  unsplit : ∀ r ∈ p.rules, r.operators = none
  filled {r : ParserRule Lookahead} {b : RuleBlock Lookahead} {k : Sequence Lookahead} :
    r ∈ p.rules → BlockAt r.block b k → b.alternatives ≠ []

namespace Prepared

variable (h : Prepared p start)
include h

theorem annotateBlock_eq {i : Nat} {r : ParserRule Lookahead} (hr : p.rules[i]? = some r) :
    annotateBlock p.vocabulary p.table r.block = r.block := by
  have hrule : (p.rules.map (annotateRule p.vocabulary p.table))[i]? = some r := by
    rw [h.annotated, hr]
  rw [List.getElem?_map, hr] at hrule
  exact congrArg ParserRule.block (Option.some.inj hrule)

theorem reading {i : Nat} {r : ParserRule Lookahead} (hi : Reachable p.rules start i)
    (hr : p.rules[i]? = some r) : Reading p start i r where
  isEnd := h.isEnd
  size_pos := h.size_pos
  isLL1 := h.isLL1
  reachable := hi
  rule := hr
  filled := h.filled (List.mem_of_getElem? hr)

theorem compiledWords_eq {i : Nat} {r : ParserRule Lookahead} (hr : p.rules[i]? = some r)
    (q : Nat) :
    compiledWords p.rules i q = blockWords typeWords (compiledWords p.rules) r.block := by
  rw [compiledWords_some hr, ruleWords, h.unsplit r (List.mem_of_getElem? hr), operatorWords_none,
    kstar_zero, mul_one]

/-- Calls read derivation trees. The induction is on the room for calls, which is no less than the
height of the tree. -/
theorem readable {d : DeclaredGrammar}
    (hchildren : ∀ i children, DerivationTree d (.rule i children) → ∃ r, p.rules[i]? = some r ∧
      children ∈ blockWords leafWords (fun i _ => nodeWords i) r.block ∧
      ∀ c ∈ children, DerivationTree d c)
    (room : Nat) : ∀ c, DerivationTree d c → c.height ≤ room →
      Readable p start (callRule p room) c := by
  induction room with
  | zero =>
    intro c hc hheight
    constructor
    · rintro i children rfl
      simp [Tree.height] at hheight
    · rintro i children rfl
      simp [Tree.height] at hheight
  | succ room ih =>
    intro c hc hheight
    have hrule : ∀ i children, c = .rule i children → ∃ r, p.rules[i]? = some r ∧
        children ∈ blockWords leafWords (fun i _ => nodeWords i) r.block ∧
        ∀ c ∈ children, Readable p start (callRule p room) c := by
      rintro i children rfl
      obtain ⟨r, hr, hw, hderived⟩ := hchildren i children hc
      refine ⟨r, hr, hw, fun c hc => ih c (hderived c hc) ?_⟩
      have hle := Tree.height_le_allHeight hc
      rw [Tree.height] at hheight
      omega
    constructor
    · intro i children hci q
      obtain ⟨r, hr, hw, hgood⟩ := hrule i children hci
      rw [h.compiledWords_eq hr]
      have hleaves : leafTypes [c] = leafTypes children := by
        subst hci
        simp [leafTypes, Tree.allLeafTokens, Tree.leafTokens]
      rw [hleaves]
      exact leafTypes_block hw hgood
    · intro i children hci hi q ts rest hts hcovers hn
      obtain ⟨r, hr, hw, hgood⟩ := hrule i children hci
      subst hci
      have hleaves : Tree.allLeafTokens [.rule i children] = Tree.allLeafTokens children := by
        simp [Tree.allLeafTokens, Tree.leafTokens]
      rw [hleaves] at hcovers
      have hblock := block_reads (h.reading hi hr) r.block .root hw hgood ts rest hts hcovers
        (Or.inr ⟨Language.nil_mem_one, hn⟩)
      rw [h.annotateBlock_eq hr] at hblock
      have hcall : callRule p (room + 1) i q ts = .ok ⟨.rule i children, [], rest⟩ :=
        callRule_eq h.running hr (h.unsplit r (List.mem_of_getElem? hr)) hblock
      exact Parse.bind_ok.mpr ⟨_, _, hcall, Parse.pure_ok.mpr rfl, rfl⟩

end Prepared

end Calls

section Accepted

variable {text : List Char} {g : Grammar} {d : DeclaredGrammar} {rules : List (ParserRule Unit)}

/-- The children of a node of a rule that is not split are a word of its compiled block. -/
theorem declared_children (acc : Accepted text g d rules)
    (hops : ∀ r ∈ g.parserRules, r.operators = none) (i : Nat) (children : List Tree)
    (h : DerivationTree d (.rule i children)) :
    ∃ r, g.parserRules[i]? = some r ∧
      children ∈ blockWords leafWords (fun i _ => nodeWords i) r.block ∧
      ∀ c ∈ children, DerivationTree d c := by
  cases h with
  | @rule _ decl _ hdecl hw hc =>
    have hr : g.parserRules[i]? = some (annotateRule g.vocabulary (table g.vocabulary rules)
        (parserRule (d.scope text decl.name.name) i decl).value) := by
      rw [acc.annotated, List.getElem?_map, acc.compiled i decl hdecl]
      rfl
    refine ⟨_, hr, ?_, hc⟩
    have hnone := hops _ (List.mem_of_getElem? hr)
    rcases parserRule_cases (acc.clean i decl hdecl) with ⟨hclean, hblock, -⟩ | ⟨_, _, _, _, hsome⟩
    · have hwords := resolvedBlock_words d text decl.name.name leafWords (fun i _ => nodeWords i)
        decl hclean
      simp only [annotateRule, blockWords_annotate, hblock, hwords]
      exact hw
    · simp [annotateRule, hsome] at hnone

theorem prepared (acc : Accepted text g d rules) (hops : ∀ r ∈ g.parserRules, r.operators = none)
    {start : Nat} (hll : IsLL1 g.vocabulary g.parserRules start) (input : List Char)
    (limit : Nat) : Prepared ⟨g, input, .atEnd input, limit, false⟩ start where
  running := rfl
  isEnd := rfl
  size_pos := acc.size_pos
  isLL1 := hll
  annotated := accepted_annotated acc
  unsplit := hops
  filled {r b k} hr hb := by
    have hfilled := hb.filled (acc.filled hr)
    rw [BlockFilled] at hfilled
    exact hfilled.1

end Accepted

/-- Completeness for predictive rules: if no rule of an accepted document starts with itself and
one token is enough to choose, then tokens that are the leaves of a derivation tree of the start
rule, but for ends of the input behind them, are parsed without defects into that tree. The limit
on the depth of calls need only be as large as the tree is high. -/
theorem parse_complete {text : List Char} {startName : Option String} {g : Grammar}
    (h : compile text startName = .ok g) (hops : ∀ r ∈ g.parserRules, r.operators = none)
    {start : Nat} (hll : IsLL1 g.vocabulary g.parserRules start) {d : DeclaredGrammar}
    (hd : DeclaredGrammar.ofText? text = some d) {children : List Tree}
    (htree : DerivationTree d (.rule start children)) {input : List Char} {tokens : List Token}
    {ends : Nat}
    (hleaves : (Tree.rule start children).leafTokens =
      visibleTokens tokens ++ List.replicate ends (.atEnd input))
    (htypes : ∀ t ∈ visibleTokens tokens, t.type < g.vocabulary.size) {limit : Nat}
    (hlimit : (Tree.rule start children).height ≤ limit) :
    parse g input tokens limit false start = .ok (.rule start children, []) := by
  obtain ⟨d', rules, acc⟩ := compile_accepted h
  obtain rfl : d' = d := Option.some.inj (acc.declared.symm.trans hd)
  have hready := (prepared acc hops hll input limit).readable (declared_children acc hops) limit
    _ htree hlimit
  have hcovers : Covers (.atEnd input) (visibleTokens tokens)
      (Tree.allLeafTokens [.rule start children]) [] := by
    refine ⟨visibleTokens tokens, ends, by simp, ?_, fun _ => rfl⟩
    rw [← hleaves]
    simp [Tree.allLeafTokens]
  have hread := hready.reads start children rfl .start 0 _ [] htypes hcovers .start
  obtain ⟨r, r', hcall, hpure, heq⟩ := Parse.bind_ok.mp hread
  obtain rfl := Parse.pure_ok.mp hpure
  simp only [Parsed.mk.injEq, List.cons.injEq, and_true, List.append_nil] at heq
  exact parse_ok.mpr ⟨r, hcall, heq.1.symm, heq.2.1.symm⟩

section Nested

def nestedText : List Char := "s:'('s*')'|'x';".toList

def isNested : List (ParserRule Lookahead) → Bool
  | [⟨_, _, ⟨_, [⟨_, _, [.token (.type 1), .loop .zeroOrMore _ _ ⟨_, [⟨_, _, [.rule 0]⟩]⟩,
      .token (.type 2)]⟩, ⟨_, _, [.token (.type 3)]⟩]⟩, none, _⟩] => true
  | _ => false

def nestedTokens : List Token := [1, 3, 1, 2, 2].map .ofType

theorem nestedText_parsed : ∃ g tree, compile nestedText none = .ok g ∧ isNested g.parserRules ∧
    parse g [] nestedTokens 3 false 0 = .ok (tree, []) ∧ tree.leafTokens = nestedTokens ∧
    tree.height ≤ 2 ∧ ∀ t ∈ nestedTokens, t.type < g.vocabulary.size := by
  have h : ∃ g ∈ (compile nestedText none).toOption, isNested g.parserRules ∧
      (∀ t ∈ nestedTokens, t.type < g.vocabulary.size) ∧
      ∃ r ∈ (parse g [] nestedTokens 3 false 0).toOption, r.2.isEmpty ∧
        r.1.leafTokens = nestedTokens ∧ r.1.height ≤ 2 := by decide +kernel
  obtain ⟨g, hg, hnested, htypes, ⟨tree, ds⟩, hr, hds, hleaves, hheight⟩ := h
  obtain rfl := List.isEmpty_iff.mp hds
  exact ⟨g, tree, toOption_eq_some.mp hg, hnested, toOption_eq_some.mp hr, hleaves, hheight,
    htypes⟩

theorem starts_token {rules : List (ParserRule Lookahead)} {t : Nat} {m : TokenMatch}
    {es : Sequence Lookahead} (h : Starts rules t (.token m :: es)) : m.accepts t := by
  cases h with
  | token hm => exact hm
  | call he _ _ _ => cases he
  | operator he _ _ _ _ _ => cases he
  | skip hempty _ =>
    rw [elementWords] at hempty
    exact absurd hempty (nil_notMem_typeWords _)

theorem nil_notMem_token {call : Nat → Nat → Language Nat} {m : TokenMatch}
    {es : Sequence Lookahead} : [] ∉ sequenceWords typeWords call (.token m :: es) := by
  rw [sequenceWords, nil_mem_mul, elementWords]
  exact fun h => nil_notMem_typeWords _ h.1

structure Nested (rules : List (ParserRule Lookahead)) (r : ParserRule Lookahead)
    (body : RuleBlock Lookahead) (greedy : Bool) (exit : Lookahead)
    (a₁ a₂ a₃ : RuleAlternative Lookahead) : Prop where
  rules_eq : rules = [r]
  operators : r.operators = none
  alternatives : r.block.alternatives = [a₁, a₂]
  list : a₁.elements = [.token (.type 1), .loop .zeroOrMore greedy exit body, .token (.type 2)]
  leaf : a₂.elements = [.token (.type 3)]
  round : body.alternatives = [a₃]
  item : a₃.elements = [.rule 0]

theorem exists_nested {rules : List (ParserRule Lookahead)} (h : isNested rules) :
    ∃ r body greedy exit a₁ a₂ a₃, Nested rules r body greedy exit a₁ a₂ a₃ := by
  unfold isNested at h
  split at h
  · exact ⟨_, _, _, _, _, _, _, rfl, rfl, rfl, rfl, rfl, rfl, rfl⟩
  · cases h

namespace Nested

variable {rules : List (ParserRule Lookahead)} {r : ParserRule Lookahead}
variable {body : RuleBlock Lookahead} {greedy : Bool} {exit : Lookahead}
variable {a₁ a₂ a₃ : RuleAlternative Lookahead}

mutual

theorem blockAt (h : Nested rules r body greedy exit a₁ a₂ a₃) :
    ∀ {b : RuleBlock Lookahead} {k : Sequence Lookahead}, BlockAt r.block b k →
    (b = r.block ∧ k = []) ∨ b = body
  | _, _, .root => Or.inl ⟨rfl, rfl⟩
  | _, _, .block he => by
    rcases elementAt h he with ⟨m, hm⟩ | ⟨hm, -⟩ | hm <;> cases hm
  | _, _, .loop he => by
    rcases elementAt h he with ⟨m, hm⟩ | ⟨hm, -⟩ | hm <;> cases hm
    exact Or.inr rfl

theorem elementAt (h : Nested rules r body greedy exit a₁ a₂ a₃) :
    ∀ {e : Element Lookahead} {k : Sequence Lookahead}, ElementAt r.block e k →
    (∃ m, e = .token m) ∨
      (e = .loop .zeroOrMore greedy exit body ∧ k = [.token (.type 2)]) ∨ e = .rule 0
  | _, _, @ElementAt.mk _ _ b k a before e behind hb ha he => by
    rcases blockAt h hb with ⟨rfl, rfl⟩ | rfl
    · rw [h.alternatives] at ha
      simp only [List.mem_cons, List.not_mem_nil, or_false] at ha
      rcases ha with rfl | rfl
      · rw [h.list] at he
        rcases before with _ | ⟨x, _ | ⟨y, _ | ⟨z, before⟩⟩⟩ <;> simp at he <;> simp [← he]
      · rw [h.leaf] at he
        rcases before with _ | ⟨x, before⟩ <;> simp at he
        simp [← he.1]
    · rw [h.round] at ha
      obtain rfl := List.mem_singleton.mp ha
      rw [h.item] at he
      rcases before with _ | ⟨x, before⟩ <;> simp at he
      simp [← he.1]

end

variable (h : Nested rules r body greedy exit a₁ a₂ a₃)
include h

theorem rule_eq {j : Nat} {s : ParserRule Lookahead} (hs : rules[j]? = some s) : s = r := by
  rw [h.rules_eq] at hs
  cases j with
  | zero => exact (Option.some.inj hs).symm
  | succ j => simp at hs

theorem nil_notMem {a : RuleAlternative Lookahead} (ha : a ∈ r.block.alternatives) :
    [] ∉ sequenceWords typeWords (compiledWords rules) a.elements := by
  rw [h.alternatives] at ha
  simp only [List.mem_cons, List.not_mem_nil, or_false] at ha
  rcases ha with rfl | rfl
  · rw [h.list]
    exact nil_notMem_token
  · rw [h.leaf]
    exact nil_notMem_token

theorem starts_cases {m t : Nat} {a : RuleAlternative Lookahead}
    (ha : r.block.alternatives[m]? = some a) (hs : Starts rules t a.elements) :
    (m = 0 ∧ t = 1) ∨ (m = 1 ∧ t = 3) := by
  rw [h.alternatives] at ha
  rcases m with _ | _ | m
  · obtain rfl : a₁ = a := Option.some.inj ha
    rw [h.list] at hs
    exact Or.inl ⟨rfl, (beq_iff_eq.mp (starts_token hs)).symm⟩
  · obtain rfl : a₂ = a := Option.some.inj ha
    rw [h.leaf] at hs
    exact Or.inr ⟨rfl, (beq_iff_eq.mp (starts_token hs)).symm⟩
  · simp at ha

theorem starts_item {t : Nat} (hs : Starts rules t [.rule 0]) : t = 1 ∨ t = 3 := by
  generalize hes : ([.rule 0] : Sequence Lookahead) = es at hs
  cases hs with
  | token hm => cases hes
  | block _ _ => cases hes
  | loop _ _ => cases hes
  | skip _ hs => cases hes; cases hs
  | call he hr ha hs =>
    obtain rfl := h.rule_eq hr
    obtain ⟨m, hm⟩ := List.mem_iff_getElem?.mp ha
    rcases h.starts_cases hm hs with ⟨-, ht⟩ | ⟨-, ht⟩
    · exact Or.inl ht
    · exact Or.inr ht
  | operator he hr ho _ _ _ =>
    obtain rfl := h.rule_eq hr
    rw [h.operators] at ho
    cases ho

theorem isLL1 (v : Vocabulary) : IsLL1 v rules 0 where
  block {j s b k} hs hb := by
    obtain rfl := h.rule_eq hs
    rcases h.blockAt hb with ⟨rfl, rfl⟩ | rfl
    · constructor
      · intro m n a c ha hc hmn t _ hsa hsc
        have := h.starts_cases ha hsa
        have := h.starts_cases hc hsc
        omega
      · intro m n a c ha _ _ hempty
        exact absurd hempty (h.nil_notMem (List.mem_of_getElem? ha))
      · intro m n a c ha _ _ hempty
        exact absurd hempty (h.nil_notMem (List.mem_of_getElem? ha))
    · have hone {m : Nat} {a : RuleAlternative Lookahead} (ha : b.alternatives[m]? = some a) :
          m = 0 := by
        rw [h.round] at ha
        have := (List.getElem?_eq_some_iff.mp ha).1
        simpa using this
      constructor
      · intro m n a c ha hc hmn
        exact absurd ((hone ha).trans (hone hc).symm) hmn
      · intro m n a c ha hc hmn
        exact absurd ((hone ha).trans (hone hc).symm) hmn
      · intro m n a c ha hc hmn
        exact absurd ((hone ha).trans (hone hc).symm) hmn
  loop {j s kind greedy' exit' b k} hs hat := by
    obtain rfl := h.rule_eq hs
    rcases h.elementAt hat with ⟨m, hm⟩ | ⟨hm, rfl⟩ | hm <;> cases hm
    constructor
    · intro hempty
      rcases nil_mem_blockWords.mp hempty with hnil | ⟨a, ha, hempty⟩
      · rw [h.round] at hnil
        cases hnil
      · rw [h.round] at ha
        obtain rfl := List.mem_singleton.mp ha
        rw [h.item, sequenceWords, nil_mem_mul, elementWords] at hempty
        have hr : rules[0]? = some s := by rw [h.rules_eq]; rfl
        rw [compiledWords_some hr, ruleWords, nil_mem_mul, nil_mem_blockWords] at hempty
        rcases hempty.1.1 with hnil | ⟨a, ha, hempty⟩
        · rw [h.alternatives] at hnil
          cases hnil
        · exact h.nil_notMem ha hempty
    · intro a ha t _ hsa
      rw [h.round] at ha
      obtain rfl := List.mem_singleton.mp ha
      rw [h.item] at hsa
      have ht := h.starts_item hsa
      rintro (hs | ⟨hempty, -⟩)
      · have := beq_iff_eq.mp (starts_token hs)
        omega
      · exact nil_notMem_token hempty

end Nested

theorem parse_complete_nested : ∃ g d tree, compile nestedText none = .ok g ∧
    DeclaredGrammar.ofText? nestedText = some d ∧ DerivationTree d tree ∧
    (∀ r ∈ g.parserRules, r.operators = none) ∧ IsLL1 g.vocabulary g.parserRules 0 ∧
    tree.leafTokens = visibleTokens nestedTokens ∧
    parse g [] nestedTokens 2 false 0 = .ok (tree, []) := by
  obtain ⟨g, tree, hg, hnested, hparse, hleaves, hheight, htypes⟩ := nestedText_parsed
  obtain ⟨d, rules, acc⟩ := compile_accepted hg
  obtain ⟨htree, ⟨children, rfl⟩, -⟩ := parse_clean acc hparse
  obtain ⟨r, body, greedy, exit, a₁, a₂, a₃, hrules⟩ := exists_nested hnested
  have hops : ∀ s ∈ g.parserRules, s.operators = none := by
    rw [hrules.rules_eq]
    intro s hs
    obtain rfl := List.mem_singleton.mp hs
    exact hrules.operators
  have hll := hrules.isLL1 g.vocabulary
  have hvisible : visibleTokens nestedTokens = nestedTokens := by decide
  have hends : (Tree.rule 0 children).leafTokens =
      visibleTokens nestedTokens ++ List.replicate 0 (.atEnd []) := by
    simpa [hvisible] using hleaves
  refine ⟨g, d, _, hg, acc.declared, htree, hops, hll, hleaves.trans hvisible.symm, ?_⟩
  exact parse_complete hg hops hll acc.declared htree hends (by rwa [hvisible]) hheight

end Nested

end GrammarWorkbench.Run
