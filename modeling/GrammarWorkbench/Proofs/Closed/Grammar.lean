import GrammarWorkbench.Proofs.Closed.Lexer
import GrammarWorkbench.Proofs.Derivation.Filled

/-!
# Accepted grammars are closed

A name or literal that does not resolve is a defect of the document, and an accepted document has
none. So the compiled grammar refers only to what is there: rules by their index, token types by
their place in the vocabulary, modes by their number.
-/

set_option autoImplicit false

namespace GrammarWorkbench.Compile

open GrammarWorkbench.Text GrammarWorkbench.Declaration GrammarWorkbench.Diagnostic
open GrammarWorkbench.Model GrammarWorkbench.Analysis GrammarWorkbench.Derivation

inductive Reference where
  | token (terminal : TokenMatch)
  | rule (index : Nat)
  | operand (index : Nat)

namespace Reference

def index? : Reference → Option Nat
  | token _ => none
  | rule index => some index
  | operand index => some index

/-- A reference of the rule with the index `own` is to the first `types` token types or the first
`rules` rules, and as an operand to the rule itself. -/
def Within (types rules own : Nat) : Reference → Prop
  | token (.type t) => t < types
  | token .any => True
  | token (.notIn excluded) => ∀ t ∈ excluded.toList, t < types
  | rule index => index < rules
  | operand index => index = own ∧ index < rules

theorem Within.index_lt {types rules own : Nat} {ref : Reference} (h : ref.Within types rules own)
    {i : Nat} (hi : ref.index? = some i) : i < rules := by
  cases ref with
  | token => cases hi
  | rule index =>
    cases hi
    exact h
  | operand index =>
    cases hi
    exact h.2

end Reference

section References

variable {α : Type}

mutual

def elementReferences : Element α → List Reference
  | .token terminal => [.token terminal]
  | .rule index => [.rule index]
  | .operand index _ => [.operand index]
  | .block body => blockReferences body
  | .loop _ _ _ body => blockReferences body

def sequenceReferences : Sequence α → List Reference
  | [] => []
  | e :: es => elementReferences e ++ sequenceReferences es

def choiceReferences : List (RuleAlternative α) → List Reference
  | [] => []
  | ⟨_, _, elements⟩ :: rest => sequenceReferences elements ++ choiceReferences rest

def blockReferences : RuleBlock α → List Reference
  | ⟨_, alternatives⟩ => choiceReferences alternatives

end

theorem mem_sequenceReferences {es : Sequence α} {ref : Reference} :
    ref ∈ sequenceReferences es ↔ ∃ e ∈ es, ref ∈ elementReferences e := by
  induction es with
  | nil => simp [sequenceReferences]
  | cons e es ih => simp [sequenceReferences, ih]

theorem mem_choiceReferences {as : List (RuleAlternative α)} {ref : Reference} :
    ref ∈ choiceReferences as ↔ ∃ a ∈ as, ref ∈ sequenceReferences a.elements := by
  induction as with
  | nil => simp [choiceReferences]
  | cons a as ih => simp [choiceReferences, ih]

variable (v : Vocabulary) (t : Table)

mutual

theorem elementReferences_annotate (after : Lookahead) : ∀ e : Element α,
    elementReferences (annotateElement v t after e) = elementReferences e
  | .token _ | .rule _ | .operand _ _ => by simp [annotateElement, elementReferences]
  | .block body => by
    rw [annotateElement, elementReferences, elementReferences, blockReferences_annotate body]
  | .loop _ _ _ body => by
    rw [annotateElement, elementReferences, elementReferences, blockReferences_annotate body]

theorem sequenceReferences_annotate : ∀ es : Sequence α,
    sequenceReferences (annotateSequence v t es) = sequenceReferences es
  | [] => by simp [annotateSequence, sequenceReferences]
  | e :: es => by
    rw [annotateSequence, sequenceReferences, sequenceReferences,
      elementReferences_annotate _ e, sequenceReferences_annotate es]

theorem choiceReferences_annotate : ∀ as : List (RuleAlternative α),
    choiceReferences (annotateChoice v t as) = choiceReferences as
  | [] => by simp [annotateChoice, choiceReferences]
  | ⟨_, _, es⟩ :: as => by
    rw [annotateChoice, choiceReferences, choiceReferences, sequenceReferences_annotate es,
      choiceReferences_annotate as]

theorem blockReferences_annotate : ∀ b : RuleBlock α,
    blockReferences (annotateBlock v t b) = blockReferences b
  | ⟨_, as⟩ => by
    rw [annotateBlock, blockReferences, blockReferences, choiceReferences_annotate as]

end

end References

section Resolved

structure TypesWithin (types : TokenTypes) : Prop where
  name (name : String) (t : Nat) : types.name? name = some t → t < types.vocabulary.size
  literal (text : List Char) (t : Nat) : types.literal? text = some t → t < types.vocabulary.size

theorem declareTokens_within (names : List Ident) (lexerRules parserRules : List RuleDecl) :
    TypesWithin (declareTokens names lexerRules parserRules) where
  name _ _ := name?_lt (declareTokens_size_pos names lexerRules parserRules)
  literal _ _ := literal?_lt

variable {s : ParserScope} {own : Nat}

def Follows (s : ParserScope) (own : Nat) (refs : List Reference) : Prop :=
  ∀ ref ∈ refs, ref.Within s.types.vocabulary.size s.ruleNames.length own

theorem token_within (h : TypesWithin s.types) {ident : Ident} {t : Nat}
    (ht : (s.token ident).value = some t) : t < s.types.vocabulary.size := by
  unfold ParserScope.token at ht
  split at ht
  · rename_i t' ht'
    cases ht
    exact h.name _ _ ht'
  · cases ht

theorem literal_within (h : TypesWithin s.types) {text : List Char} {span : Span} {t : Nat}
    (ht : (s.literal text span).value = some t) : t < s.types.vocabulary.size := by
  unfold ParserScope.literal at ht
  split at ht
  · rename_i t' ht'
    cases ht
    exact h.literal _ _ ht'
  · cases ht

theorem excluded_within (h : TypesWithin s.types) {span : Span} {item : SetItem} {t : Nat}
    (ht : (s.excluded span item).value = some t) : t < s.types.vocabulary.size := by
  cases item with
  | literal text place => exact literal_within h ht
  | ref ident => exact token_within h ht
  | range _ _ => cases ht
  | set _ => cases ht

theorem reference_within (h : TypesWithin s.types) (ident : Ident) :
    ∀ e ∈ (s.reference ident).value, Follows s own (elementReferences e) := by
  intro e he ref href
  unfold ParserScope.reference at he
  split at he
  · obtain ⟨t, ht, rfl⟩ := Option.map_eq_some_iff.mp he
    obtain rfl : ref = .token (.type t) := by simpa [elementReferences] using href
    exact token_within h ht
  · split at he
    · rename_i i hi
      cases he
      obtain rfl : ref = .rule i := by simpa [elementReferences] using href
      exact idxOf?_lt hi
    · cases he

theorem blockReferences_loopBody (e : Element Unit) :
    blockReferences (loopBody e) = elementReferences e := by
  cases e with
  | block body => rw [loopBody, elementReferences]
  | token _ | rule _ | operand _ _ | loop _ _ _ _ =>
    simp [loopBody, blockReferences, choiceReferences, sequenceReferences]

theorem elementReferences_withSuffix (e : Element Unit) (suffix : Option Suffix) :
    elementReferences (withSuffix e suffix) = elementReferences e := by
  cases suffix with
  | none => rfl
  | some suffix => rw [withSuffix, elementReferences, blockReferences_loopBody]

mutual

theorem resolveAtom_within (h : TypesWithin s.types) (span : Span) : ∀ a : Atom,
    ∀ e ∈ (resolveAtom s span a).value, Follows s own (elementReferences e)
  | .ref ident => by
    rw [resolveAtom]
    exact reference_within h ident
  | .literal text => by
    rw [resolveAtom]
    intro e he ref href
    obtain ⟨t, ht, rfl⟩ := Option.map_eq_some_iff.mp he
    obtain rfl : ref = .token (.type t) := by simpa [elementReferences] using href
    exact literal_within h ht
  | .wildcard => by
    rw [resolveAtom]
    intro e he ref href
    cases he
    obtain rfl : ref = .token .any := by simpa [elementReferences] using href
    trivial
  | .range _ _ => by
    rw [resolveAtom]
    intro e he
    cases he
  | .set _ => by
    rw [resolveAtom]
    intro e he
    cases he
  | .not items => by
    rw [resolveAtom]
    intro e he ref href
    cases he
    rw [elementReferences, List.mem_singleton] at href
    subst href
    intro t ht
    rw [← TokenSet.contains_iff, TokenSet.contains_ofList, Checked.value_eachSome] at ht
    obtain ⟨item, -, hitem⟩ := List.mem_filterMap.mp ht
    exact excluded_within h hitem
  | .group alternatives => by
    rw [resolveAtom]
    intro e he
    cases he
    rw [elementReferences, blockReferences]
    exact resolveAlternatives_within h alternatives

theorem resolveElements_within (h : TypesWithin s.types) : ∀ es : List ElementDecl,
    Follows s own (sequenceReferences (resolveElements s es).value)
  | [] => by simp [resolveElements, sequenceReferences, Follows]
  | ⟨atom, suffix, span⟩ :: rest => by
    have hatom := resolveAtom_within h span atom
    have hrest := resolveElements_within h rest
    rw [resolveElements]
    intro ref href
    obtain ⟨e, he, href⟩ := mem_sequenceReferences.mp href
    rcases List.mem_append.mp he with he | he
    · obtain ⟨e', he', rfl⟩ := Option.map_eq_some_iff.mp (Option.mem_toList.mp he)
      rw [elementReferences_withSuffix] at href
      exact hatom e' he' ref href
    · exact hrest ref (mem_sequenceReferences.mpr ⟨e, he, href⟩)

theorem resolveAlternatives_within (h : TypesWithin s.types) : ∀ as : List AltDecl,
    Follows s own (choiceReferences (resolveAlternatives s as).value)
  | [] => by simp [resolveAlternatives, choiceReferences, Follows]
  | ⟨elements, label, commands, right, span⟩ :: rest => by
    have helements := resolveElements_within h elements
    have hrest := resolveAlternatives_within h rest
    rw [resolveAlternatives]
    intro ref href
    simp only [Checked.value_bind, Checked.value_pure, choiceReferences, List.mem_append] at href
    exact href.elim (helements ref) (hrest ref)

end

end Resolved

section Split

variable {s : ParserScope} {index : Nat}

theorem resolvePart_within (h : TypesWithin s.types) (hindex : index < s.ruleNames.length)
    {alt : AltDecl} {elements : List ElementDecl} {last : List (Element Unit)}
    (hlast : ∀ e ∈ last, ∃ q, e = .operand index q) :
    Follows s index (sequenceReferences (resolvePart s alt elements last).value.elements) := by
  intro ref href
  obtain ⟨e, he, href⟩ := mem_sequenceReferences.mp href
  rcases List.mem_append.mp he with he | he
  · exact resolveElements_within h elements ref (mem_sequenceReferences.mpr ⟨e, he, href⟩)
  · obtain ⟨q, rfl⟩ := hlast e he
    obtain rfl : ref = .operand index := by simpa [elementReferences] using href
    exact ⟨rfl, hindex⟩

/-- The part of an alternative calls at its open end the rule itself. An operator has the
precedence of its alternative. -/
theorem splitAlternative_within (h : TypesWithin s.types) (hindex : index < s.ruleNames.length)
    (level : Nat) (alt : AltDecl) : ∀ part ∈ (splitAlternative s index level alt).value,
      Follows s index (sequenceReferences (partAlternative part).elements) := by
  intro part hpart
  unfold splitAlternative at hpart
  split at hpart
  · cases hpart
    exact resolvePart_within h hindex (by simp)
  · cases hpart
    exact resolvePart_within h hindex (by simp)
  · split at hpart
    · cases hpart
    · cases hpart
      exact resolvePart_within h hindex (by simp)
  · cases hpart
    exact resolvePart_within h hindex (by simp)

theorem splitAlternatives_within (h : TypesWithin s.types) (hindex : index < s.ruleNames.length)
    (alts : List AltDecl) : ∀ part ∈ (splitAlternatives s index alts).value,
      Follows s index (sequenceReferences (partAlternative part).elements) := by
  induction alts with
  | nil => simp [splitAlternatives]
  | cons alt alts ih =>
    intro part hpart
    rcases List.mem_append.mp hpart with hpart | hpart
    · exact splitAlternative_within h hindex _ alt part (Option.mem_toList.mp hpart)
    · exact ih part hpart

theorem splitAlternative_level {level l : Nat} {alt : AltDecl} {a : RuleAlternative Unit}
    (h : (splitAlternative s index level alt).value = some (.operator l a)) : l = level := by
  unfold splitAlternative at h
  split at h
  · cases h
  · cases h
  · split at h
    · cases h
    · cases h
      rfl
  · cases h
    rfl

theorem operatorsOf_append (parts parts' : List Part) :
    operatorsOf (parts ++ parts') = operatorsOf parts ++ operatorsOf parts' :=
  List.filterMap_append

/-- The precedence of an alternative is the number of those from it to the last, so operators have
it in descending order. -/
theorem splitAlternatives_levels (alts : List AltDecl) :
    ((operatorsOf (splitAlternatives s index alts).value).map (·.1)).Pairwise (· > ·) ∧
      ∀ level ∈ (operatorsOf (splitAlternatives s index alts).value).map (·.1),
        level ≤ alts.length := by
  induction alts with
  | nil => simp [splitAlternatives, operatorsOf]
  | cons alt alts ih =>
    have hvalue : (splitAlternatives s index (alt :: alts)).value =
        (splitAlternative s index (alts.length + 1) alt).value.toList ++
          (splitAlternatives s index alts).value := rfl
    rw [hvalue, operatorsOf_append, List.map_append]
    have hfirst : ∀ level ∈ (operatorsOf (splitAlternative s index (alts.length + 1)
        alt).value.toList).map (·.1), level = alts.length + 1 := by
      intro level hlevel
      obtain ⟨⟨l, a⟩, hmem, rfl⟩ := List.mem_map.mp hlevel
      exact splitAlternative_level (Option.mem_toList.mp (mem_operatorsOf.mp hmem))
    constructor
    · rw [List.pairwise_append]
      refine ⟨?_, ih.1, ?_⟩
      · cases (splitAlternative s index (alts.length + 1) alt).value with
        | none => simp [operatorsOf]
        | some part => cases part <;> simp [operatorsOf]
      · intro l hl l' hl'
        have := hfirst l hl
        have := ih.2 l' hl'
        omega
    · intro level hlevel
      rw [List.length_cons]
      rcases List.mem_append.mp hlevel with hlevel | hlevel
      · exact Nat.le_of_eq (hfirst level hlevel)
      · have := ih.2 level hlevel
        omega

/-- An alternative without defects that starts with its rule becomes an operator. -/
theorem splitAlternatives_operator {alts : List AltDecl}
    (hclean : (splitAlternatives s index alts).defects = [])
    (hopen : ∃ alt ∈ alts, (shapeOf s.rule alt).isLeftOpen) :
    operatorsOf (splitAlternatives s index alts).value ≠ [] := by
  induction alts with
  | nil => simp at hopen
  | cons alt alts ih =>
    have hvalue : (splitAlternatives s index (alt :: alts)).value =
        (splitAlternative s index (alts.length + 1) alt).value.toList ++
          (splitAlternatives s index alts).value := rfl
    simp only [splitAlternatives, Checked.defects_bind, Checked.defects_pure, List.append_nil,
      List.append_eq_nil_iff] at hclean
    rw [hvalue, operatorsOf_append, Ne, List.append_eq_nil_iff, not_and_or]
    by_cases hleft : (shapeOf s.rule alt).isLeftOpen
    · left
      have hpart := hclean.1
      unfold splitAlternative at hpart ⊢
      cases hshape : shapeOf s.rule alt with
      | closed | rightOpen => simp [hshape, Shape.isLeftOpen] at hleft
      | bothOpen => simp [operatorsOf]
      | leftOpen =>
        by_cases hlength : alt.elements.length = 1
        · simp [hshape, hlength, Checked.missing] at hpart
        · simp [hlength, operatorsOf]
    · right
      obtain ⟨alt', hmem, hopen⟩ := hopen
      rcases List.mem_cons.mp hmem with rfl | hmem
      · exact absurd hopen hleft
      · exact ih hclean.2 ⟨alt', hmem, hopen⟩

end Split

/-- What a compiled parser rule has to have in common with the grammar it stands in: how many token
types and rules there are, and its own index. -/
structure RuleClosed {α : Type} (types rules index : Nat) (r : ParserRule α) : Prop where
  index_eq : r.index = index
  filled : BlockFilled r.block
  follows : ∀ ref ∈ blockReferences r.block, ref.Within types rules index
  operators (o : Operators α) : r.operators = some o →
    BlockFilled o.block ∧ (∀ ref ∈ blockReferences o.block, ref.Within types rules index) ∧
      o.precedence.length = o.block.alternatives.length ∧ o.precedence.Pairwise (· > ·)

theorem RuleClosed.annotate {types rules index : Nat} {r : ParserRule Unit}
    (h : RuleClosed types rules index r) (v : Vocabulary) (t : Table) :
    RuleClosed types rules index (annotateRule v t r) where
  index_eq := h.index_eq
  filled := blockFilled_annotate v t _ h.filled
  follows := by
    rw [annotateRule, blockReferences_annotate]
    exact h.follows
  operators := by
    intro o ho
    obtain ⟨plain, hplain, rfl⟩ := Option.map_eq_some_iff.mp ho
    obtain ⟨hfilled, hfollows, hlength, hpairwise⟩ := h.operators plain hplain
    rw [blockReferences_annotate, annotateBlock_alternatives, annotateChoice_eq_map,
      List.length_map]
    exact ⟨blockFilled_annotate v t _ hfilled, hfollows, hlength, hpairwise⟩

theorem parserRule_closed {s : ParserScope} {index : Nat} {r : RuleDecl}
    (htypes : TypesWithin s.types) (hindex : index < s.ruleNames.length)
    (hclean : (parserRule s index r).defects = []) (hne : r.alternatives ≠ [])
    (hfilled : AlternativesFilled r.alternatives) :
    RuleClosed s.types.vocabulary.size s.ruleNames.length index (parserRule s index r).value := by
  have hblock := parserRule_filled hclean hne hfilled
  by_cases hopen : r.alternatives.any fun alt => (shapeOf s.rule alt).isLeftOpen
  · have hparts : (splitAlternatives s index r.alternatives).defects = [] := by
      simp only [parserRule, hopen, if_true, Checked.defects_bind, List.append_eq_nil_iff] at hclean
      exact hclean.1
    have hoperators := splitAlternatives_operator hparts (by simpa using hopen)
    have hwithin := splitAlternatives_within htypes hindex r.alternatives
    have hparts_filled := splitAlternatives_filled s index r.alternatives hfilled
    have hvalue : (parserRule s index r).value.block =
          ⟨(), operandsOf (splitAlternatives s index r.alternatives).value⟩ ∧
        (parserRule s index r).value.operators = some
          ⟨⟨(), (operatorsOf (splitAlternatives s index r.alternatives).value).map (·.2)⟩,
            (operatorsOf (splitAlternatives s index r.alternatives).value).map (·.1)⟩ ∧
        (parserRule s index r).value.index = index := by
      simp only [parserRule, hopen, if_true, Checked.value_bind]
      split <;> exact ⟨rfl, rfl, rfl⟩
    refine ⟨hvalue.2.2, hblock, ?_, ?_⟩
    · intro ref href
      rw [hvalue.1, blockReferences] at href
      obtain ⟨a, ha, href⟩ := mem_choiceReferences.mp href
      exact hwithin _ (mem_operandsOf.mp ha) ref href
    · intro o ho
      rw [hvalue.2.1] at ho
      cases ho
      refine ⟨?_, ?_, by simp, (splitAlternatives_levels r.alternatives).1⟩
      · rw [BlockFilled, choiceFilled_iff]
        refine ⟨by simpa using hoperators, ?_⟩
        intro a ha
        obtain ⟨⟨level, a⟩, hmem, rfl⟩ := List.mem_map.mp ha
        exact hparts_filled _ (mem_operatorsOf.mp hmem)
      · intro ref href
        rw [blockReferences] at href
        obtain ⟨a, ha, href⟩ := mem_choiceReferences.mp href
        obtain ⟨⟨level, a⟩, hmem, rfl⟩ := List.mem_map.mp ha
        exact hwithin _ (mem_operatorsOf.mp hmem) ref href
  · have hvalue : (parserRule s index r).value = ⟨s.rule, index,
        ⟨(), (resolveAlternatives s r.alternatives).value⟩, none, r.span⟩ := by
      simp only [parserRule, hopen, Bool.false_eq_true, if_false]
      rfl
    rw [hvalue] at hblock ⊢
    refine ⟨rfl, hblock, ?_, ?_⟩
    · rw [blockReferences]
      exact resolveAlternatives_within htypes r.alternatives
    · intro o ho
      cases ho

/-- A grammar that refers only to what is there. -/
structure Closed (g : Grammar) : Prop where
  rule (i : Nat) (r : ParserRule Lookahead) : g.parserRules[i]? = some r →
    g.ruleNames[i]? = some r.name ∧ RuleClosed g.vocabulary.size g.parserRules.length i r
  tokenRule : ∀ mode ∈ g.modes, ∀ rule ∈ mode.rules,
    RuleWithin g.vocabulary.size g.modes.length rule
  modes_pos : 0 < g.modes.length
  start_none : g.startRule = none ↔ g.parserRules = []
  start_lt : ∀ i ∈ g.startRule, i < g.parserRules.length

theorem startRule_clean {names : List String} {start : Option String}
    (h : (startRule names start).defects = []) :
    ((startRule names start).value = none ↔ names = []) ∧
      ∀ i ∈ (startRule names start).value, i < names.length := by
  cases start with
  | none =>
    cases names with
    | nil => simp [startRule]
    | cons name names => simp [startRule]
  | some name =>
    cases hfound : names.idxOf? name with
    | none => simp [startRule, hfound, Checked.missing] at h
    | some i =>
      have hlt := idxOf?_lt hfound
      have hvalue : (startRule names (some name)).value = some i := by simp [startRule, hfound]
      rw [hvalue]
      refine ⟨?_, ?_⟩
      · simp only [reduceCtorEq, false_iff]
        rintro rfl
        cases hlt
      · intro j hj
        cases hj
        exact hlt

/-- An accepted document gives a grammar that refers only to what is there. -/
theorem compile_closed {text : List Char} {start : Option String} {g : Grammar}
    (h : compile text start = .ok g) : Closed g := by
  obtain ⟨hpos, hmodes⟩ := modes_within h
  obtain ⟨d, rules, acc⟩ := compile_accepted h
  have hrule (i : Nat) (r : ParserRule Lookahead) (hr : g.parserRules[i]? = some r) :
      g.ruleNames[i]? = some r.name ∧
        RuleClosed g.vocabulary.size g.parserRules.length i r := by
    refine ⟨by simp [Grammar.ruleNames, hr], ?_⟩
    rw [acc.annotated, List.getElem?_map] at hr
    obtain ⟨plain, hplain, rfl⟩ := Option.map_eq_some_iff.mp hr
    obtain ⟨decl, hdecl, rfl⟩ := acc.exists_declared hplain
    obtain ⟨hne, hfilled⟩ := DeclaredGrammar.filled acc.declared (List.mem_of_getElem? hdecl)
    obtain ⟨g', -, rfl⟩ := Option.map_eq_some_iff.mp acc.declared
    have hlength : g.parserRules.length =
        (DeclaredGrammar.ofDeclarations g'.value).ruleNames.length := by
      rw [acc.annotated, List.length_map, acc.length_eq, DeclaredGrammar.ruleNames, List.length_map]
    have hlt : i < (DeclaredGrammar.ofDeclarations g'.value).ruleNames.length := by
      rw [DeclaredGrammar.ruleNames, List.length_map]
      exact (List.getElem?_eq_some_iff.mp hdecl).1
    rw [hlength, acc.vocabulary]
    exact (parserRule_closed (s := (DeclaredGrammar.ofDeclarations g'.value).scope text _)
      (declareTokens_within _ _ _) hlt (acc.clean i decl hdecl) hne hfilled).annotate _ _
  obtain ⟨decl, -, hclean, rfl⟩ := compile_ok h
  have hstart :
      (startRule (grammarOf text start decl.value).value.ruleNames start).defects = [] := by
    simp only [grammarOf, Checked.defects_bind, List.append_eq_nil_iff] at hclean
    exact hclean.2.2.2.1
  have hvalid := startRule_clean hstart
  rw [Grammar.ruleNames, List.map_eq_nil_iff, List.length_map] at hvalid
  exact ⟨hrule, hmodes, hpos, hvalid.1, hvalid.2⟩

end GrammarWorkbench.Compile
