import GrammarWorkbench.Proofs.Derivation.Resolved

/-!
# Split rules

A rule that starts some of its alternatives with itself is split into operands and operators. Each
declared alternative becomes one part. An operand has the words of its alternative, an operator
those that are left behind the leading call; where the alternative ends in its rule the part ends
in a call at some precedence instead.
-/

set_option autoImplicit false

namespace GrammarWorkbench.Derivation

open GrammarWorkbench.Text GrammarWorkbench.Declaration GrammarWorkbench.Diagnostic
open GrammarWorkbench.Model GrammarWorkbench.Compile
open scoped Computability

/-- The words of a part and those declared, which agree up to the precedence of a call of the rule
at the end. `own` are the words of the rule by precedence. -/
inductive OpenEnd {σ : Type} (own : Nat → Language σ) : Language σ → Language σ → Prop
  | closed (l : Language σ) : OpenEnd own l l
  | opened (l : Language σ) (precedence : Nat) : OpenEnd own (l * own precedence) (l * own 0)

namespace OpenEnd

variable {σ : Type} {own : Nat → Language σ} {l m : Language σ}

theorem le_mul (h : OpenEnd own l m) {ops : Language σ} (hops : 1 ≤ ops)
    (hown : ∀ q, own 0 ≤ own q * ops) : m ≤ l * ops := by
  cases h with
  | closed => exact le_mul_of_one_le_right' hops
  | opened l q =>
    calc l * own 0 ≤ l * (own q * ops) := mul_le_mul' le_rfl (hown q)
      _ = l * own q * ops := (mul_assoc ..).symm

theorem eq_of_const (h : OpenEnd own l m) (hown : ∀ q, own q = own 0) : l = m := by
  cases h with
  | closed => rfl
  | opened l q => rw [hown q]

end OpenEnd

/-- How a part stands for declared words: an operand for all of them, an operator for what is
behind the leading call. -/
inductive StandsFor {σ : Type} (terminal : Set Nat → Language σ) (call : Nat → Nat → Language σ)
    (index : Nat) : Part → Language σ → Prop
  | operand {a : RuleAlternative Unit} {l : Language σ}
      (h : OpenEnd (call index) (sequenceWords terminal call a.elements) l) :
      StandsFor terminal call index (.operand a) l
  | operator {level : Nat} {a : RuleAlternative Unit} {l : Language σ}
      (h : OpenEnd (call index) (sequenceWords terminal call a.elements) l) :
      StandsFor terminal call index (.operator level a) (call index 0 * l)

section Shape

variable {rule : String} {alt : AltDecl}

theorem isBareRef_iff {e : ElementDecl} : isBareRef rule e ↔
    ∃ ident span, e = ⟨.ref ident, none, span⟩ ∧ ident.name = rule := by
  constructor
  · intro h
    unfold isBareRef at h
    split at h
    · rename_i ident span
      exact ⟨ident, span, rfl, by simpa using h⟩
    · cases h
  · rintro ⟨ident, span, rfl, rfl⟩
    simp [isBareRef]

theorem starts_iff : (alt.elements.head?.map (isBareRef rule)).getD false = true ↔
    ∃ e rest, alt.elements = e :: rest ∧ isBareRef rule e := by
  cases alt.elements with
  | nil => simp
  | cons e rest => simp

theorem ends_iff {es : List ElementDecl} : (es.getLast?.map (isBareRef rule)).getD false = true ↔
    ∃ e, es = es.dropLast ++ [e] ∧ isBareRef rule e := by
  cases h : es.getLast? with
  | none =>
    rw [List.getLast?_eq_none_iff] at h
    simp [h]
  | some e =>
    have hes := List.dropLast_append_getLast? e h
    constructor
    · intro he
      exact ⟨e, hes.symm, by simpa using he⟩
    · rintro ⟨e', he', hb⟩
      have : e = e' := by simpa using hes.trans he'
      simpa [this] using hb

theorem shapeOf_eq : shapeOf rule alt =
    match (alt.elements.head?.map (isBareRef rule)).getD false,
      1 < alt.elements.length && (alt.elements.getLast?.map (isBareRef rule)).getD false with
    | true, true => .bothOpen
    | true, false => .leftOpen
    | false, true => .rightOpen
    | false, false => .closed := rfl

theorem leftOpen_elements (h : shapeOf rule alt = .leftOpen) :
    ∃ e, alt.elements = [e] ++ alt.elements.tail ∧ isBareRef rule e := by
  rw [shapeOf_eq] at h
  split at h <;> try cases h
  rename_i hs _
  obtain ⟨e, rest, he, hb⟩ := starts_iff.mp hs
  exact ⟨e, by simp [he], hb⟩

theorem rightOpen_elements (h : shapeOf rule alt = .rightOpen) :
    ∃ e, alt.elements = alt.elements.dropLast ++ [e] ∧ isBareRef rule e := by
  rw [shapeOf_eq] at h
  split at h <;> try cases h
  rename_i _ he
  exact ends_iff.mp (Bool.and_eq_true_iff.mp he).2

theorem bothOpen_elements (h : shapeOf rule alt = .bothOpen) :
    ∃ e e', alt.elements = [e] ++ (alt.elements.tail.dropLast ++ [e']) ∧
      isBareRef rule e ∧ isBareRef rule e' := by
  rw [shapeOf_eq] at h
  split at h <;> try cases h
  rename_i hs he
  obtain ⟨e, rest, hes, hb⟩ := starts_iff.mp hs
  obtain ⟨hlen, hlast⟩ := Bool.and_eq_true_iff.mp he
  obtain ⟨e', hes', hb'⟩ := ends_iff.mp hlast
  refine ⟨e, e', ?_, hb, hb'⟩
  rw [hes] at hes' hlen ⊢
  cases rest with
  | nil => simp at hlen
  | cons x xs => simpa using hes'

end Shape

section Alternative

variable {σ : Type} {d : DeclaredGrammar} {source : List Char} {rule : String} {index : Nat}
variable {terminal : Set Nat → Language σ} {call : Nat → Nat → Language σ}

theorem elementsWords_append {K : Nat → Language σ} (es fs : List ElementDecl) :
    elementsWords d terminal K (es ++ fs) =
      elementsWords d terminal K es * elementsWords d terminal K fs := by
  induction es with
  | nil => simp [elementsWords]
  | cons e es ih => simp [elementsWords, ih, mul_assoc]

theorem elementsWords_bareRef {K : Nat → Language σ} (hname : ¬ isTokenName rule)
    (hindex : d.ruleNames.idxOf? rule = some index) {e : ElementDecl} (he : isBareRef rule e) :
    elementsWords d terminal K [e] = K index := by
  obtain ⟨ident, span, rfl, rfl⟩ := isBareRef_iff.mp he
  rw [elementsWords, elementsWords, atomWords, suffixed, nameWords_rule hname hindex, mul_one]

theorem resolvePart_words {alt : AltDecl} {es : List ElementDecl} {last : Sequence Unit}
    (h : (resolvePart (d.scope source rule) alt es last).defects = []) :
    sequenceWords terminal call (resolvePart (d.scope source rule) alt es last).value.elements =
      elementsWords d terminal (call · 0) es * sequenceWords terminal call last := by
  simp only [resolvePart, Checked.defects_bind, Checked.defects_pure, List.append_nil,
    List.append_eq_nil_iff] at h
  simp only [resolvePart, Checked.value_bind, Checked.value_pure]
  rw [sequenceWords_append, resolveElements_words d source rule terminal call es h.2]

theorem splitAlternative_words (hname : ¬ isTokenName rule)
    (hindex : d.ruleNames.idxOf? rule = some index) {level : Nat} {alt : AltDecl}
    (h : (splitAlternative (d.scope source rule) index level alt).defects = []) :
    ∃ part, (splitAlternative (d.scope source rule) index level alt).value = some part ∧
      StandsFor terminal call index part (elementsWords d terminal (call · 0) alt.elements) := by
  have hscope : (d.scope source rule).rule = rule := rfl
  have hself : ∀ e, isBareRef rule e → elementsWords d terminal (call · 0) [e] = call index 0 :=
    fun _ => elementsWords_bareRef hname hindex
  cases hs : shapeOf rule alt with
  | closed =>
    simp only [splitAlternative, hscope, hs, Checked.defects_bind, Checked.defects_pure,
      List.append_nil] at h
    refine ⟨_, by simp only [splitAlternative, hscope, hs]; rfl, .operand ?_⟩
    rw [resolvePart_words h, sequenceWords, mul_one]
    exact .closed _
  | rightOpen =>
    simp only [splitAlternative, hscope, hs, Checked.defects_bind, Checked.defects_pure,
      List.append_nil] at h
    refine ⟨_, by simp only [splitAlternative, hscope, hs]; rfl, .operand ?_⟩
    obtain ⟨e, hes, he⟩ := rightOpen_elements hs
    have hw := congrArg (elementsWords d terminal (call · 0)) hes
    rw [elementsWords_append, hself e he] at hw
    rw [hw, resolvePart_words h, sequenceWords, sequenceWords, elementWords, mul_one]
    exact .opened _ _
  | leftOpen =>
    by_cases hlen : alt.elements.length = 1
    · simp [splitAlternative, hscope, hs, hlen, Checked.missing] at h
    simp only [splitAlternative, hscope, hs, hlen, if_false, Checked.defects_bind,
      Checked.defects_pure, List.append_nil] at h
    refine ⟨_, by simp only [splitAlternative, hscope, hs, hlen, if_false]; rfl, ?_⟩
    obtain ⟨e, hes, he⟩ := leftOpen_elements hs
    have hw := congrArg (elementsWords d terminal (call · 0)) hes
    rw [elementsWords_append, hself e he] at hw
    rw [hw]
    refine .operator ?_
    rw [resolvePart_words h, sequenceWords, mul_one]
    exact .closed _
  | bothOpen =>
    simp only [splitAlternative, hscope, hs, Checked.defects_bind, Checked.defects_pure,
      List.append_nil] at h
    refine ⟨_, by simp only [splitAlternative, hscope, hs]; rfl, ?_⟩
    obtain ⟨e, e', hes, he, he'⟩ := bothOpen_elements hs
    have hw := congrArg (elementsWords d terminal (call · 0)) hes
    rw [elementsWords_append, elementsWords_append, hself e he, hself e' he'] at hw
    rw [hw]
    refine .operator ?_
    rw [resolvePart_words h, sequenceWords, sequenceWords, elementWords, mul_one]
    exact .opened _ _

variable (terminal call) in
/-- Every part stands for a declared alternative, and every declared alternative has its part. -/
theorem splitAlternatives_words (hname : ¬ isTokenName rule)
    (hindex : d.ruleNames.idxOf? rule = some index) {alts : List AltDecl} {parts : List Part}
    (h : splitAlternatives (d.scope source rule) index alts = ⟨parts, []⟩) :
    (∀ part ∈ parts, ∃ alt ∈ alts, StandsFor terminal call index part
      (elementsWords d terminal (call · 0) alt.elements)) ∧
    (∀ alt ∈ alts, ∃ part ∈ parts, StandsFor terminal call index part
      (elementsWords d terminal (call · 0) alt.elements)) := by
  induction alts generalizing parts with
  | nil =>
    cases h
    simp
  | cons alt alts ih =>
    have hvalue := congrArg Checked.value h
    have hdefects := congrArg Checked.defects h
    simp only [splitAlternatives, Checked.defects_bind, Checked.defects_pure, List.append_nil,
      List.append_eq_nil_iff] at hdefects
    obtain ⟨part, hv, hpart⟩ := splitAlternative_words hname hindex hdefects.1
    simp only [splitAlternatives, Checked.value_bind, Checked.value_pure, hv, Option.toList_some,
      List.singleton_append] at hvalue
    subst hvalue
    have hrest : splitAlternatives (d.scope source rule) index alts =
        ⟨(splitAlternatives (d.scope source rule) index alts).value, []⟩ := by rw [← hdefects.2]
    obtain ⟨hparts, halts⟩ := ih hrest
    simp only [List.mem_cons, forall_eq_or_imp, exists_eq_or_imp]
    exact ⟨⟨.inl hpart, fun p hp => .inr (hparts p hp)⟩,
      ⟨.inl hpart, fun a ha => .inr (halts a ha)⟩⟩

theorem mem_alternativesWords_iff {K : Nat → Language σ} {alts : List AltDecl} {w : List σ} :
    w ∈ alternativesWords d terminal K alts ↔
      ∃ alt ∈ alts, w ∈ elementsWords d terminal K alt.elements := by
  induction alts with
  | nil => simp [alternativesWords]
  | cons alt alts ih =>
    obtain ⟨elements, label, commands, right, span⟩ := alt
    rw [alternativesWords, Language.mem_add, ih]
    simp

end Alternative

section Rule

theorem mem_operandsOf {parts : List Part} {a : RuleAlternative Unit} :
    a ∈ operandsOf parts ↔ .operand a ∈ parts := by
  simp only [operandsOf, List.mem_filterMap]
  constructor
  · rintro ⟨part, hp, h⟩
    cases part <;> simp_all
  · intro h
    exact ⟨_, h, rfl⟩

theorem mem_operatorsOf {parts : List Part} {level : Nat} {a : RuleAlternative Unit} :
    (level, a) ∈ operatorsOf parts ↔ .operator level a ∈ parts := by
  simp only [operatorsOf, List.mem_filterMap]
  constructor
  · rintro ⟨part, hp, h⟩
    cases part <;> simp_all
  · intro h
    exact ⟨_, h, rfl⟩

/-- What becomes of a declared rule: either its alternatives are resolved as they are, or each of
them is one part of the split rule. -/
theorem parserRule_cases {s : ParserScope} {index : Nat} {r : RuleDecl}
    (h : (parserRule s index r).defects = []) :
    ((resolveAlternatives s r.alternatives).defects = [] ∧
      (parserRule s index r).value.block = ⟨(), (resolveAlternatives s r.alternatives).value⟩ ∧
      (parserRule s index r).value.operators = none) ∨
    ∃ parts, splitAlternatives s index r.alternatives = ⟨parts, []⟩ ∧ operandsOf parts ≠ [] ∧
      (parserRule s index r).value.block = ⟨(), operandsOf parts⟩ ∧
      (parserRule s index r).value.operators = some ⟨⟨(), (operatorsOf parts).map (·.2)⟩,
        (operatorsOf parts).map (·.1)⟩ := by
  unfold parserRule at h ⊢
  split_ifs at h ⊢ with hopen
  · right
    simp only [Checked.defects_bind, List.append_eq_nil_iff] at h
    obtain ⟨hparts, hrest⟩ := h
    by_cases hempty : operandsOf (splitAlternatives s index r.alternatives).value = []
    · simp [hempty, Checked.report] at hrest
    · refine ⟨(splitAlternatives s index r.alternatives).value, ?_, hempty, ?_⟩
      · rw [← hparts]
      · simp [hempty]
  · left
    simp only [Checked.defects_bind, Checked.defects_pure, List.append_nil] at h
    exact ⟨h, rfl, rfl⟩

variable {σ : Type} {d : DeclaredGrammar} {source : List Char} {r : RuleDecl} {index : Nat}
variable {terminal : Set Nat → Language σ}

theorem mem_split_operators {parts : List Part} {call : Nat → Nat → Language σ} {q : Nat}
    {w : List σ} :
    w ∈ operatorWords terminal call (some ⟨⟨(), (operatorsOf parts).map (·.2)⟩,
        (operatorsOf parts).map (·.1)⟩) q ↔
      ∃ level a, .operator level a ∈ parts ∧ q ≤ level ∧
        w ∈ sequenceWords terminal call a.elements := by
  constructor
  · rintro ⟨o, ho, pair, hmem, hq, hw⟩
    cases ho
    simp only [List.zip_map', List.mem_map] at hmem
    obtain ⟨⟨level, a⟩, hm, rfl⟩ := hmem
    exact ⟨level, a, mem_operatorsOf.mp hm, hq, hw⟩
  · rintro ⟨level, a, hm, hq, hw⟩
    refine ⟨_, rfl, (a, level), ?_, hq, hw⟩
    simp only [List.zip_map', List.mem_map]
    exact ⟨(level, a), mem_operatorsOf.mpr hm, rfl⟩

theorem mem_declaredRuleWords (hne : r.alternatives ≠ []) {K : Nat → Language σ} {w : List σ} :
    w ∈ declaredRuleWords d terminal K r ↔
      ∃ alt ∈ r.alternatives, w ∈ elementsWords d terminal K alt.elements := by
  rw [declaredRuleWords, atomWords, if_neg (by simpa using hne), mem_alternativesWords_iff]

variable (hname : ¬ isTokenName r.name.name) (hindex : d.ruleNames.idxOf? r.name.name = some index)
variable (h : (parserRule (d.scope source r.name.name) index r).defects = [])

include hname hindex h

variable (terminal) in
/-- A word of the compiled operands, or one of the rule followed by one of an operator, is a word
of a declared alternative, where calls have the same words at every precedence. -/
theorem parserRule_sound (K : Nat → Language σ) :
    blockWords terminal (fun i _ => K i)
        (parserRule (d.scope source r.name.name) index r).value.block ≤
      declaredRuleWords d terminal K r ∧
    ∀ q, K index * operatorWords terminal (fun i _ => K i)
        (parserRule (d.scope source r.name.name) index r).value.operators q ≤
      declaredRuleWords d terminal K r := by
  rcases parserRule_cases h with ⟨hclean, hblock, hops⟩ | ⟨parts, hparts, hne, hblock, hops⟩
  · rw [hblock, hops, resolvedBlock_words d source _ terminal (fun i _ => K i) r hclean]
    refine ⟨le_rfl, fun q => ?_⟩
    rw [operatorWords_none, mul_zero]
    exact zero_le
  · obtain ⟨hstands, -⟩ := splitAlternatives_words terminal (fun i _ => K i) hname hindex hparts
    rw [hblock, hops]
    constructor
    · intro w hw
      obtain ⟨a, ha, hw⟩ := (mem_blockWords_iff hne).mp hw
      obtain ⟨alt, halt, hpart⟩ := hstands _ (mem_operandsOf.mp ha)
      refine (mem_declaredRuleWords (List.ne_nil_of_mem halt)).mpr ⟨alt, halt, ?_⟩
      cases hpart with
      | operand hend => exact hend.eq_of_const (fun _ => rfl) ▸ hw
    · intro q w hw
      obtain ⟨u, hu, v, hv, rfl⟩ := Language.mem_mul.mp hw
      obtain ⟨level, a, ha, -, hv⟩ := mem_split_operators.mp hv
      obtain ⟨alt, halt, hpart⟩ := hstands _ ha
      refine (mem_declaredRuleWords (List.ne_nil_of_mem halt)).mpr ⟨alt, halt, ?_⟩
      generalize elementsWords d terminal (fun i => K i) alt.elements = l at hpart ⊢
      cases hpart with
      | operator hend => exact Language.append_mem_mul hu (hend.eq_of_const (fun _ => rfl) ▸ hv)

/-- A word of a declared alternative is one of the compiled rule, where calls of the rule have the
words of the compiled rule. An operator that binds looser than the bound of an operand goes on
behind what the operand is the end of. -/
theorem parserRule_complete (call : Nat → Nat → Language σ)
    (hown : ∀ q, call index q =
      ruleWords terminal call (parserRule (d.scope source r.name.name) index r).value q) :
    declaredRuleWords d terminal (call · 0) r ≤ call index 0 := by
  rcases parserRule_cases h with ⟨hclean, hblock, hops⟩ | ⟨parts, hparts, hne, hblock, hops⟩
  · rw [hown, ruleWords, hblock, hops, operatorWords_none, kstar_zero, mul_one,
      resolvedBlock_words d source _ terminal call r hclean]
  · obtain ⟨-, hstands⟩ := splitAlternatives_words terminal call hname hindex hparts
    set ops := operatorWords terminal call (some ⟨⟨(), (operatorsOf parts).map (·.2)⟩,
      (operatorsOf parts).map (·.1)⟩) with hopsdef
    set operands := blockWords terminal call ⟨(), operandsOf parts⟩ with hoperands
    have hown' : ∀ q, call index q = operands * (ops q)∗ := by
      intro q
      rw [hown, ruleWords, hblock, hops]
    have hext : ∀ q, call index 0 ≤ call index q * (ops 0)∗ := by
      intro q
      rw [hown' 0, hown' q]
      exact mul_le_mul' (le_mul_of_one_le_right' one_le_kstar) le_rfl
    intro w hw
    have hsome : r.alternatives ≠ [] := by
      intro hnil
      rw [hnil] at hparts
      cases hparts
      exact hne rfl
    obtain ⟨alt, halt, hw⟩ := (mem_declaredRuleWords hsome).mp hw
    obtain ⟨part, hpart, hfor⟩ := hstands alt halt
    revert hw
    generalize elementsWords d terminal (call · 0) alt.elements = l at hfor
    suffices hle : l ≤ call index 0 from fun hw => hle hw
    cases hfor with
    | @operand a _ hend =>
      have ha : sequenceWords terminal call a.elements ≤ operands := fun u hu =>
        (mem_blockWords_iff hne).mpr ⟨a, mem_operandsOf.mpr hpart, hu⟩
      calc l ≤ sequenceWords terminal call a.elements * (ops 0)∗ := hend.le_mul one_le_kstar hext
        _ ≤ operands * (ops 0)∗ := mul_le_mul' ha le_rfl
        _ = call index 0 := (hown' 0).symm
    | @operator level a m hend =>
      have ha : sequenceWords terminal call a.elements ≤ ops 0 := fun u hu =>
        mem_split_operators.mpr ⟨level, a, hpart, Nat.zero_le _, hu⟩
      calc call index 0 * m ≤ call index 0 * (sequenceWords terminal call a.elements * (ops 0)∗) :=
            mul_le_mul' le_rfl (hend.le_mul one_le_kstar hext)
        _ ≤ call index 0 * (ops 0)∗ :=
            mul_le_mul' le_rfl ((mul_le_mul' ha le_rfl).trans mul_kstar_le_kstar)
        _ = call index 0 := by rw [hown' 0, mul_assoc, kstar_mul_kstar]

end Rule

end GrammarWorkbench.Derivation
