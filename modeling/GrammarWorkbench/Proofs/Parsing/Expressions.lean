import GrammarWorkbench.Proofs.Parsing.Climbing

/-!
# Rules for expressions

A rule for expressions has alternatives of two forms: a single token, or an operator between two
references to the rule, where the operator is a token or a choice of tokens in parentheses. Earlier
alternatives bind more tightly. The rule is compiled to operands and operators with precedences, and
its expressions are parsed without defects to the trees of their groupings.
-/

set_option autoImplicit false

namespace GrammarWorkbench.Run

open GrammarWorkbench.Text GrammarWorkbench.Declaration GrammarWorkbench.Diagnostic
open GrammarWorkbench.Model GrammarWorkbench.Analysis GrammarWorkbench.Compile
open GrammarWorkbench.Derivation

def tokenType? (types : TokenTypes) : Atom → Option Nat
  | .ref ident => if isTokenName ident.name then types.name? ident.name else none
  | .literal text => types.literal? text
  | _ => none

def loneType? (types : TokenTypes) : List ElementDecl → Option Nat
  | [⟨atom, none, _⟩] => tokenType? types atom
  | _ => none

def loneTypes? (types : TokenTypes) (as : List AltDecl) : Option (List Nat) :=
  as.mapM fun a => loneType? types a.elements

def operatorTypes? (types : TokenTypes) : ElementDecl → Option (List Nat)
  | ⟨.group (a :: as), none, _⟩ => loneTypes? types (a :: as)
  | e => (loneType? types [e]).map ([·])

def formOf? (types : TokenTypes) (rule : String) (a : AltDecl) : Option Form :=
  match a.elements with
  | [e] => (loneType? types [e]).map .primary
  | [left, op, right] =>
    if isBareRef rule left && isBareRef rule right then
      (operatorTypes? types op).map (.binary · a.rightAssoc)
    else none
  | _ => none

def formsOf? (types : TokenTypes) (r : RuleDecl) : Option (List Form) :=
  r.alternatives.mapM (formOf? types r.name.name)

theorem forall₂_of_mapM {α β : Type} {f : α → Option β} {as : List α} {bs : List β}
    (h : as.mapM f = some bs) : List.Forall₂ (fun a b => f a = some b) as bs := by
  rw [Pattern.mapM_eq_some_iff, ← List.forall₂_eq_eq_eq] at h
  simpa [List.forall₂_map_left_iff, List.forall₂_map_right_iff] using h

def lone (type : Nat) : Sequence Unit := [.token (.type type)]

section Lone

variable {v : Vocabulary} {tb : Table} {p : ParserConfig} {call : Nat → Nat → Parse Tree}

theorem sequenceLook_lone (t : Nat) : sequenceLook v tb (lone t) = ⟨.single t, false⟩ := by
  simp [lone, sequenceLook, elementLook, TokenMatch.first, Lookahead.followedBy]

structure Lone (P : Nat → Prop) (as : List (RuleAlternative Unit)) : Prop where
  each : ∀ a ∈ as, ∃ t, P t ∧ a.elements = lone t
  all : ∀ t, P t → ∃ a ∈ as, a.elements = lone t

variable {P : Nat → Prop} {types : List Nat} {as : List (RuleAlternative Unit)}

/-- Among single tokens the alternative of the next one is chosen. -/
theorem chooseAlternative_lone (v : Vocabulary) (tb : Table) (h : Lone P as) {t : Nat}
    (ht : P t) : ∃ i a, chooseAlternative (annotateBlock v tb ⟨(), as⟩) t = some i ∧
      as[i]? = some a ∧ a.elements = lone t := by
  obtain ⟨a, ha, helements⟩ := h.all t ht
  rw [annotateBlock, annotateChoice_eq_map]
  unfold chooseAlternative
  split
  · rename_i b hb
    obtain ⟨c, rfl, -⟩ := List.map_eq_singleton_iff.mp hb
    exact ⟨0, c, rfl, rfl, by rwa [← List.mem_singleton.mp ha]⟩
  · simp only [RuleBlock.predict, List.findIdx?_map, Function.comp_def]
    have hsome : (as.findIdx? fun b => (sequenceLook v tb b.elements).accepts t).isSome := by
      rw [List.findIdx?_isSome, List.any_eq_true]
      refine ⟨a, ha, ?_⟩
      simp [helements, sequenceLook_lone, Lookahead.accepts]
    obtain ⟨i, hi⟩ := Option.isSome_iff_exists.mp hsome
    rw [hi]
    obtain ⟨hlt, haccepts, -⟩ := List.findIdx?_eq_some_iff_getElem.mp hi
    obtain ⟨u, -, hu⟩ := h.each _ (List.getElem_mem hlt)
    refine ⟨i, as[i], rfl, List.getElem?_eq_getElem hlt, ?_⟩
    simp only [hu, sequenceLook_lone, Lookahead.accepts, TokenSet.contains_single] at haccepts
    rw [hu, haccepts]

theorem parseSequence_lone (x : Token) (ts : List Token) :
    parseSequence p call (annotateSequence v tb (lone x.type)) (x :: ts) =
      .ok ⟨[.token x], [], ts⟩ := by
  simp only [lone, annotateSequence, annotateElement, parseSequence, parseElement]
  refine Parse.bind_ok.mpr ⟨⟨[.token x], [], ts⟩, ⟨[.token x], [], ts⟩, ?_, ?_, rfl⟩
  · simp [parseTerminal, nextType, TokenMatch.accepts, readToken, currentToken]
  · exact Parse.bind_ok.mpr ⟨_, _, Parse.pure_ok.mpr rfl, Parse.pure_ok.mpr rfl, rfl⟩

theorem parseBlock_lone (h : Lone P as) {x : Token} (hx : P x.type) (ts : List Token) :
    parseBlock p call (annotateBlock v tb ⟨(), as⟩) (x :: ts) = .ok ⟨[.token x], [], ts⟩ := by
  obtain ⟨i, a, hchoose, ha, helements⟩ := chooseAlternative_lone v tb h hx
  have hget : (annotateChoice v tb as)[i]? =
      some ⟨a.label, sequenceLook v tb a.elements, annotateSequence v tb a.elements⟩ := by
    rw [annotateChoice_eq_map, List.getElem?_map, ha]
    rfl
  rw [annotateBlock] at hchoose ⊢
  have hnext : nextType (x :: ts) = x.type := rfl
  simp only [parseBlock, hnext, hchoose, parseAlternative_eq hget, helements]
  exact parseSequence_lone x ts

inductive OneOf (types : List Nat) : Element Unit → Prop
  | token {t : Nat} (h : types = [t]) : OneOf types (.token (.type t))
  | choice {as : List (RuleAlternative Unit)} (hne : as ≠ []) (h : Lone (· ∈ types) as) :
      OneOf types (.block ⟨(), as⟩)

theorem OneOf.reads {e : Element Unit} (h : OneOf types e) {o : Token} (ho : o.type ∈ types)
    (after : Lookahead) (ts : List Token) :
    parseElement p call (annotateElement v tb after e) (o :: ts) = .ok ⟨[.token o], [], ts⟩ := by
  cases h with
  | @token t h =>
    obtain rfl : o.type = t := by simpa [h] using ho
    simp [annotateElement, parseElement, parseTerminal, nextType, TokenMatch.accepts, readToken,
      currentToken]
  | choice hne h =>
    rw [annotateElement, parseElement]
    exact parseBlock_lone h ho ts

/-- One of some tokens, and whatever stands behind it, starts with one of them. -/
theorem OneOf.accepts_iff {e : Element Unit} (h : OneOf types e) (es : Sequence Unit) (t : Nat) :
    (sequenceLook v tb (e :: es)).accepts t ↔ t ∈ types := by
  cases h with
  | @token u h =>
    simp [sequenceLook, elementLook, TokenMatch.first, Lookahead.followedBy, Lookahead.accepts, h]
  | @choice as hne h =>
    have hnullable : ¬ (blockLook v tb ⟨(), as⟩).nullable := by
      rw [blockLook_nullable]
      rintro (hnil | ⟨a, ha, hnull⟩)
      · exact hne hnil
      · obtain ⟨u, -, hu⟩ := h.each a ha
        rw [hu, sequenceLook_lone] at hnull
        cases hnull
    rw [sequenceLook, elementLook, Lookahead.accepts, followedBy_first, blockLook_first]
    constructor
    · rintro (⟨a, ha, hfirst⟩ | ⟨hnull, -⟩)
      · obtain ⟨u, hu, helements⟩ := h.each a ha
        rw [helements, sequenceLook_lone, TokenSet.contains_single] at hfirst
        rwa [hfirst]
      · exact absurd hnull hnullable
    · intro ht
      obtain ⟨a, ha, helements⟩ := h.all t ht
      exact .inl ⟨a, ha, by simp [helements, sequenceLook_lone]⟩

end Lone

section Parts

variable {s : ParserScope}

theorem resolveAtom_token {span : Span} {atom : Atom} {t : Nat}
    (h : tokenType? s.types atom = some t) :
    resolveAtom s span atom = ⟨some (.token (.type t)), []⟩ := by
  cases atom with
  | ref ident =>
    rw [tokenType?] at h
    split at h
    · rename_i hname
      rw [resolveAtom, ParserScope.reference, if_pos hname, ParserScope.token, h]
      rfl
    · cases h
  | literal text =>
    rw [tokenType?] at h
    rw [resolveAtom, ParserScope.literal, h]
    rfl
  | _ => cases h

theorem resolveElements_lone {es : List ElementDecl} {t : Nat} (h : loneType? s.types es = some t) :
    (resolveElements s es).value = lone t := by
  unfold loneType? at h
  split at h
  · simp only [resolveElements, resolveAtom_token h, Checked.value_bind, Checked.value_pure]
    rfl
  · cases h

theorem resolveAlternatives_lone {as : List AltDecl} {ts : List Nat}
    (h : List.Forall₂ (fun a t => loneType? s.types a.elements = some t) as ts) :
    Lone (· ∈ ts) (resolveAlternatives s as).value := by
  induction h with
  | nil => exact ⟨by simp [resolveAlternatives], by simp⟩
  | @cons a t as ts ha _ ih =>
    have hvalue : (resolveAlternatives s (a :: as)).value =
        ⟨a.label.map (·.name), (), lone t⟩ :: (resolveAlternatives s as).value := by
      rw [resolveAlternatives]
      simp [resolveElements_lone ha]
    rw [hvalue]
    constructor
    · intro b hb
      rcases List.mem_cons.mp hb with rfl | hb
      · exact ⟨t, List.mem_cons_self, rfl⟩
      · obtain ⟨u, hu, heq⟩ := ih.each b hb
        exact ⟨u, List.mem_cons_of_mem _ hu, heq⟩
    · intro u hu
      rcases List.mem_cons.mp hu with rfl | hu
      · exact ⟨_, List.mem_cons_self, rfl⟩
      · obtain ⟨b, hb, heq⟩ := ih.all u hu
        exact ⟨b, List.mem_cons_of_mem _ hb, heq⟩

theorem resolveElements_operator {e : ElementDecl} {types : List Nat}
    (h : operatorTypes? s.types e = some types) :
    ∃ e', (resolveElements s [e]).value = [e'] ∧ OneOf types e' := by
  unfold operatorTypes? at h
  split at h
  · rename_i a as span
    have hlone := resolveAlternatives_lone (forall₂_of_mapM h)
    refine ⟨.block ⟨(), (resolveAlternatives s (a :: as)).value⟩, ?_, .choice ?_ hlone⟩
    · simp only [resolveElements, resolveAtom, Checked.value_bind, Checked.value_pure]
      rfl
    · rw [resolveAlternatives]
      simp
  · obtain ⟨t, ht, rfl⟩ := Option.map_eq_some_iff.mp h
    exact ⟨.token (.type t), resolveElements_lone ht, .token rfl⟩

/-- What becomes of an alternative of a given form, where `level` is its precedence. -/
inductive PartOf (index level : Nat) : Form → Part → Prop
  | primary {t : Nat} {a : RuleAlternative Unit} (h : a.elements = lone t) :
      PartOf index level (.primary t) (.operand a)
  | binary {types : List Nat} {rightAssoc : Bool} {e : Element Unit} {a : RuleAlternative Unit}
      (he : OneOf types e)
      (h : a.elements = [e, .operand index (if rightAssoc then level else level + 1)]) :
      PartOf index level (.binary types rightAssoc) (.operator level a)

theorem isBareRef_loneType? (hname : ¬ isTokenName s.rule) {e : ElementDecl} {t : Nat}
    (h : loneType? s.types [e] = some t) : isBareRef s.rule e = false := by
  obtain ⟨atom, suffix, span⟩ := e
  cases suffix with
  | some suffix => cases h
  | none =>
    cases atom with
    | ref ident =>
      rw [loneType?, tokenType?] at h
      split at h
      · rename_i htoken
        rw [isBareRef, beq_eq_false_iff_ne]
        rintro heq
        exact hname (heq ▸ htoken)
      · cases h
    | _ => rfl

theorem formOf?_cases {alt : AltDecl} {f : Form} (h : formOf? s.types s.rule alt = some f) :
    (∃ e t, alt.elements = [e] ∧ loneType? s.types [e] = some t ∧ f = .primary t) ∨
      ∃ left op right types, alt.elements = [left, op, right] ∧ isBareRef s.rule left ∧
        isBareRef s.rule right ∧ operatorTypes? s.types op = some types ∧
        f = .binary types alt.rightAssoc := by
  unfold formOf? at h
  split at h
  · rename_i e helements
    obtain ⟨t, ht, rfl⟩ := Option.map_eq_some_iff.mp h
    exact .inl ⟨e, t, helements, ht, rfl⟩
  · rename_i left op right helements
    split at h
    · rename_i hrefs
      obtain ⟨hleft, hright⟩ := Bool.and_eq_true_iff.mp hrefs
      obtain ⟨types, htypes, rfl⟩ := Option.map_eq_some_iff.mp h
      exact .inr ⟨left, op, right, types, helements, hleft, hright, htypes, rfl⟩
    · cases h
  · cases h

theorem splitAlternative_form (hname : ¬ isTokenName s.rule) (index level : Nat) {alt : AltDecl}
    {f : Form} (h : formOf? s.types s.rule alt = some f) :
    ∃ part, (splitAlternative s index level alt).value = some part ∧ PartOf index level f part := by
  rcases formOf?_cases h with ⟨e, t, helements, ht, rfl⟩ |
    ⟨left, op, right, types, helements, hleft, hright, htypes, rfl⟩
  · have hshape : shapeOf s.rule alt = .closed := by
      simp [shapeOf, helements, isBareRef_loneType? hname ht]
    refine ⟨.operand (resolvePart s alt alt.elements []).value, ?_, .primary ?_⟩
    · simp only [splitAlternative, hshape]
      rfl
    · simp [resolvePart, helements, resolveElements_lone ht]
  · have hshape : shapeOf s.rule alt = .bothOpen := by
      simp [shapeOf, helements, hleft, hright]
    obtain ⟨e, he, hone⟩ := resolveElements_operator htypes
    refine ⟨.operator level (resolvePart s alt alt.elements.tail.dropLast
      [.operand index (if alt.rightAssoc then level else level + 1)]).value, ?_, .binary hone ?_⟩
    · simp only [splitAlternative, hshape]
      rfl
    · simp [resolvePart, helements, he]

theorem splitAlternatives_forms (hname : ¬ isTokenName s.rule) (index : Nat) {alts : List AltDecl}
    {forms : List Form}
    (h : List.Forall₂ (fun a f => formOf? s.types s.rule a = some f) alts forms) :
    (splitAlternatives s index alts).value.length = forms.length ∧
      ∀ k part f, (splitAlternatives s index alts).value[k]? = some part → forms[k]? = some f →
        PartOf index (level forms k) f part := by
  induction h with
  | nil => exact ⟨rfl, by simp⟩
  | @cons alt f alts forms halt hrest ih =>
    obtain ⟨part, hvalue, hpart⟩ := splitAlternative_form hname index (alts.length + 1) halt
    have hparts : (splitAlternatives s index (alt :: alts)).value =
        part :: (splitAlternatives s index alts).value := by
      simp [splitAlternatives, hvalue]
    rw [hparts]
    refine ⟨by simp [ih.1], ?_⟩
    intro k part' f' hpart' hf'
    cases k with
    | zero =>
      obtain rfl : part = part' := by simpa using hpart'
      obtain rfl : f = f' := by simpa using hf'
      simpa [level, hrest.length_eq] using hpart
    | succ k =>
      have hlevel : level (f :: forms) (k + 1) = level forms k := by simp [level]
      rw [hlevel]
      exact ih.2 k part' f' (by simpa using hpart') (by simpa using hf')

theorem forms_of_unsplit {alts : List AltDecl} {forms : List Form}
    (h : List.Forall₂ (fun a f => formOf? s.types s.rule a = some f) alts forms)
    (hopen : ∀ alt ∈ alts, ¬ (shapeOf s.rule alt).isLeftOpen) :
    ∃ ts, List.Forall₂ (fun a t => loneType? s.types a.elements = some t) alts ts ∧
      forms = ts.map .primary := by
  induction h with
  | nil => exact ⟨[], .nil, rfl⟩
  | @cons alt f alts forms halt _ ih =>
    obtain ⟨ts, hts, rfl⟩ := ih fun a ha => hopen a (List.mem_cons_of_mem _ ha)
    rcases formOf?_cases halt with ⟨e, t, helements, ht, rfl⟩ |
      ⟨left, op, right, types, helements, hleft, hright, -, -⟩
    · exact ⟨t :: ts, .cons (by rwa [helements]) hts, rfl⟩
    · refine absurd ?_ (hopen alt List.mem_cons_self)
      simp [shapeOf, helements, hleft, hright, Shape.isLeftOpen]

end Parts

section Rules

variable {forms : List Form} {index : Nat} {parts : List Part}

def PartsOf (index : Nat) (forms : List Form) (parts : List Part) : Prop :=
  parts.length = forms.length ∧ ∀ k part f, parts[k]? = some part → forms[k]? = some f →
    PartOf index (level forms k) f part

theorem PartsOf.part (h : PartsOf index forms parts) {k : Nat} {f : Form}
    (hf : forms[k]? = some f) : ∃ part ∈ parts, PartOf index (level forms k) f part := by
  have hk : k < parts.length := h.1 ▸ (List.getElem?_eq_some_iff.mp hf).1
  exact ⟨_, List.getElem_mem hk, h.2 k _ f (List.getElem?_eq_getElem hk) hf⟩

theorem PartsOf.form (h : PartsOf index forms parts) {part : Part} (hpart : part ∈ parts) :
    ∃ k f, forms[k]? = some f ∧ PartOf index (level forms k) f part := by
  obtain ⟨k, hk⟩ := List.mem_iff_getElem?.mp hpart
  have hlt : k < forms.length := h.1 ▸ (List.getElem?_eq_some_iff.mp hk).1
  exact ⟨k, _, List.getElem?_eq_getElem hlt, h.2 k part _ hk (List.getElem?_eq_getElem hlt)⟩

theorem PartsOf.operands (h : PartsOf index forms parts) :
    Lone (IsPrimary forms) (operandsOf parts) := by
  constructor
  · intro a ha
    obtain ⟨k, f, hf, hpart⟩ := h.form (mem_operandsOf.mp ha)
    cases hpart with
    | primary helements => exact ⟨_, List.mem_of_getElem? hf, helements⟩
  · intro t ht
    obtain ⟨k, hk⟩ := List.mem_iff_getElem?.mp ht
    obtain ⟨part, hmem, hpart⟩ := h.part hk
    cases hpart with
    | primary helements => exact ⟨_, mem_operandsOf.mpr hmem, helements⟩

/-- The operators of a split rule are those of its binary alternatives. -/
theorem PartsOf.operator (h : PartsOf index forms parts) {l : Nat} {a : RuleAlternative Unit}
    (ha : (l, a) ∈ operatorsOf parts) :
    ∃ k r types e, forms[k]? = some (.binary types r) ∧ l = level forms k ∧ OneOf types e ∧
      a.elements = [e, .operand index (operandLevel forms k r)] := by
  obtain ⟨k, f, hf, hpart⟩ := h.form (mem_operatorsOf.mp ha)
  cases hpart with
  | binary he helements => exact ⟨k, _, _, _, hf, rfl, he, helements⟩

theorem PartsOf.exists_operator (h : PartsOf index forms parts) {k : Nat} {r : Bool}
    {types : List Nat} (hk : forms[k]? = some (.binary types r)) :
    ∃ a e, (level forms k, a) ∈ operatorsOf parts ∧ OneOf types e ∧
      a.elements = [e, .operand index (operandLevel forms k r)] := by
  obtain ⟨part, hmem, hpart⟩ := h.part hk
  cases hpart with
  | binary he helements => exact ⟨_, _, mem_operatorsOf.mpr hmem, he, helements⟩

def operatorsFor (v : Vocabulary) (tb : Table) (parts : List Part) : Operators Lookahead :=
  ⟨annotateBlock v tb ⟨(), (operatorsOf parts).map (·.2)⟩, (operatorsOf parts).map (·.1)⟩

variable {v : Vocabulary} {tb : Table}

theorem predict_operatorsFor (t q : Nat) : (operatorsFor v tb parts).predict t q =
    (operatorsOf parts).findIdx? fun op =>
      q ≤ op.1 && (sequenceLook v tb op.2.elements).accepts t := by
  unfold operatorsFor Operators.predict
  rw [annotateBlock_alternatives, annotateChoice_eq_map, List.map_map, List.zip_map',
    List.findIdx?_map]
  rfl

theorem PartsOf.predict_none (h : PartsOf index forms parts) {t q : Nat}
    (hloose : ∀ k r, IsOperator forms k r t → level forms k < q) :
    (operatorsFor v tb parts).predict t q = none := by
  rw [predict_operatorsFor, List.findIdx?_eq_none_iff]
  rintro ⟨l, a⟩ hmem
  obtain ⟨k, r, types, e, hk, rfl, he, helements⟩ := h.operator hmem
  by_contra hsome
  simp only [Bool.not_eq_false, Bool.and_eq_true, decide_eq_true_eq, helements,
    he.accepts_iff] at hsome
  have hlt := hloose k r ⟨types, hk, hsome.2⟩
  omega

/-- An operator that is tight enough is predicted, and with its right operand it is read. -/
theorem PartsOf.predict_some (h : PartsOf index forms parts) (hapart : OperatorsApart forms)
    {k : Nat} {r : Bool} {t q : Nat} (hop : IsOperator forms k r t) (hq : q ≤ level forms k)
    (p : ParserConfig) : ∃ j, (operatorsFor v tb parts).predict t q = some j ∧
      ∀ call (o : Token) ts c rest, o.type = t →
        call index (operandLevel forms k r) ts = .ok ⟨c, [], rest⟩ →
        parseAlternative p call (operatorsFor v tb parts).block.alternatives j (o :: ts) =
          .ok ⟨[.token o, c], [], rest⟩ := by
  obtain ⟨types, hk, ht⟩ := hop
  obtain ⟨a, e, hmem, he, helements⟩ := h.exists_operator hk
  have hsome : ((operatorsOf parts).findIdx? fun op =>
      q ≤ op.1 && (sequenceLook v tb op.2.elements).accepts t).isSome := by
    rw [List.findIdx?_isSome, List.any_eq_true]
    refine ⟨_, hmem, ?_⟩
    simp [hq, helements, he.accepts_iff, ht]
  obtain ⟨j, hj⟩ := Option.isSome_iff_exists.mp hsome
  refine ⟨j, by rw [predict_operatorsFor, hj], ?_⟩
  intro call o ts c rest ho hcall
  obtain ⟨hlt, hpass, -⟩ := List.findIdx?_eq_some_iff_getElem.mp hj
  have hb := List.getElem?_eq_getElem hlt
  generalize (operatorsOf parts)[j] = op at hpass hb
  obtain ⟨l, b⟩ := op
  -- The operator that is found has the same token, so it is the one of the same alternative.
  obtain ⟨k', r', types', e', hk', -, he', helements'⟩ := h.operator (List.mem_of_getElem? hb)
  simp only [Bool.and_eq_true, decide_eq_true_eq, helements', he'.accepts_iff] at hpass
  obtain rfl := hapart.index_eq ⟨types', hk', hpass.2⟩ ⟨types, hk, ht⟩
  obtain ⟨rfl, rfl⟩ : types' = types ∧ r' = r := by simpa [hk'] using hk
  have hget : (operatorsFor v tb parts).block.alternatives[j]? =
      some ⟨b.label, sequenceLook v tb b.elements, annotateSequence v tb b.elements⟩ := by
    rw [operatorsFor, annotateBlock_alternatives, annotateChoice_eq_map]
    simp [hb]
  rw [parseAlternative_eq hget, helements']
  simp only [annotateSequence, annotateElement, parseSequence, parseElement]
  refine Parse.bind_ok.mpr ⟨_, ⟨[.token o, c], [], rest⟩, he'.reads (ho ▸ ht) _ ts, ?_, rfl⟩
  refine Parse.bind_ok.mpr ⟨⟨[c], [], rest⟩, _, ?_, Parse.pure_ok.mpr rfl, rfl⟩
  refine Parse.bind_ok.mpr ⟨⟨[c], [], rest⟩, ⟨[c], [], rest⟩, ?_, ?_, rfl⟩
  · exact Parse.bind_ok.mpr ⟨_, _, hcall, Parse.pure_ok.mpr rfl, rfl⟩
  · exact Parse.bind_ok.mpr ⟨_, _, Parse.pure_ok.mpr rfl, Parse.pure_ok.mpr rfl, rfl⟩

/-- A rule for expressions is compiled to its primaries and, if there are any, its operators. -/
theorem parserRule_forms {s : ParserScope} {r : RuleDecl} (hname : ¬ isTokenName s.rule)
    (hforms : List.Forall₂ (fun a f => formOf? s.types s.rule a = some f) r.alternatives forms)
    (index : Nat) :
    ∃ as, (parserRule s index r).value.block = ⟨(), as⟩ ∧ Lone (IsPrimary forms) as ∧
      (((parserRule s index r).value.operators = none ∧ ∀ k right t, ¬ IsOperator forms k right t) ∨
        ∃ parts, PartsOf index forms parts ∧ (parserRule s index r).value.operators =
          some ⟨⟨(), (operatorsOf parts).map (·.2)⟩, (operatorsOf parts).map (·.1)⟩) := by
  by_cases hopen : r.alternatives.any fun alt => (shapeOf s.rule alt).isLeftOpen
  · have hparts : PartsOf index forms (splitAlternatives s index r.alternatives).value :=
      splitAlternatives_forms hname index hforms
    have hvalue : (parserRule s index r).value.block =
          ⟨(), operandsOf (splitAlternatives s index r.alternatives).value⟩ ∧
        (parserRule s index r).value.operators =
          some ⟨⟨(), (operatorsOf (splitAlternatives s index r.alternatives).value).map (·.2)⟩,
            (operatorsOf (splitAlternatives s index r.alternatives).value).map (·.1)⟩ := by
      simp only [parserRule, hopen, if_true, Checked.value_bind]
      split <;> exact ⟨rfl, rfl⟩
    exact ⟨_, hvalue.1, hparts.operands, .inr ⟨_, hparts, hvalue.2⟩⟩
  · have hclosed : ∀ alt ∈ r.alternatives, ¬ (shapeOf s.rule alt).isLeftOpen := by simpa using hopen
    obtain ⟨ts, hts, rfl⟩ := forms_of_unsplit hforms hclosed
    have hlone := resolveAlternatives_lone hts
    have hvalue : (parserRule s index r).value =
        ⟨s.rule, index, ⟨(), (resolveAlternatives s r.alternatives).value⟩, none, r.span⟩ := by
      simp only [parserRule, hopen, Bool.false_eq_true, if_false]
      rfl
    have hprimary : (IsPrimary (ts.map .primary)) = (· ∈ ts) := by
      funext t
      simp [IsPrimary]
    rw [hvalue, hprimary]
    refine ⟨_, rfl, hlone, .inl ⟨rfl, ?_⟩⟩
    rintro k right t ⟨types, hk, -⟩
    simp at hk

end Rules

section Expressions

variable {text : List Char} {g : Grammar} {d : DeclaredGrammar} {rules : List (ParserRule Unit)}

/-- The compiled rules of an accepted document climb over the operators of their expressions. -/
theorem climbs (acc : Accepted text g d rules) {index : Nat} {r : RuleDecl}
    (hr : d.rules[index]? = some r) {forms : List Form} (hforms : formsOf? d.types r = some forms)
    (hapart : OperatorsApart forms) (input : List Char) (limit : Nat) :
    ∃ rule, Climbs ⟨g, input, .atEnd input, limit, false⟩ index forms rule := by
  have hcompiled : g.parserRules[index]? = some (annotateRule g.vocabulary
      (table g.vocabulary rules) (parserRule (d.scope text r.name.name) index r).value) := by
    rw [acc.annotated, List.getElem?_map, acc.compiled index r hr]
    rfl
  obtain ⟨as, hblock, hlone, hops⟩ := parserRule_forms (s := d.scope text r.name.name)
    (acc.name index r hr) (forall₂_of_mapM hforms) index
  refine ⟨_, rfl, hcompiled, ?_, ?_, ?_, ?_⟩
  · intro call x ts hx
    rw [annotateRule, hblock]
    exact parseBlock_lone hlone hx ts
  · intro hnone
    rcases hops with ⟨-, hprimary⟩ | ⟨parts, -, hsome⟩
    · exact hprimary
    · simp [annotateRule, hsome] at hnone
  · intro ops t q hsome hloose
    rcases hops with ⟨hnone, -⟩ | ⟨parts, hparts, hvalue⟩
    · simp [annotateRule, hnone] at hsome
    · obtain rfl : operatorsFor g.vocabulary (table g.vocabulary rules) parts = ops := by
        simpa [annotateRule, hvalue, operatorsFor] using hsome
      exact hparts.predict_none hloose
  · intro ops k right t q hsome hop hq
    rcases hops with ⟨hnone, -⟩ | ⟨parts, hparts, hvalue⟩
    · simp [annotateRule, hnone] at hsome
    · obtain rfl : operatorsFor g.vocabulary (table g.vocabulary rules) parts = ops := by
        simpa [annotateRule, hvalue, operatorsFor] using hsome
      exact hparts.predict_some hapart hop hq _

/-- The expressions of a rule whose alternatives are single tokens and binary operators are parsed
without defects into the one tree of their grouping, if there is room for as many calls as there are
operands. The operators must be apart, and the end of the input must not be one of them. -/
theorem parse_grouped {text : List Char} {startName : Option String} {g : Grammar}
    (h : compile text startName = .ok g) {d : DeclaredGrammar}
    (hd : DeclaredGrammar.ofText? text = some d) {index : Nat} {r : RuleDecl}
    (hr : d.rules[index]? = some r) {forms : List Form} (hforms : formsOf? d.types r = some forms)
    (hapart : OperatorsApart forms) (hend : ¬ SomeOperator forms endType)
    {x : Token} {es : Tail} (hx : IsPrimary forms x.type) (hes : IsTail forms es)
    {input : List Char} {tokens : List Token} (htokens : visibleTokens tokens = x :: tailTokens es)
    {limit : Nat} (hlimit : es.length < limit) :
    ∃ tree, parse g input tokens limit false index = .ok (tree, []) ∧
      ∀ t, Grouped forms index x es t ↔ t = tree := by
  obtain ⟨d', rules, acc⟩ := compile_accepted h
  obtain rfl : d' = d := Option.some.inj (acc.declared.symm.trans hd)
  obtain ⟨rule, hclimbs⟩ := climbs acc hr hforms hapart input limit
  obtain ⟨tree, hcall, hgrouped⟩ := hclimbs.callsGroup hapart hend limit 0 x es [] hx
    (by simpa using hes) hlimit (fun _ _ _ _ _ => Nat.zero_le _) (by simp)
  rw [List.append_nil, ← htokens] at hcall
  refine ⟨tree, parse_ok.mpr ⟨_, hcall, rfl, rfl⟩, ?_⟩
  intro t
  constructor
  · exact fun ht => ht.unique hgrouped
  · rintro rfl
    exact hgrouped

/-- A power, products and sums, each looser than the one before. Powers group to the right. -/
def powerText : List Char := "e:<assoc=right>e'^'e|e('*'|'/')e|e('+'|'-')e|'1';".toList

def powerForms : List Form :=
  [.binary [1] true, .binary [2, 3] false, .binary [4, 5] false, .primary 6]

def powerTail : Tail := [5, 4, 1, 1, 2].map fun o => (.ofType o, .ofType 6)

theorem parse_grouped_power : ∃ g d r tree, compile powerText none = .ok g ∧
    DeclaredGrammar.ofText? powerText = some d ∧ d.rules[0]? = some r ∧
    formsOf? d.types r = some powerForms ∧
    parse g [] (.ofType 6 :: tailTokens powerTail) 6 false 0 = .ok (tree, []) ∧
    Grouped powerForms 0 (.ofType 6) powerTail tree := by
  have hg : ∃ g ∈ (compile powerText none).toOption, g.parserRules.length = 1 := by decide +kernel
  have hd : ∃ d ∈ DeclaredGrammar.ofText? powerText, ∃ r ∈ d.rules[0]?,
      formsOf? d.types r = some powerForms := by decide +kernel
  obtain ⟨g, hg, -⟩ := hg
  obtain ⟨d, hd, r, hr, hforms⟩ := hd
  have htokens : visibleTokens (.ofType 6 :: tailTokens powerTail) =
      .ofType 6 :: tailTokens powerTail := by decide
  have hlimit : powerTail.length < 6 := by decide
  obtain ⟨tree, hparse, hgrouped⟩ : ∃ tree,
      parse g [] (.ofType 6 :: tailTokens powerTail) 6 false 0 = .ok (tree, []) ∧
        ∀ t, Grouped powerForms 0 (.ofType 6) powerTail t ↔ t = tree :=
    parse_grouped (toOption_eq_some.mp hg) hd hr hforms (by decide) (by decide) (by decide)
      (by decide) htokens hlimit
  exact ⟨g, d, r, tree, toOption_eq_some.mp hg, hd, hr, hforms, hparse, (hgrouped tree).mpr rfl⟩

def endText : List Char := "e:e EOF e|'1';".toList

/-- The end of the input is always there to be read as an operator, and then an operand is
missing. -/
theorem parse_not_grouped_at_end : ∃ g d r, compile endText none = .ok g ∧
    DeclaredGrammar.ofText? endText = some d ∧ d.rules[0]? = some r ∧
    formsOf? d.types r = some [.binary [endType] false, .primary 1] ∧
    OperatorsApart [.binary [endType] false, .primary 1] ∧
    Grouped [.binary [endType] false, .primary 1] 0 (.ofType 1) []
      (.rule 0 [.token (.ofType 1)]) ∧
    ∀ tree, parse g [] [.ofType 1] 2 false 0 ≠ .ok (tree, []) := by
  have hg : ∃ g ∈ (compile endText none).toOption,
      ∃ parsed ∈ (parse g [] [.ofType 1] 2 false 0).toOption, ¬ parsed.2.isEmpty := by
    decide +kernel
  have hd : ∃ d ∈ DeclaredGrammar.ofText? endText, ∃ r ∈ d.rules[0]?,
      formsOf? d.types r = some [.binary [endType] false, .primary 1] := by decide +kernel
  obtain ⟨g, hg, parsed, hparsed, hdefects⟩ := hg
  obtain ⟨d, hd, r, hr, hforms⟩ := hd
  refine ⟨g, d, r, toOption_eq_some.mp hg, hd, hr, hforms, by decide, .primary _, ?_⟩
  intro tree heq
  rw [toOption_eq_some.mp hparsed] at heq
  obtain rfl := Except.ok.inj heq
  exact hdefects rfl

end Expressions

end GrammarWorkbench.Run
