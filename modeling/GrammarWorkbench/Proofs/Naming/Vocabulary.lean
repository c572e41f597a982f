import GrammarWorkbench.Proofs.Lexical.Compiled
import GrammarWorkbench.Proofs.Naming.Identifiers
import GrammarWorkbench.Proofs.Naming.Quoted

/-!
# Names and literals of a grammar

The token types of a grammar get their names in turn: the end of the input, the declared names, the
literals of parser rules and the lexer rules. No two of them get one name, so every type is found
again by its name. A literal stands for one type wherever it is used: the type of the first lexer
rule that consists of nothing else, or one of its own. Different literals stand for different types.
-/

set_option autoImplicit false

namespace GrammarWorkbench.Compile

open GrammarWorkbench.Text GrammarWorkbench.Declaration GrammarWorkbench.Diagnostic
open GrammarWorkbench.Model GrammarWorkbench.Lexical
open GrammarWorkbench.Derivation (DeclaredGrammar Accepted compile_accepted)

theorem add_nodup {v : Vocabulary} (h : v.names.Nodup) {name : String} (hnew : name ∉ v.names) :
    (v.add name).names.Nodup := by
  rw [Vocabulary.add, ← List.concat_eq_append]
  exact h.concat hnew

theorem ensure_nodup {v : Vocabulary} (h : v.names.Nodup) (name : String) :
    (v.ensure name).names.Nodup := by
  unfold Vocabulary.ensure
  split
  · exact h
  · rename_i hnew
    rw [typeOf?_isSome] at hnew
    exact add_nodup h hnew

theorem mem_ensure_iff {v : Vocabulary} {name other : String} :
    other ∈ (v.ensure name).names ↔ other ∈ v.names ∨ other = name := by
  unfold Vocabulary.ensure
  split
  · rename_i hold
    rw [typeOf?_isSome] at hold
    constructor
    · exact .inl
    · rintro (hmem | rfl)
      · exact hmem
      · exact hold
  · simp [Vocabulary.add]

theorem typeOf?_displayName {v : Vocabulary} (h : v.names.Nodup) {t : Nat} (ht : t < v.size) :
    v.typeOf? (v.displayName t) = some t := by
  have hname : v.displayName t = v.names[t] := by
    rw [Vocabulary.displayName, List.getElem?_eq_getElem ht, Option.getD_some]
  rw [hname, Vocabulary.typeOf?, List.idxOf?_eq_some_iff]
  refine ⟨ht, rfl, ?_⟩
  intro j hj heq
  have hsame := (h.getElem_inj_iff).mp heq
  omega

theorem displayName_typeOf? {v : Vocabulary} {name : String} {t : Nat}
    (h : v.typeOf? name = some t) : v.displayName t = name := by
  obtain ⟨ht, hname, -⟩ := List.idxOf?_eq_some_iff.mp h
  rw [Vocabulary.displayName, List.getElem?_eq_getElem ht, Option.getD_some, hname]

inductive Uses (l : List Char) : Atom → Prop
  | literal : Uses l (.literal l)
  | member {items : List SetItem} {place : Span} (hmem : .literal l place ∈ items) :
    Uses l (.not items)
  | group {alternatives : List AltDecl} {a : AltDecl} {e : ElementDecl} (ha : a ∈ alternatives)
    (he : e ∈ a.elements) (huses : Uses l e.atom) : Uses l (.group alternatives)

theorem elementsLiterals_subset {es : List ElementDecl} {e : ElementDecl} (he : e ∈ es) :
    atomLiterals e.atom ⊆ elementsLiterals es := by
  induction es with
  | nil => cases he
  | cons d es ih =>
    rw [elementsLiterals]
    rcases List.mem_cons.mp he with rfl | he
    · exact List.subset_append_left _ _
    · exact List.subset_append_of_subset_right _ (ih he)

theorem alternativesLiterals_subset {as : List AltDecl} {a : AltDecl} (ha : a ∈ as) :
    elementsLiterals a.elements ⊆ alternativesLiterals as := by
  induction as with
  | nil => cases ha
  | cons b as ih =>
    rw [alternativesLiterals]
    rcases List.mem_cons.mp ha with rfl | ha
    · exact List.subset_append_left _ _
    · exact List.subset_append_of_subset_right _ (ih ha)

/-- Every literal that is used is among those that are collected. -/
theorem Uses.collected {l : List Char} {atom : Atom} (h : Uses l atom) : l ∈ atomLiterals atom := by
  induction h with
  | literal => exact List.mem_singleton.mpr rfl
  | member hmem => exact List.mem_filterMap.mpr ⟨_, hmem, rfl⟩
  | group ha he _ ih =>
    rw [atomLiterals]
    exact alternativesLiterals_subset ha (elementsLiterals_subset he ih)

/-- What holds while literals get types: names are given out once, a name of a literal belongs to a
literal with a type, and no such literal has a lexer rule. -/
structure LiteralsNamed (aliases : List (List Char × String))
    (state : Vocabulary × List (List Char × Nat)) : Prop where
  nodup : state.1.names.Nodup
  typed (l : List Char) : literalName l ∈ state.1.names → (state.2.lookup l).isSome
  free (l : List Char) : (state.2.lookup l).isSome → aliases.lookup l = none

section Literals

variable {aliases : List (List Char × String)} {state : Vocabulary × List (List Char × Nat)}

theorem lookup_concat {implicit : List (List Char × Nat)} {l text : List Char} {t : Nat} :
    ((implicit ++ [(text, t)]).lookup l).isSome ↔ (implicit.lookup l).isSome ∨ l = text := by
  rw [List.lookup_append]
  cases implicit.lookup l with
  | some u => simp
  | none =>
    by_cases heq : l = text
    · simp [heq]
    · have hne : (l == text) = false := beq_eq_false_iff_ne.mpr heq
      simp [List.lookup_cons, hne, heq]

theorem addImplicit_named (h : LiteralsNamed aliases state) (text : List Char) :
    LiteralsNamed aliases (addImplicit aliases state text) := by
  unfold addImplicit
  split
  · exact h
  · rename_i hnew
    simp only [Bool.or_eq_true, not_or, Bool.not_eq_true, Option.isSome_eq_false_iff,
      Option.isNone_iff_eq_none] at hnew
    refine ⟨?_, ?_, ?_⟩
    · refine add_nodup h.nodup fun hmem => ?_
      have htyped := h.typed text hmem
      rw [hnew.1] at htyped
      cases htyped
    · intro l hl
      rw [lookup_concat]
      rcases List.mem_append.mp hl with hold | hlast
      · exact .inl (h.typed l hold)
      · exact .inr (literalName_injective (List.mem_singleton.mp hlast))
    · intro l hl
      rcases lookup_concat.mp hl with hold | rfl
      · exact h.free l hold
      · exact hnew.2

/-- A literal that has a type keeps it, and the one at hand has one or a lexer rule. -/
theorem addImplicit_known (text l : List Char)
    (h : l = text ∨ (state.2.lookup l).isSome ∨ (aliases.lookup l).isSome) :
    ((addImplicit aliases state text).2.lookup l).isSome ∨ (aliases.lookup l).isSome := by
  unfold addImplicit
  split
  · rename_i hknown
    rcases h with rfl | h
    · simpa using hknown
    · exact h
  · rw [lookup_concat]
    tauto

theorem foldl_addImplicit_known {used : List (List Char)} {l : List Char}
    (h : l ∈ used ∨ (state.2.lookup l).isSome ∨ (aliases.lookup l).isSome) :
    ((used.foldl (addImplicit aliases) state).2.lookup l).isSome ∨ (aliases.lookup l).isSome := by
  induction used generalizing state with
  | nil => simpa using h
  | cons text used ih =>
    rw [List.foldl_cons]
    apply ih
    rcases h with hmem | hknown
    · rcases List.mem_cons.mp hmem with rfl | hmem
      · exact .inr (addImplicit_known _ _ (.inl rfl))
      · exact .inl hmem
    · exact .inr (addImplicit_known _ _ (.inr hknown))

end Literals

section Types

variable {names : List Ident} {lexerRules parserRules : List RuleDecl}

theorem declared_nodup (names : List Ident) :
    (names.foldl (fun v ident => v.ensure ident.name) Vocabulary.initial).names.Nodup := by
  apply List.foldlRecOn (motive := fun v : Vocabulary => v.names.Nodup)
  · decide
  · exact fun v hv ident _ => ensure_nodup hv ident.name

theorem mem_declared {names : List Ident} {name : String}
    (h : name ∈ (names.foldl (fun v ident => v.ensure ident.name) Vocabulary.initial).names) :
    name = "EOF" ∨ ∃ ident ∈ names, ident.name = name := by
  revert name
  apply List.foldlRecOn (motive := fun v : Vocabulary => ∀ name ∈ v.names,
    name = "EOF" ∨ ∃ ident ∈ names, ident.name = name)
  · exact fun name hname => .inl (List.mem_singleton.mp hname)
  · intro v hv ident hident name hname
    rcases mem_ensure_iff.mp hname with hold | rfl
    · exact hv name hold
    · exact .inr ⟨ident, hident, rfl⟩

def NoLiteralNames (names : List Ident) : Prop := ∀ ident ∈ names, ∀ l, literalName l ≠ ident.name

theorem declareTokens_literals (hnames : NoLiteralNames names)
    (lexerRules parserRules : List RuleDecl) :
    LiteralsNamed (literalAliases (lexerRules.filter (·.fragment.isNone)))
      ((parserRules.flatMap fun r => alternativesLiterals r.alternatives).foldl
        (addImplicit (literalAliases (lexerRules.filter (·.fragment.isNone))))
        (names.foldl (fun v ident => v.ensure ident.name) Vocabulary.initial, [])) := by
  apply List.foldlRecOn (motive := LiteralsNamed _)
  · refine ⟨declared_nodup names, ?_, ?_⟩
    · intro l hl
      rcases mem_declared hl with hend | ⟨ident, hident, heq⟩
      · exact absurd hend (literalName_ne_end l)
      · exact absurd heq.symm (hnames ident hident l)
    · intro l hl
      cases hl
  · exact fun state hstate text _ => addImplicit_named hstate text

theorem declareTokens_nodup (hnames : NoLiteralNames names)
    (lexerRules parserRules : List RuleDecl) :
    (declareTokens names lexerRules parserRules).vocabulary.names.Nodup := by
  apply List.foldlRecOn (motive := fun v : Vocabulary => v.names.Nodup)
  · exact (declareTokens_literals hnames lexerRules parserRules).nodup
  · exact fun v hv r _ => ensure_nodup hv r.name.name

/-- How the type of a literal is named: as its lexer rule if it has one, else by the literal. -/
def TokenTypes.nameOf (types : TokenTypes) (l : List Char) : String :=
  (types.aliases.lookup l).getD (literalName l)

theorem exists_rule_of_alias {rules : List RuleDecl} {l : List Char} {name : String}
    (h : (literalAliases rules).lookup l = some name) :
    ∃ r ∈ rules, soleLiteral? r = some l ∧ r.name.name = name := by
  obtain ⟨before, after, hsplit, -⟩ := List.lookup_eq_some_iff.mp h
  have hmem : (l, name) ∈ literalAliases rules := by simp [hsplit]
  obtain ⟨r, hr, halias⟩ := List.mem_filterMap.mp hmem
  obtain ⟨text, htext, heq⟩ := Option.map_eq_some_iff.mp halias
  cases heq
  exact ⟨r, hr, htext, rfl⟩

theorem literal?_alias (hnames : NoLiteralNames names) {l : List Char} {name : String}
    (h : (declareTokens names lexerRules parserRules).aliases.lookup l = some name) :
    (declareTokens names lexerRules parserRules).literal? l =
      (declareTokens names lexerRules parserRules).vocabulary.typeOf? name := by
  have hfree : (declareTokens names lexerRules parserRules).implicit.lookup l = none := by
    cases hlookup : (declareTokens names lexerRules parserRules).implicit.lookup l with
    | none => rfl
    | some t =>
      have hnone := (declareTokens_literals hnames lexerRules parserRules).free l
        (Option.isSome_of_eq_some hlookup)
      rw [show literalAliases _ = (declareTokens names lexerRules parserRules).aliases from rfl,
        h] at hnone
      cases hnone
  rw [TokenTypes.literal?, hfree, h]
  rfl

theorem literal?_no_alias {types : TokenTypes} {l : List Char} (h : types.aliases.lookup l = none) :
    types.literal? l = types.implicit.lookup l := by
  rw [TokenTypes.literal?, h]
  cases types.implicit.lookup l <;> rfl

theorem displayName_literal? (hnames : NoLiteralNames names) {l : List Char} {t : Nat}
    (h : (declareTokens names lexerRules parserRules).literal? l = some t) :
    (declareTokens names lexerRules parserRules).vocabulary.displayName t =
      (declareTokens names lexerRules parserRules).nameOf l := by
  rw [TokenTypes.nameOf]
  cases halias : (declareTokens names lexerRules parserRules).aliases.lookup l with
  | some name =>
    rw [literal?_alias hnames halias] at h
    exact displayName_typeOf? h
  | none =>
    rw [literal?_no_alias halias] at h
    obtain ⟨before, after, hsplit, -⟩ := List.lookup_eq_some_iff.mp h
    exact declareTokens_displayName names lexerRules parserRules (l, t) (by simp [hsplit])

theorem literal?_isSome (hnames : NoLiteralNames names) {r : RuleDecl} (hr : r ∈ parserRules)
    {l : List Char} (huses : Uses l (.group r.alternatives)) :
    ((declareTokens names lexerRules parserRules).literal? l).isSome := by
  have hused : l ∈ parserRules.flatMap fun r => alternativesLiterals r.alternatives :=
    List.mem_flatMap.mpr ⟨r, hr, by simpa [atomLiterals] using huses.collected⟩
  have hknown : ((declareTokens names lexerRules parserRules).implicit.lookup l).isSome ∨
      ((declareTokens names lexerRules parserRules).aliases.lookup l).isSome :=
    foldl_addImplicit_known (.inl hused)
  cases halias : (declareTokens names lexerRules parserRules).aliases.lookup l with
  | some name =>
    obtain ⟨rule, hrule, -, rfl⟩ := exists_rule_of_alias halias
    obtain ⟨hmem, hfragment⟩ := List.mem_filter.mp hrule
    rw [literal?_alias hnames halias]
    exact declareTokens_typeOf? names parserRules hmem (Option.isNone_iff_eq_none.mp hfragment)
  | none =>
    rw [halias] at hknown
    rw [literal?_no_alias halias]
    exact hknown.resolve_right (by simp)

end Types

/-- A lexer rule that makes tokens of one literal: it is no fragment, it has no commands, and the
literal is all it consists of. -/
structure IsRuleOf (l : List Char) (r : RuleDecl) : Prop where
  lexer : r.isLexerRule
  token : r.fragment = none
  sole : ∃ alt element, r.alternatives = [alt] ∧ alt.commands = [] ∧ alt.elements = [element] ∧
    element.atom = .literal l ∧ element.suffix = none

def IsFirstRuleOf (rules : List RuleDecl) (l : List Char) (r : RuleDecl) : Prop :=
  ∃ before after, rules = before ++ r :: after ∧ IsRuleOf l r ∧ ∀ r' ∈ before, ¬ IsRuleOf l r'

theorem soleLiteral?_eq_some {r : RuleDecl} {l : List Char} : soleLiteral? r = some l ↔
    ∃ alt element, r.alternatives = [alt] ∧ alt.commands = [] ∧ alt.elements = [element] ∧
      element.atom = .literal l ∧ element.suffix = none := by
  unfold soleLiteral?
  constructor
  · intro h
    split at h
    · rename_i text span label rightAssoc place halternatives
      cases h
      exact ⟨_, _, halternatives, rfl, rfl, rfl, rfl⟩
    · cases h
  · rintro ⟨⟨elements, label, commands, rightAssoc, span⟩, ⟨atom, suffix, place⟩, halternatives,
      rfl, rfl, rfl, rfl⟩
    rw [halternatives]

def isRuleOf (l : List Char) (r : RuleDecl) : Bool :=
  r.isLexerRule && (r.fragment.isNone && soleLiteral? r == some l)

theorem isRuleOf_iff {l : List Char} {r : RuleDecl} : isRuleOf l r ↔ IsRuleOf l r := by
  simp only [isRuleOf, Bool.and_eq_true, beq_iff_eq, Option.isNone_iff_eq_none,
    soleLiteral?_eq_some]
  exact ⟨fun h => ⟨h.1, h.2.1, h.2.2⟩, fun h => ⟨h.lexer, h.token, h.sole⟩⟩

theorem isFirstRuleOf_iff {rules : List RuleDecl} {l : List Char} {r : RuleDecl} :
    IsFirstRuleOf rules l r ↔ rules.find? (isRuleOf l) = some r := by
  rw [List.find?_eq_some_iff_append, isRuleOf_iff, IsFirstRuleOf]
  simp only [Bool.not_eq_true', ← Bool.not_eq_true, isRuleOf_iff]
  constructor
  · rintro ⟨before, after, hsplit, hr, hbefore⟩
    exact ⟨hr, before, after, hsplit, hbefore⟩
  · rintro ⟨hr, before, after, hsplit, hbefore⟩
    exact ⟨before, after, hsplit, hr, hbefore⟩

theorem IsFirstRuleOf.isRuleOf {rules : List RuleDecl} {r : RuleDecl} {l : List Char}
    (h : IsFirstRuleOf rules l r) : IsRuleOf l r := by
  obtain ⟨before, after, -, hr, -⟩ := h
  exact hr

theorem IsRuleOf.unique {r : RuleDecl} {l m : List Char} (hl : IsRuleOf l r) (hm : IsRuleOf m r) :
    l = m := by
  have hl' := soleLiteral?_eq_some.mpr hl.sole
  rw [soleLiteral?_eq_some.mpr hm.sole] at hl'
  exact (Option.some.inj hl').symm

theorem lookup_literalAliases (rules : List RuleDecl) (l : List Char) :
    (literalAliases rules).lookup l =
      (rules.find? fun r => soleLiteral? r == some l).map (·.name.name) := by
  induction rules with
  | nil => rfl
  | cons r rules ih =>
    rw [literalAliases, List.filterMap_cons, List.find?_cons]
    cases hsole : soleLiteral? r with
    | none => exact ih
    | some text =>
      by_cases heq : l = text
      · simp [heq]
      · have hne : (l == text) = false := beq_eq_false_iff_ne.mpr heq
        have hne' : (some text == some l) = false := by
          rw [beq_eq_false_iff_ne]
          exact fun hsame => heq (Option.some.inj hsame).symm
        simp only [Option.map_some, List.lookup_cons, hne, hne']
        exact ih

section Accepted

variable {decl : GrammarDecl}

theorem lookup_aliases (decl : GrammarDecl) (l : List Char) :
    (DeclaredGrammar.ofDeclarations decl).types.aliases.lookup l =
      (decl.rules.find? (isRuleOf l)).map (·.name.name) := by
  rw [show (DeclaredGrammar.ofDeclarations decl).types.aliases =
    literalAliases ((decl.rules.filter (·.isLexerRule)).filter (·.fragment.isNone)) from rfl,
    lookup_literalAliases, List.find?_filter, List.find?_filter]
  simp only [Bool.decide_and, Bool.decide_eq_true]
  rfl

theorem first_rule_of_alias {l : List Char} {name : String}
    (h : (DeclaredGrammar.ofDeclarations decl).types.aliases.lookup l = some name) :
    ∃ r ∈ decl.rules, IsFirstRuleOf decl.rules l r ∧ r.name.name = name := by
  rw [lookup_aliases] at h
  obtain ⟨r, hfind, rfl⟩ := Option.map_eq_some_iff.mp h
  exact ⟨r, List.mem_of_find?_eq_some hfind, isFirstRuleOf_iff.mpr hfind, rfl⟩

theorem nameOf_injective (hunique : (decl.rules.map (·.name.name)).Nodup) :
    Function.Injective (DeclaredGrammar.ofDeclarations decl).types.nameOf := by
  have hrule : ∀ {l : List Char} {name : String},
      (DeclaredGrammar.ofDeclarations decl).types.aliases.lookup l = some name →
        ∀ m, literalName m ≠ name := by
    intro l name h m
    obtain ⟨r, -, hfirst, rfl⟩ := first_rule_of_alias h
    exact literalName_ne hfirst.isRuleOf.lexer m
  intro l m h
  unfold TokenTypes.nameOf at h
  cases hl : (DeclaredGrammar.ofDeclarations decl).types.aliases.lookup l with
  | none =>
    cases hm : (DeclaredGrammar.ofDeclarations decl).types.aliases.lookup m with
    | none =>
      rw [hl, hm] at h
      exact literalName_injective h
    | some name =>
      rw [hl, hm] at h
      exact absurd h (hrule hm l)
  | some name =>
    cases hm : (DeclaredGrammar.ofDeclarations decl).types.aliases.lookup m with
    | none =>
      rw [hl, hm] at h
      exact absurd h.symm (hrule hl m)
    | some name' =>
      rw [hl, hm] at h
      obtain ⟨r, hr, hfirst, rfl⟩ := first_rule_of_alias hl
      obtain ⟨r', hr', hfirst', rfl⟩ := first_rule_of_alias hm
      obtain rfl := List.inj_on_of_nodup_map hunique hr hr' h
      exact hfirst.isRuleOf.unique hfirst'.isRuleOf

/-- A literal has the type of a lexer rule only if the rule is the first one of the literal. -/
theorem literal?_eq_typeOf?_iff (hnames : NoLiteralNames decl.tokens)
    (hunique : (decl.rules.map (·.name.name)).Nodup) {r : RuleDecl} (hr : r ∈ decl.rules)
    (hlexer : r.isLexerRule) (hfragment : r.fragment = none) {l : List Char} :
    (DeclaredGrammar.ofDeclarations decl).types.literal? l =
        (DeclaredGrammar.ofDeclarations decl).types.vocabulary.typeOf? r.name.name ↔
      IsFirstRuleOf decl.rules l r := by
  constructor
  · intro h
    have htype := declareTokens_typeOf? decl.tokens (decl.rules.filter (!·.isLexerRule))
      (List.mem_filter.mpr ⟨hr, hlexer⟩) hfragment
    obtain ⟨t, ht⟩ := Option.isSome_iff_exists.mp htype
    have hname : (DeclaredGrammar.ofDeclarations decl).types.nameOf l = r.name.name :=
      (displayName_literal? hnames (h.trans ht)).symm.trans (displayName_typeOf? ht)
    have halias : (DeclaredGrammar.ofDeclarations decl).types.aliases.lookup l =
        some r.name.name := by
      unfold TokenTypes.nameOf at hname
      cases hlookup : (DeclaredGrammar.ofDeclarations decl).types.aliases.lookup l with
      | none =>
        rw [hlookup] at hname
        exact absurd hname (literalName_ne hlexer l)
      | some name =>
        rw [hlookup] at hname
        exact congrArg some hname
    obtain ⟨r', hr', hfirst, hsame⟩ := first_rule_of_alias halias
    obtain rfl := List.inj_on_of_nodup_map hunique hr' hr hsame
    exact hfirst
  · intro h
    apply literal?_alias hnames
    rw [show (declareTokens _ _ _).aliases = (DeclaredGrammar.ofDeclarations decl).types.aliases
      from rfl, lookup_aliases, isFirstRuleOf_iff.mp h]
    rfl

theorem exists_first_rule {rules : List RuleDecl} {l : List Char} {r : RuleDecl} (hr : r ∈ rules)
    (h : IsRuleOf l r) : ∃ first ∈ rules, IsFirstRuleOf rules l first := by
  have hfound : (rules.find? (isRuleOf l)).isSome :=
    List.find?_isSome.mpr ⟨r, hr, isRuleOf_iff.mpr h⟩
  obtain ⟨first, hfirst⟩ := Option.isSome_iff_exists.mp hfound
  exact ⟨first, List.mem_of_find?_eq_some hfirst, isFirstRuleOf_iff.mpr hfirst⟩

/-- A literal that has a type is resolved to it wherever it stands. -/
theorem resolve_literal {d : DeclaredGrammar} {l : List Char} {t : Nat}
    (h : d.types.literal? l = some t) (source : List Char) (rule : String) (span : Span) :
    resolveAtom (d.scope source rule) span (.literal l) = pure (some (.token (.type t))) ∧
    ∀ place, (d.scope source rule).excluded span (.literal l place) = pure (some t) := by
  have hliteral : ∀ place, (d.scope source rule).literal l place = pure (some t) := by
    intro place
    rw [ParserScope.literal, DeclaredGrammar.scope, h]
  refine ⟨?_, ?_⟩
  · rw [resolveAtom, hliteral]
    rfl
  · exact fun place => hliteral place

end Accepted

/-- The names of the token types of an accepted grammar are different, so every type is found by
its name. A literal that a parser rule uses stands for one type at every use, and different literals
stand for different types. A literal stands for the type of a lexer rule exactly when the rule is
the first of those that make tokens and consist of the literal only. -/
theorem names_and_literals_apart {text : List Char} {start : Option String} {g : Grammar}
    (h : compile text start = .ok g) :
    g.vocabulary.names.Nodup ∧
    (∀ t < g.vocabulary.size, g.vocabulary.typeOf? (g.vocabulary.displayName t) = some t) ∧
    ∃ decl d rules, read text = .ok decl ∧ d = DeclaredGrammar.ofDeclarations decl.value ∧
      Accepted text g d rules ∧
      (∀ r ∈ d.rules, ∀ l, Uses l (.group r.alternatives) → ∃ t < g.vocabulary.size,
        d.types.literal? l = some t ∧ ∀ source rule span,
          resolveAtom (d.scope source rule) span (.literal l) = pure (some (.token (.type t))) ∧
          ∀ place, (d.scope source rule).excluded span (.literal l place) = pure (some t)) ∧
      (∀ l m t, d.types.literal? l = some t → d.types.literal? m = some t → l = m) ∧
      (∀ l, ∀ r ∈ decl.value.rules, r.isLexerRule → r.fragment = none →
        (d.types.literal? l = g.vocabulary.typeOf? r.name.name ↔
          IsFirstRuleOf decl.value.rules l r)) ∧
      (∀ l, (∃ r ∈ decl.value.rules, r.isLexerRule ∧ r.fragment = none ∧
          d.types.literal? l = g.vocabulary.typeOf? r.name.name) ↔
        ∃ r ∈ decl.value.rules, IsRuleOf l r) := by
  obtain ⟨decl, hread, hunique, hvocabulary, -⟩ := compile_lexer h
  obtain ⟨d, rules, haccepted⟩ := compile_accepted h
  have hd : d = DeclaredGrammar.ofDeclarations decl.value := by
    have hdeclared := haccepted.declared
    rw [DeclaredGrammar.ofText?, hread] at hdeclared
    exact (Option.some.inj hdeclared).symm
  subst hd
  have hnames : NoLiteralNames decl.value.tokens := read_tokens_ne hread
  have hnodup : g.vocabulary.names.Nodup := by
    rw [hvocabulary]
    exact declareTokens_nodup hnames _ _
  have hfirst : ∀ l, ∀ r ∈ decl.value.rules, r.isLexerRule → r.fragment = none →
      ((DeclaredGrammar.ofDeclarations decl.value).types.literal? l =
        g.vocabulary.typeOf? r.name.name ↔ IsFirstRuleOf decl.value.rules l r) := by
    intro l r hr hlexer hfragment
    rw [hvocabulary]
    exact literal?_eq_typeOf?_iff hnames hunique hr hlexer hfragment
  refine ⟨hnodup, fun t ht => typeOf?_displayName hnodup ht, decl, _, rules, hread, rfl, haccepted,
    ?_, ?_, hfirst, ?_⟩
  · intro r hr l huses
    obtain ⟨t, ht⟩ := Option.isSome_iff_exists.mp (literal?_isSome hnames hr huses)
    refine ⟨t, ?_, ht, resolve_literal ht⟩
    rw [hvocabulary]
    exact literal?_lt ht
  · intro l m t hl hm
    apply nameOf_injective hunique
    exact (displayName_literal? hnames hl).symm.trans (displayName_literal? hnames hm)
  · intro l
    constructor
    · rintro ⟨r, hr, hlexer, hfragment, htype⟩
      exact ⟨r, hr, ((hfirst l r hr hlexer hfragment).mp htype).isRuleOf⟩
    · rintro ⟨r, hr, hrule⟩
      obtain ⟨first, hmem, hisFirst⟩ := exists_first_rule hr hrule
      have hlexer := hisFirst.isRuleOf.lexer
      have hfragment := hisFirst.isRuleOf.token
      exact ⟨first, hmem, hlexer, hfragment, (hfirst l first hmem hlexer hfragment).mpr hisFirst⟩

def aliasedText : List Char := "tokens\x7bA,B\x7ds:'a'~'b';A:'a';B:'a';".toList

theorem names_and_literals_apart_aliased : ∃ g d rules, compile aliasedText none = .ok g ∧
    Accepted aliasedText g d rules ∧ g.vocabulary.names.Nodup ∧
    (∀ t < 4, g.vocabulary.typeOf? (g.vocabulary.displayName t) = some t) ∧
    d.types.literal? ['a'] = some 1 ∧ d.types.literal? ['b'] = some 3 := by
  have hg : ∃ g ∈ (compile aliasedText none).toOption, g.vocabulary.size = 4 := by decide +kernel
  have hd : ∃ d ∈ DeclaredGrammar.ofText? aliasedText,
      d.types.literal? ['a'] = some 1 ∧ d.types.literal? ['b'] = some 3 := by decide +kernel
  obtain ⟨g, hg, hsize⟩ := hg
  have hcompile := Derivation.toOption_eq_some.mp hg
  obtain ⟨hnodup, hnamed, decl, d, rules, -, -, haccepted, -⟩ := names_and_literals_apart hcompile
  obtain ⟨d', hdeclared, htypes⟩ := hd
  obtain rfl : d = d' := Option.some.inj (haccepted.declared.symm.trans hdeclared)
  rw [hsize] at hnamed
  exact ⟨g, d, rules, hcompile, haccepted, hnodup, hnamed, htypes⟩

end GrammarWorkbench.Compile
