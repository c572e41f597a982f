import GrammarWorkbench.Proofs.Derivation.Accepted

/-!
# Token types and modes of accepted grammars

Types are looked up in the finished vocabulary, and the types of literals are given out while it
grows. Modes are numbered by their place behind the default mode. So whatever a token rule of an
accepted grammar names is there.
-/

set_option autoImplicit false

namespace GrammarWorkbench.Compile

open GrammarWorkbench.Text GrammarWorkbench.Declaration GrammarWorkbench.Diagnostic
open GrammarWorkbench.Model GrammarWorkbench.Pattern GrammarWorkbench.Derivation

def ModeWithin (modes : Nat) : ModeChange → Prop
  | .set mode => mode < modes
  | .push mode => mode < modes
  | .pop => True

structure ActionWithin (types modes : Nat) (action : TokenAction) : Prop where
  retype : ∀ t ∈ action.retype, t < types
  modes : ∀ change ∈ action.modeChanges, ModeWithin modes change

structure RuleWithin (types modes : Nat) (rule : TokenRule) : Prop where
  type : rule.type < types
  action : ActionWithin types modes rule.action

section Types

theorem idxOf?_lt {names : List String} {name : String} {i : Nat}
    (h : names.idxOf? name = some i) : i < names.length := by
  obtain ⟨hi, -⟩ := List.idxOf?_eq_some_iff.mp h
  exact hi

theorem typeOf?_lt {v : Vocabulary} {name : String} {t : Nat} (h : v.typeOf? name = some t) :
    t < v.size :=
  idxOf?_lt h

/-- A literal gets the next free type, and the vocabulary only grows. -/
theorem implicit_lt (names : List Ident) (lexerRules parserRules : List RuleDecl) :
    ∀ literal ∈ (declareTokens names lexerRules parserRules).implicit,
      literal.2 < (declareTokens names lexerRules parserRules).vocabulary.size := by
  intro literal hliteral
  refine Nat.lt_of_lt_of_le ?_ (foldl_le Vocabulary.size
    (fun v (r : RuleDecl) => size_le_ensure v r.name.name) _ _)
  revert literal
  apply List.foldlRecOn (motive := fun state : Vocabulary × List (List Char × Nat) =>
    ∀ literal ∈ state.2, literal.2 < state.1.size)
  · simp
  · intro state hstate text _
    unfold addImplicit
    split
    · exact hstate
    · intro literal hliteral
      have hgrown : (state.1.add (literalName text)).size = state.1.size + 1 := by
        simp [Vocabulary.size, Vocabulary.add]
      change literal.2 < (state.1.add (literalName text)).size
      rcases List.mem_append.mp hliteral with hold | hnew
      · have := hstate literal hold
        omega
      · rw [List.mem_singleton.mp hnew]
        omega

theorem literal?_lt {names : List Ident} {lexerRules parserRules : List RuleDecl}
    {text : List Char} {t : Nat}
    (h : (declareTokens names lexerRules parserRules).literal? text = some t) :
    t < (declareTokens names lexerRules parserRules).vocabulary.size := by
  unfold TokenTypes.literal? at h
  split at h
  · rename_i type hlookup
    cases h
    obtain ⟨front, back, hsplit, -⟩ := List.lookup_eq_some_iff.mp hlookup
    exact implicit_lt names lexerRules parserRules (text, t) (by rw [hsplit]; simp)
  · obtain ⟨name, -, htype⟩ := Option.bind_eq_some_iff.mp h
    exact typeOf?_lt htype

theorem name?_lt {types : TokenTypes} (hpos : 0 < types.vocabulary.size) {name : String} {t : Nat}
    (h : types.name? name = some t) : t < types.vocabulary.size := by
  unfold TokenTypes.name? at h
  split at h
  · cases h
    exact hpos
  · exact typeOf?_lt h

end Types

section Commands

variable {s : CommandScope} {action : TokenAction}

theorem mode?_lt {name : String} {mode : Nat} (h : s.mode? name = some mode) :
    mode < s.modes.length + 1 := by
  unfold CommandScope.mode? at h
  split at h
  · cases h
    omega
  · obtain ⟨i, hi, rfl⟩ := Option.map_eq_some_iff.mp h
    have := idxOf?_lt hi
    omega

theorem type?_lt {name : String} {t : Nat} (h : s.type? name = some t) : t < s.vocabulary.size := by
  unfold CommandScope.type? at h
  split at h
  · rename_i t' ht'
    split at h
    · cases h
    · cases h
      exact typeOf?_lt ht'
  · cases h

theorem ActionWithin.change {types modes : Nat} (h : ActionWithin types modes action)
    (change : ModeChange) (hchange : ModeWithin modes change) :
    ActionWithin types modes
      { action with modeChanges := action.modeChanges ++ [change] } where
  retype := h.retype
  modes := by
    intro c hc
    rcases List.mem_append.mp hc with hold | hnew
    · exact h.modes c hold
    · rw [List.mem_singleton.mp hnew]
      exact hchange

/-- A command that does not resolve is a defect and changes nothing. -/
theorem applyCommand_within (h : ActionWithin s.vocabulary.size (s.modes.length + 1) action)
    (c : Command) :
    ActionWithin s.vocabulary.size (s.modes.length + 1) (applyCommand s action c).value := by
  unfold applyCommand
  dsimp only
  split
  · split_ifs
    · exact h
    · split
      · rename_i t ht
        refine ⟨?_, h.modes⟩
        intro t' ht'
        cases ht'
        exact type?_lt ht
      · exact h
    · split
      · exact ⟨h.retype, h.modes⟩
      · exact h
    · split
      · rename_i mode hfound
        exact h.change (.set mode) (mode?_lt hfound)
      · exact h
    · split
      · rename_i mode hfound
        exact h.change (.push mode) (mode?_lt hfound)
      · exact h
    · exact h
  · split_ifs
    · exact ⟨h.retype, h.modes⟩
    · exact ⟨h.retype, h.modes⟩
    · exact h.change .pop trivial
    · exact h
    · exact h

theorem applyCommands_within (cs : List Command)
    (h : ActionWithin s.vocabulary.size (s.modes.length + 1) action) :
    ActionWithin s.vocabulary.size (s.modes.length + 1) (applyCommands s action cs).value := by
  induction cs generalizing action with
  | nil => exact h
  | cons c cs ih => exact ih (applyCommand_within h c)

theorem plain_within (types modes : Nat) : ActionWithin types modes .plain := by
  constructor
  · intro t ht
    cases ht
  · intro c hc
    cases hc

end Commands

section TokenRules

variable {lex : Lexicon} {s : CommandScope}

/-- What is made of a pattern keeps it, with the name and type of the lexer rule. -/
theorem tokenRuleOf_eq {source : List Char} {decl : RuleDecl} {type : Nat} {isClean : Bool}
    {pattern : Pattern} {action : TokenAction} {rule : TokenRule}
    (h : (tokenRuleOf source decl type isClean pattern action).value = some rule) :
    rule = ⟨decl.name.name, type, pattern, action⟩ := by
  unfold tokenRuleOf at h
  split at h
  · split at h
    · cases h
    · cases h
  · split at h
    · cases h
    · exact (Option.some.inj h).symm

theorem tokenRules_within {decl : RuleDecl} :
    ∀ rule ∈ (tokenRules lex s decl).value,
      RuleWithin s.vocabulary.size (s.modes.length + 1) rule := by
  intro rule hrule
  simp only [tokenRules, Checked.value_bind, Checked.value_each] at hrule
  split at hrule
  · cases hrule
  · rename_i type htype
    rw [Checked.value_eachSome] at hrule
    obtain ⟨⟨pattern, action⟩, hentry, hvalue⟩ := List.mem_filterMap.mp hrule
    obtain ⟨alt, -, rfl⟩ := List.mem_map.mp (List.of_mem_zip hentry).2
    rw [tokenRuleOf_eq hvalue]
    exact ⟨typeOf?_lt htype, applyCommands_within _ (plain_within _ _)⟩

/-- Only lexer rules that are no fragments have token rules, each in the mode of its rule. -/
theorem rulesByMode_value (lex : Lexicon) (s : CommandScope) (decls : List RuleDecl) :
    (rulesByMode lex s decls).value = decls.flatMap fun decl =>
      if decl.fragment.isSome then [] else (tokenRules lex s decl).value.map (decl.mode, ·) := by
  induction decls with
  | nil => rfl
  | cons decl decls ih =>
    rw [List.flatMap_cons, ← ih]
    by_cases hfragment : decl.fragment.isSome
    · simp [rulesByMode, hfragment]
    · simp [rulesByMode, hfragment]

theorem literalRule_eq {v : Vocabulary} {literal : List Char × Nat} {rule : TokenRule}
    (h : (literalRule v literal).value = some rule) :
    rule = ⟨v.displayName literal.2, literal.2, .literal literal.1, .plain⟩ := by
  unfold literalRule at h
  dsimp only at h
  split at h
  · cases h
  · exact (Option.some.inj h).symm

def placedRules (lex : Lexicon) (s : CommandScope) (implicit : List (List Char × Nat))
    (decls : List RuleDecl) : List (Nat × TokenRule) :=
  (Checked.eachSome (literalRule s.vocabulary) implicit).value.map (0, ·) ++
    (rulesByMode lex s decls).value

theorem lexerModes_value (lex : Lexicon) (s : CommandScope) (implicit : List (List Char × Nat))
    (decls : List RuleDecl) :
    (lexerModes lex s implicit decls).value = (defaultMode :: s.modes).mapIdx fun i name =>
      ⟨name, ((placedRules lex s implicit decls).filter (·.1 == i)).map (·.2)⟩ :=
  rfl

theorem placedRules_within {implicit : List (List Char × Nat)} {decls : List RuleDecl}
    (himplicit : ∀ literal ∈ implicit, literal.2 < s.vocabulary.size) :
    ∀ entry ∈ placedRules lex s implicit decls,
      RuleWithin s.vocabulary.size (s.modes.length + 1) entry.2 := by
  intro entry hentry
  rcases List.mem_append.mp hentry with hliteral | hlexer
  · obtain ⟨rule, hrule, rfl⟩ := List.mem_map.mp hliteral
    rw [Checked.value_eachSome] at hrule
    obtain ⟨literal, hmem, hvalue⟩ := List.mem_filterMap.mp hrule
    rw [literalRule_eq hvalue]
    exact ⟨himplicit literal hmem, plain_within _ _⟩
  · rw [rulesByMode_value] at hlexer
    obtain ⟨decl, -, hrule⟩ := List.mem_flatMap.mp hlexer
    split at hrule
    · cases hrule
    · obtain ⟨rule, hmem, rfl⟩ := List.mem_map.mp hrule
      exact tokenRules_within rule hmem

end TokenRules

def commandScope (text : List Char) (g : GrammarDecl) : CommandScope where
  source := text
  vocabulary := (DeclaredGrammar.ofDeclarations g).types.vocabulary
  channels := standardChannels ++ g.channels.map (·.name)
  modes := g.modes.map (·.name)

/-- The modes of an accepted grammar are those of its lexer rules, which have no defects. -/
theorem compile_lexer {text : List Char} {start : Option String} {g : Grammar}
    (h : compile text start = .ok g) :
    ∃ decl, read text = .ok decl ∧ (decl.value.rules.map (·.name.name)).Nodup ∧
      g.vocabulary = (DeclaredGrammar.ofDeclarations decl.value).types.vocabulary ∧
      lexerModes ⟨text, decl.value.rules⟩ (commandScope text decl.value)
        (DeclaredGrammar.ofDeclarations decl.value).types.implicit
        (decl.value.rules.filter (·.isLexerRule)) = ⟨g.modes, []⟩ := by
  obtain ⟨decl, hread, hclean, rfl⟩ := compile_ok h
  obtain ⟨hnodup, -, -, hvocabulary⟩ := grammarOf_clean hclean
  refine ⟨decl, hread, hnodup, hvocabulary, ?_⟩
  simp only [grammarOf, Checked.defects_bind, List.append_eq_nil_iff, each_report_defects] at hclean
  obtain ⟨hwhole, hmodes, -⟩ := hclean
  have hdefects : allRuleDefects text decl.value.kind [] decl.value.rules = [] := by
    simp only [grammarDefects, List.append_eq_nil_iff] at hwhole
    exact hwhole.2
  have hfirst := (unique_of_no_defects hdefects).1
  rw [hfirst] at hmodes
  simp only [grammarOf, hfirst, Checked.value_bind, Checked.value_pure]
  exact congrArg (Checked.mk _) hmodes

/-- The token rules of an accepted grammar name types and modes that are there. -/
theorem modes_within {text : List Char} {start : Option String} {g : Grammar}
    (h : compile text start = .ok g) :
    0 < g.modes.length ∧ ∀ mode ∈ g.modes, ∀ rule ∈ mode.rules,
      RuleWithin g.vocabulary.size g.modes.length rule := by
  obtain ⟨decl, -, -, hvocabulary, hmodes⟩ := compile_lexer h
  have hvalue : _ = g.modes := congrArg Checked.value hmodes
  rw [lexerModes_value] at hvalue
  have hlength : g.modes.length = (commandScope text decl.value).modes.length + 1 := by
    rw [← hvalue]
    simp
  refine ⟨by omega, ?_⟩
  intro mode hmode rule hrule
  rw [← hvalue] at hmode
  obtain ⟨i, hi, rfl⟩ := List.mem_mapIdx.mp hmode
  obtain ⟨entry, hentry, rfl⟩ := List.mem_map.mp hrule
  rw [hlength, hvocabulary]
  exact placedRules_within (s := commandScope text decl.value) (implicit_lt _ _ _) entry
    (List.mem_filter.mp hentry).1

end GrammarWorkbench.Compile
