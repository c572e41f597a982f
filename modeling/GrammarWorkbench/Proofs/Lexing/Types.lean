import GrammarWorkbench.Proofs.Lexical.Compiled
import GrammarWorkbench.Proofs.Lexing.Munch

/-!
# The types of tokens

Every token rule of an accepted grammar belongs to a literal or to an alternative of a lexer rule,
and its action is what the commands of the alternative say. A token has one of the types of the
grammar, and it has the type of the end of the input exactly when it is made by a lexer rule that is
itself named like the end of the input and gives its tokens no other type.
-/

set_option autoImplicit false

namespace GrammarWorkbench.Compile

open GrammarWorkbench.Text GrammarWorkbench.Declaration GrammarWorkbench.Diagnostic
open GrammarWorkbench.Model GrammarWorkbench.Pattern GrammarWorkbench.Derivation
open GrammarWorkbench.Lexical

section Commands

variable (s : CommandScope)

/-- What a command can do to an action. One that does not resolve leaves it as it is. -/
theorem applyCommand_cases (action : TokenAction) (c : Command) :
    (applyCommand s action c).value = action ∨
    (c.name.name = "skip" ∧ (applyCommand s action c).value = { action with skip := true }) ∨
    (c.name.name = "more" ∧ (applyCommand s action c).value = { action with more := true }) ∨
    (∃ name t, s.type? name = some t ∧
      (applyCommand s action c).value = { action with retype := some t }) ∨
    (∃ n, (applyCommand s action c).value = { action with channel := n }) ∨
    ∃ change, (applyCommand s action c).value =
      { action with modeChanges := action.modeChanges ++ [change] } := by
  unfold applyCommand
  dsimp only
  split
  · rename_i arg _
    split_ifs
    · exact .inl rfl
    · split
      · rename_i t ht
        exact .inr (.inr (.inr (.inl ⟨arg.name, t, ht, rfl⟩)))
      · exact .inl rfl
    · split
      · exact .inr (.inr (.inr (.inr (.inl ⟨_, rfl⟩))))
      · exact .inl rfl
    · split
      · exact .inr (.inr (.inr (.inr (.inr ⟨_, rfl⟩))))
      · exact .inl rfl
    · split
      · exact .inr (.inr (.inr (.inr (.inr ⟨_, rfl⟩))))
      · exact .inl rfl
    · exact .inl rfl
  · split_ifs with hskip hmore
    · exact .inr (.inl ⟨hskip, rfl⟩)
    · exact .inr (.inr (.inl ⟨hmore, rfl⟩))
    · exact .inr (.inr (.inr (.inr (.inr ⟨_, rfl⟩))))
    · exact .inl rfl
    · exact .inl rfl

theorem applyCommands_induction {P : TokenAction → Prop} {cs : List Command}
    (hstep : ∀ action, ∀ c ∈ cs, P action → P (applyCommand s action c).value)
    {action : TokenAction} (h : P action) : P (applyCommands s action cs).value := by
  induction cs generalizing action with
  | nil => exact h
  | cons c cs ih =>
    refine ih ?_ (hstep action c List.mem_cons_self h)
    exact fun action' c' hc' => hstep action' c' (List.mem_cons_of_mem _ hc')

/-- A command that gives tokens another type never gives them that of the end of the input. -/
theorem type?_ne_endType {name : String} {t : Nat} (h : s.type? name = some t) : t ≠ endType := by
  unfold CommandScope.type? at h
  split at h
  · split at h
    · cases h
    · rename_i hne
      cases h
      exact hne
  · cases h

theorem actionOf_retype (alt : AltDecl) : ∀ t ∈ (actionOf s alt).value.retype, t ≠ endType := by
  refine applyCommands_induction s (P := fun action => ∀ t ∈ action.retype, t ≠ endType) ?_ ?_
  · intro action c _ h
    rcases applyCommand_cases s action c with
      heq | ⟨-, heq⟩ | ⟨-, heq⟩ | ⟨name, t, ht, heq⟩ | ⟨n, heq⟩ | ⟨change, heq⟩
    · rwa [heq]
    · rwa [heq]
    · rwa [heq]
    · rw [heq]
      intro t' ht'
      obtain rfl := Option.some.inj ht'
      exact type?_ne_endType s ht
    · rwa [heq]
    · rwa [heq]
  · simp [TokenAction.plain]

end Commands

section Names

def StartsWithEnd (v : Vocabulary) : Prop := ["EOF"] <+: v.names

theorem StartsWithEnd.ensure {v : Vocabulary} (h : StartsWithEnd v) (name : String) :
    StartsWithEnd (v.ensure name) :=
  h.trans (names_ensure v name)

theorem StartsWithEnd.size_pos {v : Vocabulary} (h : StartsWithEnd v) : 0 < v.size :=
  h.length_le

/-- A name has the type of the end of the input only if it is its name. -/
theorem StartsWithEnd.typeOf?_eq_end {v : Vocabulary} (h : StartsWithEnd v) {name : String}
    {t : Nat} (ht : v.typeOf? name = some t) : t = endType ↔ name = "EOF" := by
  obtain ⟨rest, hnames⟩ := h
  rw [Vocabulary.typeOf?, ← hnames, List.singleton_append, List.idxOf?_cons] at ht
  by_cases hname : name = "EOF"
  · simp only [hname, beq_self_eq_true, if_true, Option.some.injEq] at ht
    simp [hname, ← ht, endType]
  · have hne : ("EOF" == name) = false := by simpa using Ne.symm hname
    rw [hne] at ht
    obtain ⟨i, -, rfl⟩ := Option.map_eq_some_iff.mp ht
    simp [hname, endType]

/-- The names of a document come behind that of the end of the input, and so do its literals. -/
theorem declareTokens_startsWithEnd (names : List Ident) (lexerRules parserRules : List RuleDecl) :
    StartsWithEnd (declareTokens names lexerRules parserRules).vocabulary ∧
      ∀ literal ∈ (declareTokens names lexerRules parserRules).implicit, literal.2 ≠ endType := by
  have hnames : StartsWithEnd (names.foldl (fun v ident => v.ensure ident.name) .initial) :=
    List.foldlRecOn names _ (motive := StartsWithEnd) (List.prefix_refl _)
      fun v hv ident _ => hv.ensure ident.name
  have hliterals := List.foldlRecOn
    (parserRules.flatMap fun r => alternativesLiterals r.alternatives)
    (addImplicit (literalAliases (lexerRules.filter (·.fragment.isNone))))
    (motive := fun state : Vocabulary × List (List Char × Nat) =>
      StartsWithEnd state.1 ∧ ∀ literal ∈ state.2, literal.2 ≠ endType)
    (b := (names.foldl (fun v ident => v.ensure ident.name) .initial, []))
    ⟨hnames, by simp⟩ (by
      rintro state ⟨hstart, hall⟩ text -
      unfold addImplicit
      split
      · exact ⟨hstart, hall⟩
      · refine ⟨hstart.trans (List.prefix_append _ _), ?_⟩
        intro literal hliteral
        rcases List.mem_append.mp hliteral with hold | hnew
        · exact hall literal hold
        · rw [List.mem_singleton.mp hnew]
          exact hstart.size_pos.ne')
  refine ⟨?_, hliterals.2⟩
  exact List.foldlRecOn (lexerRules.filter (·.fragment.isNone)) _ (motive := StartsWithEnd)
    hliterals.1 fun v hv r _ => hv.ensure r.name.name

end Names

structure OfLiteral (t : TokenRule) : Prop where
  name : ∃ text, t.name = literalName text
  type : t.type ≠ endType
  action : t.action = .plain

structure OfRule (text : List Char) (decl : GrammarDecl) (g : Grammar) (r : RuleDecl)
    (t : TokenRule) : Prop where
  mem : r ∈ decl.rules
  isLexerRule : r.isLexerRule
  fragment : r.fragment = none
  name : t.name = r.name.name
  type : g.vocabulary.typeOf? r.name.name = some t.type
  action : ∃ alt ∈ r.alternatives, t.action = (actionOf (commandScope text decl) alt).value

theorem tokenRules_action {lex : Lexicon} {s : CommandScope} {r : RuleDecl} :
    ∀ t ∈ (tokenRules lex s r).value, s.vocabulary.typeOf? r.name.name = some t.type ∧
      ∃ alt ∈ r.alternatives, t.action = (actionOf s alt).value := by
  intro t ht
  simp only [tokenRules, Checked.value_bind, Checked.value_each] at ht
  split at ht
  · cases ht
  · rename_i type htype
    rw [Checked.value_eachSome] at ht
    obtain ⟨⟨pattern, action⟩, hentry, hvalue⟩ := List.mem_filterMap.mp ht
    obtain ⟨alt, halt, rfl⟩ := List.mem_map.mp (List.of_mem_zip hentry).2
    rw [tokenRuleOf_eq hvalue]
    exact ⟨htype, alt, halt, rfl⟩

/-- Every token rule of an accepted grammar belongs to a literal or to a lexer rule. -/
theorem modes_origin {text : List Char} {start : Option String} {g : Grammar}
    {decl : Checked GrammarDecl} (h : compile text start = .ok g) (hread : read text = .ok decl) :
    ∀ mode ∈ g.modes, ∀ t ∈ mode.rules, OfLiteral t ∨ ∃ r, OfRule text decl.value g r t := by
  obtain ⟨decl', hread', -, hvocabulary, hmodes⟩ := compile_lexer h
  obtain rfl : decl = decl' := Except.ok.inj (hread.symm.trans hread')
  have hvalue : _ = g.modes := congrArg Checked.value hmodes
  intro mode hmode t ht
  rw [← hvalue] at hmode
  obtain ⟨entry, hentry, -, rfl⟩ := mem_lexerModes.mp ⟨mode, hmode, ht⟩
  rcases List.mem_append.mp hentry with hliteral | hrule
  · left
    obtain ⟨t, hmade, rfl⟩ := List.mem_map.mp hliteral
    rw [Checked.value_eachSome] at hmade
    obtain ⟨literal, hmem, hmade⟩ := List.mem_filterMap.mp hmade
    rw [literalRule_eq hmade]
    exact ⟨⟨literal.1, declareTokens_displayName _ _ _ literal hmem⟩,
      (declareTokens_startsWithEnd _ _ _).2 literal hmem, rfl⟩
  · right
    rw [rulesByMode_value] at hrule
    obtain ⟨r, hr, hrule⟩ := List.mem_flatMap.mp hrule
    split at hrule
    · cases hrule
    · rename_i hfragment
      obtain ⟨t, hmade, rfl⟩ := List.mem_map.mp hrule
      obtain ⟨htype, haction⟩ := tokenRules_action t hmade
      obtain ⟨hdecl, hlexer⟩ := List.mem_filter.mp hr
      refine ⟨r, hdecl, hlexer, by simpa using hfragment, tokenRules_name t hmade, ?_, haction⟩
      rwa [hvocabulary]

theorem OfLiteral.name_ne_end {t : TokenRule} (h : OfLiteral t) :
    t.name ≠ "EOF" := by
  obtain ⟨text, hname⟩ := h.name
  rw [hname]
  exact literalName_ne_end text

end GrammarWorkbench.Compile

namespace GrammarWorkbench.Run

open GrammarWorkbench.Text GrammarWorkbench.Declaration GrammarWorkbench.Diagnostic
open GrammarWorkbench.Model GrammarWorkbench.Compile

/-- A token rule is named like the end of the input and gives its tokens no other type. -/
def NamedEnd (rule : TokenRule) : Prop := rule.name = "EOF" ∧ rule.action.retype = none

/-- The type of the tokens of a token rule of an accepted grammar. -/
theorem rule_type {text : List Char} {start : Option String} {g : Grammar}
    {decl : Checked GrammarDecl} (h : compile text start = .ok g) (hread : read text = .ok decl)
    {mode : LexerMode} (hmode : mode ∈ g.modes) {rule : TokenRule} (hrule : rule ∈ mode.rules) :
    rule.action.retype.getD rule.type < g.vocabulary.size ∧
      (rule.action.retype.getD rule.type = endType ↔ NamedEnd rule) := by
  have hwithin := (modes_within h).2 mode hmode rule hrule
  have horigin := modes_origin h hread mode hmode rule hrule
  have hstart : StartsWithEnd g.vocabulary := by
    obtain ⟨_, _, _, hvocabulary, _⟩ := compile_lexer h
    rw [hvocabulary]
    exact (declareTokens_startsWithEnd _ _ _).1
  cases hretype : rule.action.retype with
  | some t =>
    refine ⟨hwithin.action.retype t hretype, ?_⟩
    have hne : t ≠ endType := by
      rcases horigin with hliteral | ⟨r, hof⟩
      · rw [hliteral.action] at hretype
        cases hretype
      · obtain ⟨alt, -, haction⟩ := hof.action
        rw [haction] at hretype
        exact actionOf_retype _ alt t hretype
    simp [NamedEnd, hretype, hne]
  | none =>
    refine ⟨hwithin.type, ?_⟩
    rw [Option.getD_none, NamedEnd, hretype]
    rcases horigin with hliteral | ⟨r, hof⟩
    · simp [hliteral.type, hliteral.name_ne_end]
    · rw [hof.name, hstart.typeOf?_eq_end hof.type]
      simp

theorem Divides.rule_mem {g : Grammar} {m : Modes} {text : List Char} {segs : List Segment}
    (h : Divides g m text segs) :
    ∀ seg ∈ segs, ∀ rule ∈ seg.rule, ∃ mode ∈ g.modes, rule ∈ mode.rules := by
  induction h with
  | done => simp
  | @cut m seg rest segs _ hcut _ ih =>
    intro seg' hseg' rule hrule
    rcases List.mem_cons.mp hseg' with rfl | hseg'
    · rw [Segment.CutBy, Option.mem_def.mp hrule] at hcut
      exact mem_modeRules hcut.mem
    · exact ih seg' hseg' rule hrule

/-- A run that is not stopped puts out what the division of the input gives, whether or not it may
be stopped. -/
theorem tokenize_ok {grammar : List Char} {start : Option String} {g : Grammar}
    (h : compile grammar start = .ok g) (input : List Char) :
    ∃ segs, Divides g .initial input segs ∧
      tokenize g input false = .ok (lexedAt g.vocabulary (places [] segs)) ∧
      ∀ isCancelled lexed, tokenize g input isCancelled = .ok lexed →
        lexed = lexedAt g.vocabulary (places [] segs) := by
  obtain ⟨segs, hsegs⟩ := exists_divides h .initial input
  have hrun : lexFrom g input 0 (stateBehind []) (byteLength (textOf [])) input = _ :=
    lexFrom_divides hsegs rfl
  refine ⟨segs, hsegs, congrArg Except.ok hrun, ?_⟩
  intro isCancelled lexed hlexed
  unfold tokenize at hlexed
  split at hlexed
  · cases hlexed
  · cases hlexed
    exact hrun

theorem tokenAt_rule {v : Vocabulary} {before : List Segment} {seg : Segment} {t : Token}
    (h : tokenAt v before seg = some t) :
    ∃ rule ∈ seg.rule, t.type = rule.action.retype.getD rule.type ∧
      t.typeName = v.displayName t.type := by
  unfold tokenAt at h
  split at h
  · cases h
  · rename_i rule hrule
    split at h
    · cases h
    · cases h
      exact ⟨rule, hrule, rfl, rfl⟩

/-- Every token has a type of the grammar and is named by it. A token has the type of the end of the
input exactly when its rule is named like it and gives it no other type. So no token has it if no
lexer rule of the document that makes tokens is named so. -/
theorem token_type_end_iff {grammar : List Char} {start : Option String} {g : Grammar}
    (h : compile grammar start = .ok g) (input : List Char) :
    ∃ decl segs, read grammar = .ok decl ∧ Divides g .initial input segs ∧
      tokenize g input false = .ok (lexedAt g.vocabulary (places [] segs)) ∧
      (∀ isCancelled lexed, tokenize g input isCancelled = .ok lexed →
        lexed = lexedAt g.vocabulary (places [] segs)) ∧
      (∀ p ∈ places [] segs, ∀ t ∈ tokenAt g.vocabulary p.1 p.2,
        t.type < g.vocabulary.size ∧ t.typeName = g.vocabulary.displayName t.type ∧
        (t.type = endType ↔ ∃ rule ∈ p.2.rule, NamedEnd rule)) ∧
      ((∀ r ∈ decl.value.rules, r.name.name = "EOF" → r.fragment.isSome) →
        ∀ t ∈ (lexedAt g.vocabulary (places [] segs)).tokens,
          1 ≤ t.type ∧ t.type < g.vocabulary.size ∧
          t.typeName = g.vocabulary.displayName t.type) := by
  obtain ⟨decl, hread, -⟩ := Derivation.compile_ok h
  obtain ⟨segs, hsegs, hrun, hok⟩ := tokenize_ok h input
  have hrules : ∀ p ∈ places [] segs, ∀ rule ∈ p.2.rule,
      ∃ mode ∈ g.modes, rule ∈ mode.rules := by
    intro p hp
    obtain ⟨after, hafter⟩ := eq_append_of_mem_places hp
    rw [List.nil_append] at hafter
    exact hsegs.rule_mem p.2 (by simp [hafter])
  have htokens : ∀ p ∈ places [] segs, ∀ t ∈ tokenAt g.vocabulary p.1 p.2,
      t.type < g.vocabulary.size ∧ t.typeName = g.vocabulary.displayName t.type ∧
      (t.type = endType ↔ ∃ rule ∈ p.2.rule, NamedEnd rule) := by
    intro p hp t ht
    obtain ⟨rule, hrule, htype, hname⟩ := tokenAt_rule ht
    obtain ⟨mode, hmode, hmem⟩ := hrules p hp rule hrule
    obtain ⟨hlt, hend⟩ := rule_type h hread hmode hmem
    rw [← htype] at hlt hend
    refine ⟨hlt, hname, ?_⟩
    rw [hend, Option.mem_def.mp hrule]
    simp
  refine ⟨decl, segs, hread, hsegs, hrun, hok, htokens, ?_⟩
  intro hunnamed t ht
  obtain ⟨p, hp, htoken⟩ := List.mem_filterMap.mp ht
  obtain ⟨hlt, hname, hend⟩ := htokens p hp t htoken
  refine ⟨Nat.one_le_iff_ne_zero.mpr ?_, hlt, hname⟩
  intro hzero
  obtain ⟨rule, hrule, hnamed, -⟩ := hend.mp hzero
  obtain ⟨mode, hmode, hmem⟩ := hrules p hp rule hrule
  rcases modes_origin h hread mode hmode rule hmem with hliteral | ⟨r, hof⟩
  · exact hliteral.name_ne_end hnamed
  · have hfragment := hunnamed r hof.mem (hof.name.symm.trans hnamed)
    rw [hof.fragment] at hfragment
    cases hfragment

def endNamedGrammar : List Char := "EOF:'a';B:'b'->type(C);C:'c';".toList

theorem endNamedGrammar_types : ∃ g ∈ (compile endNamedGrammar none).toOption,
    ∃ lexed ∈ (tokenize g "bac".toList false).toOption,
      lexed.tokens.map (·.type) = [2, 0, 2] ∧ g.vocabulary.size = 3 := by
  decide +kernel

theorem token_type_end_iff_endNamed : ∃ g decl segs, compile endNamedGrammar none = .ok g ∧
    read endNamedGrammar = .ok decl ∧ Divides g .initial "bac".toList segs ∧
    ∀ p ∈ places [] segs, ∀ t ∈ tokenAt g.vocabulary p.1 p.2,
      t.type = endType ↔ ∃ rule ∈ p.2.rule, NamedEnd rule := by
  obtain ⟨g, hg, -⟩ := endNamedGrammar_types
  have hcompile := Derivation.toOption_eq_some.mp hg
  obtain ⟨decl, segs, hread, hsegs, -, -, htokens, -⟩ :=
    token_type_end_iff hcompile "bac".toList
  exact ⟨g, decl, segs, hcompile, hread, hsegs, fun p hp t ht => (htokens p hp t ht).2.2⟩

/-- The token of a lexer rule named like the end of the input passes for it. -/
theorem token_type_end_unguarded : ∃ g ∈ (compile "EOF : 'a' ;".toList none).toOption,
    ∃ lexed ∈ (tokenize g ['a'] false).toOption,
      ∃ t ∈ lexed.tokens, ¬ (1 ≤ t.type ∧ t.type < g.vocabulary.size) := by
  decide +kernel

end GrammarWorkbench.Run
