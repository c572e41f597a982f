import GrammarWorkbench.Proofs.Closed.Lexer
import GrammarWorkbench.Proofs.Lexical.Written
import GrammarWorkbench.Proofs.Lexing.Rules
import GrammarWorkbench.Proofs.Pattern.Complement

/-!
# Token rules of accepted grammars keep their texts

A lexer rule of an accepted grammar has one pattern, or one for each of its alternatives. Taken
together they match at every place of a text what the declared rule describes: the furthest of them
ends where the longest text of the rule ends.
-/

set_option autoImplicit false

namespace GrammarWorkbench.Lexical

open GrammarWorkbench.Text GrammarWorkbench.Declaration GrammarWorkbench.Diagnostic
open GrammarWorkbench.Model GrammarWorkbench.Compile GrammarWorkbench.Pattern
open GrammarWorkbench.Derivation (DeclaredGrammar)

section Clean

variable {lex : Lexicon} {s : CommandScope} {own : Bool} {inline : Ident → Checked Pattern}

theorem alternativePatterns_each (as : List AltDecl) :
    (alternativePatterns lex own inline as).defects =
      as.flatMap fun a => (alternativePatterns lex own inline [a]).defects := by
  induction as with
  | nil => rfl
  | cons a as ih =>
    rw [List.flatMap_cons, ← ih]
    simp [alternativePatterns]

/-- The patterns of a rule have the same defects together as one by one. -/
theorem rulePatterns_clean {r : RuleDecl} {together : Bool}
    (h : (rulePatterns lex r together).defects = []) :
    (alternativePatterns lex true (inlineRule lex lex.rules.length [r.name.name])
      r.alternatives).defects = [] := by
  unfold rulePatterns at h
  split at h
  · simpa [ofAlternatives] using h
  · rw [alternativePatterns_each]
    simpa [defects_each, ofAlternatives] using h

theorem rulesByMode_defects (lex : Lexicon) (s : CommandScope) (decls : List RuleDecl) :
    (rulesByMode lex s decls).defects = decls.flatMap fun r =>
      if r.fragment.isSome then (ofAlternatives lex r r.alternatives).defects
      else (tokenRules lex s r).defects := by
  induction decls with
  | nil => rfl
  | cons r decls ih =>
    rw [List.flatMap_cons, ← ih]
    by_cases hfragment : r.fragment.isSome
    · simp [rulesByMode, hfragment]
    · simp [rulesByMode, hfragment]

theorem tokenRules_clean {decls : List RuleDecl} (h : (rulesByMode lex s decls).defects = [])
    {r : RuleDecl} (hr : r ∈ decls) (hfragment : r.fragment = none) :
    (tokenRules lex s r).defects = [] := by
  rw [rulesByMode_defects, List.flatMap_eq_nil_iff] at h
  simpa [hfragment] using h r hr

/-- If no token rule has a defect, no lexer rule has one, fragments included. -/
theorem own_clean {decls : List RuleDecl} (h : (rulesByMode lex s decls).defects = [])
    {r : RuleDecl} (hr : r ∈ decls) :
    (alternativePatterns lex true (inlineRule lex lex.rules.length [r.name.name])
      r.alternatives).defects = [] := by
  cases hfragment : r.fragment with
  | some span =>
    rw [rulesByMode_defects, List.flatMap_eq_nil_iff] at h
    have hr' := h r hr
    simpa [hfragment, ofAlternatives] using hr'
  | none =>
    have htokens := tokenRules_clean h hr hfragment
    simp only [tokenRules, Checked.defects_bind, List.append_eq_nil_iff] at htokens
    exact rulePatterns_clean htokens.2.1

end Clean

section Patterns

variable {lex : Lexicon} {s : CommandScope} {r : RuleDecl}

theorem mem_alternativesWords {rules : List RuleDecl} {call : String → Language Char}
    {as : List AltDecl} {w : List Char} : w ∈ alternativesWords rules call as ↔
      ∃ a ∈ as, w ∈ alternativesWords rules call [a] := by
  induction as with
  | nil => simp [alternativesWords]
  | cons a as ih =>
    rw [alternativesWords, Language.mem_add, ih]
    simp [alternativesWords]

theorem mem_rulePatterns_words (hsound : Sound lex) (hr : IsRule lex.rules r.name.name r)
    (together : Bool) {w : List Char} :
    w ∈ ruleWords lex.rules r.name.name ↔
      ∃ p ∈ (rulePatterns lex r together).value, w ∈ p.words := by
  have hne := (hsound.filled r hr.mem).1
  rw [ruleWords_eq hsound.names hr]
  cases together with
  | true =>
    rw [← hsound.ofAlternatives_words hr hne (List.Subset.refl _)]
    simp [rulePatterns]
  | false =>
    have hwords : ∀ a ∈ r.alternatives, (ofAlternatives lex r [a]).value.words =
        alternativesWords lex.rules (ruleWords lex.rules) [a] := by
      intro a ha
      exact hsound.ofAlternatives_words hr (by simp) (by simpa using ha)
    rw [mem_alternativesWords]
    simp only [rulePatterns, Bool.false_eq_true, if_false, Checked.value_each, List.mem_map]
    constructor
    · rintro ⟨a, ha, hw⟩
      exact ⟨_, ⟨a, ha, rfl⟩, by rwa [hwords a ha]⟩
    · rintro ⟨_, ⟨a, ha, rfl⟩, hw⟩
      exact ⟨a, ha, by rwa [← hwords a ha]⟩

theorem rulePatterns_plain
    (hleaves : ∀ r ∈ lex.rules, ∀ leaf ∈ alternativesLeaves r.alternatives, LeafSound leaf)
    (hr : r ∈ lex.rules) (hgreedy : Greedy lex.rules r) (together : Bool) :
    ∀ p ∈ (rulePatterns lex r together).value, Plain p := by
  cases together with
  | true =>
    intro p hp
    rw [List.mem_singleton.mp hp]
    exact ofAlternatives_plain hleaves hr hgreedy (List.Subset.refl _)
  | false =>
    intro p hp
    simp only [rulePatterns, Bool.false_eq_true, if_false, Checked.value_each, List.mem_map] at hp
    obtain ⟨a, ha, rfl⟩ := hp
    exact ofAlternatives_plain hleaves hr hgreedy (by simpa using ha)

theorem length_rulePatterns_le (hne : r.alternatives ≠ []) (together : Bool) :
    (rulePatterns lex r together).value.length ≤ r.alternatives.length := by
  have hpos := List.length_pos_iff.mpr hne
  cases together with
  | true => exact hpos
  | false => simp [rulePatterns, Checked.value_each]

theorem tokenRuleOf_clean {source : List Char} {type : Nat} {pattern : Pattern}
    {action : TokenAction} (h : (tokenRuleOf source r type true pattern action).defects = []) :
    (tokenRuleOf source r type true pattern action).value =
      some ⟨r.name.name, type, pattern, action⟩ := by
  unfold tokenRuleOf at h ⊢
  dsimp only at h ⊢
  split at h
  · cases h
  · split at h
    · cases h
    · rename_i hempty
      rw [if_neg hempty]
      rfl

theorem tokenRules_name : ∀ t ∈ (tokenRules lex s r).value, t.name = r.name.name := by
  intro t ht
  simp only [tokenRules, Checked.value_bind] at ht
  split at ht
  · cases ht
  · rw [Checked.value_eachSome] at ht
    obtain ⟨entry, -, hvalue⟩ := List.mem_filterMap.mp ht
    rw [tokenRuleOf_eq hvalue]

theorem tokenRules_patterns (h : (tokenRules lex s r).defects = []) (hne : r.alternatives ≠ [])
    (htype : (s.vocabulary.typeOf? r.name.name).isSome) :
    ∃ together, (tokenRules lex s r).value.map (·.pattern) =
      (rulePatterns lex r together).value := by
  obtain ⟨type, htype⟩ := Option.isSome_iff_exists.mp htype
  let together := allEqual (Checked.each (actionOf s) r.alternatives).value
  let entries := (rulePatterns lex r together).value.zip
    (Checked.each (actionOf s) r.alternatives).value
  simp only [tokenRules, Checked.defects_bind, List.append_eq_nil_iff, htype] at h
  obtain ⟨-, hpatterns, hrules⟩ := h
  simp only [hpatterns, List.isEmpty_nil, Checked.eachSome, Checked.defects_bind,
    Checked.defects_pure, List.append_nil, defects_each, List.flatMap_eq_nil_iff] at hrules
  have hvalue : (tokenRules lex s r).value =
      entries.map fun e => ⟨r.name.name, type, e.1, e.2⟩ := by
    simp only [tokenRules, Checked.value_bind, htype, hpatterns, List.isEmpty_nil,
      Checked.value_eachSome]
    rw [← List.filterMap_eq_map]
    exact List.filterMap_congr fun e he => tokenRuleOf_clean (hrules e he)
  have hlength : (rulePatterns lex r together).value.length ≤
      (Checked.each (actionOf s) r.alternatives).value.length := by
    rw [Checked.value_each, List.length_map]
    exact length_rulePatterns_le hne together
  refine ⟨together, ?_⟩
  rw [hvalue, List.map_map]
  exact List.map_fst_zip hlength

end Patterns

section Names

theorem names_ensure (v : Vocabulary) (name : String) : v.names <+: (v.ensure name).names := by
  unfold Vocabulary.ensure
  split
  · exact List.prefix_refl _
  · exact List.prefix_append _ _

theorem names_foldl_ensure (rs : List RuleDecl) (v : Vocabulary) :
    v.names <+: (rs.foldl (fun v r => v.ensure r.name.name) v).names := by
  induction rs generalizing v with
  | nil => exact List.prefix_refl _
  | cons r rs ih => exact (names_ensure v r.name.name).trans (ih _)

theorem typeOf?_isSome {v : Vocabulary} {name : String} :
    (v.typeOf? name).isSome ↔ name ∈ v.names := by
  rw [Vocabulary.typeOf?, List.isSome_idxOf?]

theorem mem_ensure (v : Vocabulary) (name : String) : name ∈ (v.ensure name).names := by
  unfold Vocabulary.ensure
  split
  · exact typeOf?_isSome.mp ‹_›
  · simp [Vocabulary.add]

theorem declareTokens_typeOf? (names : List Ident) {lexerRules : List RuleDecl}
    (parserRules : List RuleDecl) {r : RuleDecl} (hr : r ∈ lexerRules)
    (hfragment : r.fragment = none) :
    ((declareTokens names lexerRules parserRules).vocabulary.typeOf? r.name.name).isSome := by
  rw [typeOf?_isSome]
  have hmem : r ∈ lexerRules.filter (·.fragment.isNone) :=
    List.mem_filter.mpr ⟨hr, by simp [hfragment]⟩
  obtain ⟨before, after, hsplit⟩ := List.append_of_mem hmem
  simp only [declareTokens, hsplit, List.foldl_append, List.foldl_cons]
  exact (names_foldl_ensure after _).subset (mem_ensure _ _)

theorem getElem?_of_prefix {l m : List String} (h : l <+: m) {i : Nat} {name : String}
    (hi : l[i]? = some name) : m[i]? = some name := by
  obtain ⟨rest, rfl⟩ := h
  rw [List.getElem?_append_left (List.getElem?_eq_some_iff.mp hi).1]
  exact hi

/-- The type of a literal with a token of its own is named by the literal. -/
theorem declareTokens_displayName (names : List Ident) (lexerRules parserRules : List RuleDecl) :
    ∀ literal ∈ (declareTokens names lexerRules parserRules).implicit,
      (declareTokens names lexerRules parserRules).vocabulary.displayName literal.2 =
        literalName literal.1 := by
  intro literal hliteral
  suffices hname : (declareTokens names lexerRules parserRules).vocabulary.names[literal.2]? =
      some (literalName literal.1) by
    rw [Vocabulary.displayName, hname]
    rfl
  apply getElem?_of_prefix (names_foldl_ensure _ _)
  revert literal
  apply List.foldlRecOn (motive := fun state : Vocabulary × List (List Char × Nat) =>
    ∀ literal ∈ state.2, state.1.names[literal.2]? = some (literalName literal.1))
  · simp
  · intro state hstate text _
    unfold addImplicit
    split
    · exact hstate
    · intro literal hliteral
      rcases List.mem_append.mp hliteral with hold | hnew
      · exact getElem?_of_prefix (List.prefix_append _ _) (hstate literal hold)
      · rw [List.mem_singleton.mp hnew]
        simp [Vocabulary.add, Vocabulary.size]

/-- Names of tokens start with a letter and those of literals with a quote. -/
theorem literalName_ne_tokenName {name : String} (h : isTokenName name) (text : List Char) :
    literalName text ≠ name := by
  intro heq
  rw [← heq] at h
  simp [isTokenName, literalName] at h

theorem literalName_ne_end (text : List Char) : literalName text ≠ "EOF" :=
  literalName_ne_tokenName (by decide) text

theorem literalName_ne {r : RuleDecl} (h : r.isLexerRule) (text : List Char) :
    literalName text ≠ r.name.name :=
  literalName_ne_tokenName h text

end Names

def patternsOf (g : Grammar) (name : String) : List Pattern :=
  ((g.modes.flatMap (·.rules)).filter (·.name == name)).map (·.pattern)

theorem mem_patternsOf {g : Grammar} {name : String} {p : Pattern} : p ∈ patternsOf g name ↔
    ∃ t, ((∃ mode ∈ g.modes, t ∈ mode.rules) ∧ t.name = name) ∧ t.pattern = p := by
  simp only [patternsOf, List.mem_map, List.mem_filter, List.mem_flatMap, beq_iff_eq]

theorem mem_lexerModes {lex : Lexicon} {s : CommandScope} {implicit : List (List Char × Nat)}
    {decls : List RuleDecl} {t : TokenRule} :
    (∃ mode ∈ (lexerModes lex s implicit decls).value, t ∈ mode.rules) ↔
      ∃ entry ∈ placedRules lex s implicit decls, entry.1 ≤ s.modes.length ∧ entry.2 = t := by
  rw [lexerModes_value]
  constructor
  · rintro ⟨mode, hmode, ht⟩
    obtain ⟨i, hi, rfl⟩ := List.mem_mapIdx.mp hmode
    obtain ⟨entry, hentry, rfl⟩ := List.mem_map.mp ht
    obtain ⟨hmem, hindex⟩ := List.mem_filter.mp hentry
    rw [beq_iff_eq] at hindex
    rw [List.length_cons] at hi
    exact ⟨entry, hmem, by omega, rfl⟩
  · rintro ⟨entry, hmem, hle, rfl⟩
    have hi : entry.1 < (defaultMode :: s.modes).length := by
      rw [List.length_cons]
      omega
    refine ⟨_, List.mem_mapIdx.mpr ⟨entry.1, hi, rfl⟩, ?_⟩
    exact List.mem_map_of_mem (List.mem_filter.mpr ⟨hmem, by simp⟩)

section Placed

variable {lex : Lexicon} {s : CommandScope} {implicit : List (List Char × Nat)}
  {decls : List RuleDecl}

/-- A token rule belongs to a literal, whose name it has, or to a lexer rule. -/
theorem origin_of_mem_placedRules {entry : Nat × TokenRule}
    (h : entry ∈ placedRules lex s implicit decls) :
    (∃ literal ∈ implicit, entry.2.name = s.vocabulary.displayName literal.2) ∨
      ∃ r ∈ decls, entry.2 ∈ (tokenRules lex s r).value := by
  rcases List.mem_append.mp h with hliteral | hrule
  · left
    obtain ⟨t, ht, rfl⟩ := List.mem_map.mp hliteral
    rw [Checked.value_eachSome] at ht
    obtain ⟨literal, hliteral, hvalue⟩ := List.mem_filterMap.mp ht
    exact ⟨literal, hliteral, by rw [literalRule_eq hvalue]⟩
  · right
    rw [rulesByMode_value] at hrule
    obtain ⟨r, hr, hrule⟩ := List.mem_flatMap.mp hrule
    split at hrule
    · cases hrule
    · obtain ⟨t, ht, rfl⟩ := List.mem_map.mp hrule
      exact ⟨r, hr, ht⟩

theorem mem_placedRules {r : RuleDecl} (hr : r ∈ decls) (hfragment : r.fragment = none)
    {t : TokenRule} (ht : t ∈ (tokenRules lex s r).value) :
    (r.mode, t) ∈ placedRules lex s implicit decls := by
  apply List.mem_append_right
  rw [rulesByMode_value]
  refine List.mem_flatMap.mpr ⟨r, hr, ?_⟩
  rw [if_neg (by simp [hfragment])]
  exact List.mem_map_of_mem ht

theorem mem_lexerModes_named (hnames : (decls.map (·.name.name)).Nodup) {r : RuleDecl}
    (hr : r ∈ decls) (hfragment : r.fragment = none) (hmode : r.mode ≤ s.modes.length)
    (hliterals : ∀ literal ∈ implicit, s.vocabulary.displayName literal.2 ≠ r.name.name)
    {t : TokenRule} :
    (∃ mode ∈ (lexerModes lex s implicit decls).value, t ∈ mode.rules) ∧ t.name = r.name.name ↔
      t ∈ (tokenRules lex s r).value := by
  rw [mem_lexerModes]
  constructor
  · rintro ⟨⟨entry, hentry, -, rfl⟩, hname⟩
    rcases origin_of_mem_placedRules hentry with ⟨literal, hliteral, hnamed⟩ | ⟨r', hr', hrule⟩
    · exact absurd (hnamed.symm.trans hname) (hliterals literal hliteral)
    · have hsame : r' = r := List.inj_on_of_nodup_map hnames hr' hr
        ((tokenRules_name _ hrule).symm.trans hname)
      rwa [hsame] at hrule
  · intro ht
    exact ⟨⟨_, mem_placedRules hr hfragment ht, hmode, rfl⟩, tokenRules_name t ht⟩

end Placed

/-- The lexer rules of an accepted grammar are without defects, and the token rules of each that is
no fragment have its patterns. -/
theorem compile_patterns {text : List Char} {start : Option String} {g : Grammar}
    (h : compile text start = .ok g) :
    ∃ decl, read text = .ok decl ∧ Sound ⟨text, decl.value.rules⟩ ∧
      ∀ r ∈ decl.value.rules, r.isLexerRule → r.fragment = none →
        ∃ together, ∀ p, p ∈ patternsOf g r.name.name ↔
          p ∈ (rulePatterns ⟨text, decl.value.rules⟩ r together).value := by
  obtain ⟨decl, hread, hnames, -, hmodes⟩ := compile_lexer h
  have hvalue : _ = g.modes := congrArg Checked.value hmodes
  have hdefects : _ = [] := congrArg Checked.defects hmodes
  simp only [lexerModes, Checked.defects_bind, Checked.defects_pure, List.append_nil,
    List.append_eq_nil_iff] at hdefects
  have hclean := hdefects.2
  have hsound : Sound ⟨text, decl.value.rules⟩ := by
    refine ⟨hnames, read_filled hread, ?_⟩
    intro r hr hlexer
    exact own_clean hclean (List.mem_filter.mpr ⟨hr, hlexer⟩)
  refine ⟨decl, hread, hsound, ?_⟩
  intro r hr hlexer hfragment
  have hmem : r ∈ decl.value.rules.filter (·.isLexerRule) := List.mem_filter.mpr ⟨hr, hlexer⟩
  have hmode : r.mode ≤ (commandScope text decl.value).modes.length := by
    simpa [commandScope] using read_mode hread r hr
  have hliterals : ∀ literal ∈ (DeclaredGrammar.ofDeclarations decl.value).types.implicit,
      (commandScope text decl.value).vocabulary.displayName literal.2 ≠ r.name.name := by
    intro literal hliteral hname
    exact literalName_ne hlexer literal.1
      ((declareTokens_displayName _ _ _ literal hliteral).symm.trans hname)
  obtain ⟨together, hpatterns⟩ := tokenRules_patterns
    (tokenRules_clean hclean hmem hfragment) (hsound.filled r hr).1
    (declareTokens_typeOf? _ _ hmem hfragment)
  refine ⟨together, fun p => ?_⟩
  have hnamed : ∀ t, (∃ mode ∈ g.modes, t ∈ mode.rules) ∧ t.name = r.name.name ↔
      t ∈ (tokenRules ⟨text, decl.value.rules⟩ (commandScope text decl.value) r).value := by
    intro t
    rw [← hvalue]
    exact mem_lexerModes_named (hnames.sublist (List.filter_sublist.map _)) hmem hfragment hmode
      hliterals
  rw [← hpatterns, mem_patternsOf, List.mem_map]
  simp only [hnamed]

/-- Patterns have the texts of a language between them, both as they are written and as they are
matched: the furthest match at a place is the end of the longest text of the language there. The
sets in them are taken to be matched as they are written, which `CharSet.Regular.exact` gives for
all but some complements. -/
structure KeepTexts (l : Language Char) (ps : List Pattern) : Prop where
  written : ∀ p ∈ ps, ∃ q, Written.pattern? p.render.toList = some q ∧ q.words = p.words
  texts : ∀ w, w ∈ l ↔ ∃ p ∈ ps, w ∈ p.words
  furthest : (∀ p ∈ ps, p.Exact) → ∀ before rest e,
    furthestEnd? ps (before ++ rest) (byteLength before) = some e ↔
      IsGreatest (ends l before rest) e
  unmatched : (∀ p ∈ ps, p.Exact) → ∀ before rest,
    (∀ p ∈ ps, p.matchEnd? (before ++ rest) (byteLength before) = none) ↔ ∀ w ∈ l, ¬ w <+: rest

theorem keepTexts_of_plain {l : Language Char} {ps : List Pattern} (hplain : ∀ p ∈ ps, Plain p)
    (hl : ∀ w, w ∈ l ↔ ∃ p ∈ ps, w ∈ p.words) : KeepTexts l ps where
  written p hp := Written.pattern?_render (hplain p hp).written
  texts := hl
  furthest hexact _ _ _ := furthestEnd?_eq_some_iff hexact (fun p hp => (hplain p hp).greedy) hl
  unmatched hexact _ _ := matchEnd?_eq_none_iff hexact (fun p hp => (hplain p hp).greedy) hl

/-- A pattern that does not match the empty text matches no empty piece of any text. -/
theorem lt_of_matchEnd? {p : Pattern} (hempty : p.matchesEmpty = false) {text : List Char}
    {offset e : Nat} (h : p.matchEnd? text offset = some e) : offset < e := by
  simp only [matchEnd?, Option.bind_eq_bind, Option.bind_eq_some_iff, Option.pure_def,
    Option.some.injEq] at h
  obtain ⟨rest, -, n, hn, rfl⟩ := h
  have hne : rest.take n ≠ [] := by
    intro hnil
    have hle := matchLength_le_length hn
    obtain rfl : n = 0 := by
      rcases List.take_eq_nil_iff.mp hnil with hzero | hrest
      · exact hzero
      · simpa [hrest] using hle
    have hmatches := matchesEmpty_of_matchLength_zero hn
    rw [hempty] at hmatches
    cases hmatches
  obtain ⟨c, cs, hcons⟩ := List.exists_cons_of_ne_nil hne
  have hpos := c.utf8Size_pos
  rw [hcons, byteLength_cons]
  omega

/-- The token rules of an accepted grammar keep the texts of the lexer rules they are made of, and
none of them matches the empty text. -/
theorem token_rules_keep_texts {text : List Char} {start : Option String} {g : Grammar}
    (h : compile text start = .ok g) :
    (∀ mode ∈ g.modes, ∀ t ∈ mode.rules, [] ∉ t.pattern.words ∧
      ∀ input offset e, t.pattern.matchEnd? input offset = some e → offset < e) ∧
    ∃ decl, read text = .ok decl ∧
      ∀ r ∈ decl.value.rules, r.isLexerRule → r.fragment = none → Greedy decl.value.rules r →
        KeepTexts (ruleWords decl.value.rules r.name.name) (patternsOf g r.name.name) := by
  constructor
  · intro mode hmode t ht
    have hempty := Run.modes_take h mode hmode t ht
    refine ⟨?_, fun input offset e => lt_of_matchEnd? hempty⟩
    rw [← matchesEmpty_iff, hempty]
    exact Bool.false_ne_true
  · obtain ⟨decl, hread, hsound, hpatterns⟩ := compile_patterns h
    refine ⟨decl, hread, ?_⟩
    intro r hr hlexer hfragment hgreedy
    obtain ⟨together, hmem⟩ := hpatterns r hr hlexer hfragment
    apply keepTexts_of_plain
    · intro p hp
      exact rulePatterns_plain (read_leaves hread) hr hgreedy together p ((hmem p).mp hp)
    · intro w
      simp only [hmem]
      exact mem_rulePatterns_words hsound ⟨hr, hlexer, rfl⟩ together

def bracketText : List Char := "e:T;T:'<'N*'>'|'#'[a-c]+;N:[a-z]|'_'[a-c];".toList

theorem bracketText_accepted : ∃ g ∈ (compile bracketText none).toOption,
    ∃ decl ∈ (read bracketText).toOption,
      (∃ r ∈ decl.value.rules, r.isLexerRule ∧ r.fragment = none ∧ r.name.name = "T") ∧
      (∀ s ∈ decl.value.rules, alternativesGreedy s.alternatives) ∧
      (∀ p ∈ patternsOf g "T", ∀ s ∈ p.sets, s.Regular) ∧
      furthestEnd? (patternsOf g "T") "x<_a>>".toList 1 = some 5 := by
  decide +kernel

theorem token_rules_keep_texts_brackets : ∃ g decl, compile bracketText none = .ok g ∧
    read bracketText = .ok decl ∧ KeepTexts (ruleWords decl.value.rules "T") (patternsOf g "T") ∧
    (∀ p ∈ patternsOf g "T", p.Exact) ∧
    IsGreatest (ends (ruleWords decl.value.rules "T") ['x'] "<_a>>".toList) 5 := by
  obtain ⟨g, hg, decl, hread, ⟨r, hr, hlexer, hfragment, hname⟩, hgreedy, hregular, hmatch⟩ :=
    bracketText_accepted
  have hcompile := Derivation.toOption_eq_some.mp hg
  have hread := Derivation.toOption_eq_some.mp hread
  obtain ⟨-, decl', hread', hkeep⟩ := token_rules_keep_texts hcompile
  obtain rfl : decl = decl' := Except.ok.inj (hread.symm.trans hread')
  have hkept := hkeep r hr hlexer hfragment (greedy_of_all hgreedy hr)
  rw [hname] at hkept
  have hexact : ∀ p ∈ patternsOf g "T", p.Exact := fun p hp s hs => (hregular p hp s hs).exact
  exact ⟨g, decl, hcompile, hread, hkept, hexact,
    (hkept.furthest hexact ['x'] "<_a>>".toList 5).mp hmatch⟩

end GrammarWorkbench.Lexical
