import GrammarWorkbench.Proofs.Lexical.Inlined
import GrammarWorkbench.Proofs.Lexing.Types
import GrammarWorkbench.Proofs.Naming.Vocabulary
import GrammarWorkbench.Proofs.Pattern.Ranged

/-!
# Literals win ties

A literal of a parser rule that no lexer rule consists of has a token rule of its own. These rules
come first in the default mode, so where a literal stands and no rule matches more than it, its own
rule is the first that matches as much: another literal of the same length is another text. The
lexer takes the literal there and makes a token of the type that stands for it in parser rules.
-/

set_option autoImplicit false

namespace GrammarWorkbench.Pattern

theorem matchLength_literal_iff {l text : List Char} {n : Nat} :
    (literal l).matchLength text = some n ↔ n = l.length ∧ l <+: text := by
  have hexact : ∀ p ∈ [literal l], p.Exact := by
    intro p hp
    rw [List.mem_singleton.mp hp]
    exact literal_exact l
  have hbeginnings : ∀ w, w ∈ beginnings [literal l] text ↔ w = l ∧ l <+: text := by
    intro w
    simp only [beginnings, Set.mem_ofPred_eq, List.mem_singleton, exists_eq_left, mem_words_literal]
    constructor
    · rintro ⟨hpre, rfl⟩
      exact ⟨rfl, hpre⟩
    · rintro ⟨rfl, hpre⟩
      exact ⟨hpre, rfl⟩
  have hlongest : IsLongest [literal l] text ((literal l).matchLength text) :=
    longest_isLongest hexact text
  cases hmatch : (literal l).matchLength text with
  | none =>
    rw [hmatch, IsLongest, Set.eq_empty_iff_forall_notMem] at hlongest
    constructor
    · intro h
      cases h
    · rintro ⟨-, hpre⟩
      exact absurd ((hbeginnings l).mpr ⟨rfl, hpre⟩) (hlongest l)
  | some k =>
    rw [hmatch] at hlongest
    obtain ⟨htake, hpre⟩ := (hbeginnings _).mp hlongest.1
    have hlength : k = l.length := by
      rw [← htake, List.length_take_of_le (matchLength_le_length hmatch)]
    simp [hlength, hpre, eq_comm]

end GrammarWorkbench.Pattern

namespace GrammarWorkbench.Compile

open GrammarWorkbench.Text GrammarWorkbench.Declaration GrammarWorkbench.Diagnostic
open GrammarWorkbench.Model GrammarWorkbench.Pattern

section Uses

variable {l : List Char}

mutual

theorem uses_of_collected : ∀ atom : Atom, l ∈ atomLiterals atom → Uses l atom
  | .literal text => by
    intro h
    rw [atomLiterals, List.mem_singleton] at h
    exact h ▸ .literal
  | .not items => by
    intro h
    rw [atomLiterals, setLiterals, List.mem_filterMap] at h
    obtain ⟨item, hitem, htext⟩ := h
    split at htext
    · cases htext
      exact .member hitem
    · cases htext
  | .group alternatives => by
    intro h
    rw [atomLiterals] at h
    obtain ⟨a, ha, e, he, huses⟩ := uses_of_collected_alternatives alternatives h
    exact .group ha he huses
  | .ref _ | .range _ _ | .set _ | .wildcard => by simp [atomLiterals]

theorem uses_of_collected_elements : ∀ es : List ElementDecl, l ∈ elementsLiterals es →
    ∃ e ∈ es, Uses l e.atom
  | [] => by simp [elementsLiterals]
  | ⟨atom, _, _⟩ :: es => by
    intro h
    rw [elementsLiterals] at h
    rcases List.mem_append.mp h with hfirst | hrest
    · exact ⟨_, List.mem_cons_self, uses_of_collected atom hfirst⟩
    · obtain ⟨e, he, huses⟩ := uses_of_collected_elements es hrest
      exact ⟨e, List.mem_cons_of_mem _ he, huses⟩

theorem uses_of_collected_alternatives : ∀ as : List AltDecl, l ∈ alternativesLiterals as →
    ∃ a ∈ as, ∃ e ∈ a.elements, Uses l e.atom
  | [] => by simp [alternativesLiterals]
  | ⟨elements, _, _, _, _⟩ :: as => by
    intro h
    rw [alternativesLiterals] at h
    rcases List.mem_append.mp h with hfirst | hrest
    · exact ⟨_, List.mem_cons_self, uses_of_collected_elements elements hfirst⟩
    · obtain ⟨a, ha, huses⟩ := uses_of_collected_alternatives as hrest
      exact ⟨a, List.mem_cons_of_mem _ ha, huses⟩

end

instance (atom : Atom) : Decidable (Uses l atom) :=
  decidable_of_iff (l ∈ atomLiterals atom) ⟨uses_of_collected atom, Uses.collected⟩

instance (r : RuleDecl) : Decidable (IsRuleOf l r) := decidable_of_iff (isRuleOf l r) isRuleOf_iff

end Uses

def ruleOfLiteral (v : Vocabulary) (literal : List Char × Nat) : TokenRule :=
  ⟨v.displayName literal.2, literal.2, .literal literal.1, .plain⟩

theorem literalRule_value {v : Vocabulary} {literal : List Char × Nat}
    (h : (literalRule v literal).defects = []) :
    (literalRule v literal).value = some (ruleOfLiteral v literal) := by
  unfold literalRule at h ⊢
  dsimp only at h ⊢
  split at h
  · cases h
  · rfl

/-- Literals without defects have one token rule each, in their order. -/
theorem literalRules_value {v : Vocabulary} {implicit : List (List Char × Nat)}
    (h : (Checked.eachSome (literalRule v) implicit).defects = []) :
    (Checked.eachSome (literalRule v) implicit).value = implicit.map (ruleOfLiteral v) := by
  simp only [Checked.eachSome, Checked.defects_bind, Checked.defects_pure, List.append_nil,
    Lexical.defects_each, List.flatMap_eq_nil_iff] at h
  rw [Checked.value_eachSome, ← List.filterMap_eq_map]
  exact List.filterMap_congr fun literal hliteral => literalRule_value (h literal hliteral)

end GrammarWorkbench.Compile

namespace GrammarWorkbench.Run

open GrammarWorkbench.Text GrammarWorkbench.Declaration GrammarWorkbench.Diagnostic
open GrammarWorkbench.Model GrammarWorkbench.Compile GrammarWorkbench.Pattern
open GrammarWorkbench.Derivation (DeclaredGrammar Accepted compile_accepted)

theorem literals_prefix_modeRules {text : List Char} {start : Option String} {g : Grammar}
    {decl : Checked GrammarDecl} (h : compile text start = .ok g) (hread : read text = .ok decl) :
    (DeclaredGrammar.ofDeclarations decl.value).types.implicit.map (ruleOfLiteral g.vocabulary) <+:
      modeRules g 0 := by
  obtain ⟨decl', hread', -, hvocabulary, hmodes⟩ := compile_lexer h
  obtain rfl : decl = decl' := Except.ok.inj (hread.symm.trans hread')
  have hclean := congrArg Checked.defects hmodes
  simp only [lexerModes, Checked.defects_bind, Checked.defects_pure, List.append_nil,
    List.append_eq_nil_iff] at hclean
  have hvalue : _ = g.modes := congrArg Checked.value hmodes
  rw [lexerModes_value, List.mapIdx_cons] at hvalue
  rw [modeRules, ← hvalue, List.getElem?_cons_zero]
  dsimp only
  rw [placedRules, literalRules_value hclean.1, List.filter_append, List.map_append, hvocabulary]
  simp [List.filter_map, Function.comp_def, commandScope]

/-- A literal with a type of its own wins against the literals and all rules behind them, unless one
of these matches more. -/
theorem longestMatch_literal {v : Vocabulary} {implicit : List (List Char × Nat)}
    {rules : List TokenRule} (hrules : implicit.map (ruleOfLiteral v) <+: rules)
    {l rest : List Char} {t : Nat} (hlookup : implicit.lookup l = some t)
    (hlongest : ∀ rule ∈ rules, ∀ n, rule.pattern.matchLength (l ++ rest) = some n →
      n ≤ l.length) :
    LongestMatch rules (l ++ rest) l.length (ruleOfLiteral v (l, t)) where
  longest := hlongest
  first := by
    obtain ⟨others, rfl⟩ := hrules
    obtain ⟨before, after, hsplit, hbefore⟩ := List.lookup_eq_some_iff.mp hlookup
    have hfind : implicit.find? (fun literal =>
        (ruleOfLiteral v literal).pattern.matchLength (l ++ rest) == some l.length) =
          some (l, t) := by
      rw [List.find?_eq_some_iff_append]
      refine ⟨?_, before, after, hsplit, ?_⟩
      · rw [beq_iff_eq]
        exact matchLength_literal_iff.mpr ⟨rfl, List.prefix_append l rest⟩
      · intro literal hliteral
        rw [Bool.not_eq_true', beq_eq_false_iff_ne]
        intro hmatch
        -- A literal as long as this one, at the same place, is this one.
        obtain ⟨hlength, hpre⟩ := matchLength_literal_iff.mp hmatch
        have hsame : l = literal.1 := (List.prefix_of_prefix_length_le (List.prefix_append l rest)
          hpre hlength.le).eq_of_length hlength
        simpa [hsame] using hbefore literal hliteral
    rw [List.find?_append, List.find?_map, Function.comp_def, hfind]
    rfl

/-- Behind the first segments of a division the others divide what is left. -/
theorem Divides.behind {g : Grammar} {m : Modes} {text : List Char} {before after : List Segment}
    (h : Divides g m text (before ++ after)) :
    ∃ rest, text = textOf before ++ rest ∧ Divides g (before.foldl Modes.behind m) rest after := by
  induction before generalizing m text with
  | nil => exact ⟨text, rfl, h⟩
  | cons seg before ih =>
    cases h with
    | cut _ _ hrest =>
      obtain ⟨rest, rfl, hafter⟩ := ih hrest
      exact ⟨rest, by simp [textOf], hafter⟩

/-- Where the rules of an accepted grammar cut a segment, its division goes on with the segment. -/
theorem Divides.starts_with {grammar : List Char} {start : Option String} {g : Grammar}
    (hg : compile grammar start = .ok g) {m : Modes} (seg : Segment) {rest : List Char}
    {segs : List Segment} (h : Divides g m (seg.text ++ rest) segs) (hne : seg.text ≠ [])
    (hcut : seg.CutBy (modeRules g m.current) (seg.text ++ rest)) :
    ∃ segs', segs = seg :: segs' := by
  obtain ⟨segs', hsegs'⟩ := exists_divides hg (m.behind seg) rest
  exact ⟨segs', h.unique (.cut hne hcut hsegs')⟩

theorem mem_places_append (before segs after : List Segment) (seg : Segment) :
    (before ++ segs, seg) ∈ places before (segs ++ seg :: after) := by
  rw [places_append, places]
  exact List.mem_append_right _ List.mem_cons_self

theorem tokenAt_literal (v : Vocabulary) (before : List Segment) (l : List Char) (t : Nat) :
    ∃ token, tokenAt v before ⟨l, some (ruleOfLiteral v (l, t))⟩ = some token ∧
      token.type = t ∧ token.channel = 0 ∧ token.text = textOf (begun before) ++ l := by
  refine ⟨_, rfl, rfl, rfl, ?_⟩
  simp

/-- Where the lexer stands in the default mode in front of a literal of a parser rule, no lexer rule
consists of the literal only and no rule matches more there, it takes exactly the literal and makes
a token of it on the default channel. The token has the type that the literal stands for in parser
rules. -/
theorem literal_wins_ties {text : List Char} {start : Option String} {g : Grammar}
    (h : compile text start = .ok g) (input : List Char) :
    ∃ decl d rules segs, read text = .ok decl ∧ d = DeclaredGrammar.ofDeclarations decl.value ∧
      Accepted text g d rules ∧ Divides g .initial input segs ∧
      tokenize g input false = .ok (lexedAt g.vocabulary (places [] segs)) ∧
      ∀ r ∈ d.rules, ∀ l, Uses l (.group r.alternatives) →
        (∀ r' ∈ decl.value.rules, ¬ IsRuleOf l r') →
        ∃ t, (∀ source rule span,
            resolveAtom (d.scope source rule) span (.literal l) = pure (some (.token (.type t))) ∧
            ∀ place, (d.scope source rule).excluded span (.literal l place) = pure (some t)) ∧
          ∀ before after rest, segs = before ++ after → (modesBehind before).current = 0 →
            input = textOf before ++ (l ++ rest) →
            (∀ rule ∈ modeRules g 0, ∀ n,
              rule.pattern.matchLength (l ++ rest) = some n → n ≤ l.length) →
            ∃ seg after' token, after = seg :: after' ∧ seg.text = l ∧
              tokenAt g.vocabulary before seg = some token ∧
              token ∈ (lexedAt g.vocabulary (places [] segs)).tokens ∧
              token.type = t ∧ token.channel = 0 ∧
              token.text = textOf (begun before) ++ l := by
  obtain ⟨decl, hread, -⟩ := compile_lexer h
  obtain ⟨d, rules, haccepted⟩ := compile_accepted h
  have hd : d = DeclaredGrammar.ofDeclarations decl.value := by
    have hdeclared := haccepted.declared
    rw [DeclaredGrammar.ofText?, hread] at hdeclared
    exact (Option.some.inj hdeclared).symm
  subst hd
  obtain ⟨segs, hsegs, hrun, -⟩ := tokenize_ok h input
  refine ⟨decl, _, rules, segs, hread, rfl, haccepted, hsegs, hrun, ?_⟩
  intro r hr l huses hunruled
  obtain ⟨t, ht⟩ := Option.isSome_iff_exists.mp (literal?_isSome (read_tokens_ne hread) hr huses)
  refine ⟨t, resolve_literal ht, ?_⟩
  have halias : (DeclaredGrammar.ofDeclarations decl.value).types.aliases.lookup l = none := by
    rw [lookup_aliases, Option.map_eq_none_iff, List.find?_eq_none]
    exact fun r' hr' hrule => hunruled r' hr' (isRuleOf_iff.mp hrule)
  have hlookup := (literal?_no_alias halias).symm.trans ht
  have hne : l ≠ [] := by
    apply read_noneEmpty hread r (List.mem_filter.mp hr).1
    simpa [atomLiterals] using huses.collected
  intro before after rest hsplit hmode hinput hlongest
  subst hsplit
  obtain ⟨rest', hrest', hafter⟩ := hsegs.behind
  obtain rfl : l ++ rest = rest' := List.append_cancel_left (hinput.symm.trans hrest')
  have hcut : LongestMatch (modeRules g (modesBehind before).current) (l ++ rest) l.length
      (ruleOfLiteral g.vocabulary (l, t)) := by
    rw [hmode]
    exact longestMatch_literal (literals_prefix_modeRules h hread) hlookup hlongest
  obtain ⟨after', rfl⟩ := Divides.starts_with h ⟨l, some _⟩ hafter hne hcut
  obtain ⟨token, htoken, htype, hchannel, htext⟩ :=
    tokenAt_literal g.vocabulary before l t
  refine ⟨_, after', token, rfl, rfl, htoken, ?_, htype, hchannel, htext⟩
  exact List.mem_filterMap.mpr ⟨_, mem_places_append [] before after' _, htoken⟩

def keywordGrammar : List Char :=
  "tokens\x7bID,WS\x7ds:'if'ID;ID:[a-z]+;WS:' '->skip;".toList

theorem keywordGrammar_tie : ∃ g ∈ (compile keywordGrammar none).toOption,
    (modeRules g 0).map (·.pattern.matchLength "if x".toList) = [some 2, some 2, none] := by
  decide +kernel

theorem keywordGrammar_uses : ∃ decl ∈ (read keywordGrammar).toOption,
    (∃ r ∈ (DeclaredGrammar.ofDeclarations decl.value).rules,
      Uses "if".toList (.group r.alternatives)) ∧
    ∀ r ∈ decl.value.rules, ¬ IsRuleOf "if".toList r := by
  decide +kernel

theorem literal_wins_ties_keyword : ∃ g decl segs seg after token,
    compile keywordGrammar none = .ok g ∧ read keywordGrammar = .ok decl ∧
    (modeRules g 0).map (·.pattern.matchLength "if x".toList) = [some 2, some 2, none] ∧
    Divides g .initial "if x".toList segs ∧ segs = seg :: after ∧ seg.text = "if".toList ∧
    tokenAt g.vocabulary [] seg = some token ∧ token.channel = 0 ∧ token.text = "if".toList ∧
    ∀ source rule span,
      resolveAtom ((DeclaredGrammar.ofDeclarations decl.value).scope source rule) span
        (.literal "if".toList) = pure (some (.token (.type token.type))) := by
  obtain ⟨g, hg, htie⟩ := keywordGrammar_tie
  obtain ⟨decl, hdecl, ⟨r, hr, huses⟩, hunruled⟩ := keywordGrammar_uses
  have hcompile := Derivation.toOption_eq_some.mp hg
  have hread := Derivation.toOption_eq_some.mp hdecl
  obtain ⟨decl', d, rules, segs, hread', rfl, -, hsegs, -, hwins⟩ :=
    literal_wins_ties hcompile "if x".toList
  obtain rfl : decl = decl' := Except.ok.inj (hread.symm.trans hread')
  obtain ⟨t, hresolve, hwins⟩ := hwins r hr _ huses hunruled
  have hlongest : ∀ rule ∈ modeRules g 0, ∀ n,
      rule.pattern.matchLength ("if".toList ++ " x".toList) = some n → n ≤ 2 := by
    intro rule hrule n hn
    have hmem : some n ∈ (modeRules g 0).map (·.pattern.matchLength "if x".toList) :=
      List.mem_map.mpr ⟨rule, hrule, hn⟩
    rw [htie] at hmem
    simp at hmem
    omega
  obtain ⟨seg, after, token, hsplit, htext, htoken, -, rfl, hchannel, htokenText⟩ :=
    hwins [] segs " x".toList rfl rfl rfl hlongest
  exact ⟨g, decl, segs, seg, after, token, hcompile, hread, htie, hsegs, hsplit, htext, htoken,
    hchannel, htokenText, fun source rule span => (hresolve source rule span).1⟩

end GrammarWorkbench.Run
