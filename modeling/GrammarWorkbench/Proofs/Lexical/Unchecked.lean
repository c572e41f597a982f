import GrammarWorkbench.Proofs.Lexical.Commands

/-!
# Commands that are never looked at

A command can also be written behind an alternative of a group, or in a fragment. Such a command has
no effect: a document without it compiles to the same grammar with the same defects. So the commands
of an accepted document all resolve exactly when those in groups and fragments do, and nothing makes
sure of that.
-/

set_option autoImplicit false

namespace GrammarWorkbench.Lexical

open GrammarWorkbench.Text GrammarWorkbench.Declaration GrammarWorkbench.Diagnostic
open GrammarWorkbench.Model GrammarWorkbench.Compile GrammarWorkbench.Pattern

mutual

def atomCommands : Atom → List Command
  | .group alternatives => alternativesCommands alternatives
  | .ref _ => []
  | .literal _ => []
  | .range _ _ => []
  | .set _ => []
  | .wildcard => []
  | .not _ => []

def elementsCommands : List ElementDecl → List Command
  | [] => []
  | ⟨atom, _, _⟩ :: rest => atomCommands atom ++ elementsCommands rest

def alternativesCommands : List AltDecl → List Command
  | [] => []
  | ⟨elements, _, commands, _, _⟩ :: rest =>
    elementsCommands elements ++ commands ++ alternativesCommands rest

end

def writtenCommands (r : RuleDecl) : List Command := alternativesCommands r.alternatives

/-- The commands of a lexer rule that are not looked at: those inside groups, and all of a
fragment. -/
def uncheckedCommands (r : RuleDecl) : List Command :=
  if r.fragment.isSome then writtenCommands r
  else r.alternatives.flatMap fun a => elementsCommands a.elements

theorem mem_alternativesCommands {as : List AltDecl} {c : Command} :
    c ∈ alternativesCommands as ↔
      c ∈ as.flatMap (·.commands) ∨ c ∈ as.flatMap fun a => elementsCommands a.elements := by
  induction as with
  | nil => simp [alternativesCommands]
  | cons a as ih =>
    simp only [alternativesCommands, List.flatMap_cons, List.mem_append, ih]
    tauto

theorem mem_writtenCommands {r : RuleDecl} {c : Command} :
    c ∈ writtenCommands r ↔ c ∈ checkedCommands r ∨ c ∈ uncheckedCommands r := by
  unfold checkedCommands uncheckedCommands
  split
  · simp
  · exact mem_alternativesCommands

mutual

def strippedAtom : Atom → Atom
  | .group alternatives => .group (strippedAlternatives alternatives)
  | .ref ident => .ref ident
  | .literal text => .literal text
  | .range lo hi => .range lo hi
  | .set items => .set items
  | .wildcard => .wildcard
  | .not items => .not items

def strippedElements : List ElementDecl → List ElementDecl
  | [] => []
  | ⟨atom, suffix, span⟩ :: rest => ⟨strippedAtom atom, suffix, span⟩ :: strippedElements rest

def strippedAlternatives : List AltDecl → List AltDecl
  | [] => []
  | ⟨elements, label, _, rightAssoc, span⟩ :: rest =>
    ⟨strippedElements elements, label, [], rightAssoc, span⟩ :: strippedAlternatives rest

end

mutual

theorem atomCommands_stripped : ∀ a, atomCommands (strippedAtom a) = []
  | .group alternatives => by
    rw [strippedAtom, atomCommands, alternativesCommands_stripped alternatives]
  | .ref _ => rfl
  | .literal _ => rfl
  | .range _ _ => rfl
  | .set _ => rfl
  | .wildcard => rfl
  | .not _ => rfl

theorem elementsCommands_stripped : ∀ es, elementsCommands (strippedElements es) = []
  | [] => rfl
  | ⟨atom, _, _⟩ :: rest => by
    rw [strippedElements, elementsCommands, atomCommands_stripped atom,
      elementsCommands_stripped rest]
    rfl

theorem alternativesCommands_stripped : ∀ as, alternativesCommands (strippedAlternatives as) = []
  | [] => rfl
  | ⟨elements, _, _, _, _⟩ :: rest => by
    rw [strippedAlternatives, alternativesCommands, elementsCommands_stripped elements,
      alternativesCommands_stripped rest]
    rfl

end

mutual

theorem strippedAtom_stripped : ∀ a, strippedAtom (strippedAtom a) = strippedAtom a
  | .group alternatives => by
    rw [strippedAtom, strippedAtom, strippedAlternatives_stripped alternatives]
  | .ref _ => rfl
  | .literal _ => rfl
  | .range _ _ => rfl
  | .set _ => rfl
  | .wildcard => rfl
  | .not _ => rfl

theorem strippedElements_stripped :
    ∀ es, strippedElements (strippedElements es) = strippedElements es
  | [] => rfl
  | ⟨atom, _, _⟩ :: rest => by
    rw [strippedElements, strippedElements, strippedAtom_stripped atom,
      strippedElements_stripped rest]

theorem strippedAlternatives_stripped :
    ∀ as, strippedAlternatives (strippedAlternatives as) = strippedAlternatives as
  | [] => rfl
  | ⟨elements, _, _, _, _⟩ :: rest => by
    rw [strippedAlternatives, strippedAlternatives, strippedElements_stripped elements,
      strippedAlternatives_stripped rest]

end

def flatAlternative (a : AltDecl) : AltDecl := { a with elements := strippedElements a.elements }

def checkedRule (r : RuleDecl) : RuleDecl :=
  if r.isLexerRule then
    { r with alternatives :=
        if r.fragment.isSome then strippedAlternatives r.alternatives
        else r.alternatives.map flatAlternative }
  else r

/-- A document without the commands that are not looked at. -/
def checkedDecl (g : GrammarDecl) : GrammarDecl := { g with rules := g.rules.map checkedRule }

section Rules

variable {r : RuleDecl}

@[simp] theorem checkedRule_name (r : RuleDecl) : (checkedRule r).name = r.name := by
  unfold checkedRule
  split <;> rfl

@[simp] theorem checkedRule_fragment (r : RuleDecl) : (checkedRule r).fragment = r.fragment := by
  unfold checkedRule
  split <;> rfl

@[simp] theorem checkedRule_mode (r : RuleDecl) : (checkedRule r).mode = r.mode := by
  unfold checkedRule
  split <;> rfl

@[simp] theorem checkedRule_span (r : RuleDecl) : (checkedRule r).span = r.span := by
  unfold checkedRule
  split <;> rfl

@[simp] theorem checkedRule_isLexerRule (r : RuleDecl) :
    (checkedRule r).isLexerRule = r.isLexerRule := by
  simp [RuleDecl.isLexerRule]

theorem checkedRule_of_fragment (hlexer : r.isLexerRule) (hfragment : r.fragment.isSome) :
    (checkedRule r).alternatives = strippedAlternatives r.alternatives := by
  simp [checkedRule, hlexer, hfragment]

theorem checkedRule_of_token (hlexer : r.isLexerRule) (hfragment : ¬ r.fragment.isSome) :
    (checkedRule r).alternatives = r.alternatives.map flatAlternative := by
  simp [checkedRule, hlexer, hfragment]

theorem checkedRule_of_not_lexer (hlexer : ¬ r.isLexerRule) : checkedRule r = r := if_neg hlexer

/-- Erasing keeps the commands that are looked at and no others. -/
theorem checkedRule_commands (hlexer : r.isLexerRule) :
    checkedCommands (checkedRule r) = checkedCommands r ∧
      uncheckedCommands (checkedRule r) = [] := by
  unfold checkedCommands uncheckedCommands
  rw [checkedRule_fragment]
  by_cases hfragment : r.fragment.isSome
  · simp only [if_pos hfragment, true_and]
    rw [writtenCommands, checkedRule_of_fragment hlexer hfragment, alternativesCommands_stripped]
  · simp only [if_neg hfragment]
    rw [checkedRule_of_token hlexer hfragment]
    simp [List.flatMap_map, flatAlternative, elementsCommands_stripped]

theorem strippedAlternatives_flat (as : List AltDecl) :
    strippedAlternatives (as.map flatAlternative) = strippedAlternatives as := by
  induction as with
  | nil => rfl
  | cons a as ih =>
    rw [List.map_cons, flatAlternative, strippedAlternatives, strippedAlternatives, ih,
      strippedElements_stripped]

theorem checkedRule_stripped (r : RuleDecl) :
    strippedAlternatives (checkedRule r).alternatives = strippedAlternatives r.alternatives := by
  by_cases hlexer : r.isLexerRule
  · by_cases hfragment : r.fragment.isSome
    · rw [checkedRule_of_fragment hlexer hfragment, strippedAlternatives_stripped]
    · rw [checkedRule_of_token hlexer hfragment, strippedAlternatives_flat]
  · rw [checkedRule_of_not_lexer hlexer]

theorem atomPieces?_stripped (a : Atom) : atomPieces? (strippedAtom a) = atomPieces? a := by
  cases a <;> rfl

theorem rulePieces?_strip (r : RuleDecl) :
    rulePieces? { r with alternatives := strippedAlternatives r.alternatives } =
      rulePieces? r := by
  obtain ⟨name, fragment, mode, alternatives, span⟩ := r
  match alternatives with
  | [] => rfl
  | ⟨[], _, _, _, _⟩ :: _ => rfl
  | ⟨⟨_, some _, _⟩ :: _, _, _, _, _⟩ :: _ => rfl
  | ⟨⟨_, none, _⟩ :: _ :: _, _, _, _, _⟩ :: _ => rfl
  | ⟨[⟨atom, none, _⟩], _, _, _, _⟩ :: [] => exact atomPieces?_stripped atom
  | ⟨[⟨_, none, _⟩], _, _, _, _⟩ :: _ :: _ => rfl

theorem rulePieces?_checkedRule (r : RuleDecl) : rulePieces? (checkedRule r) = rulePieces? r := by
  rw [← rulePieces?_strip, ← rulePieces?_strip r, checkedRule_stripped]
  rfl

theorem soleLiteral?_checkedRule (hfragment : ¬ r.fragment.isSome) :
    soleLiteral? (checkedRule r) = soleLiteral? r := by
  by_cases hlexer : r.isLexerRule
  · have halts := checkedRule_of_token hlexer hfragment
    unfold soleLiteral?
    rw [halts]
    match r.alternatives with
    | [] => rfl
    | ⟨[], _, _, _, _⟩ :: _ => rfl
    | ⟨⟨atom, some _, _⟩ :: _, _, _, _, _⟩ :: _ => cases atom <;> rfl
    | ⟨⟨atom, none, _⟩ :: _ :: _, _, _, _, _⟩ :: _ => cases atom <;> rfl
    | ⟨[⟨atom, none, _⟩], _, [], _, _⟩ :: [] => cases atom <;> rfl
    | ⟨[⟨atom, none, _⟩], _, _ :: _, _, _⟩ :: [] => cases atom <;> rfl
    | ⟨[⟨atom, none, _⟩], _, [], _, _⟩ :: _ :: _ => cases atom <;> rfl
    | ⟨[⟨atom, none, _⟩], _, _ :: _, _, _⟩ :: _ :: _ => cases atom <;> rfl
  · rw [checkedRule_of_not_lexer hlexer]

end Rules

section Stripped

variable {lex lex' : Lexicon} {own : Bool} {inline : Ident → Checked Pattern}

mutual

theorem atomPattern_stripped (hneg : negatedPattern lex' own = negatedPattern lex own)
    (span : Span) : ∀ a,
    atomPattern lex' own inline span (strippedAtom a) = atomPattern lex own inline span a
  | .group alternatives => by
    rw [strippedAtom, atomPattern, atomPattern, alternativePatterns_stripped hneg alternatives]
  | .not items => by
    rw [strippedAtom, atomPattern, atomPattern, hneg]
  | .ref _ => rfl
  | .literal _ => rfl
  | .range _ _ => rfl
  | .set _ => rfl
  | .wildcard => rfl

theorem elementPatterns_stripped (hneg : negatedPattern lex' own = negatedPattern lex own) : ∀ es,
    elementPatterns lex' own inline (strippedElements es) = elementPatterns lex own inline es
  | [] => rfl
  | ⟨atom, none, span⟩ :: rest => by
    rw [strippedElements, elementPatterns, elementPatterns, elementPattern, elementPattern,
      atomPattern_stripped hneg span atom, elementPatterns_stripped hneg rest]
  | ⟨atom, some _, span⟩ :: rest => by
    rw [strippedElements, elementPatterns, elementPatterns, elementPattern, elementPattern,
      atomPattern_stripped hneg span atom, elementPatterns_stripped hneg rest]

theorem alternativePatterns_stripped (hneg : negatedPattern lex' own = negatedPattern lex own) :
    ∀ as,
    alternativePatterns lex' own inline (strippedAlternatives as) =
      alternativePatterns lex own inline as
  | [] => rfl
  | ⟨elements, _, _, _, _⟩ :: rest => by
    rw [strippedAlternatives, alternativePatterns, alternativePatterns,
      elementPatterns_stripped hneg elements, alternativePatterns_stripped hneg rest]

end

theorem alternativePatterns_eq (hneg : negatedPattern lex' own = negatedPattern lex own)
    {as bs : List AltDecl} (h : strippedAlternatives as = strippedAlternatives bs) :
    alternativePatterns lex' own inline as = alternativePatterns lex own inline bs :=
  calc alternativePatterns lex' own inline as
    _ = alternativePatterns lex' own inline (strippedAlternatives as) :=
      (alternativePatterns_stripped rfl as).symm
    _ = alternativePatterns lex' own inline (strippedAlternatives bs) := by rw [h]
    _ = alternativePatterns lex own inline bs := alternativePatterns_stripped hneg bs

end Stripped

section Lexicon

variable (lex : Lexicon)

def checkedLexicon : Lexicon := ⟨lex.source, lex.rules.map checkedRule⟩

theorem checkedLexicon_rule? (name : String) :
    (checkedLexicon lex).rule? name = (lex.rule? name).map checkedRule := by
  have hsame : (fun r : RuleDecl => r.isLexerRule && r.name.name == name) ∘ checkedRule =
      fun r => r.isLexerRule && r.name.name == name := by
    funext r
    simp
  rw [Lexicon.rule?, Lexicon.rule?, checkedLexicon, List.find?_map, hsame]

theorem checkedLexicon_hasParserRule (name : String) :
    (checkedLexicon lex).hasParserRule name = lex.hasParserRule name := by
  simp [Lexicon.hasParserRule, checkedLexicon, List.any_map, Function.comp_def]

theorem negatedPattern_checked (own : Bool) :
    negatedPattern (checkedLexicon lex) own = negatedPattern lex own := by
  have hset (name : String) : ((checkedLexicon lex).rule? name).bind rulePieces? =
      (lex.rule? name).bind rulePieces? := by
    rw [checkedLexicon_rule?, Option.bind_map]
    exact congrArg _ (funext rulePieces?_checkedRule)
  have hpieces : setItemPieces (checkedLexicon lex) own = setItemPieces lex own := by
    funext item
    unfold setItemPieces
    simp only [hset]
    rfl
  funext items span
  unfold negatedPattern
  rw [hpieces]
  rfl

theorem inlineRule_checked (room : Nat) (stack : List String) (ident : Ident) :
    inlineRule (checkedLexicon lex) room stack ident = inlineRule lex room stack ident := by
  induction room generalizing stack ident with
  | zero =>
    rw [inlineRule, inlineRule, checkedLexicon_rule?, checkedLexicon_hasParserRule]
    cases lex.rule? ident.name with
    | none => rfl
    | some r =>
      cases stack.idxOf? ident.name with
      | none => rfl
      | some index => cases index <;> rfl
  | succ room ih =>
    rw [inlineRule, inlineRule, checkedLexicon_rule?, checkedLexicon_hasParserRule]
    cases lex.rule? ident.name with
    | none => rfl
    | some r =>
      cases stack.idxOf? ident.name with
      | some index => cases index <;> rfl
      | none =>
        have hinline : inlineRule (checkedLexicon lex) room (stack ++ [ident.name]) =
            inlineRule lex room (stack ++ [ident.name]) := funext (ih _)
        simp only [Option.map_some, hinline,
          alternativePatterns_eq (negatedPattern_checked lex false) (checkedRule_stripped r)]

theorem ofAlternatives_checked (r : RuleDecl) {as bs : List AltDecl}
    (h : strippedAlternatives as = strippedAlternatives bs) :
    ofAlternatives (checkedLexicon lex) (checkedRule r) as = ofAlternatives lex r bs := by
  have hinline : inlineRule (checkedLexicon lex) (checkedLexicon lex).rules.length [r.name.name] =
      inlineRule lex lex.rules.length [r.name.name] := by
    funext ident
    rw [inlineRule_checked]
    simp [checkedLexicon]
  simp only [ofAlternatives, checkedRule_name, hinline,
    alternativePatterns_eq (negatedPattern_checked lex true) h]

variable (s : CommandScope)

theorem each_map {α β γ : Type} (f : β → Checked γ) (g : α → β) (as : List α) :
    Checked.each f (as.map g) = Checked.each (fun a => f (g a)) as := by
  induction as with
  | nil => rfl
  | cons a as ih => rw [List.map_cons, Checked.each, Checked.each, ih]

theorem tokenRules_checked {r : RuleDecl} (hlexer : r.isLexerRule)
    (hfragment : ¬ r.fragment.isSome) :
    tokenRules (checkedLexicon lex) s (checkedRule r) = tokenRules lex s r := by
  have halts := checkedRule_of_token hlexer hfragment
  have hactions : Checked.each (actionOf s) (checkedRule r).alternatives =
      Checked.each (actionOf s) r.alternatives := by
    rw [halts, each_map]
    rfl
  have hpatterns (together : Bool) : rulePatterns (checkedLexicon lex) (checkedRule r) together =
      rulePatterns lex r together := by
    unfold rulePatterns
    rw [ofAlternatives_checked lex r (checkedRule_stripped r), halts, each_map]
    have heach (a : AltDecl) : ofAlternatives (checkedLexicon lex) (checkedRule r)
        [flatAlternative a] = ofAlternatives lex r [a] :=
      ofAlternatives_checked lex r (strippedAlternatives_flat [a])
    simp only [heach]
  have hrule (type : Nat) : tokenRuleOf lex.source (checkedRule r) type =
      tokenRuleOf lex.source r type := by
    unfold tokenRuleOf
    simp only [checkedRule_name]
  have hsource : (checkedLexicon lex).source = lex.source := rfl
  unfold tokenRules
  simp only [hactions, hpatterns, checkedRule_name, hsource, hrule]

theorem rulesByMode_checked {rules : List RuleDecl} (hlexer : ∀ r ∈ rules, r.isLexerRule) :
    rulesByMode (checkedLexicon lex) s (rules.map checkedRule) = rulesByMode lex s rules := by
  induction rules with
  | nil => rfl
  | cons r rules ih =>
    have hrest := ih fun r' hr' => hlexer r' (List.mem_cons_of_mem _ hr')
    rw [List.map_cons, rulesByMode, rulesByMode, hrest, checkedRule_fragment, checkedRule_mode]
    by_cases hfragment : r.fragment.isSome
    · rw [if_pos hfragment, if_pos hfragment,
        ofAlternatives_checked lex r (checkedRule_stripped r)]
    · rw [if_neg hfragment, if_neg hfragment,
        tokenRules_checked lex s (hlexer r List.mem_cons_self) hfragment]

end Lexicon

theorem firstOfEach_checked (seen : List String) (rules : List RuleDecl) :
    firstOfEach (fun r : RuleDecl => r.name.name) seen (rules.map checkedRule) =
      (firstOfEach (fun r : RuleDecl => r.name.name) seen rules).map checkedRule := by
  induction rules generalizing seen with
  | nil => rfl
  | cons r rules ih =>
    simp only [List.map_cons, firstOfEach, checkedRule_name, ih]
    split <;> rfl

theorem allRuleDefects_checked (text : List Char) (kind : GrammarKind) (seen : List String)
    (rules : List RuleDecl) : allRuleDefects text kind seen (rules.map checkedRule) =
      allRuleDefects text kind seen rules := by
  induction rules generalizing seen with
  | nil => rfl
  | cons r rules ih =>
    have hrule : ruleDefects text kind (checkedRule r) = ruleDefects text kind r := by
      simp only [ruleDefects, misplacedIn?, checkedRule_name, checkedRule_fragment,
        checkedRule_isLexerRule]
    simp only [List.map_cons, allRuleDefects, checkedRule_name, ih, hrule]

theorem grammarDefects_checked (text : List Char) (g : GrammarDecl) :
    grammarDefects text (checkedDecl g) = grammarDefects text g := by
  have hkind : (checkedDecl g).kind = g.kind := rfl
  have hrules : (checkedDecl g).rules = g.rules.map checkedRule := rfl
  simp only [grammarDefects, hkind, hrules, allRuleDefects_checked, List.isEmpty_map]
  rfl

theorem filter_checked_parserRules (rules : List RuleDecl) :
    (rules.map checkedRule).filter (!·.isLexerRule) = rules.filter (!·.isLexerRule) := by
  induction rules with
  | nil => rfl
  | cons r rules ih =>
    by_cases hlexer : r.isLexerRule
    · simp [hlexer, ih]
    · simp [checkedRule_of_not_lexer hlexer, hlexer, ih]

/-- Token types do not depend on the commands that are not looked at. -/
theorem declareTokens_checked (names : List Ident) (lexerRules parserRules : List RuleDecl) :
    declareTokens names (lexerRules.map checkedRule) parserRules =
      declareTokens names lexerRules parserRules := by
  have hfilter : (lexerRules.map checkedRule).filter (·.fragment.isNone) =
      (lexerRules.filter (·.fragment.isNone)).map checkedRule := by
    simp [List.filter_map, Function.comp_def]
  have haliases : literalAliases ((lexerRules.filter (·.fragment.isNone)).map checkedRule) =
      literalAliases (lexerRules.filter (·.fragment.isNone)) := by
    unfold literalAliases
    rw [List.filterMap_map]
    refine List.filterMap_congr ?_
    intro r hr
    have hfragment : ¬ r.fragment.isSome := by
      simpa using (List.mem_filter.mp hr).2
    simp [soleLiteral?_checkedRule hfragment]
  simp only [declareTokens, hfilter, haliases, List.foldl_map, checkedRule_name]

theorem ruleInfo_checked (names : List String) (r : RuleDecl) :
    ruleInfo names (checkedRule r) = ruleInfo names r := by
  simp only [ruleInfo, checkedRule_name, checkedRule_fragment, checkedRule_mode, checkedRule_span]

/-- A document compiles to the same grammar, with the same defects, if the commands that are not
looked at are erased. -/
theorem grammarOf_checked (text : List Char) (start : Option String) (g : GrammarDecl) :
    grammarOf text start (checkedDecl g) = grammarOf text start g := by
  have hfirst : firstOfEach (fun r : RuleDecl => r.name.name) [] (checkedDecl g).rules =
      (firstRules g).map checkedRule := firstOfEach_checked [] g.rules
  have hlexer : ((firstRules g).map checkedRule).filter (·.isLexerRule) =
      ((firstRules g).filter (·.isLexerRule)).map checkedRule := by
    simp [List.filter_map, Function.comp_def]
  have hmodes (s : CommandScope) (implicit : List (List Char × Nat)) :
      lexerModes ⟨text, (checkedDecl g).rules⟩ s implicit
        (((firstRules g).filter (·.isLexerRule)).map checkedRule) =
      lexerModes ⟨text, g.rules⟩ s implicit ((firstRules g).filter (·.isLexerRule)) := by
    have hkind : ∀ r ∈ (firstRules g).filter (·.isLexerRule), r.isLexerRule :=
      fun r hr => (List.mem_filter.mp hr).2
    have hrules := rulesByMode_checked ⟨text, g.rules⟩ s hkind
    have hlexicon : (⟨text, (checkedDecl g).rules⟩ : Lexicon) =
        checkedLexicon ⟨text, g.rules⟩ := rfl
    rw [lexerModes, lexerModes, hlexicon, hrules]
  have hinfo (names : List String) : ((firstRules g).map checkedRule).map (ruleInfo names) =
      (firstRules g).map (ruleInfo names) := by
    simp only [List.map_map, Function.comp_def, ruleInfo_checked]
  have hg : firstOfEach (fun r : RuleDecl => r.name.name) [] g.rules = firstRules g := rfl
  simp only [grammarOf, grammarDefects_checked, hfirst, hg, hlexer, filter_checked_parserRules,
    declareTokens_checked, hmodes, hinfo]
  rfl

theorem firstRules_of_accepted {text : List Char} {start : Option String} {g : Grammar}
    {decl : Checked GrammarDecl} (hread : read text = .ok decl) (h : compile text start = .ok g) :
    firstRules decl.value = decl.value.rules := by
  obtain ⟨decl', hread', hclean, -⟩ := Derivation.compile_ok h
  obtain rfl : decl = decl' := Except.ok.inj (hread.symm.trans hread')
  simp only [grammarOf, Checked.defects_bind, List.append_eq_nil_iff,
    Derivation.each_report_defects] at hclean
  have hdefects : allRuleDefects text decl.value.kind [] decl.value.rules = [] := by
    have hwhole := hclean.1
    simp only [grammarDefects, List.append_eq_nil_iff] at hwhole
    exact hwhole.2
  exact (Derivation.unique_of_no_defects hdefects).1

def AllResolve (text : List Char) (g : GrammarDecl) (commands : RuleDecl → List Command) : Prop :=
  ∀ r ∈ g.rules, r.isLexerRule → ∀ c ∈ commands r, Resolves (documentScope text g) c

instance (text : List Char) (g : GrammarDecl) (commands : RuleDecl → List Command) :
    Decidable (AllResolve text g commands) :=
  inferInstanceAs (Decidable (∀ r ∈ g.rules, r.isLexerRule → ∀ c ∈ commands r,
    Resolves (documentScope text g) c))

/-- A command behind an alternative of a token rule resolves, or the document is refused for its
fault. The other commands, in groups and fragments, may be anything: without them a document
compiles to the same grammar with the same defects. So the commands of an accepted document all
resolve exactly when these do. -/
theorem commands_resolve_iff {text : List Char} {decl : Checked GrammarDecl}
    (hread : read text = .ok decl) (start : Option String) :
    (∀ r ∈ firstRules decl.value, r.isLexerRule → ∀ c ∈ checkedCommands r,
      ¬ Resolves (documentScope text decl.value) c →
        ∃ kind span, Fault (documentScope text decl.value) c kind span ∧
          ∃ ds, compile text start = .error ds ∧ .inText text kind span ∈ ds) ∧
    (∀ g, compile text start = .ok g →
      (AllResolve text decl.value writtenCommands ↔
        AllResolve text decl.value uncheckedCommands)) ∧
    grammarOf text start (checkedDecl decl.value) = grammarOf text start decl.value ∧
    ∀ r ∈ decl.value.rules, r.isLexerRule →
      checkedCommands (checkedRule r) = checkedCommands r ∧
        uncheckedCommands (checkedRule r) = [] := by
  have hreported : ∀ r ∈ firstRules decl.value, r.isLexerRule → ∀ c ∈ checkedCommands r,
      ¬ Resolves (documentScope text decl.value) c → _ := fun r hr hlexer c hc hfaulty =>
    compile_fault hread start hr hlexer hc hfaulty
  refine ⟨hreported, ?_, grammarOf_checked text start decl.value,
    fun r _ hlexer => checkedRule_commands hlexer⟩
  intro g h
  constructor
  · intro hall r hr hlexer c hc
    exact hall r hr hlexer c (mem_writtenCommands.mpr (.inr hc))
  · intro hall r hr hlexer c hc
    rcases mem_writtenCommands.mp hc with hchecked | hunchecked
    · by_contra hfaulty
      rw [← firstRules_of_accepted hread h] at hr
      obtain ⟨_, _, -, ds, hrefused, -⟩ := hreported r hr hlexer c hchecked hfaulty
      rw [h] at hrefused
      cases hrefused
    · exact hall r hr hlexer c hunchecked

def strayText : List Char := "A:('a'->jump)F->skip;fragment F:'b'->mode(M);".toList

theorem commands_resolve_iff_stray : ∃ decl g, read strayText = .ok decl ∧
    compile strayText none = .ok g ∧
    (AllResolve strayText decl.value writtenCommands ↔
      AllResolve strayText decl.value uncheckedCommands) ∧
    grammarOf strayText none (checkedDecl decl.value) = grammarOf strayText none decl.value := by
  have hg : ∃ g ∈ (compile strayText none).toOption, g.modes.length = 1 := by decide +kernel
  obtain ⟨g, hg, -⟩ := hg
  have hcompile := Derivation.toOption_eq_some.mp hg
  obtain ⟨decl, hread, -⟩ := Derivation.compile_ok hcompile
  obtain ⟨-, hiff, herased, -⟩ := commands_resolve_iff hread none
  exact ⟨decl, g, hread, hcompile, hiff g hcompile, herased⟩

/-- A document is accepted although a command in a group is unknown and a fragment names a mode that
is not declared. -/
theorem commands_unresolved_accepted : ∃ g ∈ (compile strayText none).toOption,
    ∃ decl ∈ (read strayText).toOption, ¬ AllResolve strayText decl.value writtenCommands := by
  decide +kernel

end GrammarWorkbench.Lexical
