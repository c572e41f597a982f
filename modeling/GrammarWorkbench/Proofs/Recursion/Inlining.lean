import GrammarWorkbench.Proofs.Lexical.Commands
import GrammarWorkbench.Proofs.Recursion.Cycles

/-!
# Inlining ends, and recursion is reported where it starts

A reference in a lexer rule is replaced by the pattern of the rule it names, and so on, however the
rules refer to one another. A rule that is being inlined is not entered again, so there is an end:
no more rules are entered inside one another than there are rules. The translation of a rule reports
a recursion exactly if the rule can reach itself, and what it reports is a cycle through the rule.
For a rule that only leads to a cycle nothing is reported: the cycle is cut short without a word.
-/

set_option autoImplicit false

namespace GrammarWorkbench.Lexical

open GrammarWorkbench.Text GrammarWorkbench.Declaration GrammarWorkbench.Diagnostic
open GrammarWorkbench.Model GrammarWorkbench.Pattern GrammarWorkbench.Compile
open GrammarWorkbench.Analysis (IsCycle transGen_of_chain)

section Lexicon

variable (lex : Lexicon)

/-- What stands for a name without a lexer rule: nothing, and a report if the name is written in the
outermost rule. -/
def unnamedPattern (stack : List String) (ident : Ident) : Checked Pattern := do
  let kind : Kind :=
    if lex.hasParserRule ident.name then .parserRuleInLexer ident.name (stack.head?.getD "")
    else .undefinedRule ident.name
  reportOwn lex (stack.length == 1) kind ident.span
  return .nothing

/-- What stands for the name of the outermost rule: nothing, and a report of the way back to it. -/
def backPattern (stack : List String) (ident : Ident) : Checked Pattern := do
  let chain := " -> ".intercalate (stack ++ [ident.name])
  Checked.report (lex.defect (.recursiveLexerRule chain) ident.span)
  return .nothing

/-- What stands for a reference when as many rules are inlined as it takes. `stack` holds the names
of the rules being inlined, the outermost first. -/
inductive Expands : List String → Ident → Checked Pattern → Prop
  | unnamed {stack : List String} {ident : Ident} (h : lex.rule? ident.name = none) :
    Expands stack ident (unnamedPattern lex stack ident)
  | back {stack : List String} {ident : Ident} {rule : RuleDecl}
    (h : lex.rule? ident.name = some rule) (hfirst : stack.head? = some ident.name) :
    Expands stack ident (backPattern lex stack ident)
  | inner {stack : List String} {ident : Ident} {rule : RuleDecl}
    (h : lex.rule? ident.name = some rule) (hmem : ident.name ∈ stack)
    (hfirst : stack.head? ≠ some ident.name) : Expands stack ident (pure .nothing)
  | enter {stack : List String} {ident : Ident} {rule : RuleDecl} {inline : Ident → Checked Pattern}
    (h : lex.rule? ident.name = some rule) (hnew : ident.name ∉ stack)
    (hinline : ∀ ref, .ref ref ∈ alternativesLeaves rule.alternatives →
      Expands (stack ++ [ident.name]) ref (inline ref)) :
    Expands stack ident do
      let ps ← alternativePatterns lex false inline rule.alternatives
      return .group (.choice ps)

/-- The pattern of alternatives of a rule when as many rules are inlined as it takes. -/
def Translates (rule : RuleDecl) (as : List AltDecl) (c : Checked Pattern) : Prop :=
  ∃ inline : Ident → Checked Pattern,
    (∀ ref, .ref ref ∈ alternativesLeaves as → Expands lex [rule.name.name] ref (inline ref)) ∧
    c = do return .choice (← alternativePatterns lex true inline as)

variable {lex}

section Congruence

variable {own : Bool} {inline inline' : Ident → Checked Pattern}

mutual

/-- A pattern depends only on what stands for the references in it. -/
theorem atomPattern_congr (span : Span) : ∀ a : Atom,
    (∀ ref, .ref ref ∈ atomLeaves a → inline ref = inline' ref) →
    atomPattern lex own inline span a = atomPattern lex own inline' span a
  | .ref ident, h => by
    rw [atomLeaves] at h
    simpa [atomPattern] using h ident (by simp)
  | .group alternatives, h => by
    rw [atomLeaves] at h
    rw [atomPattern, atomPattern, alternativePatterns_congr alternatives h]
  | .literal _, _ | .range _ _, _ | .set _, _ | .wildcard, _ | .not _, _ => by
    rw [atomPattern, atomPattern]

theorem elementPatterns_congr : ∀ es : List ElementDecl,
    (∀ ref, .ref ref ∈ elementsLeaves es → inline ref = inline' ref) →
    elementPatterns lex own inline es = elementPatterns lex own inline' es
  | [], _ => by rw [elementPatterns, elementPatterns]
  | ⟨atom, suffix, span⟩ :: es, h => by
    rw [elementsLeaves] at h
    have hatom := atomPattern_congr span atom fun ref href => h ref (List.mem_append_left _ href)
    have hrest := elementPatterns_congr es fun ref href => h ref (List.mem_append_right _ href)
    have hone : elementPattern lex own inline ⟨atom, suffix, span⟩ =
        elementPattern lex own inline' ⟨atom, suffix, span⟩ := by
      cases suffix <;> simp only [elementPattern, hatom]
    rw [elementPatterns, elementPatterns, hone, hrest]

theorem alternativePatterns_congr : ∀ as : List AltDecl,
    (∀ ref, .ref ref ∈ alternativesLeaves as → inline ref = inline' ref) →
    alternativePatterns lex own inline as = alternativePatterns lex own inline' as
  | [], _ => by rw [alternativePatterns, alternativePatterns]
  | ⟨elements, _, _, _, _⟩ :: as, h => by
    rw [alternativesLeaves] at h
    rw [alternativePatterns, alternativePatterns,
      elementPatterns_congr elements fun ref href => h ref (List.mem_append_left _ href),
      alternativePatterns_congr as fun ref href => h ref (List.mem_append_right _ href)]

end

end Congruence

theorem Expands.unique {stack : List String} {ident : Ident} {c c' : Checked Pattern}
    (h : Expands lex stack ident c) (h' : Expands lex stack ident c') : c = c' := by
  induction h generalizing c' with
  | unnamed hrule =>
    cases h' <;> simp_all
  | back hrule hfirst =>
    cases h' with
    | back _ _ => rfl
    | unnamed hnone => simp_all
    | inner _ _ hother => exact absurd hfirst hother
    | enter _ hnew _ => exact absurd (List.mem_of_mem_head? hfirst) hnew
  | inner hrule hmem hother =>
    cases h' with
    | inner _ _ _ => rfl
    | unnamed hnone => simp_all
    | back _ hfirst => exact absurd hfirst hother
    | enter _ hnew _ => exact absurd hmem hnew
  | enter hrule hnew _ ih =>
    cases h' with
    | unnamed hnone => simp_all
    | back _ hfirst => exact absurd (List.mem_of_mem_head? hfirst) hnew
    | inner _ hmem _ => exact absurd hmem hnew
    | enter hrule' _ hinline =>
      obtain rfl := Option.some.inj (hrule.symm.trans hrule')
      rw [alternativePatterns_congr _ fun ref href => ih ref href (hinline ref href)]

theorem inlineRule_unnamed {room : Nat} {stack : List String} {ident : Ident}
    (h : lex.rule? ident.name = none) :
    inlineRule lex room stack ident = unnamedPattern lex stack ident := by
  rw [inlineRule, h]
  rfl

theorem inlineRule_back {room : Nat} {stack : List String} {ident : Ident} {rule : RuleDecl}
    (h : lex.rule? ident.name = some rule) (hfirst : stack.head? = some ident.name) :
    inlineRule lex room stack ident = backPattern lex stack ident := by
  obtain ⟨names, rfl⟩ := List.head?_eq_some_iff.mp hfirst
  rw [inlineRule, h]
  simp [List.idxOf?_cons, backPattern]

theorem inlineRule_inner {room : Nat} {stack : List String} {ident : Ident} {rule : RuleDecl}
    (h : lex.rule? ident.name = some rule) (hmem : ident.name ∈ stack)
    (hfirst : stack.head? ≠ some ident.name) : inlineRule lex room stack ident = pure .nothing := by
  cases stack with
  | nil => cases hmem
  | cons name names =>
    have hne : name ≠ ident.name := fun heq => hfirst (by rw [heq]; rfl)
    have hlater : ident.name ∈ names := (List.mem_cons.mp hmem).resolve_left (Ne.symm hne)
    obtain ⟨place, hplace⟩ := Option.isSome_iff_exists.mp (List.isSome_idxOf?.mpr hlater)
    rw [inlineRule, h]
    simp [List.idxOf?_cons, hne, hplace]

/-- Different names of lexer rules are no more than there are rules. -/
theorem length_names_le {names : List String} (hnodup : names.Nodup)
    (hrules : ∀ name ∈ names, (lex.rule? name).isSome) : names.length ≤ lex.rules.length := by
  have hsub : names ⊆ lex.rules.map (·.name.name) := by
    intro name hname
    obtain ⟨rule, hrule⟩ := Option.isSome_iff_exists.mp (hrules name hname)
    have hr := isRule_of_rule? hrule
    exact List.mem_map.mpr ⟨rule, hr.mem, hr.name_eq⟩
  have hle := (List.subperm_of_subset hnodup hsub).length_le
  rwa [List.length_map] at hle

theorem expands_or_new (room : Nat) (stack : List String) (ident : Ident) :
    Expands lex stack ident (inlineRule lex room stack ident) ∨
      ∃ rule, lex.rule? ident.name = some rule ∧ ident.name ∉ stack := by
  cases hrule : lex.rule? ident.name with
  | none => exact .inl (inlineRule_unnamed hrule ▸ .unnamed hrule)
  | some rule =>
    by_cases hfirst : stack.head? = some ident.name
    · exact .inl (inlineRule_back hrule hfirst ▸ .back hrule hfirst)
    · by_cases hmem : ident.name ∈ stack
      · exact .inl (inlineRule_inner hrule hmem hfirst ▸ .inner hrule hmem hfirst)
      · exact .inr ⟨rule, rfl, hmem⟩

/-- With room for as many rules as are not being inlined yet, the bound is never met. The first name
may be that of a rule outside the lexicon. -/
theorem expands_inlineRule (first : String) (room : Nat) : ∀ (names : List String) (ident : Ident),
    (first :: names).Nodup → (∀ name ∈ names, (lex.rule? name).isSome) →
    names.length + room = lex.rules.length →
    Expands lex (first :: names) ident (inlineRule lex room (first :: names) ident) := by
  induction room with
  | zero =>
    intro names ident hnodup hrules hlength
    obtain hdone | ⟨rule, hrule, hnew⟩ := expands_or_new 0 (first :: names) ident
    · exact hdone
    · -- one name more than there are rules
      have hlonger : (ident.name :: names).length ≤ lex.rules.length := by
        apply length_names_le
        · exact List.nodup_cons.mpr
            ⟨fun hmem => hnew (List.mem_cons_of_mem _ hmem), hnodup.of_cons⟩
        · exact List.forall_mem_cons.mpr ⟨by rw [hrule]; rfl, hrules⟩
      rw [List.length_cons] at hlonger
      omega
  | succ room ih =>
    intro names ident hnodup hrules hlength
    obtain hdone | ⟨rule, hrule, hnew⟩ := expands_or_new (room + 1) (first :: names) ident
    · exact hdone
    · rw [inlineRule_new hrule hnew]
      refine .enter hrule hnew fun ref _ => ih (names ++ [ident.name]) ref ?_ ?_ ?_
      · rw [← List.cons_append]
        exact hnodup.append (List.nodup_singleton _) (by simpa using hnew)
      · intro name hname
        rcases List.mem_append.mp hname with hname | hname
        · exact hrules name hname
        · rw [List.mem_singleton.mp hname, hrule]
          rfl
      · rw [List.length_append, List.length_singleton]
        omega

theorem expands_start (name : String) (ref : Ident) :
    Expands lex [name] ref (inlineRule lex lex.rules.length [name] ref) :=
  expands_inlineRule name _ [] ref (by simp) (by simp) (by simp)

/-- The translation of alternatives of a rule has an end, and the pattern is what it comes to. -/
theorem translates_iff {rule : RuleDecl} {as : List AltDecl} {c : Checked Pattern} :
    Translates lex rule as c ↔ c = ofAlternatives lex rule as := by
  constructor
  · rintro ⟨inline, hinline, rfl⟩
    have hinline' := fun ref href => (hinline ref href).unique (expands_start _ ref)
    rw [alternativePatterns_congr as hinline']
    rfl
  · rintro rfl
    exact ⟨_, fun ref _ => expands_start _ ref, rfl⟩

/-- The rule of one name refers to another name, outside negated sets. Of the lexer rules of a name
the first one counts. -/
def Refers (lex : Lexicon) (m n : String) : Prop :=
  ∃ rule, lex.rule? m = some rule ∧ ∃ ident, .ref ident ∈ alternativesLeaves rule.alternatives ∧
    ident.name = n

def isRecursion (d : Defect) : Bool :=
  match d.kind with
  | .recursiveLexerRule _ => true
  | _ => false

def recursions {α : Type} (c : Checked α) : List Defect := c.defects.filter isRecursion

section Recursions

variable {α β : Type}

@[simp] theorem recursions_pure (a : α) : recursions (pure a : Checked α) = [] := rfl

@[simp] theorem recursions_bind (c : Checked α) (f : α → Checked β) :
    recursions (c >>= f) = recursions c ++ recursions (f c.value) := by
  simp [recursions]

theorem recursions_each (f : α → Checked β) (as : List α) :
    recursions (Checked.each f as) = as.flatMap fun a => recursions (f a) := by
  simp [recursions, defects_each, List.filter_flatMap]

theorem recursions_report {kind : Kind} {span : Span} (own : Bool)
    (h : ∀ chain, kind ≠ .recursiveLexerRule chain) :
    recursions (reportOwn lex own kind span) = [] := by
  cases own
  · rfl
  · cases kind <;> first | rfl | exact absurd rfl (h _)

end Recursions

theorem recursions_setItemPieces (own : Bool) (item : SetItem) :
    recursions (setItemPieces lex own item) = [] := by
  unfold setItemPieces
  split
  · rfl
  · rfl
  · rfl
  · simp [recursions_report]
  · split
    · rfl
    · simp [recursions_report]

theorem recursions_negatedPattern (own : Bool) (items : List SetItem) (span : Span) :
    recursions (negatedPattern lex own items span) = [] := by
  unfold negatedPattern
  simp only [recursions_bind, recursions_each, recursions_setItemPieces]
  split <;> simp [recursions_report]

section References

variable {own : Bool} {inline : Ident → Checked Pattern} {d : Defect}

mutual

/-- Recursions are found in what stands for references, and nowhere else. -/
theorem mem_recursions_atom (span : Span) : ∀ a : Atom,
    d ∈ recursions (atomPattern lex own inline span a) ↔
      ∃ ref, .ref ref ∈ atomLeaves a ∧ d ∈ recursions (inline ref)
  | .ref ident => by simp [atomPattern, atomLeaves]
  | .group alternatives => by
    simpa [atomPattern, atomLeaves] using mem_recursions_alternatives alternatives
  | .not items => by simp [atomPattern, atomLeaves, recursions_negatedPattern]
  | .literal _ | .range _ _ | .set _ | .wildcard => by simp [atomPattern, atomLeaves]

theorem mem_recursions_elements : ∀ es : List ElementDecl,
    d ∈ recursions (elementPatterns lex own inline es) ↔
      ∃ ref, .ref ref ∈ elementsLeaves es ∧ d ∈ recursions (inline ref)
  | [] => by simp [elementPatterns, elementsLeaves]
  | ⟨atom, suffix, span⟩ :: es => by
    have hone : recursions (elementPattern lex own inline ⟨atom, suffix, span⟩) =
        recursions (atomPattern lex own inline span atom) := by
      cases suffix <;> simp [elementPattern]
    simp [elementPatterns, elementsLeaves, hone, mem_recursions_atom span atom,
      mem_recursions_elements es, or_and_right, exists_or]

theorem mem_recursions_alternatives : ∀ as : List AltDecl,
    d ∈ recursions (alternativePatterns lex own inline as) ↔
      ∃ ref, .ref ref ∈ alternativesLeaves as ∧ d ∈ recursions (inline ref)
  | [] => by simp [alternativePatterns, alternativesLeaves]
  | ⟨elements, _, _, _, _⟩ :: as => by
    simp [alternativePatterns, alternativesLeaves, mem_recursions_elements elements,
      mem_recursions_alternatives as, or_and_right, exists_or]

end

end References

def Reports (lex : Lexicon) (name : String) (d : Defect) : Prop :=
  ∃ cycle span, IsCycle (Refers lex) cycle ∧ cycle.head? = some name ∧
    d = lex.defect (.recursiveLexerRule (" -> ".intercalate cycle)) span

/-- While rules that refer to one another are inlined, each recursion that is found is a cycle
through the first of them. -/
theorem Expands.reports {stack : List String} {ident : Ident} {c : Checked Pattern}
    (h : Expands lex stack ident c) {name : String} (hname : stack.head? = some name)
    (hchain : (stack ++ [ident.name]).IsChain (Refers lex)) (hnodup : stack.Nodup) :
    ∀ d ∈ recursions c, Reports lex name d := by
  induction h with
  | unnamed _ =>
    intro d hd
    rw [unnamedPattern, recursions_bind,
      recursions_report _ (by intro chain; split <;> simp)] at hd
    cases hd
  | @back stack ident _ _ hfirst =>
    obtain ⟨middle, rfl⟩ := List.head?_eq_some_iff.mp hfirst
    intro d hd
    have hreported := List.mem_singleton.mp (List.mem_filter.mp hd).1
    exact ⟨_, ident.span, ⟨hchain, ident.name, middle, rfl, hnodup⟩, hname, hreported⟩
  | inner _ _ _ =>
    intro d hd
    cases hd
  | @enter stack ident rule inline hrule hnew _ ih =>
    intro d hd
    rw [recursions_bind, recursions_pure, List.append_nil] at hd
    obtain ⟨ref, href, hd⟩ := mem_recursions_alternatives _ |>.mp hd
    have hstep : Refers lex ident.name ref.name := ⟨rule, hrule, ref, href, rfl⟩
    refine ih ref href ?_ ?_ ?_ d hd
    · rw [List.head?_append, hname]
      rfl
    · exact List.isChain_append.mpr ⟨hchain, by simp, by simpa using hstep⟩
    · exact hnodup.append (List.nodup_singleton _) (by simpa using hnew)

def RefersOutside (lex : Lexicon) (stack : List String) (m n : String) : Prop :=
  Refers lex m n ∧ m ∉ stack

/-- A way to a name avoids another one, or the last step away from the other one is the start of a
way that does. -/
theorem avoids_or_leaves {stack : List String} (a : String) {b x : String}
    (h : Relation.ReflTransGen (RefersOutside lex stack) x b) :
    Relation.ReflTransGen (RefersOutside lex (stack ++ [a])) x b ∨
      ∃ u, Refers lex a u ∧ Relation.ReflTransGen (RefersOutside lex (stack ++ [a])) u b := by
  induction h using Relation.ReflTransGen.head_induction_on with
  | refl => exact .inl .refl
  | @head x y hstep _ ih =>
    rcases ih with hrest | hleaves
    · by_cases hx : x = a
      · subst hx
        exact .inr ⟨y, hstep.1, hrest⟩
      · refine .inl (.head ⟨hstep.1, ?_⟩ hrest)
        rw [List.mem_append, List.mem_singleton]
        exact not_or.mpr ⟨hstep.2, hx⟩
    · exact .inr hleaves

/-- A name from which a way leads back to the first rule, around all that are being inlined, stands
for something with a recursion. Inner cycles cut the walk short, but the way goes on behind the last
time it leaves a name. -/
theorem Expands.recursions_ne_nil {stack : List String} {ident : Ident} {c : Checked Pattern}
    (h : Expands lex stack ident c) {name : String} (hname : stack.head? = some name)
    (hrule : (lex.rule? name).isSome)
    (hway : Relation.ReflTransGen (RefersOutside lex stack) ident.name name) :
    recursions c ≠ [] := by
  induction h with
  | unnamed hnone =>
    rcases hway.cases_head with rfl | ⟨_, ⟨⟨rule, hrule', -⟩, -⟩, -⟩
    · simp [hnone] at hrule
    · rw [hnone] at hrule'
      cases hrule'
  | back _ _ => exact List.cons_ne_nil _ _
  | inner _ hmem hother =>
    rcases hway.cases_head with rfl | ⟨_, ⟨-, hnew⟩, -⟩
    · exact absurd hname hother
    · exact absurd hmem hnew
  | @enter stack ident rule inline hrule' hnew _ ih =>
    obtain haround | ⟨u, ⟨rule', hu, ref, href, rfl⟩, hrest⟩ :=
      avoids_or_leaves ident.name hway
    · rcases haround.cases_head with rfl | ⟨_, ⟨-, houtside⟩, -⟩
      · exact absurd (List.mem_of_mem_head? hname) hnew
      · exact absurd (List.mem_append_right _ List.mem_cons_self) houtside
    · obtain rfl := Option.some.inj (hrule'.symm.trans hu)
      have hfirst : (stack ++ [ident.name]).head? = some name := by
        rw [List.head?_append, hname]
        rfl
      obtain ⟨d, hd⟩ := List.exists_mem_of_ne_nil _ (ih ref href hfirst hrest)
      rw [recursions_bind, recursions_pure, List.append_nil]
      exact List.ne_nil_of_mem ((mem_recursions_alternatives _).mpr ⟨ref, href, hd⟩)

/-- The translations of a lexer rule: one of the whole rule if it is a fragment or its alternatives
end in the same commands, and else one of each alternative. -/
def translations (lex : Lexicon) (s : CommandScope) (r : RuleDecl) : Checked (List Pattern) :=
  rulePatterns lex r
    (r.fragment.isSome || allEqual (Checked.each (actionOf s) r.alternatives).value)

theorem mem_recursions_rulePatterns {r : RuleDecl} {together : Bool} {d : Defect} :
    d ∈ recursions (rulePatterns lex r together) ↔ ∃ ref,
      .ref ref ∈ alternativesLeaves r.alternatives ∧
        d ∈ recursions (inlineRule lex lex.rules.length [r.name.name] ref) := by
  have hof (as : List AltDecl) : d ∈ recursions (ofAlternatives lex r as) ↔ ∃ ref,
      .ref ref ∈ alternativesLeaves as ∧
        d ∈ recursions (inlineRule lex lex.rules.length [r.name.name] ref) := by
    simp [ofAlternatives, mem_recursions_alternatives]
  cases together with
  | true => simp [rulePatterns, hof]
  | false =>
    simp only [rulePatterns, Bool.false_eq_true, if_false, recursions_each, List.mem_flatMap, hof]
    constructor
    · rintro ⟨alt, halt, ref, href, hd⟩
      exact ⟨ref, alternativesLeaves_subset (by simpa using halt) href, hd⟩
    · rintro ⟨ref, href, hd⟩
      obtain ⟨alt, halt, hleaf⟩ := mem_alternativesLeaves.mp href
      exact ⟨alt, halt, ref, mem_alternativesLeaves.mpr ⟨alt, by simp, hleaf⟩, hd⟩

theorem recursions_applyCommand (s : CommandScope) (action : TokenAction) (c : Command) :
    recursions (applyCommand s action c) = [] := by
  unfold applyCommand
  dsimp only
  split
  · split_ifs
    · rfl
    · split <;> rfl
    · split <;> rfl
    · split <;> rfl
    · split <;> rfl
    · rfl
  · split_ifs <;> rfl

theorem recursions_actionOf (s : CommandScope) (alt : AltDecl) :
    recursions (actionOf s alt) = [] := by
  unfold actionOf
  generalize TokenAction.plain = action
  induction alt.commands generalizing action with
  | nil => rfl
  | cons c cs ih => rw [applyCommands, recursions_bind, recursions_applyCommand, ih]; rfl

theorem recursions_tokenRuleOf (source : List Char) (r : RuleDecl) (type : Nat) (isClean : Bool)
    (pattern : Pattern) (action : TokenAction) :
    recursions (tokenRuleOf source r type isClean pattern action) = [] := by
  unfold tokenRuleOf
  dsimp only
  split
  · split <;> rfl
  · split <;> rfl

theorem recursions_tokenRules (s : CommandScope) (r : RuleDecl) :
    recursions (tokenRules lex s r) = recursions
      (rulePatterns lex r (allEqual (Checked.each (actionOf s) r.alternatives).value)) := by
  have hactions : recursions (Checked.each (actionOf s) r.alternatives) = [] := by
    simp [recursions_each, recursions_actionOf]
  unfold tokenRules
  rw [recursions_bind, hactions, recursions_bind]
  split
  · simp
  · simp [Checked.eachSome, recursions_each, recursions_tokenRuleOf]

theorem recursions_rulesByMode (s : CommandScope) (rules : List RuleDecl) :
    recursions (rulesByMode lex s rules) =
      rules.flatMap fun r => recursions (translations lex s r) := by
  have hrule (r : RuleDecl) : recursions (translations lex s r) =
      if r.fragment.isSome then recursions (ofAlternatives lex r r.alternatives)
      else recursions (tokenRules lex s r) := by
    rw [recursions_tokenRules, translations]
    split
    · rename_i hfragment
      simp [hfragment, rulePatterns]
    · rename_i hfragment
      simp [hfragment]
  rw [recursions, rulesByMode_defects, List.filter_flatMap]
  congr 1
  funext r
  rw [hrule]
  split <;> rfl

theorem rule?_of_mem_firstOfEach {seen : List String} {rules : List RuleDecl} {r : RuleDecl}
    (hr : r ∈ firstOfEach (fun r => r.name.name) seen rules) (hlexer : r.isLexerRule) :
    r.name.name ∉ seen ∧
      (rules.find? fun r' => r'.isLexerRule && r'.name.name == r.name.name) = some r := by
  induction rules generalizing seen with
  | nil => cases hr
  | cons r' rules ih =>
    rw [firstOfEach] at hr
    split at hr
    · rename_i hseen
      obtain ⟨hnew, hfind⟩ := ih hr
      have hother : r'.name.name ≠ r.name.name := by
        intro heq
        exact hnew (heq ▸ List.contains_iff_mem.mp hseen)
      exact ⟨hnew, by simp [hother, hfind]⟩
    · rename_i hseen
      rcases List.mem_cons.mp hr with rfl | hr
      · exact ⟨fun hmem => hseen (List.contains_iff_mem.mpr hmem), by simp [hlexer]⟩
      · obtain ⟨hnew, hfind⟩ := ih hr
        rw [List.mem_cons, not_or] at hnew
        exact ⟨hnew.2, by simp [Ne.symm hnew.1, hfind]⟩

section Document

variable {r : RuleDecl} (hr : lex.rule? r.name.name = some r)
include hr

theorem reports_of_rulePatterns {together : Bool} :
    ∀ d ∈ recursions (rulePatterns lex r together), Reports lex r.name.name d := by
  intro d hd
  obtain ⟨ref, href, hd⟩ := mem_recursions_rulePatterns.mp hd
  have hstep : Refers lex r.name.name ref.name := ⟨r, hr, ref, href, rfl⟩
  exact (expands_start _ ref).reports rfl (by simpa using hstep) (by simp) d hd

theorem recursions_of_transGen {together : Bool}
    (h : Relation.TransGen (Refers lex) r.name.name r.name.name) :
    recursions (rulePatterns lex r together) ≠ [] := by
  obtain ⟨x, hx, hback⟩ := Relation.TransGen.head'_iff.mp h
  have hnone : Refers lex ≤ RefersOutside lex [] := fun m n hmn => ⟨hmn, by simp⟩
  have hway := Relation.ReflTransGen.mono hnone _ _ hback
  have hstart : ∃ u, Refers lex r.name.name u ∧
      Relation.ReflTransGen (RefersOutside lex [r.name.name]) u r.name.name :=
    (avoids_or_leaves r.name.name hway).elim (fun haround => ⟨x, hx, haround⟩) id
  obtain ⟨u, ⟨rule, hrule, ref, href, rfl⟩, haround⟩ := hstart
  obtain rfl := Option.some.inj (hr.symm.trans hrule)
  obtain ⟨d, hd⟩ := List.exists_mem_of_ne_nil _
    ((expands_start _ ref).recursions_ne_nil rfl (by simp [hr]) haround)
  exact List.ne_nil_of_mem (mem_recursions_rulePatterns.mpr ⟨ref, href, hd⟩)

end Document

end Lexicon

/-- Every translation has an end, whatever the rules refer to. The recursions that are reported for
the lexer rules of a document are those of their translations. The translation of the first rule of
a name reports one exactly if the rule reaches itself through references, and each is a cycle
through the rule. -/
theorem recursion_reported_iff (text : List Char) (g : GrammarDecl) (s : CommandScope) :
    (∀ rule as c,
      Translates ⟨text, g.rules⟩ rule as c ↔ c = ofAlternatives ⟨text, g.rules⟩ rule as) ∧
    recursions (rulesByMode ⟨text, g.rules⟩ s ((firstRules g).filter (·.isLexerRule))) =
      ((firstRules g).filter (·.isLexerRule)).flatMap
        (fun r => recursions (translations ⟨text, g.rules⟩ s r)) ∧
    ∀ r ∈ firstRules g, r.isLexerRule →
      (recursions (translations ⟨text, g.rules⟩ s r) ≠ [] ↔
        Relation.TransGen (Refers ⟨text, g.rules⟩) r.name.name r.name.name) ∧
      ∀ d ∈ recursions (translations ⟨text, g.rules⟩ s r),
        Reports ⟨text, g.rules⟩ r.name.name d := by
  refine ⟨fun rule as c => translates_iff, recursions_rulesByMode s _, fun r hr hlexer => ?_⟩
  have hfirst : (⟨text, g.rules⟩ : Lexicon).rule? r.name.name = some r :=
    (rule?_of_mem_firstOfEach hr hlexer).2
  refine ⟨⟨fun hne => ?_, recursions_of_transGen hfirst⟩, reports_of_rulePatterns hfirst⟩
  obtain ⟨d, hd⟩ := List.exists_mem_of_ne_nil _ hne
  obtain ⟨cycle, span, hcycle, hhead, -⟩ := reports_of_rulePatterns hfirst d hd
  obtain ⟨name, middle, rfl, -⟩ := hcycle.closed
  obtain rfl := Option.some.inj hhead
  exact transGen_of_chain hcycle.follows

/-- Two rules that refer to each other, one that only leads to them, a fragment and an alternative
that refer to their own rules, and a negated set that names its rule. -/
def cyclicText : List Char :=
  "A:'a'B;B:'b'A?;C:'c'A;fragment D:'d'|D;E:'e'->skip|E;F:~F;".toList

/-- The rules that report a recursion are the four that reach themselves. -/
theorem recursion_reported_iff_cyclic : ∃ decl ∈ (read cyclicText).toOption,
    (firstRules decl.value).map (·.name.name) = ["A", "B", "C", "D", "E", "F"] ∧
    ∀ r ∈ firstRules decl.value, r.isLexerRule ∧
      (recursions (translations ⟨cyclicText, decl.value.rules⟩
        (documentScope cyclicText decl.value) r) ≠ [] ↔ r.name.name ∈ ["A", "B", "D", "E"]) ∧
      (Relation.TransGen (Refers ⟨cyclicText, decl.value.rules⟩) r.name.name r.name.name ↔
        r.name.name ∈ ["A", "B", "D", "E"]) := by
  have hreported : ∃ decl ∈ (read cyclicText).toOption,
      (firstRules decl.value).map (·.name.name) = ["A", "B", "C", "D", "E", "F"] ∧
      ∀ r ∈ firstRules decl.value, r.isLexerRule ∧
        (recursions (translations ⟨cyclicText, decl.value.rules⟩
          (documentScope cyclicText decl.value) r) ≠ [] ↔ r.name.name ∈ ["A", "B", "D", "E"]) := by
    decide +kernel
  obtain ⟨decl, hdecl, hnames, hrules⟩ := hreported
  refine ⟨decl, hdecl, hnames, fun r hr => ?_⟩
  obtain ⟨hlexer, hlisted⟩ := hrules r hr
  have hiff := ((recursion_reported_iff cyclicText decl.value
    (documentScope cyclicText decl.value)).2.2 r hr hlexer).1
  exact ⟨hlexer, hlisted, hiff.symm.trans hlisted⟩

end GrammarWorkbench.Lexical
