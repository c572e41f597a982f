import GrammarWorkbench.Compile.Tokens
import GrammarWorkbench.Declaration.Read
import GrammarWorkbench.Proofs.Derivation.Words
import GrammarWorkbench.Run.Tree

/-!
# Words and derivation trees of declared rules

The parser rules of a document are read as languages in the form they are declared in: names
stand for token types and rules, and an alternative that starts with its own rule is an
alternative like any other. A derivation tree is a tree in which the children of every rule node
spell one declared alternative of the rule.
-/

set_option autoImplicit false

namespace GrammarWorkbench.Derivation

open GrammarWorkbench.Declaration GrammarWorkbench.Model GrammarWorkbench.Compile
open GrammarWorkbench.Run
open scoped Computability

structure DeclaredGrammar where
  types : TokenTypes
  rules : List RuleDecl

namespace DeclaredGrammar

def ofDeclarations (g : GrammarDecl) : DeclaredGrammar where
  types := declareTokens g.tokens (g.rules.filter (·.isLexerRule))
    (g.rules.filter (!·.isLexerRule))
  rules := g.rules.filter (!·.isLexerRule)

def ofText? (text : List Char) : Option DeclaredGrammar :=
  (read text).toOption.map fun g => ofDeclarations g.value

def ruleNames (d : DeclaredGrammar) : List String := d.rules.map (·.name.name)

def itemTypes (d : DeclaredGrammar) : SetItem → Set Nat
  | .literal text _ => {t | d.types.literal? text = some t}
  | .ref ident => {t | d.types.name? ident.name = some t}
  | .range _ _ => ∅
  | .set _ => ∅

end DeclaredGrammar

def suffixed {σ : Type} (l : Language σ) : Option Suffix → Language σ
  | none => l
  | some suffix => repetition l suffix.kind

section Reading

variable {σ : Type} (d : DeclaredGrammar)
variable (terminal : Set Nat → Language σ) (call : Nat → Language σ)

def nameWords (name : String) : Language σ :=
  if isTokenName name then terminal {t | d.types.name? name = some t}
  else
    match d.ruleNames.idxOf? name with
    | some i => call i
    | none => 0

variable {d terminal call} in
theorem nameWords_token {name : String} (h : isTokenName name) :
    nameWords d terminal call name = terminal {t | d.types.name? name = some t} :=
  if_pos h

variable {d terminal call} in
theorem nameWords_rule {name : String} {i : Nat} (h : ¬ isTokenName name)
    (hi : d.ruleNames.idxOf? name = some i) : nameWords d terminal call name = call i := by
  rw [nameWords, if_neg h, hi]

mutual

def atomWords : Atom → Language σ
  | .ref ident => nameWords d terminal call ident.name
  | .literal text => terminal {t | d.types.literal? text = some t}
  | .wildcard => terminal {t | t ≠ endType}
  | .not items => terminal {t | t ≠ endType ∧ ∀ item ∈ items, t ∉ d.itemTypes item}
  | .range _ _ => 0
  | .set _ => 0
  | .group alternatives =>
    if alternatives.isEmpty then 1 else alternativesWords alternatives

def elementsWords : List ElementDecl → Language σ
  | [] => 1
  | ⟨atom, suffix, _⟩ :: rest => suffixed (atomWords atom) suffix * elementsWords rest

def alternativesWords : List AltDecl → Language σ
  | [] => 0
  | ⟨elements, _, _, _, _⟩ :: rest => elementsWords elements + alternativesWords rest

end

/-- The words of a rule. As in a group, no alternatives at all would count as empty. -/
def declaredRuleWords (r : RuleDecl) : Language σ :=
  atomWords d terminal call (.group r.alternatives)

end Reading

section Monotone

variable {σ : Type} {d : DeclaredGrammar} {terminal : Set Nat → Language σ}
variable {call call' : Nat → Language σ} (h : call ≤ call')

theorem repetition_mono {l m : Language σ} (hlm : l ≤ m) (kind : RepeatKind) :
    repetition l kind ≤ repetition m kind := by
  cases kind with
  | optional => exact add_le_add le_rfl hlm
  | zeroOrMore => exact kstar_mono hlm
  | oneOrMore => exact mul_le_mul' hlm (kstar_mono hlm)

theorem suffixed_mono {l m : Language σ} (hlm : l ≤ m) (suffix : Option Suffix) :
    suffixed l suffix ≤ suffixed m suffix := by
  cases suffix with
  | none => exact hlm
  | some s => exact repetition_mono hlm s.kind

include h in
theorem nameWords_mono (name : String) :
    nameWords d terminal call name ≤ nameWords d terminal call' name := by
  by_cases hn : isTokenName name
  · rw [nameWords_token hn, nameWords_token hn]
  · cases hi : d.ruleNames.idxOf? name with
    | none => rw [nameWords, nameWords, if_neg hn, if_neg hn, hi]
    | some i =>
      rw [nameWords_rule hn hi, nameWords_rule hn hi]
      exact h i

mutual

theorem atomWords_mono (h : call ≤ call') :
    ∀ a : Atom, atomWords d terminal call a ≤ atomWords d terminal call' a
  | .ref ident => by simpa only [atomWords] using nameWords_mono h ident.name
  | .literal _ | .wildcard | .not _ | .range _ _ | .set _ => by simp only [atomWords]; exact le_rfl
  | .group alternatives => by
    simp only [atomWords]
    split_ifs
    · exact le_rfl
    · exact alternativesWords_mono h alternatives

theorem elementsWords_mono (h : call ≤ call') :
    ∀ es : List ElementDecl, elementsWords d terminal call es ≤ elementsWords d terminal call' es
  | [] => by simp only [elementsWords]; exact le_rfl
  | ⟨atom, suffix, _⟩ :: rest => by
    simp only [elementsWords]
    exact mul_le_mul' (suffixed_mono (atomWords_mono h atom) suffix) (elementsWords_mono h rest)

theorem alternativesWords_mono (h : call ≤ call') :
    ∀ as : List AltDecl,
      alternativesWords d terminal call as ≤ alternativesWords d terminal call' as
  | [] => by simp only [alternativesWords]; exact le_rfl
  | ⟨elements, _, _, _, _⟩ :: rest => by
    simp only [alternativesWords]
    exact add_le_add (elementsWords_mono h elements) (alternativesWords_mono h rest)

end

end Monotone

def declaredStep (d : DeclaredGrammar) : (Nat → Language Nat) →o (Nat → Language Nat) where
  toFun call i := {w | ∃ r ∈ d.rules[i]?, w ∈ declaredRuleWords d typeWords call r}
  monotone' := by
    rintro call call' h i w ⟨r, hr, hw⟩
    exact ⟨r, hr, atomWords_mono h _ hw⟩

/-- The words over token types that the declared rule of an index derives: the least ones that
agree with the declarations. -/
def declaredWords (d : DeclaredGrammar) : Nat → Language Nat := OrderHom.lfp (declaredStep d)

theorem mem_declaredWords {d : DeclaredGrammar} {i : Nat} {w : List Nat} :
    w ∈ declaredWords d i ↔
      ∃ r, d.rules[i]? = some r ∧ w ∈ declaredRuleWords d typeWords (declaredWords d) r := by
  have h : declaredStep d (declaredWords d) i = declaredWords d i :=
    congrFun (OrderHom.map_lfp (declaredStep d)) i
  rw [← h]
  rfl

theorem declaredWords_le {d : DeclaredGrammar} {l : Nat → Language Nat}
    (h : ∀ i r, d.rules[i]? = some r → declaredRuleWords d typeWords l r ≤ l i) :
    declaredWords d ≤ l := by
  apply OrderHom.lfp_le
  rintro i w ⟨r, hr, hw⟩
  exact h i r hr hw

def leafWords (s : Set Nat) : Language Tree := {w | ∃ t : Token, t.type ∈ s ∧ w = [.token t]}

def nodeWords (index : Nat) : Language Tree := {w | ∃ children, w = [.rule index children]}

/-- A tree in which the children of every rule node spell one declared alternative of the rule:
a reference contributes one node of its rule, a terminal one token that it matches, a group the
children of one of its alternatives, and a loop those of an allowed number of rounds. -/
inductive DerivationTree (d : DeclaredGrammar) : Tree → Prop
  | token (t : Token) : DerivationTree d (.token t)
  | rule {index : Nat} {r : RuleDecl} {children : List Tree} (hr : d.rules[index]? = some r)
      (hw : children ∈ declaredRuleWords d leafWords nodeWords r)
      (hc : ∀ c ∈ children, DerivationTree d c) : DerivationTree d (.rule index children)

end GrammarWorkbench.Derivation
