import GrammarWorkbench.Proofs.Derivation.Declared
import GrammarWorkbench.Proofs.Pattern.Words
import GrammarWorkbench.Proofs.Reading.Rules
import Mathlib.Logic.Relation

/-!
# Languages of declared lexer rules

The lexer rules of a document are read as languages in the form they are declared in. A name stands
for the texts of the rule of that name. A negated set stands for any one character that none of its
members has; a name among the members stands for the characters of the set, range or character that
the rule of that name consists of. Operators that take as little as they can are read as the others.
-/

set_option autoImplicit false

namespace GrammarWorkbench.Lexical

open GrammarWorkbench.Declaration GrammarWorkbench.Pattern
open GrammarWorkbench.Derivation (suffixed suffixed_mono)
open scoped Computability

def between (lo hi : Char) : Set Char := {c | lo ≤ c ∧ c ≤ hi}

def itemMembers : ClassItem → Set Char
  | .range lo hi => between lo hi
  | .property name negated => propertyMembers name negated

def itemsMembers (items : List ClassItem) : Set Char := {c | ∃ item ∈ items, c ∈ itemMembers item}

def atomMembers : Atom → Set Char
  | .set items => itemsMembers items
  | .range lo hi => between lo hi
  | .literal text => {c | text = [c]}
  | _ => ∅

def soleAtom? (r : RuleDecl) : Option Atom :=
  match r.alternatives with
  | [⟨[⟨atom, none, _⟩], _, _, _, _⟩] => some atom
  | _ => none

structure IsRule (rules : List RuleDecl) (name : String) (r : RuleDecl) : Prop where
  mem : r ∈ rules
  isLexerRule : r.isLexerRule
  name_eq : r.name.name = name

section Reading

variable (rules : List RuleDecl)

def setItemMembers : SetItem → Set Char
  | .literal text _ => {c | text = [c]}
  | .range lo hi => between lo hi
  | .set items => itemsMembers items
  | .ref ident =>
    {c | ∃ r, IsRule rules ident.name r ∧ ∃ a ∈ soleAtom? r, c ∈ atomMembers a}

variable (call : String → Language Char)

mutual

def atomWords : Atom → Language Char
  | .ref ident => call ident.name
  | .literal text => {text}
  | .range lo hi => letters (between lo hi)
  | .set items => letters (itemsMembers items)
  | .wildcard => letters Set.univ
  | .not items => letters {c | ∀ item ∈ items, c ∉ setItemMembers rules item}
  | .group alternatives => alternativesWords alternatives

def elementsWords : List ElementDecl → Language Char
  | [] => 1
  | ⟨atom, suffix, _⟩ :: rest => suffixed (atomWords atom) suffix * elementsWords rest

def alternativesWords : List AltDecl → Language Char
  | [] => 0
  | ⟨elements, _, _, _, _⟩ :: rest => elementsWords elements + alternativesWords rest

end

end Reading

section Monotone

variable {rules : List RuleDecl} {call call' : String → Language Char}

mutual

theorem atomWords_mono (h : call ≤ call') :
    ∀ a : Atom, atomWords rules call a ≤ atomWords rules call' a
  | .ref ident => by simpa only [atomWords] using h ident.name
  | .literal _ | .range _ _ | .set _ | .wildcard | .not _ => by simp only [atomWords]; exact le_rfl
  | .group alternatives => by simpa only [atomWords] using alternativesWords_mono h alternatives

theorem elementsWords_mono (h : call ≤ call') :
    ∀ es : List ElementDecl, elementsWords rules call es ≤ elementsWords rules call' es
  | [] => by simp only [elementsWords]; exact le_rfl
  | ⟨atom, suffix, _⟩ :: rest => by
    simp only [elementsWords]
    exact mul_le_mul' (suffixed_mono (atomWords_mono h atom) suffix) (elementsWords_mono h rest)

theorem alternativesWords_mono (h : call ≤ call') :
    ∀ as : List AltDecl, alternativesWords rules call as ≤ alternativesWords rules call' as
  | [] => by simp only [alternativesWords]; exact le_rfl
  | ⟨elements, _, _, _, _⟩ :: rest => by
    simp only [alternativesWords]
    exact add_le_add (elementsWords_mono h elements) (alternativesWords_mono h rest)

end

end Monotone

section Rules

variable (rules : List RuleDecl)

def ruleStep : (String → Language Char) →o (String → Language Char) where
  toFun call name :=
    {w | ∃ r, IsRule rules name r ∧ w ∈ alternativesWords rules call r.alternatives}
  monotone' := by
    rintro call call' h name w ⟨r, hr, hw⟩
    exact ⟨r, hr, alternativesWords_mono h _ hw⟩

/-- The texts of the lexer rule of a name: the least ones that agree with the declarations. -/
def ruleWords : String → Language Char := OrderHom.lfp (ruleStep rules)

variable {rules}

theorem isRule_unique (h : (rules.map (·.name.name)).Nodup) {name : String} {r s : RuleDecl}
    (hr : IsRule rules name r) (hs : IsRule rules name s) : r = s :=
  List.inj_on_of_nodup_map h hr.mem hs.mem (hr.name_eq.trans hs.name_eq.symm)

theorem ruleWords_eq (h : (rules.map (·.name.name)).Nodup) {name : String} {r : RuleDecl}
    (hr : IsRule rules name r) :
    ruleWords rules name = alternativesWords rules (ruleWords rules) r.alternatives := by
  have hfixed : ruleStep rules (ruleWords rules) name = ruleWords rules name :=
    congrFun (OrderHom.map_lfp (ruleStep rules)) name
  rw [← hfixed]
  ext w
  constructor
  · rintro ⟨s, hs, hw⟩
    rwa [isRule_unique h hr hs]
  · intro hw
    exact ⟨r, hr, hw⟩

end Rules

/-- A rule refers to another by name, outside negated sets. -/
def RefersTo (rules : List RuleDecl) (r s : RuleDecl) : Prop :=
  ∃ ident, .ref ident ∈ alternativesLeaves r.alternatives ∧ IsRule rules ident.name s

def Reaches (rules : List RuleDecl) : RuleDecl → RuleDecl → Prop :=
  Relation.ReflTransGen (RefersTo rules)

mutual

def atomGreedy : Atom → Bool
  | .group alternatives => alternativesGreedy alternatives
  | _ => true

def elementsGreedy : List ElementDecl → Bool
  | [] => true
  | ⟨atom, suffix, _⟩ :: rest => atomGreedy atom && suffix.all (·.greedy) && elementsGreedy rest

def alternativesGreedy : List AltDecl → Bool
  | [] => true
  | ⟨elements, _, _, _, _⟩ :: rest => elementsGreedy elements && alternativesGreedy rest

end

theorem alternativesGreedy_iff {as : List AltDecl} :
    alternativesGreedy as ↔ ∀ a ∈ as, elementsGreedy a.elements := by
  induction as with
  | nil => simp [alternativesGreedy]
  | cons a as ih => simp [alternativesGreedy, ih]

/-- No operator in a rule or in a rule it refers to takes as little as it can. -/
def Greedy (rules : List RuleDecl) (r : RuleDecl) : Prop :=
  ∀ s, Reaches rules r s → alternativesGreedy s.alternatives

theorem greedy_of_all {rules : List RuleDecl} (h : ∀ s ∈ rules, alternativesGreedy s.alternatives)
    {r : RuleDecl} (hr : r ∈ rules) : Greedy rules r := by
  intro s hs
  cases hs with
  | refl => exact h r hr
  | tail _ hlast =>
    obtain ⟨ident, -, hrule⟩ := hlast
    exact h s hrule.mem

end GrammarWorkbench.Lexical
