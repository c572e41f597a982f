import GrammarWorkbench.Compile.Parser
import GrammarWorkbench.Proofs.Derivation.Declared

/-!
# Resolved parts have the words of the declared ones

When names and literals are resolved without a defect nothing is left out, and what results has
the words that were declared. This holds in every reading. Rules are called at precedence zero.
-/

set_option autoImplicit false

namespace GrammarWorkbench.Derivation

open GrammarWorkbench.Text GrammarWorkbench.Declaration GrammarWorkbench.Diagnostic
open GrammarWorkbench.Model GrammarWorkbench.Compile
open scoped Computability

def DeclaredGrammar.scope (d : DeclaredGrammar) (source : List Char) (rule : String) :
    ParserScope :=
  ⟨source, d.types, d.ruleNames, rule⟩

section Words

variable {σ α : Type} {terminal : Set Nat → Language σ} {call : Nat → Nat → Language σ}

theorem elementWords_type (t : Nat) :
    elementWords terminal call (.token (.type t) : Element α) = terminal {u | some t = some u} := by
  simp [elementWords, TokenMatch.accepts]

theorem blockWords_loopBody (e : Element Unit) :
    blockWords terminal call (loopBody e) = elementWords terminal call e := by
  cases e with
  | block body => simp [loopBody, elementWords]
  | token _ | rule _ | operand _ _ | loop _ _ _ _ =>
    simp [loopBody, blockWords, choiceWords, sequenceWords]

theorem elementWords_withSuffix (e : Element Unit) (suffix : Option Suffix) :
    elementWords terminal call (withSuffix e suffix) =
      suffixed (elementWords terminal call e) suffix := by
  cases suffix with
  | none => rfl
  | some s => simp [withSuffix, elementWords, suffixed, blockWords_loopBody]

end Words

section Resolve

variable {σ : Type} {d : DeclaredGrammar} {source : List Char} {rule : String}
variable {terminal : Set Nat → Language σ} {call : Nat → Nat → Language σ}

theorem token_clean {ident : Ident} (h : ((d.scope source rule).token ident).defects = []) :
    ∃ t, ((d.scope source rule).token ident).value = some t ∧
      d.types.name? ident.name = some t := by
  cases ht : d.types.name? ident.name with
  | none => simp [ParserScope.token, DeclaredGrammar.scope, ht, Checked.missing] at h
  | some t => exact ⟨t, by simp [ParserScope.token, DeclaredGrammar.scope, ht], rfl⟩

theorem literal_clean {text : List Char} {span : Span}
    (h : ((d.scope source rule).literal text span).defects = []) :
    ∃ t, ((d.scope source rule).literal text span).value = some t ∧
      d.types.literal? text = some t := by
  cases ht : d.types.literal? text with
  | none => simp [ParserScope.literal, DeclaredGrammar.scope, ht, Checked.missing] at h
  | some t => exact ⟨t, by simp [ParserScope.literal, DeclaredGrammar.scope, ht], rfl⟩

theorem reference_words {ident : Ident}
    (h : ((d.scope source rule).reference ident).defects = []) :
    ∃ e, ((d.scope source rule).reference ident).value = some e ∧
      elementWords terminal call e = nameWords d terminal (call · 0) ident.name := by
  by_cases hn : isTokenName ident.name
  · simp only [ParserScope.reference, hn, if_true, Checked.defects_bind, Checked.defects_pure,
      List.append_nil] at h
    obtain ⟨t, ht, hname⟩ := token_clean h
    refine ⟨.token (.type t), ?_, ?_⟩
    · simp [ParserScope.reference, hn, ht]
    · rw [elementWords_type, nameWords_token hn, hname]
  · have hs : (d.scope source rule).ruleNames = d.ruleNames := rfl
    cases hi : d.ruleNames.idxOf? ident.name with
    | none => simp [ParserScope.reference, hn, hs, hi, Checked.missing] at h
    | some i =>
      refine ⟨.rule i, ?_, ?_⟩
      · simp [ParserScope.reference, hn, hs, hi]
      · rw [nameWords_rule hn hi, elementWords]

theorem excluded_clean {span : Span} {item : SetItem}
    (h : ((d.scope source rule).excluded span item).defects = []) :
    ∃ t, ((d.scope source rule).excluded span item).value = some t ∧ d.itemTypes item = {t} := by
  cases item with
  | literal text place =>
    obtain ⟨t, hv, ht⟩ := literal_clean h
    exact ⟨t, hv, by ext u; simp [DeclaredGrammar.itemTypes, ht, eq_comm]⟩
  | ref ident =>
    obtain ⟨t, hv, ht⟩ := token_clean h
    exact ⟨t, hv, by ext u; simp [DeclaredGrammar.itemTypes, ht, eq_comm]⟩
  | range lo hi => simp [ParserScope.excluded, ParserScope.misplaced, Checked.missing] at h
  | set items => simp [ParserScope.excluded, ParserScope.misplaced, Checked.missing] at h

theorem each_excluded_clean {span : Span} {items : List SetItem}
    (h : (Checked.each ((d.scope source rule).excluded span) items).defects = []) (t : Nat) :
    some t ∈ (Checked.each ((d.scope source rule).excluded span) items).value ↔
      ∃ item ∈ items, t ∈ d.itemTypes item := by
  induction items with
  | nil => simp [Checked.each, Checked.clean]
  | cons item items ih =>
    simp only [Checked.each, Checked.defects_bind, Checked.defects_pure, List.append_nil,
      List.append_eq_nil_iff] at h
    obtain ⟨u, hv, hu⟩ := excluded_clean h.1
    simp [Checked.each, hv, hu, ih h.2]

theorem not_words {span : Span} {items : List SetItem}
    (h : (Checked.eachSome ((d.scope source rule).excluded span) items).defects = []) :
    elementWords terminal call (.token (.notIn (.ofList
        (Checked.eachSome ((d.scope source rule).excluded span) items).value)) : Element Unit) =
      atomWords d terminal (call · 0) (.not items) := by
  simp only [Checked.eachSome, Checked.defects_bind, Checked.defects_pure, List.append_nil] at h
  have hmem (t : Nat) := each_excluded_clean h t
  rw [elementWords, atomWords]
  congr 1
  ext t
  simp only [TokenMatch.accepts, Checked.eachSome, Checked.value_bind, Checked.value_pure,
    Set.mem_ofPred_eq, Bool.and_eq_true, bne_iff_ne, Bool.not_eq_true', ne_eq]
  rw [← Bool.not_eq_true, TokenSet.contains_ofList, List.mem_filterMap]
  simp [hmem]

theorem resolveAlternatives_isEmpty (s : ParserScope) (as : List AltDecl) :
    (resolveAlternatives s as).value.isEmpty = as.isEmpty := by
  cases as with
  | nil => simp [resolveAlternatives]
  | cons a as => simp [resolveAlternatives]

variable (d source rule terminal call)

mutual

theorem resolveAtom_words (span : Span) : ∀ a : Atom,
    (resolveAtom (d.scope source rule) span a).defects = [] →
    ∃ e, (resolveAtom (d.scope source rule) span a).value = some e ∧
      elementWords terminal call e = atomWords d terminal (call · 0) a
  | .ref ident, h => by
    rw [resolveAtom] at h ⊢
    simpa only [atomWords] using reference_words h
  | .literal text, h => by
    rw [resolveAtom, Checked.defects_bind, Checked.defects_pure, List.append_nil] at h
    obtain ⟨t, hv, ht⟩ := literal_clean h
    refine ⟨.token (.type t), ?_, ?_⟩
    · simp [resolveAtom, hv]
    · rw [elementWords_type, atomWords, ht]
  | .wildcard, _ => by
    refine ⟨.token .any, by simp [resolveAtom], ?_⟩
    simp [elementWords, atomWords, TokenMatch.accepts]
  | .range lo hi, h => by simp [resolveAtom, ParserScope.misplaced, Checked.missing] at h
  | .set items, h => by simp [resolveAtom, ParserScope.misplaced, Checked.missing] at h
  | .not items, h => by
    rw [resolveAtom, Checked.defects_bind, Checked.defects_pure, List.append_nil] at h
    exact ⟨_, by rw [resolveAtom]; rfl, not_words h⟩
  | .group alternatives, h => by
    rw [resolveAtom, Checked.defects_bind, Checked.defects_pure, List.append_nil] at h
    refine ⟨_, by rw [resolveAtom]; rfl, ?_⟩
    rw [elementWords, atomWords, blockWords, resolveAlternatives_isEmpty,
      resolveAlternatives_words alternatives h]

theorem resolveElements_words : ∀ es : List ElementDecl,
    (resolveElements (d.scope source rule) es).defects = [] →
    sequenceWords terminal call (resolveElements (d.scope source rule) es).value =
      elementsWords d terminal (call · 0) es
  | [], _ => by simp [resolveElements, sequenceWords, elementsWords]
  | ⟨atom, suffix, span⟩ :: rest, h => by
    rw [resolveElements] at h ⊢
    simp only [Checked.defects_bind, Checked.defects_pure, List.append_nil,
      List.append_eq_nil_iff] at h
    obtain ⟨e, hv, he⟩ := resolveAtom_words span atom h.1
    simp only [Checked.value_bind, Checked.value_pure, hv, Option.map_some, Option.toList_some,
      List.singleton_append, sequenceWords, elementsWords, elementWords_withSuffix, he]
    rw [resolveElements_words rest h.2]

theorem resolveAlternatives_words : ∀ as : List AltDecl,
    (resolveAlternatives (d.scope source rule) as).defects = [] →
    choiceWords terminal call (resolveAlternatives (d.scope source rule) as).value =
      alternativesWords d terminal (call · 0) as
  | [], _ => by simp [resolveAlternatives, choiceWords, alternativesWords]
  | ⟨elements, label, commands, right, span⟩ :: rest, h => by
    rw [resolveAlternatives] at h ⊢
    simp only [Checked.defects_bind, Checked.defects_pure, List.append_nil,
      List.append_eq_nil_iff] at h
    simp only [Checked.value_bind, Checked.value_pure, choiceWords, alternativesWords]
    rw [resolveElements_words elements h.2.1, resolveAlternatives_words rest h.2.2]

end

/-- The block of a rule whose alternatives are resolved as they are. -/
theorem resolvedBlock_words (r : RuleDecl)
    (h : (resolveAlternatives (d.scope source rule) r.alternatives).defects = []) :
    blockWords terminal call
        ⟨(), (resolveAlternatives (d.scope source rule) r.alternatives).value⟩ =
      declaredRuleWords d terminal (call · 0) r := by
  rw [declaredRuleWords, atomWords, blockWords, resolveAlternatives_isEmpty,
    resolveAlternatives_words d source rule terminal call r.alternatives h]

end Resolve

end GrammarWorkbench.Derivation
