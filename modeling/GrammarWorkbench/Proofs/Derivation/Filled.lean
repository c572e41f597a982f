import GrammarWorkbench.Proofs.Derivation.Accepted
import GrammarWorkbench.Proofs.Derivation.Annotated
import GrammarWorkbench.Proofs.Parsing.Predictive
import GrammarWorkbench.Proofs.Reading.Filled

/-!
# Blocks of accepted grammars have alternatives

Every block and every body of a loop comes from a group, a rule or a single element, and none of
them is without alternatives.
-/

set_option autoImplicit false

namespace GrammarWorkbench.Derivation

open GrammarWorkbench.Text GrammarWorkbench.Declaration GrammarWorkbench.Diagnostic
open GrammarWorkbench.Model GrammarWorkbench.Compile GrammarWorkbench.Analysis

section Filled

variable {α : Type}

mutual

def ElementFilled : Element α → Prop
  | .token _ => True
  | .rule _ => True
  | .operand _ _ => True
  | .block body => BlockFilled body
  | .loop _ _ _ body => BlockFilled body

def SequenceFilled : Sequence α → Prop
  | [] => True
  | e :: es => ElementFilled e ∧ SequenceFilled es

def ChoiceFilled : List (RuleAlternative α) → Prop
  | [] => True
  | ⟨_, _, elements⟩ :: rest => SequenceFilled elements ∧ ChoiceFilled rest

def BlockFilled : RuleBlock α → Prop
  | ⟨_, alternatives⟩ => alternatives ≠ [] ∧ ChoiceFilled alternatives

end

theorem sequenceFilled_iff {es : Sequence α} : SequenceFilled es ↔ ∀ e ∈ es, ElementFilled e := by
  induction es with
  | nil => simp [SequenceFilled]
  | cons e es ih => simp [SequenceFilled, ih]

theorem choiceFilled_iff {as : List (RuleAlternative α)} :
    ChoiceFilled as ↔ ∀ a ∈ as, SequenceFilled a.elements := by
  induction as with
  | nil => simp [ChoiceFilled]
  | cons a as ih => simp [ChoiceFilled, ih]

mutual

theorem BlockAt.filled {root : RuleBlock α} (h : BlockFilled root) :
    ∀ {b : RuleBlock α} {k : Sequence α}, BlockAt root b k → BlockFilled b
  | _, _, .root => h
  | _, _, .block he => by simpa only [ElementFilled] using he.filled h
  | _, _, .loop he => by simpa only [ElementFilled] using he.filled h

theorem ElementAt.filled {root : RuleBlock α} (h : BlockFilled root) :
    ∀ {e : Element α} {k : Sequence α}, ElementAt root e k → ElementFilled e
  | _, _, .mk hb ha he => by
    have hfilled := hb.filled h
    rw [BlockFilled] at hfilled
    exact sequenceFilled_iff.mp (choiceFilled_iff.mp hfilled.2 _ ha) _ (by simp [he])

end

variable (v : Vocabulary) (t : Table)

mutual

theorem elementFilled_annotate (after : Lookahead) : ∀ e : Element α,
    ElementFilled e → ElementFilled (annotateElement v t after e)
  | .token _, _ | .rule _, _ | .operand _ _, _ => by simp [annotateElement, ElementFilled]
  | .block body, h => by
    rw [ElementFilled] at h
    rw [annotateElement, ElementFilled]
    exact blockFilled_annotate body h
  | .loop _ _ _ body, h => by
    rw [ElementFilled] at h
    rw [annotateElement, ElementFilled]
    exact blockFilled_annotate body h

theorem sequenceFilled_annotate : ∀ es : Sequence α,
    SequenceFilled es → SequenceFilled (annotateSequence v t es)
  | [], _ => by simp [annotateSequence, SequenceFilled]
  | e :: es, h => by
    rw [SequenceFilled] at h
    rw [annotateSequence, SequenceFilled]
    exact ⟨elementFilled_annotate _ e h.1, sequenceFilled_annotate es h.2⟩

theorem choiceFilled_annotate : ∀ as : List (RuleAlternative α),
    ChoiceFilled as → ChoiceFilled (annotateChoice v t as)
  | [], _ => by simp [annotateChoice, ChoiceFilled]
  | ⟨_, _, es⟩ :: as, h => by
    rw [ChoiceFilled] at h
    rw [annotateChoice, ChoiceFilled]
    exact ⟨sequenceFilled_annotate es h.1, choiceFilled_annotate as h.2⟩

theorem blockFilled_annotate : ∀ b : RuleBlock α,
    BlockFilled b → BlockFilled (annotateBlock v t b)
  | ⟨_, as⟩, h => by
    rw [BlockFilled] at h
    rw [annotateBlock, BlockFilled]
    refine ⟨?_, choiceFilled_annotate as h.2⟩
    rw [annotateChoice_eq_map]
    simpa using h.1

end

end Filled

section Resolved

theorem loopBody_filled {e : Element Unit} (h : ElementFilled e) : BlockFilled (loopBody e) := by
  cases e with
  | block body => simpa only [loopBody, ElementFilled] using h
  | token _ | rule _ | operand _ _ | loop _ _ _ _ =>
    simpa [loopBody, BlockFilled, ChoiceFilled, SequenceFilled] using h

theorem withSuffix_filled {e : Element Unit} (h : ElementFilled e) (suffix : Option Suffix) :
    ElementFilled (withSuffix e suffix) := by
  cases suffix with
  | none => exact h
  | some s =>
    rw [withSuffix, ElementFilled]
    exact loopBody_filled h

theorem reference_filled (s : ParserScope) (ident : Ident) :
    ∀ e ∈ (s.reference ident).value, ElementFilled e := by
  unfold ParserScope.reference
  split
  · intro e he
    obtain ⟨t, -, rfl⟩ := Option.map_eq_some_iff.mp he
    simp [ElementFilled]
  · split
    · intro e he
      cases he
      simp [ElementFilled]
    · intro e he
      cases he

variable (s : ParserScope)

mutual

theorem resolveAtom_filled (span : Span) : ∀ a : Atom, AtomFilled a →
    ∀ e ∈ (resolveAtom s span a).value, ElementFilled e
  | .ref ident, _ => by
    rw [resolveAtom]
    exact reference_filled s ident
  | .literal text, _ => by
    rw [resolveAtom]
    intro e he
    obtain ⟨t, -, rfl⟩ := Option.map_eq_some_iff.mp he
    simp [ElementFilled]
  | .wildcard, _ => by simp [resolveAtom, ElementFilled]
  | .range _ _, _ => by
    rw [resolveAtom]
    intro e he
    cases he
  | .set _, _ => by
    rw [resolveAtom]
    intro e he
    cases he
  | .not items, _ => by simp [resolveAtom, ElementFilled]
  | .group alternatives, h => by
    rw [AtomFilled] at h
    rw [resolveAtom]
    intro e he
    cases he
    rw [ElementFilled, BlockFilled]
    refine ⟨?_, resolveAlternatives_filled alternatives h.2⟩
    have hne := resolveAlternatives_isEmpty s alternatives
    rw [← List.isEmpty_eq_false_iff] at h ⊢
    rw [hne]
    exact h.1

theorem resolveElements_filled : ∀ es : List ElementDecl, ElementsFilled es →
    SequenceFilled (resolveElements s es).value
  | [], _ => by simp [resolveElements, SequenceFilled]
  | ⟨atom, suffix, span⟩ :: rest, h => by
    rw [ElementsFilled] at h
    have hatom := resolveAtom_filled span atom h.1
    have hrest := sequenceFilled_iff.mp (resolveElements_filled rest h.2)
    rw [resolveElements, sequenceFilled_iff]
    intro e he
    rcases List.mem_append.mp he with he | he
    · obtain ⟨e', he', rfl⟩ := Option.map_eq_some_iff.mp (Option.mem_toList.mp he)
      exact withSuffix_filled (hatom e' he') suffix
    · exact hrest e he

theorem resolveAlternatives_filled : ∀ as : List AltDecl, AlternativesFilled as →
    ChoiceFilled (resolveAlternatives s as).value
  | [], _ => by simp [resolveAlternatives, ChoiceFilled]
  | ⟨elements, label, commands, right, span⟩ :: rest, h => by
    rw [AlternativesFilled] at h
    have helements := resolveElements_filled elements h.1
    have hrest := resolveAlternatives_filled rest h.2
    rw [resolveAlternatives]
    simp only [Checked.value_bind, Checked.value_pure, ChoiceFilled]
    exact ⟨helements, hrest⟩

end

def partAlternative : Part → RuleAlternative Unit
  | .operand a => a
  | .operator _ a => a

variable {s} in
theorem resolvePart_filled {alt : AltDecl} {elements : List ElementDecl}
    {last : List (Element Unit)} (h : ElementsFilled elements)
    (hlast : ∀ e ∈ last, ElementFilled e) :
    SequenceFilled (resolvePart s alt elements last).value.elements := by
  have hes := sequenceFilled_iff.mp (resolveElements_filled s elements h)
  rw [sequenceFilled_iff]
  intro e he
  exact (List.mem_append.mp he).elim (hes e) (hlast e)

theorem splitAlternative_filled (index level : Nat) (alt : AltDecl)
    (h : ElementsFilled alt.elements) : ∀ part ∈ (splitAlternative s index level alt).value,
      SequenceFilled (partAlternative part).elements := by
  have hsub {es : List ElementDecl} (hes : ∀ e ∈ es, e ∈ alt.elements) : ElementsFilled es :=
    elementsFilled_iff.mpr fun e he => elementsFilled_iff.mp h e (hes e he)
  have hoperand (q : Nat) : ∀ e ∈ [(.operand index q : Element Unit)], ElementFilled e := by
    simp [ElementFilled]
  intro part hpart
  unfold splitAlternative at hpart
  split at hpart
  · cases hpart
    exact resolvePart_filled h (by simp)
  · cases hpart
    exact resolvePart_filled (hsub fun _ => List.mem_of_mem_dropLast) (hoperand level)
  · split at hpart
    · cases hpart
    · cases hpart
      exact resolvePart_filled (hsub fun _ => List.mem_of_mem_tail) (by simp)
  · cases hpart
    exact resolvePart_filled
      (hsub fun _ he => List.mem_of_mem_tail (List.mem_of_mem_dropLast he)) (hoperand _)

theorem splitAlternatives_filled (index : Nat) (as : List AltDecl)
    (h : AlternativesFilled as) : ∀ part ∈ (splitAlternatives s index as).value,
      SequenceFilled (partAlternative part).elements := by
  induction as with
  | nil => simp [splitAlternatives]
  | cons alt as ih =>
    rw [AlternativesFilled] at h
    intro part hpart
    rcases List.mem_append.mp hpart with hpart | hpart
    · exact splitAlternative_filled s index _ alt h.1 part (Option.mem_toList.mp hpart)
    · exact ih h.2 part hpart

end Resolved

theorem parserRule_filled {s : ParserScope} {index : Nat} {r : RuleDecl}
    (hclean : (parserRule s index r).defects = [])
    (hne : r.alternatives ≠ []) (h : AlternativesFilled r.alternatives) :
    BlockFilled (parserRule s index r).value.block := by
  rcases parserRule_cases hclean with ⟨-, hblock, -⟩ | ⟨parts, hparts, hnonempty, hblock, -⟩
  · rw [hblock, BlockFilled]
    refine ⟨?_, resolveAlternatives_filled s _ h⟩
    rw [← List.isEmpty_eq_false_iff] at hne ⊢
    rwa [resolveAlternatives_isEmpty]
  · rw [hblock, BlockFilled, choiceFilled_iff]
    refine ⟨hnonempty, fun a ha => ?_⟩
    have hpart : Part.operand a ∈ (splitAlternatives s index r.alternatives).value := by
      rw [hparts]
      exact mem_operandsOf.mp ha
    exact splitAlternatives_filled s index r.alternatives h _ hpart

theorem DeclaredGrammar.filled {text : List Char} {d : DeclaredGrammar}
    (h : DeclaredGrammar.ofText? text = some d) {r : RuleDecl} (hr : r ∈ d.rules) :
    r.alternatives ≠ [] ∧ AlternativesFilled r.alternatives := by
  obtain ⟨g, hread, rfl⟩ := Option.map_eq_some_iff.mp h
  exact read_filled (toOption_eq_some.mp hread) r (List.mem_filter.mp hr).1

/-- All blocks of the rules of an accepted grammar have alternatives. -/
theorem Accepted.filled {text : List Char} {g : Grammar} {d : DeclaredGrammar}
    {rules : List (ParserRule Unit)} (acc : Accepted text g d rules) {r : ParserRule Lookahead}
    (hr : r ∈ g.parserRules) : BlockFilled r.block := by
  rw [acc.annotated] at hr
  obtain ⟨plain, hplain, rfl⟩ := List.mem_map.mp hr
  obtain ⟨i, hi⟩ := List.mem_iff_getElem?.mp hplain
  obtain ⟨decl, hdecl, rfl⟩ := acc.exists_declared hi
  obtain ⟨hne, hfilled⟩ := DeclaredGrammar.filled acc.declared (List.mem_of_getElem? hdecl)
  exact blockFilled_annotate _ _ _ (parserRule_filled (acc.clean i decl hdecl) hne hfilled)

end GrammarWorkbench.Derivation
