import GrammarWorkbench.Proofs.Reading.Nodes
import GrammarWorkbench.Proofs.Reading.Parts

/-!
# Rules and groups of a document have alternatives

A rule or a group is recognised only with a choice of alternatives in it, and a choice only with at
least one alternative. Reading leaves out elements, but never an alternative.
-/

set_option autoImplicit false

namespace GrammarWorkbench.Declaration

open GrammarWorkbench.Recognizer GrammarWorkbench.Diagnostic

/-- A node in which no choice is missing: those of rules and groups have one below them, and those
of choices an alternative. -/
inductive Whole : PhraseNode → Prop
  | mk {r : Phrase} {span : Text.Span} {text : List Char} {kids : List PhraseNode}
      (hkids : ∀ k ∈ kids, Whole k)
      (hchoice : r = .alternatives → ∃ k ∈ kids, k.rule = .alternative)
      (hgroup : r = .group ∨ r = .ruleSpec → ∃ k ∈ kids, k.rule = .alternatives) :
      Whole (.mk r span text kids)

theorem Whole.kids {n : PhraseNode} (h : Whole n) : ∀ k ∈ n.children, Whole k := by
  cases h with
  | mk hkids _ _ => exact hkids

theorem alternatives_calls : (Phrase.body .alternatives).Calls .alternative := by
  simp [Phrase.body, Phrase.separated, Expr.Calls]

theorem group_calls : (Phrase.body .group).Calls .alternatives := by
  simp [Phrase.body, Expr.chain, Expr.Calls]

theorem ruleSpec_calls : (Phrase.body .ruleSpec).Calls .alternatives := by
  simp [Phrase.body, Expr.chain, Expr.Calls]

theorem recognize_whole {text : List Char} {node : PhraseNode}
    (h : recognize Phrase.rules Phrase.inOrder.length .document text = .ok node) : Whole node := by
  refine recognize_leaves Phrase.layoutSplits ?_ h
  intro depth r p q a kids _ hbody hkids
  refine .mk hkids ?_ ?_
  · rintro rfl
    exact runBody_calls (by decide) (by decide) alternatives_calls hbody
  · rintro (rfl | rfl)
    · exact runBody_calls (by decide) (by decide) group_calls hbody
    · exact runBody_calls (by decide) (by decide) ruleSpec_calls hbody

mutual

def AtomFilled : Atom → Prop
  | .group alternatives => alternatives ≠ [] ∧ AlternativesFilled alternatives
  | _ => True

def ElementsFilled : List ElementDecl → Prop
  | [] => True
  | ⟨atom, _, _⟩ :: rest => AtomFilled atom ∧ ElementsFilled rest

def AlternativesFilled : List AltDecl → Prop
  | [] => True
  | ⟨elements, _, _, _, _⟩ :: rest => ElementsFilled elements ∧ AlternativesFilled rest

end

theorem elementsFilled_iff {es : List ElementDecl} :
    ElementsFilled es ↔ ∀ e ∈ es, AtomFilled e.atom := by
  induction es with
  | nil => simp [ElementsFilled]
  | cons e es ih => simp [ElementsFilled, ih]

theorem alternativesFilled_iff {as : List AltDecl} :
    AlternativesFilled as ↔ ∀ a ∈ as, ElementsFilled a.elements := by
  induction as with
  | nil => simp [AlternativesFilled]
  | cons a as ih => simp [AlternativesFilled, ih]

section Read

variable (source : List Char)

theorem readAlternatives_ne_nil {ns : List PhraseNode} (h : ∃ n ∈ ns, n.rule = .alternative) :
    (readAlternatives source ns).value ≠ [] := by
  induction ns with
  | nil => simp at h
  | cons n ns ih =>
    obtain ⟨m, hm, hrule⟩ := h
    simp only [readAlternatives, Checked.value_bind, Checked.value_pure]
    rcases List.mem_cons.mp hm with rfl | hm
    · obtain ⟨rule, span, text, kids⟩ := m
      obtain rfl : rule = .alternative := hrule
      simp [readAlternative]
    · exact List.append_ne_nil_of_right_ne_nil _ (ih ⟨m, hm, hrule⟩)

theorem readGroup_ne_nil {ns : List PhraseNode} (hns : ∀ n ∈ ns, Whole n)
    (h : ∃ n ∈ ns, n.rule = .alternatives) : (readGroup source ns).value ≠ [] := by
  induction ns with
  | nil => simp at h
  | cons n ns ih =>
    obtain ⟨⟨hkids, hchoice, -⟩, hmore⟩ := List.forall_mem_cons.mp hns
    rw [readGroup]
    split
    · rename_i hrule
      exact readAlternatives_ne_nil source (hchoice (beq_iff_eq.mp hrule))
    · rename_i hrule
      obtain ⟨m, hm, hm'⟩ := h
      rcases List.mem_cons.mp hm with rfl | hm
      · exact absurd (beq_iff_eq.mpr hm') hrule
      · exact ih hmore ⟨m, hm, hm'⟩

theorem filled_inherited : Inherited source Whole (fun _ => True) AtomFilled
    (fun e => AtomFilled e.atom) (fun a => ElementsFilled a.elements) where
  kids _ h := h.kids
  leaf n _ hrule := by
    refine ⟨fun _ _ => trivial, fun a ha => ?_⟩
    obtain ⟨_, -, rfl⟩ | ⟨_, -, rfl⟩ | ⟨_, -, rfl⟩ | ⟨_, _, -, rfl⟩ | rfl | rfl :=
      mem_readAtom hrule ha <;> simp [AtomFilled]
  group _ _ kids h halts := by
    obtain ⟨hkids, -, hgroup⟩ := h
    rw [AtomFilled]
    exact ⟨readGroup_ne_nil source hkids (hgroup (.inl rfl)), alternativesFilled_iff.mpr halts⟩
  element _ _ _ hatom := hatom
  alternative _ _ _ helements := elementsFilled_iff.mpr helements

end Read

theorem read_filled {text : List Char} {g : Checked GrammarDecl} (h : read text = .ok g) :
    ∀ r ∈ g.value.rules, r.alternatives ≠ [] ∧ AlternativesFilled r.alternatives := by
  obtain ⟨node, hnode, rfl⟩ := read_eq_ok_iff.mp h
  have hrules := readRules_inherit (R := fun r => r.alternatives ≠ [] ∧
    AlternativesFilled r.alternatives) (filled_inherited text) ?_ 0 node.children
    (recognize_whole hnode).kids
  · exact hrules.value
  · intro mode n hn hspec r hr halts
    obtain ⟨name, -, rfl⟩ := mem_readRule hr
    obtain ⟨hkids, -, hgroup⟩ := hn
    exact ⟨readGroup_ne_nil text hkids (hgroup (.inr hspec)), alternativesFilled_iff.mpr halts⟩

end GrammarWorkbench.Declaration
