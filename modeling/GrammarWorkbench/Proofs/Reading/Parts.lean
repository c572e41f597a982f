import GrammarWorkbench.Declaration.Read

/-!
# What holds of all parts of a document

The readers go through the nodes of a document, from rules down to atoms and back. What holds of the
atoms and passes from the parts to the whole therefore holds of every rule that is read. What a
reader reports is followed together with what it gives.
-/

set_option autoImplicit false

namespace GrammarWorkbench.Diagnostic

/-- A computation gives a value with a property and reports only defects with another one. -/
structure Checked.Gives {α : Type} (c : Checked α) (D : Defect → Prop) (P : α → Prop) : Prop where
  defects : ∀ d ∈ c.defects, D d
  value : P c.value

namespace Checked

variable {α β : Type} {D : Defect → Prop} {P : α → Prop} {Q : β → Prop}

theorem gives_pure {a : α} (h : P a) : (pure a : Checked α).Gives D P where
  defects := by simp
  value := h

theorem gives_report {d : Defect} (h : D d) : (report d).Gives D fun _ => True where
  defects := by simpa [report] using h
  value := trivial

theorem gives_missing {d : Defect} {P : Option α → Prop} (h : D d) (hnone : P none) :
    (missing d).Gives D P where
  defects := by simpa [missing] using h
  value := hnone

theorem Gives.bind {c : Checked α} {f : α → Checked β} (h : c.Gives D P)
    (hf : ∀ a, P a → (f a).Gives D Q) : (c >>= f).Gives D Q where
  defects := by
    intro d hd
    rcases List.mem_append.mp hd with hd | hd
    · exact h.defects d hd
    · exact (hf c.value h.value).defects d hd
  value := (hf c.value h.value).value

theorem Gives.mono {c : Checked α} {P' : α → Prop} (h : c.Gives D P) (himp : ∀ a, P a → P' a) :
    c.Gives D P' :=
  ⟨h.defects, himp _ h.value⟩

theorem Gives.append {c c' : Checked (List α)} (h : c.Gives D fun as => ∀ a ∈ as, P a)
    (h' : c'.Gives D fun as => ∀ a ∈ as, P a) :
    (do return (← c) ++ (← c') : Checked (List α)).Gives D fun as => ∀ a ∈ as, P a :=
  h.bind fun _ has => h'.bind fun _ has' => gives_pure fun a ha =>
    (List.mem_append.mp ha).elim (has a) (has' a)

theorem gives_each {f : α → Checked β} {as : List α} (h : ∀ a ∈ as, (f a).Gives D Q) :
    (each f as).Gives D fun bs => ∀ b ∈ bs, Q b := by
  induction as with
  | nil => exact gives_pure (by simp)
  | cons a as ih =>
    refine (h a (by simp)).bind fun b hb => (ih fun a' ha' => h a' (by simp [ha'])).bind ?_
    intro bs hbs
    refine gives_pure ?_
    intro b' hb'
    rcases List.mem_cons.mp hb' with rfl | hb'
    · exact hb
    · exact hbs b' hb'

theorem gives_eachSome {f : α → Checked (Option β)} {as : List α}
    (h : ∀ a ∈ as, (f a).Gives D fun o => ∀ b ∈ o, Q b) :
    (eachSome f as).Gives D fun bs => ∀ b ∈ bs, Q b := by
  refine (gives_each h).bind fun os hos => gives_pure ?_
  intro b hb
  obtain ⟨o, ho, hob⟩ := List.mem_filterMap.mp hb
  exact hos o ho b hob

end Checked

end GrammarWorkbench.Diagnostic

namespace GrammarWorkbench.Declaration

open GrammarWorkbench.Recognizer GrammarWorkbench.Diagnostic

variable {source : List Char}

theorem mem_readAtom {n : PhraseNode} (hrule : n.rule ≠ .group) {a : Atom}
    (h : a ∈ (readAtom source n).value) :
    (∃ ident ∈ identsOf n, a = .ref ident) ∨
    (∃ text, (readLiteral source n).value = some text ∧ a = .literal text) ∨
    (∃ items, (readCharSet source n).value = some items ∧ a = .set items) ∨
    (∃ lo hi, (readRange source n).value = some (lo, hi) ∧ a = .range lo hi) ∨
    a = .wildcard ∨ a = .not (readNotSet source n).value := by
  unfold readAtom at h
  split at h
  · obtain ⟨ident, hident, rfl⟩ := Option.map_eq_some_iff.mp (Option.mem_toList.mp h)
    exact .inl ⟨ident, List.mem_of_mem_head? hident, rfl⟩
  · obtain ⟨text, htext, rfl⟩ := Option.map_eq_some_iff.mp (Option.mem_toList.mp h)
    exact .inr (.inl ⟨text, htext, rfl⟩)
  · obtain ⟨items, hitems, rfl⟩ := Option.map_eq_some_iff.mp (Option.mem_toList.mp h)
    exact .inr (.inr (.inl ⟨items, hitems, rfl⟩))
  · obtain ⟨⟨lo, hi⟩, hrange, rfl⟩ := Option.map_eq_some_iff.mp (Option.mem_toList.mp h)
    exact .inr (.inr (.inr (.inl ⟨lo, hi, hrange, rfl⟩)))
  · exact .inr (.inr (.inr (.inr (.inl (List.mem_singleton.mp h)))))
  · exact .inr (.inr (.inr (.inr (.inr (List.mem_singleton.mp h)))))
  · exact absurd rfl hrule
  · cases h

/-- Properties of nodes, of what is reported, and of atoms, elements and alternatives. They hold of
what leaves of a document are read as, and pass from the parts to the whole. -/
structure Inherited (source : List Char) (N : PhraseNode → Prop) (D : Defect → Prop)
    (A : Atom → Prop) (E : ElementDecl → Prop) (L : AltDecl → Prop) : Prop where
  kids : ∀ n, N n → ∀ k ∈ n.children, N k
  leaf : ∀ n, N n → n.rule ≠ .group → (readAtom source n).Gives D fun atoms => ∀ a ∈ atoms, A a
  group : ∀ span text kids, N (.mk .group span text kids) →
    (∀ a ∈ (readGroup source kids).value, L a) → A (.group (readGroup source kids).value)
  element : ∀ n, N n → ∀ atom, A atom → E ⟨atom, readSuffix n.children, n.span⟩
  alternative : ∀ n, N n → ∀ elements, (∀ e ∈ elements, E e) →
    L (readAltFrame n.span n.children elements)

section Inherited

variable {N : PhraseNode → Prop} {D : Defect → Prop} {A : Atom → Prop} {E : ElementDecl → Prop}
  {L : AltDecl → Prop}

mutual

theorem readAlternatives_inherit (h : Inherited source N D A E L) : ∀ ns : List PhraseNode,
    (∀ n ∈ ns, N n) → (readAlternatives source ns).Gives D fun as => ∀ a ∈ as, L a
  | [], _ => by
    rw [readAlternatives]
    exact Checked.gives_pure (by simp)
  | n :: ns, hns => by
    rw [readAlternatives]
    obtain ⟨hn, hns⟩ := List.forall_mem_cons.mp hns
    exact (readAlternative_inherit h n hn).append (readAlternatives_inherit h ns hns)

theorem readAlternative_inherit (h : Inherited source N D A E L) : ∀ n : PhraseNode, N n →
    (readAlternative source n).Gives D fun as => ∀ a ∈ as, L a
  | .mk rule span text kids, hn => by
    rw [readAlternative]
    split
    · refine (readElements_inherit h kids (h.kids _ hn)).bind fun elements helements => ?_
      refine Checked.gives_pure ?_
      intro a ha
      obtain rfl := List.mem_singleton.mp ha
      exact h.alternative _ hn elements helements
    · exact Checked.gives_pure (by simp)

theorem readElements_inherit (h : Inherited source N D A E L) : ∀ ns : List PhraseNode,
    (∀ n ∈ ns, N n) → (readElements source ns).Gives D fun es => ∀ e ∈ es, E e
  | [], _ => by
    rw [readElements]
    exact Checked.gives_pure (by simp)
  | n :: ns, hns => by
    rw [readElements]
    obtain ⟨hn, hns⟩ := List.forall_mem_cons.mp hns
    exact (readElement_inherit h n hn).append (readElements_inherit h ns hns)

theorem readElement_inherit (h : Inherited source N D A E L) : ∀ n : PhraseNode, N n →
    (readElement source n).Gives D fun es => ∀ e ∈ es, E e
  | .mk rule span text kids, hn => by
    rw [readElement]
    split
    · refine (readAtoms_inherit h kids (h.kids _ hn)).bind fun atoms hatoms => Checked.gives_pure ?_
      intro e he
      obtain ⟨atom, hatom, rfl⟩ := List.mem_map.mp he
      exact h.element _ hn atom (hatoms atom hatom)
    · exact Checked.gives_pure (by simp)

theorem readAtoms_inherit (h : Inherited source N D A E L) : ∀ ns : List PhraseNode,
    (∀ n ∈ ns, N n) → (readAtoms source ns).Gives D fun atoms => ∀ a ∈ atoms, A a
  | [], _ => by
    rw [readAtoms]
    exact Checked.gives_pure (by simp)
  | n :: ns, hns => by
    rw [readAtoms]
    obtain ⟨hn, hns⟩ := List.forall_mem_cons.mp hns
    exact (readAtom_inherit h n hn).append (readAtoms_inherit h ns hns)

theorem readAtom_inherit (h : Inherited source N D A E L) : ∀ n : PhraseNode, N n →
    (readAtom source n).Gives D fun atoms => ∀ a ∈ atoms, A a
  | .mk rule span text kids, hn => by
    by_cases hrule : rule = .group
    · subst hrule
      have hgroup := readGroup_inherit h kids (h.kids _ hn)
      have hatom := h.group span text kids hn hgroup.value
      rw [readAtom]
      exact ⟨by simpa using hgroup.defects, by simpa using hatom⟩
    · exact h.leaf _ hn hrule

theorem readGroup_inherit (h : Inherited source N D A E L) : ∀ ns : List PhraseNode,
    (∀ n ∈ ns, N n) → (readGroup source ns).Gives D fun as => ∀ a ∈ as, L a
  | [], _ => by
    rw [readGroup]
    exact Checked.gives_pure (by simp)
  | .mk rule span text kids :: ns, hns => by
    rw [readGroup]
    obtain ⟨hn, hns⟩ := List.forall_mem_cons.mp hns
    split
    · exact readAlternatives_inherit h kids (h.kids _ hn)
    · exact readGroup_inherit h ns hns

end

theorem defects_readRule (mode : Nat) (n : PhraseNode) :
    (readRule source mode n).defects = (readGroup source n.children).defects := by
  simp only [readRule, Checked.defects_bind]
  split <;> simp

theorem mem_readRule {mode : Nat} {n : PhraseNode} {r : RuleDecl}
    (h : r ∈ (readRule source mode n).value) :
    ∃ name, n.children.find? (·.rule == .identifier) = some name ∧
      r = {
        name := identOf name
        fragment := (n.children.find? (·.rule == .fragmentModifier)).map Node.span
        mode := mode
        alternatives := (readGroup source n.children).value
        span := n.span } := by
  simp only [readRule, Checked.value_bind] at h
  split at h
  · cases h
  · rename_i name hname
    cases h
    exact ⟨name, hname, rfl⟩

theorem readRules_inherit (h : Inherited source N D A E L) {R : RuleDecl → Prop}
    (hrule : ∀ mode n, N n → n.rule = .ruleSpec → ∀ r ∈ (readRule source mode n).value,
      (∀ a ∈ r.alternatives, L a) → R r) (mode : Nat) (ns : List PhraseNode) (hns : ∀ n ∈ ns, N n) :
    (readRules source mode ns).Gives D fun rules => ∀ r ∈ rules, R r := by
  induction ns generalizing mode with
  | nil =>
    rw [readRules]
    exact Checked.gives_pure (by simp)
  | cons n ns ih =>
    obtain ⟨hn, hns⟩ := List.forall_mem_cons.mp hns
    rw [readRules]
    split
    · exact ih (mode + 1) hns
    · split
      · rename_i hspec
        have hgroup := readGroup_inherit h n.children (h.kids n hn)
        have hone : (readRule source mode n).Gives D fun o => ∀ r ∈ o, R r := by
          refine ⟨by rw [defects_readRule]; exact hgroup.defects, fun r hr => ?_⟩
          obtain ⟨name, -, rfl⟩ := mem_readRule hr
          exact hrule mode n hn (beq_iff_eq.mp hspec) _ hr hgroup.value
        refine hone.bind fun o ho => (ih mode hns).bind fun rules hrules => Checked.gives_pure ?_
        intro r hr
        exact (List.mem_append.mp hr).elim (fun hr => ho r (Option.mem_toList.mp hr)) (hrules r)
      · exact ih mode hns

end Inherited

theorem read_eq_ok_iff {text : List Char} {g : Checked GrammarDecl} : read text = .ok g ↔
    ∃ node, recognize Phrase.rules Phrase.inOrder.length .document text = .ok node ∧
      g = readDocument text node := by
  unfold read
  constructor
  · intro h
    split at h
    · cases h
    · rename_i node hnode
      exact ⟨node, hnode, (Except.ok.inj h).symm⟩
  · rintro ⟨node, hnode, rfl⟩
    rw [hnode]

end GrammarWorkbench.Declaration
