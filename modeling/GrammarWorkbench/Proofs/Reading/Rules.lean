import GrammarWorkbench.Proofs.Reading.Nodes
import GrammarWorkbench.Proofs.Reading.Parts

/-!
# Atoms and modes of the rules of a document

Groups opened, the rules of a document are made of names, literals, ranges and sets. The bounds of
every range are in order, no set is empty, and no name of a property holds a brace. The mode of a
rule is one of those declared before it.
-/

set_option autoImplicit false

namespace GrammarWorkbench.Declaration

open GrammarWorkbench.Recognizer GrammarWorkbench.Diagnostic

mutual

def atomLeaves : Atom → List Atom
  | .group alternatives => alternativesLeaves alternatives
  | .ref ident => [.ref ident]
  | .literal text => [.literal text]
  | .range lo hi => [.range lo hi]
  | .set items => [.set items]
  | .wildcard => [.wildcard]
  | .not items => [.not items]

def elementsLeaves : List ElementDecl → List Atom
  | [] => []
  | ⟨atom, _, _⟩ :: rest => atomLeaves atom ++ elementsLeaves rest

def alternativesLeaves : List AltDecl → List Atom
  | [] => []
  | ⟨elements, _, _, _, _⟩ :: rest => elementsLeaves elements ++ alternativesLeaves rest

end

theorem mem_elementsLeaves {leaf : Atom} {es : List ElementDecl} :
    leaf ∈ elementsLeaves es ↔ ∃ e ∈ es, leaf ∈ atomLeaves e.atom := by
  induction es with
  | nil => simp [elementsLeaves]
  | cons e es ih => simp [elementsLeaves, ih]

theorem mem_alternativesLeaves {leaf : Atom} {as : List AltDecl} :
    leaf ∈ alternativesLeaves as ↔ ∃ a ∈ as, leaf ∈ elementsLeaves a.elements := by
  induction as with
  | nil => simp [alternativesLeaves]
  | cons a as ih => simp [alternativesLeaves, ih]

theorem alternativesLeaves_subset {as bs : List AltDecl} (h : as ⊆ bs) :
    alternativesLeaves as ⊆ alternativesLeaves bs := by
  intro leaf hleaf
  obtain ⟨a, ha, hmem⟩ := mem_alternativesLeaves.mp hleaf
  exact mem_alternativesLeaves.mpr ⟨a, h ha, hmem⟩

mutual

theorem atomLeaves_ne_group (as : List AltDecl) : ∀ a : Atom, .group as ∉ atomLeaves a
  | .group alternatives => by
    rw [atomLeaves]
    exact alternativesLeaves_ne_group as alternatives
  | .ref _ | .literal _ | .range _ _ | .set _ | .wildcard | .not _ => by simp [atomLeaves]

theorem elementsLeaves_ne_group (as : List AltDecl) :
    ∀ es : List ElementDecl, .group as ∉ elementsLeaves es
  | [] => by simp [elementsLeaves]
  | ⟨atom, _, _⟩ :: es => by
    have hatom := atomLeaves_ne_group as atom
    have hrest := elementsLeaves_ne_group as es
    simp [elementsLeaves, hatom, hrest]

theorem alternativesLeaves_ne_group (as : List AltDecl) :
    ∀ alts : List AltDecl, .group as ∉ alternativesLeaves alts
  | [] => by simp [alternativesLeaves]
  | ⟨elements, _, _, _, _⟩ :: alts => by
    have hone := elementsLeaves_ne_group as elements
    have hrest := alternativesLeaves_ne_group as alts
    simp [alternativesLeaves, hone, hrest]

end

def ItemSound : ClassItem → Prop
  | .range lo hi => lo ≤ hi
  | .property name _ => '\x7d' ∉ name.toList

structure ItemsSound (items : List ClassItem) : Prop where
  ne_nil : items ≠ []
  items : ∀ item ∈ items, ItemSound item

def SetItemSound : SetItem → Prop
  | .range lo hi => lo ≤ hi
  | .set items => ItemsSound items
  | .literal _ _ => True
  | .ref _ => True

def LeafSound : Atom → Prop
  | .range lo hi => lo ≤ hi
  | .set items => ItemsSound items
  | .not items => ∀ item ∈ items, SetItemSound item
  | _ => True

theorem untilBrace_sound (cs : List Char) : '\x7d' ∉ (untilBrace cs).1 := by
  intro hmem
  have hne := List.all_eq_true.mp List.all_takeWhile _ hmem
  simp at hne

theorem decodeProperty_sound {c : Char} {cs : List Char} {name : String} {negated : Bool}
    {used : Nat} (h : decodeProperty c cs = .ok (.property name negated, used)) :
    '\x7d' ∉ name.toList := by
  unfold decodeProperty at h
  split at h
  · rename_i rest
    dsimp only at h
    split at h
    · cases h
    · cases h
      rw [String.toList_ofList]
      exact untilBrace_sound rest
  · cases h

theorem decodeSetEscape_sound {cs : List Char} {name : String} {negated : Bool} {used : Nat}
    (h : decodeSetEscape cs = .ok (.property name negated, used)) : '\x7d' ∉ name.toList := by
  unfold decodeSetEscape at h
  split at h
  · cases h
  · rename_i c cs
    split at h
    · cases h
    · split at h
      · cases hproperty : decodeProperty c cs with
        | error fault => simp [hproperty, Except.map] at h
        | ok decoded =>
          obtain ⟨atom, used'⟩ := decoded
          simp only [hproperty, Except.map, Except.ok.injEq, Prod.mk.injEq] at h
          rw [h.1] at hproperty
          exact decodeProperty_sound hproperty
      · cases hescape : decodeEscape (c :: cs) <;> simp [hescape, Except.map] at h

theorem decodeClassAtom_sound {c : Char} {cs : List Char} {name : String} {negated : Bool}
    {used : Nat} (h : decodeClassAtom c cs = .ok (.property name negated, used)) :
    '\x7d' ∉ name.toList := by
  unfold decodeClassAtom at h
  split at h
  · exact decodeSetEscape_sound h
  · cases h

theorem decodeClassItem_sound {c : Char} {cs : List Char} {item : ClassItem} {used : Nat}
    (h : decodeClassItem c cs = .ok (item, used)) : ItemSound item := by
  unfold decodeClassItem at h
  cases hfirst : decodeClassAtom c cs with
  | error fault => simp [hfirst, bind, Except.bind] at h
  | ok first =>
    obtain ⟨atom, used'⟩ := first
    cases atom with
    | property name negated =>
      simp only [hfirst, bind, Except.bind, pure, Except.pure, Except.ok.injEq, Prod.mk.injEq] at h
      rw [← h.1]
      exact decodeClassAtom_sound hfirst
    | char lo =>
      simp only [hfirst, bind, Except.bind] at h
      split at h
      · rename_i next rest _
        cases hsecond : decodeClassAtom next rest with
        | error fault => simp [hsecond] at h
        | ok second =>
          obtain ⟨atom', used''⟩ := second
          cases atom' with
          | property name negated => simp [hsecond, throw, throwThe, MonadExceptOf.throw] at h
          | char hi =>
            simp only [hsecond] at h
            split at h
            · cases h
            · rename_i hlt
              cases h
              exact Char.not_lt.mp hlt
      · cases h
        exact Char.le_refl lo

theorem decodeClassItems_sound {skip : Nat} {cs : List Char} {items : List ClassItem}
    (h : decodeClassItems skip cs = .ok items) : ∀ item ∈ items, ItemSound item := by
  fun_induction decodeClassItems skip cs generalizing items with
  | case1 => cases h; simp
  | case2 skip c cs ih => exact ih h
  | case3 c cs ih =>
    cases hitem : decodeClassItem c cs with
    | error fault => simp [hitem, bind, Except.bind] at h
    | ok decoded =>
      cases hmore : decodeClassItems decoded.2 cs with
      | error fault => simp [hitem, hmore, bind, Except.bind] at h
      | ok more =>
        simp only [hitem, hmore, bind, Except.bind, pure, Except.pure, Except.ok.injEq] at h
        subst h
        intro item hmem
        rcases List.mem_cons.mp hmem with rfl | hmem
        · exact decodeClassItem_sound hitem
        · exact ih decoded.2 hmore item hmem

theorem decodeClass_sound {inner : List Char} {items : List ClassItem}
    (h : decodeClass inner = .ok items) : ItemsSound items := by
  unfold decodeClass at h
  cases hitems : decodeClassItems 0 inner with
  | error fault => simp [hitems, bind, Except.bind] at h
  | ok decoded =>
    simp only [hitems, bind, Except.bind] at h
    split at h
    · cases h
    · rename_i hne
      cases h
      exact ⟨by simpa using hne, decodeClassItems_sound hitems⟩

section Read

variable (source : List Char)

theorem readCharSet_sound {n : PhraseNode} {items : List ClassItem}
    (h : (readCharSet source n).value = some items) : ItemsSound items := by
  unfold readCharSet at h
  split at h
  · rename_i decoded hdecoded
    cases h
    exact decodeClass_sound hdecoded
  · cases h

theorem readRange_sound {n : PhraseNode} {lo hi : Char}
    (h : (readRange source n).value = some (lo, hi)) : lo ≤ hi := by
  unfold readRange at h
  split at h
  · rename_i lower upper _
    simp only [Checked.value_bind] at h
    split at h
    · cases h
    · simp only [Checked.value_bind] at h
      split at h
      · cases h
      · split at h
        · rename_i hle
          cases h
          exact hle
        · cases h
  · cases h

theorem readSetItem_sound {n : PhraseNode} {item : SetItem}
    (h : (readSetItem source n).value = some item) : SetItemSound item := by
  unfold readSetItem at h
  split at h
  · obtain ⟨text, -, rfl⟩ := Option.map_eq_some_iff.mp h
    trivial
  · obtain ⟨items, hitems, rfl⟩ := Option.map_eq_some_iff.mp h
    exact readCharSet_sound source hitems
  · obtain ⟨range, hrange, rfl⟩ := Option.map_eq_some_iff.mp h
    exact readRange_sound source hrange
  · obtain ⟨ident, -, rfl⟩ := Option.map_eq_some_iff.mp h
    trivial
  · cases h

theorem sound_inherited : Inherited source (fun _ => True) (fun _ => True)
    (fun a => ∀ leaf ∈ atomLeaves a, LeafSound leaf)
    (fun e => ∀ leaf ∈ atomLeaves e.atom, LeafSound leaf)
    (fun a => ∀ leaf ∈ elementsLeaves a.elements, LeafSound leaf) where
  kids _ _ _ _ := trivial
  leaf n _ hrule := by
    refine ⟨fun _ _ => trivial, fun a ha => ?_⟩
    have hone {a : Atom} (hleaf : atomLeaves a = [a]) (hsound : LeafSound a) :
        ∀ leaf ∈ atomLeaves a, LeafSound leaf := by
      rw [hleaf]
      simpa using hsound
    obtain ⟨ident, -, rfl⟩ | ⟨text, -, rfl⟩ | ⟨items, hitems, rfl⟩ | ⟨lo, hi, hrange, rfl⟩ | rfl |
      rfl := mem_readAtom hrule ha
    · exact hone (by rw [atomLeaves]) trivial
    · exact hone (by rw [atomLeaves]) trivial
    · exact hone (by rw [atomLeaves]) (readCharSet_sound source hitems)
    · exact hone (by rw [atomLeaves]) (readRange_sound source hrange)
    · exact hone (by rw [atomLeaves]) trivial
    · apply hone (by rw [atomLeaves])
      intro item hitem
      rw [readNotSet, Checked.value_eachSome] at hitem
      obtain ⟨m, -, hm⟩ := List.mem_filterMap.mp hitem
      exact readSetItem_sound source hm
  group _ _ _ _ halts := by
    intro leaf hleaf
    rw [atomLeaves] at hleaf
    obtain ⟨a, ha, hleaf⟩ := mem_alternativesLeaves.mp hleaf
    exact halts a ha leaf hleaf
  element _ _ _ hatom := hatom
  alternative _ _ _ helements := by
    intro leaf hleaf
    obtain ⟨e, he, hleaf⟩ := mem_elementsLeaves.mp hleaf
    exact helements e he leaf hleaf

/-- A rule counts at most the declarations of modes among the nodes before it. -/
theorem readRules_mode (mode : Nat) (ns : List PhraseNode) :
    ∀ r ∈ (readRules source mode ns).value,
      r.mode ≤ mode + (ns.filter (·.rule == .modeSpec)).length := by
  induction ns generalizing mode with
  | nil => simp [readRules]
  | cons n ns ih =>
    rw [readRules, List.filter_cons]
    split
    · intro r hr
      have hle := ih (mode + 1) r hr
      rw [List.length_cons]
      omega
    · split
      · intro r hr
        simp only [Checked.value_bind, Checked.value_pure, List.mem_append,
          Option.mem_toList] at hr
        rcases hr with hr | hr
        · obtain ⟨name, -, rfl⟩ := mem_readRule hr
          exact Nat.le_add_right _ _
        · exact ih mode r hr
      · exact ih mode

end Read

def NamesMode (n : PhraseNode) : Prop := n.rule = .modeSpec → ∃ k ∈ n.children, k.rule = .identifier

theorem modeSpec_calls : (Phrase.body .modeSpec).Calls .identifier := by
  simp [Phrase.body, Expr.chain, Expr.Calls]

theorem recognize_namesMode {text : List Char} {node : PhraseNode}
    (h : recognize Phrase.rules Phrase.inOrder.length .document text = .ok node) :
    ∀ k ∈ node.children, NamesMode k := by
  refine (recognize_leaves (P := fun n => NamesMode n ∧ ∀ k ∈ n.children, NamesMode k)
    Phrase.layoutSplits ?_ h).2
  intro depth r p q a kids _ hbody hkids
  refine ⟨?_, fun k hk => (hkids k hk).1⟩
  rintro rfl
  exact runBody_calls (by decide) (by decide) modeSpec_calls hbody

theorem identsOf_ne_nil {n : PhraseNode} (h : ∃ k ∈ n.children, k.rule = .identifier) :
    identsOf n ≠ [] := by
  obtain ⟨k, hk, hrule⟩ := h
  have hname : isName k := by simp [isName, hrule]
  have hmem : identOf k ∈ identsOf n := List.mem_map_of_mem (List.mem_filter.mpr ⟨hk, hname⟩)
  exact List.ne_nil_of_mem hmem

theorem length_modeNames {ns : List PhraseNode} (h : ∀ n ∈ ns, identsOf n ≠ []) :
    (ns.flatMap fun n => (identsOf n).take 1).length = ns.length := by
  induction ns with
  | nil => rfl
  | cons n ns ih =>
    have hone : 0 < (identsOf n).length := List.length_pos_iff.mpr (h n List.mem_cons_self)
    have hmore := ih fun m hm => h m (List.mem_cons_of_mem _ hm)
    rw [List.flatMap_cons, List.length_append, List.length_take, hmore, List.length_cons]
    omega

theorem read_mode {text : List Char} {g : Checked GrammarDecl} (h : read text = .ok g) :
    ∀ r ∈ g.value.rules, r.mode ≤ g.value.modes.length := by
  obtain ⟨node, hnode, rfl⟩ := read_eq_ok_iff.mp h
  have hnames : ∀ n ∈ below .modeSpec node, identsOf n ≠ [] := by
    intro n hn
    obtain ⟨hkid, hrule⟩ := List.mem_filter.mp hn
    exact identsOf_ne_nil (recognize_namesMode hnode n hkid (beq_iff_eq.mp hrule))
  have hlength : (readDocument text node).value.modes.length = (below .modeSpec node).length :=
    length_modeNames hnames
  intro r hr
  have hle := readRules_mode text 0 node.children r hr
  rw [hlength, below]
  omega

/-- All ranges and sets in the rules of a document can be written. -/
theorem read_leaves {text : List Char} {g : Checked GrammarDecl} (h : read text = .ok g) :
    ∀ r ∈ g.value.rules, ∀ leaf ∈ alternativesLeaves r.alternatives, LeafSound leaf := by
  obtain ⟨node, -, rfl⟩ := read_eq_ok_iff.mp h
  have hrules := readRules_inherit (sound_inherited text)
    (R := fun r => ∀ leaf ∈ alternativesLeaves r.alternatives, LeafSound leaf) ?_ 0 node.children
    fun _ _ => trivial
  · exact hrules.value
  · intro _ _ _ _ r _ halts leaf hleaf
    obtain ⟨a, ha, hleaf⟩ := mem_alternativesLeaves.mp hleaf
    exact halts a ha leaf hleaf

end GrammarWorkbench.Declaration
