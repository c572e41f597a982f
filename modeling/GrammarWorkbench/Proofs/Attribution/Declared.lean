import GrammarWorkbench.Proofs.Reading.Nodes
import GrammarWorkbench.Proofs.Reading.Parts

/-!
# Places of declarations

Every part of a declaration that a defect can point at is written somewhere in the document, and
so is everything that reading reports. What a step reports and what it gives are followed together
through the readers.
-/

set_option autoImplicit false

namespace GrammarWorkbench.Diagnostic

open GrammarWorkbench.Text

/-- A defect of a document: it belongs to an origin, and has no place or one in the document. -/
structure Defect.PlacedIn (d : Defect) (text : List Char) (origin : Origin) : Prop where
  origin_eq : d.kind.origin = origin
  place : d = .unplaced d.kind ∨ ∃ span, span.PartOf text ∧ d = .inText text d.kind span

theorem Defect.inText_placedIn {text : List Char} {kind : Kind} {span : Span} {origin : Origin}
    (hkind : kind.origin = origin) (hspan : span.PartOf text) :
    (Defect.inText text kind span).PlacedIn text origin :=
  ⟨hkind, .inr ⟨span, hspan, rfl⟩⟩

theorem Defect.unplaced_placedIn (text : List Char) {kind : Kind} {origin : Origin}
    (hkind : kind.origin = origin) : (Defect.unplaced kind).PlacedIn text origin :=
  ⟨hkind, .inl rfl⟩

abbrev Checked.Places {α : Type} (c : Checked α) (text : List Char) : Prop :=
  c.Gives (·.PlacedIn text .grammar) fun _ => True

theorem Checked.Gives.places {α : Type} {c : Checked α} {text : List Char} {P : α → Prop}
    (h : c.Gives (·.PlacedIn text .grammar) P) : c.Places text :=
  h.mono fun _ _ => trivial

end GrammarWorkbench.Diagnostic

namespace GrammarWorkbench.Declaration

open GrammarWorkbench.Text GrammarWorkbench.Recognizer GrammarWorkbench.Diagnostic

section Placed

variable (text : List Char)

def ItemPlaced : SetItem → Prop
  | .literal _ span => span.PartOf text
  | .ref ident => ident.span.PartOf text
  | .range _ _ => True
  | .set _ => True

structure CommandPlaced (c : Command) : Prop where
  name : c.name.span.PartOf text
  argument : ∀ arg ∈ c.argument, arg.span.PartOf text

mutual

def AtomPlaced : Atom → Prop
  | .ref ident => ident.span.PartOf text
  | .not items => ∀ item ∈ items, ItemPlaced text item
  | .group alternatives => AlternativesPlaced alternatives
  | .literal _ => True
  | .range _ _ => True
  | .set _ => True
  | .wildcard => True

def ElementsPlaced : List ElementDecl → Prop
  | [] => True
  | ⟨atom, _, span⟩ :: rest => (span.PartOf text ∧ AtomPlaced atom) ∧ ElementsPlaced rest

def AlternativesPlaced : List AltDecl → Prop
  | [] => True
  | ⟨elements, _, commands, _, span⟩ :: rest =>
    (span.PartOf text ∧ ElementsPlaced elements ∧ ∀ c ∈ commands, CommandPlaced text c) ∧
      AlternativesPlaced rest

end

structure RulePlaced (r : RuleDecl) : Prop where
  name : r.name.span.PartOf text
  fragment : ∀ span ∈ r.fragment, span.PartOf text
  alternatives : AlternativesPlaced text r.alternatives

structure GrammarPlaced (g : GrammarDecl) : Prop where
  header : ∀ h ∈ g.header, h.name.span.PartOf text
  imports : ∀ i ∈ g.imports, i.span.PartOf text
  modes : ∀ m ∈ g.modes, m.span.PartOf text
  rules : ∀ r ∈ g.rules, RulePlaced text r

variable {text}

theorem elementsPlaced_iff {es : List ElementDecl} :
    ElementsPlaced text es ↔ ∀ e ∈ es, e.span.PartOf text ∧ AtomPlaced text e.atom := by
  induction es with
  | nil => simp [ElementsPlaced]
  | cons e es ih => simp [ElementsPlaced, ih]

theorem alternativesPlaced_iff {as : List AltDecl} :
    AlternativesPlaced text as ↔ ∀ a ∈ as, a.span.PartOf text ∧ ElementsPlaced text a.elements ∧
      ∀ c ∈ a.commands, CommandPlaced text c := by
  induction as with
  | nil => simp [AlternativesPlaced]
  | cons a as ih => simp [AlternativesPlaced, ih]

end Placed

section Read

variable {source : List Char}

theorem identsOf_placed {n : PhraseNode} (h : n.In source) :
    ∀ ident ∈ identsOf n, ident.span.PartOf source := by
  intro ident hident
  obtain ⟨k, hk, rfl⟩ := List.mem_map.mp hident
  exact (h.kids k (List.mem_filter.mp hk).1).span

theorem readLiteral_gives {n : PhraseNode} (h : n.In source) :
    (readLiteral source n).Places source := by
  unfold readLiteral
  split
  · exact Checked.gives_pure trivial
  · exact Checked.gives_missing (Defect.inText_placedIn rfl h.span) trivial

theorem readCharSet_gives {n : PhraseNode} (h : n.In source) :
    (readCharSet source n).Places source := by
  unfold readCharSet
  split
  · exact Checked.gives_pure trivial
  · exact Checked.gives_missing (Defect.inText_placedIn rfl h.span) trivial

theorem readBound_gives {n : PhraseNode} (h : n.In source) :
    (readBound source n).Places source := by
  refine (readLiteral_gives h).bind fun text _ => ?_
  split
  · exact Checked.gives_pure trivial
  · exact Checked.gives_pure trivial
  · exact Checked.gives_missing (Defect.inText_placedIn rfl h.span) trivial

theorem readRange_gives {n : PhraseNode} (h : n.In source) :
    (readRange source n).Places source := by
  have hkids := h.kids
  unfold readRange
  split
  · rename_i lower upper heq
    rw [heq] at hkids
    refine (readBound_gives (hkids lower (by simp))).bind fun lo _ => ?_
    split
    · exact Checked.gives_pure trivial
    · refine (readBound_gives (hkids upper (by simp))).bind fun hi _ => ?_
      split
      · exact Checked.gives_pure trivial
      · split
        · exact Checked.gives_pure trivial
        · exact Checked.gives_missing (Defect.inText_placedIn rfl h.span) trivial
  · exact Checked.gives_pure trivial

theorem readSetItem_gives {n : PhraseNode} (h : n.In source) :
    (readSetItem source n).Gives (·.PlacedIn source .grammar) fun o =>
      ∀ item ∈ o, ItemPlaced source item := by
  unfold readSetItem
  split
  · refine (readLiteral_gives h).bind fun text _ => Checked.gives_pure ?_
    intro item hitem
    obtain ⟨t, -, rfl⟩ := Option.map_eq_some_iff.mp hitem
    exact h.span
  · refine (readCharSet_gives h).bind fun items _ => Checked.gives_pure ?_
    intro item hitem
    obtain ⟨t, -, rfl⟩ := Option.map_eq_some_iff.mp hitem
    trivial
  · refine (readRange_gives h).bind fun bounds _ => Checked.gives_pure ?_
    intro item hitem
    obtain ⟨t, -, rfl⟩ := Option.map_eq_some_iff.mp hitem
    trivial
  · refine Checked.gives_pure ?_
    intro item hitem
    obtain ⟨ident, hident, rfl⟩ := Option.map_eq_some_iff.mp hitem
    exact identsOf_placed h ident (List.mem_of_mem_head? hident)
  · exact Checked.gives_pure (by simp)

theorem readNotSet_gives {n : PhraseNode} (h : n.In source) :
    (readNotSet source n).Gives (·.PlacedIn source .grammar) fun items =>
      ∀ item ∈ items, ItemPlaced source item := by
  refine Checked.gives_eachSome ?_
  intro m hm
  obtain ⟨k, hk, hm⟩ := List.mem_flatMap.mp hm
  have hin := h.kids k hk
  split at hm
  · exact readSetItem_gives (hin.kids m hm)
  · obtain rfl := List.mem_singleton.mp hm
    exact readSetItem_gives hin

theorem readCommand_placed {n : PhraseNode} (h : n.In source) :
    ∀ c ∈ readCommand n, CommandPlaced source c := by
  intro c hc
  have hkids := h.kids
  unfold readCommand at hc
  split at hc
  · rename_i name rest heq
    rw [heq] at hkids
    cases hc
    refine ⟨(hkids name (by simp)).span, ?_⟩
    intro arg harg
    obtain ⟨k, hk, rfl⟩ := Option.map_eq_some_iff.mp harg
    exact (hkids k (List.mem_cons_of_mem _ (List.mem_of_mem_head? hk))).span
  · cases hc

theorem readAltFrame_placed {span : Span} {kids : List PhraseNode} {elements : List ElementDecl}
    (hkids : ∀ k ∈ kids, Node.In source k) :
    ∀ c ∈ (readAltFrame span kids elements).commands, CommandPlaced source c := by
  intro c hc
  simp only [readAltFrame] at hc
  split at hc
  · rename_i n hn
    obtain ⟨m, hm, hmc⟩ := List.mem_filterMap.mp hc
    exact readCommand_placed ((hkids n (List.mem_of_find?_eq_some hn)).kids m hm) c hmc
  · cases hc

theorem readAtom_gives {n : PhraseNode} (h : n.In source) (hrule : n.rule ≠ .group) :
    (readAtom source n).Gives (·.PlacedIn source .grammar) fun atoms =>
      ∀ atom ∈ atoms, AtomPlaced source atom where
  defects := by
    unfold readAtom
    split
    · simp
    · simpa using (readLiteral_gives h).defects
    · simpa using (readCharSet_gives h).defects
    · simpa using (readRange_gives h).defects
    · simp
    · simpa using (readNotSet_gives h).defects
    · exact absurd rfl hrule
    · simp
  value := by
    intro atom hatom
    obtain ⟨ident, hident, rfl⟩ | ⟨_, -, rfl⟩ | ⟨_, -, rfl⟩ | ⟨_, _, -, rfl⟩ | rfl | rfl :=
      mem_readAtom hrule hatom
    · simpa [AtomPlaced] using identsOf_placed h ident hident
    · simp [AtomPlaced]
    · simp [AtomPlaced]
    · simp [AtomPlaced]
    · simp [AtomPlaced]
    · simpa [AtomPlaced] using (readNotSet_gives h).value

theorem placed_inherited : Inherited source (Node.In source) (·.PlacedIn source .grammar)
    (AtomPlaced source) (fun e => e.span.PartOf source ∧ AtomPlaced source e.atom)
    (fun a => a.span.PartOf source ∧ ElementsPlaced source a.elements ∧
      ∀ c ∈ a.commands, CommandPlaced source c) where
  kids _ h := h.kids
  leaf _ h hrule := readAtom_gives h hrule
  group _ _ _ _ halts := by
    rw [AtomPlaced]
    exact alternativesPlaced_iff.mpr halts
  element _ h _ hatom := ⟨h.span, hatom⟩
  alternative _ h _ helements :=
    ⟨h.span, elementsPlaced_iff.mpr helements, readAltFrame_placed h.kids⟩

theorem readRules_gives (mode : Nat) (ns : List PhraseNode) (h : ∀ n ∈ ns, Node.In source n) :
    (readRules source mode ns).Gives (·.PlacedIn source .grammar) fun rules =>
      ∀ r ∈ rules, RulePlaced source r := by
  refine readRules_inherit placed_inherited ?_ mode ns h
  intro mode n hn _ r hr halts
  obtain ⟨name, hname, rfl⟩ := mem_readRule hr
  refine ⟨(hn.kids name (List.mem_of_find?_eq_some hname)).span, ?_,
    alternativesPlaced_iff.mpr halts⟩
  intro span hspan
  obtain ⟨k, hk, rfl⟩ := Option.map_eq_some_iff.mp hspan
  exact (hn.kids k (List.mem_of_find?_eq_some hk)).span

theorem below_in {phrase : Phrase} {n : PhraseNode} (h : n.In source) :
    ∀ m ∈ below phrase n, m.In source :=
  fun m hm => h.kids m (List.mem_filter.mp hm).1

theorem firstIdents_placed {ns : List PhraseNode} (h : ∀ n ∈ ns, Node.In source n) :
    ∀ ident ∈ ns.flatMap fun m => (identsOf m).take 1, ident.span.PartOf source := by
  intro ident hident
  obtain ⟨m, hm, hident⟩ := List.mem_flatMap.mp hident
  exact identsOf_placed (h m hm) ident (List.mem_of_mem_take hident)

theorem readDocument_gives {n : PhraseNode} (h : n.In source) :
    (readDocument source n).Gives (·.PlacedIn source .grammar) (GrammarPlaced source) := by
  refine (readRules_gives 0 n.children h.kids).bind fun rules hrules => Checked.gives_pure ?_
  refine ⟨?_, firstIdents_placed (below_in h), firstIdents_placed (below_in h), hrules⟩
  intro header hheader
  obtain ⟨m, hm, hread⟩ := Option.bind_eq_some_iff.mp hheader
  have hin := below_in h m (List.mem_of_mem_head? hm)
  unfold readHeader at hread
  obtain ⟨name, hname, hvalue⟩ := Option.bind_eq_some_iff.mp hread
  cases hvalue
  exact (hin.kids name (List.mem_of_find?_eq_some hname)).span

/-- A text that is no grammar gives a defect in it, and all others declarations written in it. -/
theorem read_gives (text : List Char) :
    (∀ decl, read text = .ok decl →
      decl.Gives (·.PlacedIn text .grammar) (GrammarPlaced text)) ∧
    ∀ d, read text = .error d → d.PlacedIn text .grammar := by
  constructor
  · intro decl h
    obtain ⟨node, hnode, rfl⟩ := read_eq_ok_iff.mp h
    exact readDocument_gives (recognize_in Phrase.layoutSplits hnode)
  · intro d h
    unfold read at h
    split at h
    · rename_i attempts hattempts
      cases h
      exact Defect.inText_placedIn rfl
        (recognize_furthest Phrase.layoutSplits hattempts).partOf_empty
    · cases h

end Read

end GrammarWorkbench.Declaration
