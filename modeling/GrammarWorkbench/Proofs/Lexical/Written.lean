import GrammarWorkbench.Proofs.Lexical.Inlined
import GrammarWorkbench.Proofs.Pattern.Written

/-!
# Patterns of rules without lazy operators

If no operator in a rule or in one it refers to takes as little as it can, there is no lazy
repetition in its pattern. The sets in a pattern come from those of the document, so all of them can
be written.
-/

set_option autoImplicit false

namespace GrammarWorkbench.Lexical

open GrammarWorkbench.Text GrammarWorkbench.Declaration GrammarWorkbench.Diagnostic
open GrammarWorkbench.Pattern GrammarWorkbench.Pattern.Written

structure Plain (p : Pattern) : Prop where
  greedy : p.isLazy = false
  written : PatternWritten p

section Plain

variable {p q : Pattern}

theorem plain_nothing : Plain .nothing := ⟨rfl, by simp [PatternWritten, sets]⟩

theorem plain_anyChar : Plain .anyChar := ⟨rfl, by simp [PatternWritten, sets]⟩

theorem plain_literal (text : List Char) : Plain (.literal text) :=
  ⟨rfl, by simp [PatternWritten, sets]⟩

theorem plain_one {set : CharSet} (h : SetWritten set) : Plain (.one set) :=
  ⟨rfl, by simpa [PatternWritten, sets] using h⟩

theorem Plain.seq (hp : Plain p) (hq : Plain q) : Plain (.seq p q) where
  greedy := by simp [isLazy, hp.greedy, hq.greedy]
  written s hs := (List.mem_append.mp hs).elim (hp.written s) (hq.written s)

theorem Plain.alt (hp : Plain p) (hq : Plain q) : Plain (.alt p q) where
  greedy := by simp [isLazy, hp.greedy, hq.greedy]
  written s hs := (List.mem_append.mp hs).elim (hp.written s) (hq.written s)

theorem Plain.group (hp : Plain p) : Plain (.group p) := ⟨hp.greedy, hp.written⟩

theorem Plain.loop (hp : Plain p) (kind : RepeatKind) : Plain (.loop kind true p) :=
  ⟨by simpa [isLazy] using hp.greedy, hp.written⟩

theorem plain_sequence {ps : List Pattern} (h : ∀ p ∈ ps, Plain p) : Plain (sequence ps) := by
  induction ps with
  | nil => exact plain_nothing
  | cons p ps ih =>
    exact (h p List.mem_cons_self).seq (ih fun q hq => h q (List.mem_cons_of_mem _ hq))

theorem plain_choice {ps : List Pattern} (h : ∀ p ∈ ps, Plain p) : Plain (choice ps) := by
  induction ps with
  | nil => exact plain_nothing
  | cons p ps ih =>
    have hp := h p List.mem_cons_self
    have hps := ih fun q hq => h q (List.mem_cons_of_mem _ hq)
    cases ps with
    | nil => exact hp
    | cons q qs => exact hp.alt hps

end Plain

section Alternatives

variable {lex : Lexicon} {own : Bool} {inline : Ident → Checked Pattern}

mutual

theorem atomPattern_plain (span : Span) : ∀ a : Atom, atomGreedy a →
    (∀ leaf ∈ atomLeaves a, ∀ span, Plain (atomPattern lex own inline span leaf).value) →
    Plain (atomPattern lex own inline span a).value
  | .group alternatives, hgreedy, h => by
    rw [atomGreedy] at hgreedy
    rw [atomLeaves] at h
    rw [atomPattern]
    exact (plain_choice (alternativePatterns_plain alternatives hgreedy h)).group
  | .ref _, _, h | .literal _, _, h | .range _ _, _, h | .set _, _, h | .wildcard, _, h
  | .not _, _, h => by
    rw [atomLeaves] at h
    exact h _ (List.mem_singleton_self _) span

theorem elementPatterns_plain : ∀ es : List ElementDecl, elementsGreedy es →
    (∀ leaf ∈ elementsLeaves es, ∀ span, Plain (atomPattern lex own inline span leaf).value) →
    ∀ p ∈ (elementPatterns lex own inline es).value, Plain p
  | [], _, _ => by simp [elementPatterns]
  | ⟨atom, suffix, span⟩ :: es, hgreedy, h => by
    rw [elementsGreedy, Bool.and_eq_true, Bool.and_eq_true] at hgreedy
    obtain ⟨⟨hatom, hsuffix⟩, hrest⟩ := hgreedy
    rw [elementsLeaves] at h
    have hatom := atomPattern_plain span atom hatom
      fun leaf hleaf => h leaf (List.mem_append_left _ hleaf)
    have hrest := elementPatterns_plain es hrest
      fun leaf hleaf => h leaf (List.mem_append_right _ hleaf)
    have hone : Plain (elementPattern lex own inline ⟨atom, suffix, span⟩).value := by
      cases suffix with
      | none => simpa [elementPattern] using hatom
      | some s =>
        have hs : s.greedy = true := hsuffix
        simpa [elementPattern, hs] using hatom.loop s.kind
    intro p hp
    simp only [elementPatterns, Checked.value_bind, Checked.value_pure] at hp
    rcases List.mem_cons.mp hp with rfl | hp
    · exact hone
    · exact hrest p hp

theorem alternativePatterns_plain : ∀ as : List AltDecl, alternativesGreedy as →
    (∀ leaf ∈ alternativesLeaves as, ∀ span, Plain (atomPattern lex own inline span leaf).value) →
    ∀ p ∈ (alternativePatterns lex own inline as).value, Plain p
  | [], _, _ => by simp [alternativePatterns]
  | ⟨elements, _, _, _, _⟩ :: as, hgreedy, h => by
    rw [alternativesGreedy, Bool.and_eq_true] at hgreedy
    rw [alternativesLeaves] at h
    have hone := elementPatterns_plain elements hgreedy.1
      fun leaf hleaf => h leaf (List.mem_append_left _ hleaf)
    have hrest := alternativePatterns_plain as hgreedy.2
      fun leaf hleaf => h leaf (List.mem_append_right _ hleaf)
    intro p hp
    simp only [alternativePatterns, Checked.value_bind, Checked.value_pure] at hp
    rcases List.mem_cons.mp hp with rfl | hp
    · exact plain_sequence hone
    · exact hrest p hp

end

end Alternatives

section Leaves

theorem pieceWritten_pieceOf {item : ClassItem} (h : ItemSound item) :
    PieceWritten (pieceOf item) := by
  cases item with
  | property name negated => exact h
  | range lo hi =>
    rw [pieceOf]
    split
    · trivial
    · exact h

theorem atomPieces?_written {a : Atom} {ps : List Piece} (h : LeafSound a)
    (hps : atomPieces? a = some ps) : ∀ p ∈ ps, PieceWritten p := by
  unfold atomPieces? at hps
  split at hps
  · cases hps
    intro p hp
    obtain ⟨item, hitem, rfl⟩ := List.mem_map.mp hp
    exact pieceWritten_pieceOf (h.items item hitem)
  · cases hps
    exact List.forall_mem_singleton.mpr h
  · cases hps
    simp [PieceWritten]
  · cases hps

variable {lex : Lexicon}
variable (hleaves : ∀ r ∈ lex.rules, ∀ leaf ∈ alternativesLeaves r.alternatives, LeafSound leaf)

theorem mem_leaves_of_soleAtom? {r : RuleDecl} {a : Atom} (h : soleAtom? r = some a)
    {ps : List Piece} (hps : atomPieces? a = some ps) : a ∈ alternativesLeaves r.alternatives := by
  have hone : a ∈ atomLeaves a := by
    unfold atomPieces? at hps
    split at hps
    · simp [atomLeaves]
    · simp [atomLeaves]
    · simp [atomLeaves]
    · cases hps
  unfold soleAtom? at h
  split at h
  · rename_i atom _ _ _ _ _ heq
    cases h
    rw [heq]
    simpa [alternativesLeaves, elementsLeaves] using hone
  · cases h

/-- A name stands for nothing or for the alternatives of its rule. -/
theorem inlineRule_value (lex : Lexicon) (room : Nat) (stack : List String) (ident : Ident) :
    (inlineRule lex room stack ident).value = .nothing ∨
      ∃ less s, room = less + 1 ∧ lex.rule? ident.name = some s ∧
        (inlineRule lex room stack ident).value = .group (.choice (alternativePatterns lex false
          (inlineRule lex less (stack ++ [ident.name])) s.alternatives).value) := by
  rw [inlineRule]
  split
  · exact Or.inl rfl
  · rename_i s hs
    split
    · exact Or.inl rfl
    · exact Or.inl rfl
    · exact Or.inl rfl
    · exact Or.inr ⟨_, s, rfl, hs, rfl⟩

include hleaves

theorem setItemPieces_written {item : SetItem} (h : SetItemSound item) (own : Bool) :
    ∀ p ∈ (setItemPieces lex own item).value, PieceWritten p := by
  unfold setItemPieces
  split
  · exact List.forall_mem_singleton.mpr h
  · intro p hp
    obtain ⟨item, hitem, rfl⟩ := List.mem_map.mp hp
    exact pieceWritten_pieceOf (h.items item hitem)
  · simp [PieceWritten]
  · simp
  · split
    · rename_i ident pieces hpieces
      obtain ⟨r, hr, hrule⟩ := Option.bind_eq_some_iff.mp hpieces
      rw [rulePieces?_eq] at hrule
      obtain ⟨a, ha, hatom⟩ := Option.bind_eq_some_iff.mp hrule
      have hleaf := hleaves r (isRule_of_rule? hr).mem a (mem_leaves_of_soleAtom? ha hatom)
      exact atomPieces?_written hleaf hatom
    · simp

theorem negatedPattern_plain {items : List SetItem} (h : ∀ item ∈ items, SetItemSound item)
    (own : Bool) (span : Span) : Plain (negatedPattern lex own items span).value := by
  rw [negatedPattern_value]
  dsimp only
  split
  · exact plain_nothing
  · rename_i hne
    apply plain_one
    refine ⟨by simpa using hne, ?_⟩
    intro p hp
    obtain ⟨ps, hps, hmem⟩ := List.mem_flatten.mp hp
    obtain ⟨item, hitem, rfl⟩ := List.mem_map.mp hps
    exact setItemPieces_written hleaves (h item hitem) true p hmem

theorem leaf_plain {leaf : Atom} (hsound : LeafSound leaf) (hgroup : ∀ as, leaf ≠ .group as)
    {own : Bool} {inline : Ident → Checked Pattern}
    (hinline : ∀ ident, leaf = .ref ident → Plain (inline ident).value) (span : Span) :
    Plain (atomPattern lex own inline span leaf).value := by
  cases leaf with
  | group as => exact absurd rfl (hgroup as)
  | ref ident =>
    rw [atomPattern]
    exact hinline ident rfl
  | literal text =>
    rw [atomPattern]
    exact (plain_literal text).group
  | range lo hi =>
    rw [atomPattern]
    exact plain_one ⟨by simp, List.forall_mem_singleton.mpr hsound⟩
  | set items =>
    rw [atomPattern]
    refine plain_one ⟨by simpa using hsound.ne_nil, ?_⟩
    intro p hp
    obtain ⟨item, hitem, rfl⟩ := List.mem_map.mp hp
    exact pieceWritten_pieceOf (hsound.items item hitem)
  | wildcard =>
    rw [atomPattern]
    exact plain_anyChar
  | not items =>
    rw [atomPattern]
    exact negatedPattern_plain hleaves hsound own span

/-- What stands for a name in a rule without lazy operators is plain. -/
theorem inlineRule_plain {room : Nat} {stack : List String} {r : RuleDecl} {ident : Ident}
    (hgreedy : Greedy lex.rules r) (hident : .ref ident ∈ alternativesLeaves r.alternatives) :
    Plain (inlineRule lex room stack ident).value := by
  induction room generalizing stack r ident with
  | zero =>
    rcases inlineRule_value lex 0 stack ident with hnothing | ⟨less, s, hroom, -⟩
    · rw [hnothing]
      exact plain_nothing
    · cases hroom
  | succ room ih =>
    rcases inlineRule_value lex (room + 1) stack ident with
      hnothing | ⟨less, s, hroom, hs, hvalue⟩
    · rw [hnothing]
      exact plain_nothing
    · cases hroom
      have href : RefersTo lex.rules r s := ⟨ident, hident, isRule_of_rule? hs⟩
      have hgreedy' : Greedy lex.rules s := fun t ht => hgreedy t (ht.head href)
      rw [hvalue]
      apply (plain_choice (alternativePatterns_plain s.alternatives (hgreedy' s .refl) _)).group
      intro leaf hleaf
      apply leaf_plain hleaves (hleaves s (isRule_of_rule? hs).mem leaf hleaf)
      · rintro as rfl
        exact alternativesLeaves_ne_group as _ hleaf
      · rintro ident' rfl
        exact ih hgreedy' hleaf

/-- The pattern of some alternatives of a rule without lazy operators is plain. -/
theorem ofAlternatives_plain {r : RuleDecl} (hr : r ∈ lex.rules) (hgreedy : Greedy lex.rules r)
    {as : List AltDecl} (hsub : as ⊆ r.alternatives) : Plain (ofAlternatives lex r as).value := by
  have hall := alternativesGreedy_iff.mp (hgreedy r .refl)
  have has : alternativesGreedy as := alternativesGreedy_iff.mpr fun a ha => hall a (hsub ha)
  apply plain_choice (alternativePatterns_plain as has _)
  intro leaf hleaf
  have hleaf' := alternativesLeaves_subset hsub hleaf
  apply leaf_plain hleaves (hleaves r hr leaf hleaf')
  · rintro as' rfl
    exact alternativesLeaves_ne_group as' _ hleaf
  · rintro ident rfl
    exact inlineRule_plain hleaves hgreedy hleaf'

end Leaves

end GrammarWorkbench.Lexical
