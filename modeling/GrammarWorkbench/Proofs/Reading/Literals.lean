import GrammarWorkbench.Compile.Tokens
import GrammarWorkbench.Proofs.Reading.Parts

/-!
# Literals of a document

A literal between quotes stands for at least one character. So no literal that a rule of a document
uses is empty, however deep in groups and negated sets it stands.
-/

set_option autoImplicit false

namespace GrammarWorkbench.Declaration

open GrammarWorkbench.Recognizer GrammarWorkbench.Diagnostic GrammarWorkbench.Compile

theorem decodeChars_ne_nil {c : Char} {cs text : List Char}
    (h : decodeChars 0 (c :: cs) = .ok text) : text ≠ [] := by
  rintro rfl
  rw [decodeChars] at h
  split at h
  · cases hescape : decodeEscape cs with
    | error fault => simp [hescape, bind, Except.bind] at h
    | ok decoded =>
      cases hrest : decodeChars decoded.2 cs <;>
        simp [hescape, hrest, bind, Except.bind, pure, Except.pure] at h
  · cases hrest : decodeChars 0 cs <;> simp [hrest, bind, Except.bind, pure, Except.pure] at h

theorem decodeLiteral_ne_nil {inner text : List Char} (h : decodeLiteral inner = .ok text) :
    text ≠ [] := by
  cases inner with
  | nil => simp [decodeLiteral] at h
  | cons c cs => exact decodeChars_ne_nil (by simpa [decodeLiteral] using h)

section Read

variable (source : List Char)

theorem readLiteral_ne_nil {n : PhraseNode} {text : List Char}
    (h : (readLiteral source n).value = some text) : text ≠ [] := by
  unfold readLiteral at h
  split at h
  · next decoded hdecoded =>
    cases h
    exact decodeLiteral_ne_nil hdecoded
  · cases h

def NoneEmpty (literals : List (List Char)) : Prop := ∀ l ∈ literals, l ≠ []

theorem noneEmpty_append {ls ms : List (List Char)} :
    NoneEmpty (ls ++ ms) ↔ NoneEmpty ls ∧ NoneEmpty ms := by
  simp [NoneEmpty, or_imp, forall_and]

theorem noneEmpty_elements {es : List ElementDecl} :
    NoneEmpty (elementsLiterals es) ↔ ∀ e ∈ es, NoneEmpty (atomLiterals e.atom) := by
  induction es with
  | nil => simp [elementsLiterals, NoneEmpty]
  | cons e es ih => simp [elementsLiterals, noneEmpty_append, ih]

theorem noneEmpty_alternatives {as : List AltDecl} :
    NoneEmpty (alternativesLiterals as) ↔ ∀ a ∈ as, NoneEmpty (elementsLiterals a.elements) := by
  induction as with
  | nil => simp [alternativesLiterals, NoneEmpty]
  | cons a as ih => simp [alternativesLiterals, noneEmpty_append, ih]

theorem readSetItem_literal {n : PhraseNode} {text : List Char} {span : Text.Span}
    (h : (readSetItem source n).value = some (.literal text span)) : text ≠ [] := by
  unfold readSetItem at h
  split at h
  · simp only [Checked.value_bind, Checked.value_pure, Option.map_eq_some_iff] at h
    obtain ⟨decoded, hdecoded, heq⟩ := h
    cases heq
    exact readLiteral_ne_nil source hdecoded
  · simp at h
  · simp at h
  · simp at h
  · simp at h

theorem readNotSet_noneEmpty (n : PhraseNode) :
    NoneEmpty (setLiterals (readNotSet source n).value) := by
  intro l hl
  rw [readNotSet, Checked.value_eachSome] at hl
  simp only [setLiterals, List.mem_filterMap] at hl
  obtain ⟨item, ⟨m, -, hitem⟩, hl⟩ := hl
  cases item with
  | literal text span =>
    cases hl
    exact readSetItem_literal source hitem
  | range lo hi => cases hl
  | set items => cases hl
  | ref ident => cases hl

theorem noneEmpty_inherited : Inherited source (fun _ => True) (fun _ => True)
    (fun a => NoneEmpty (atomLiterals a)) (fun e => NoneEmpty (atomLiterals e.atom))
    (fun a => NoneEmpty (elementsLiterals a.elements)) where
  kids _ _ _ _ := trivial
  leaf n _ hrule := by
    refine ⟨fun _ _ => trivial, fun a ha => ?_⟩
    -- Of the leaves only literals and negated sets hold literals.
    obtain ⟨ident, -, rfl⟩ | ⟨text, htext, rfl⟩ | ⟨items, -, rfl⟩ | ⟨lo, hi, -, rfl⟩ | rfl | rfl :=
      mem_readAtom hrule ha
    · simp [atomLiterals, NoneEmpty]
    · simpa [atomLiterals, NoneEmpty] using readLiteral_ne_nil source htext
    · simp [atomLiterals, NoneEmpty]
    · simp [atomLiterals, NoneEmpty]
    · simp [atomLiterals, NoneEmpty]
    · simpa [atomLiterals] using readNotSet_noneEmpty source n
  group _ _ _ _ halts := by simpa [atomLiterals, noneEmpty_alternatives] using halts
  element _ _ _ hatom := hatom
  alternative _ _ _ helements := noneEmpty_elements.mpr helements

end Read

theorem read_noneEmpty {text : List Char} {g : Checked GrammarDecl} (h : read text = .ok g) :
    ∀ r ∈ g.value.rules, NoneEmpty (alternativesLiterals r.alternatives) := by
  obtain ⟨node, -, rfl⟩ := read_eq_ok_iff.mp h
  have hrules := readRules_inherit (noneEmpty_inherited text)
    (fun _ _ _ _ r _ halts => noneEmpty_alternatives.mpr halts) 0 node.children fun _ _ => trivial
  exact hrules.value

end GrammarWorkbench.Declaration
