import GrammarWorkbench.Compile.Tokens
import GrammarWorkbench.Proofs.Reading.Nodes
import GrammarWorkbench.Proofs.Reading.Parts

/-!
# Names of a document

A name that a document writes begins with a letter, a digit or an underscore. The name of a literal
begins with a quote, so no name declared for a token is the name of a literal.
-/

set_option autoImplicit false

namespace GrammarWorkbench.Declaration

open GrammarWorkbench.Text GrammarWorkbench.Recognizer GrammarWorkbench.Diagnostic
open GrammarWorkbench.Compile

def BeginsAsName (text : List Char) : Prop :=
  ∃ c cs, text = c :: cs ∧ (c.isAlphanum || c == '_')

inductive Named : PhraseNode → Prop
  | mk {r : Phrase} {span : Text.Span} {text : List Char} {kids : List PhraseNode}
      (htext : r = .identifier ∨ r = .integer → BeginsAsName text)
      (hkids : ∀ k ∈ kids, Named k) : Named (.mk r span text kids)

theorem Named.kids {n : PhraseNode} (h : Named n) : ∀ k ∈ n.children, Named k := by
  cases h with
  | mk _ hkids => exact hkids

theorem Named.name {n : PhraseNode} (h : Named n) (hname : isName n) : BeginsAsName n.text := by
  cases h with
  | mk htext _ => exact htext (by simpa [isName, Node.rule] using hname)

/-- A match of a character and whatever may be repeated behind it begins with the character. -/
theorem runExpr_begins {call : Phrase → Matcher Phrase} (hcall : ∀ r, GoesOn (call r))
    {test : Char → Bool} {e : Expr Phrase} {p q : Place} {a : Attempts Phrase}
    {nodes : List PhraseNode} (h : (runExpr Phrase.rules call true
      (.seq (.char test) (.many e)) p a).result = some (nodes, q)) :
    ∃ c cs, p.rest = c :: cs ∧ test c ∧ p.offset < q.offset := by
  obtain ⟨found, r, b, more, hfirst, hmore, -⟩ := runExpr_seq_some h
  obtain ⟨c, cs, hrest, hc, -, rfl⟩ := runExpr_char_some hfirst
  obtain ⟨taken, -, hoffset⟩ := runExpr_goesOn Phrase.layoutSplits hcall _ _ b more q hmore
  refine ⟨c, cs, hrest, hc, ?_⟩
  have hpos := c.utf8Size_pos
  simp only [skipLayout, if_true, Place.after, byteLength_cons, byteLength_nil] at hoffset
  omega

theorem beginsAsName_takeBytes {p q : Place} {c : Char} {cs : List Char}
    (hrest : p.rest = c :: cs) (hc : c.isAlphanum || c == '_') (hlt : p.offset < q.offset) :
    BeginsAsName (takeBytes p.rest (q.offset - p.offset)) := by
  have hsome : q.offset - p.offset ≠ 0 := by omega
  refine ⟨c, takeBytes cs (q.offset - p.offset - c.utf8Size), ?_, hc⟩
  rw [hrest, takeBytes, if_neg hsome]

theorem runBody_name {depth : Nat} {r : Phrase} (hr : r = .identifier ∨ r = .integer)
    {p q : Place} {a : Attempts Phrase} {kids : List PhraseNode}
    (h : (runBody Phrase.rules depth r p a).result = some (kids, q)) :
    BeginsAsName (takeBytes p.rest (q.offset - p.offset)) := by
  have hon := runRule_goesOn Phrase.layoutSplits depth true
  rcases hr with rfl | rfl
  · obtain ⟨c, cs, hrest, hc, hlt⟩ := runExpr_begins hon h
    have halphanum : c.isAlphanum || c == '_' := by
      simp only [Char.isAlphanum, Bool.or_eq_true] at hc ⊢
      exact hc.imp_left .inl
    exact beginsAsName_takeBytes hrest halphanum hlt
  · obtain ⟨c, cs, hrest, hc, hlt⟩ := runExpr_begins hon h
    exact beginsAsName_takeBytes hrest (by simp [Char.isAlphanum, hc]) hlt

theorem recognize_named {text : List Char} {node : PhraseNode}
    (h : recognize Phrase.rules Phrase.inOrder.length .document text = .ok node) : Named node := by
  refine recognize_leaves Phrase.layoutSplits ?_ h
  intro depth r p q a kids _ hbody hkids
  exact .mk (fun hr => runBody_name hr hbody) hkids

theorem literalName_ne_of_beginsAsName {text : List Char} (h : BeginsAsName text) (l : List Char) :
    literalName l ≠ String.ofList text := by
  obtain ⟨c, cs, rfl, hc⟩ := h
  intro heq
  have hlist := congrArg String.toList heq
  simp only [literalName, String.toList_ofList, List.cons_append, List.cons.injEq] at hlist
  rw [← hlist.1] at hc
  revert hc
  decide

/-- No name that a document declares for a token is the name of a literal. -/
theorem read_tokens_ne {text : List Char} {g : Checked GrammarDecl} (h : read text = .ok g) :
    ∀ ident ∈ g.value.tokens, ∀ l, literalName l ≠ ident.name := by
  obtain ⟨node, hnode, rfl⟩ := read_eq_ok_iff.mp h
  intro ident hident l
  obtain ⟨n, hn, hident⟩ := List.mem_flatMap.mp hident
  obtain ⟨k, hk, rfl⟩ := List.mem_map.mp hident
  obtain ⟨hkid, hname⟩ := List.mem_filter.mp hk
  have hnamed := (recognize_named hnode).kids n (List.mem_filter.mp hn).1
  exact literalName_ne_of_beginsAsName ((hnamed.kids k hkid).name hname) l

end GrammarWorkbench.Declaration
