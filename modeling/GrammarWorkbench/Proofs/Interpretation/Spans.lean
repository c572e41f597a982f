import GrammarWorkbench.Proofs.Interpretation.Order
import GrammarWorkbench.Proofs.Parsing.Spans

/-!
# The spans of an interpreted input

The tokens of an input follow one another, whatever is skipped or left out between them. Tokens on
other channels are taken away before a parse, which leaves the others in order. So the spans of
every tree that an interpretation results in are nested.
-/

set_option autoImplicit false

namespace GrammarWorkbench.Run

open GrammarWorkbench.Text GrammarWorkbench.Diagnostic GrammarWorkbench.Model

/-- A token covers all that is behind the tokens before it, up to the end of its last segment. -/
theorem tokenAt_span {v : Vocabulary} {before : List Segment} {seg : Segment} {t : Token}
    (h : tokenAt v before seg = some t) : ¬ seg.isMore ∧
      t.span = ⟨byteLength (textOf (settled before)), byteLength (textOf (before ++ [seg]))⟩ := by
  have hwhole : textOf (before ++ [seg]) =
      textOf (settled before) ++ textOf (begun before ++ [seg]) := by
    rw [← textOf_append, ← List.append_assoc, settled_append_begun]
  unfold tokenAt at h
  split at h
  · cases h
  · rename_i rule hrule
    split at h
    · cases h
    · rename_i hflags
      cases h
      have hmore : ¬ rule.action.more := fun hmore => hflags (by simp [hmore])
      exact ⟨by simpa [Segment.isMore, hrule] using hmore, by rw [hwhole]⟩

/-- The tokens of some segments follow one another, before the token that is begun at the end. The
induction is from the right: the last segment ends at most one more token. -/
theorem tokens_between (v : Vocabulary) (segs : List Segment) :
    Between 0 ((lexedAt v (places [] segs)).tokens.map Token.span)
      (byteLength (textOf (settled segs))) := by
  induction segs using List.reverseRecOn with
  | nil => exact Nat.le_refl 0
  | append_singleton segs seg ih =>
    rw [tokens_concat, List.map_append]
    have hgrows : byteLength (textOf (settled segs)) ≤
        byteLength (textOf (settled (segs ++ [seg]))) := by
      by_cases hmore : seg.isMore
      · have hsettled : settled (segs ++ [seg]) = settled segs :=
          List.rdropWhile_concat_pos _ _ _ hmore
        rw [hsettled]
      · have hsettled : settled (segs ++ [seg]) = segs ++ [seg] :=
          List.rdropWhile_concat_neg _ _ _ hmore
        rw [hsettled]
        exact (byteLength_settled_le segs).trans (byteLength_textOf_le (List.prefix_append _ _))
    cases htoken : tokenAt v segs seg with
    | none => exact ih.append hgrows
    | some t =>
      obtain ⟨hmore, hspan⟩ := tokenAt_span htoken
      have hsettled : settled (segs ++ [seg]) = segs ++ [seg] :=
        List.rdropWhile_concat_neg _ _ _ hmore
      rw [hsettled] at hgrows ⊢
      refine ih.append ?_
      rw [Option.toList_some, List.map_singleton, hspan]
      exact ⟨Nat.le_refl _, hgrows, Nat.le_refl _⟩

theorem tokenize_between {grammar : List Char} {start : Option String} {g : Grammar}
    (h : compile grammar start = .ok g) {input : List Char} {isCancelled : Bool} {lexed : Lexed}
    (hlexed : tokenize g input isCancelled = .ok lexed) :
    Between 0 (lexed.tokens.map Token.span) (byteLength input) := by
  obtain ⟨segs, hsegs, -, hok⟩ := tokenize_ok h input
  rw [hok isCancelled lexed hlexed]
  refine (tokens_between g.vocabulary segs).weaken (Nat.le_refl _) ?_
  rw [← hsegs.textOf_eq]
  exact byteLength_settled_le segs

theorem runGrammar_tree {g : Grammar} {input : List Char} {maxDepth : Nat} {isCancelled : Bool}
    {tree : Tree} {ds : List Defect}
    (h : runGrammar g input maxDepth isCancelled = .ok (.tree tree, ds)) :
    ∃ lexed start ds', tokenize g input isCancelled = .ok lexed ∧
      parse g input lexed.tokens maxDepth isCancelled start = .ok (tree, ds') := by
  unfold runGrammar at h
  split at h
  · cases h
  · rename_i lexed hlexed
    split at h
    · cases h
    · split at h
      · cases h
      · rename_i start _
        split at h
        · cases h
        · rename_i tree' ds' hparse
          cases h
          exact ⟨lexed, start, ds', hlexed, hparse⟩

theorem interpret_tree {settings : Settings} {grammarText input : List Char} {isCancelled : Bool}
    {tree : Tree}
    (h : (interpret settings grammarText input isCancelled).analysis = some (.tree tree)) :
    ∃ g ds, compile grammarText settings.start = .ok g ∧
      runGrammar g input settings.maxDepth isCancelled = .ok (.tree tree, ds) := by
  unfold interpret at h
  split at h
  · cases h
  · rename_i g hcompile
    unfold interpretBy at h
    split at h
    · cases h
    · rename_i analysis ds hrun
      cases h
      exact ⟨g, ds, hcompile, hrun⟩

/-- The spans of every tree that an interpretation results in are nested and in order, at the root
and at every node below it, whether or not there were errors to recover from. -/
theorem interpret_spans_nested {settings : Settings} {grammarText input : List Char}
    {isCancelled : Bool} {tree : Tree}
    (h : (interpret settings grammarText input isCancelled).analysis = some (.tree tree)) :
    ∀ n ∈ tree.nodes, n.Nested (byteLength input) := by
  obtain ⟨g, ds, hcompile, hrun⟩ := interpret_tree h
  obtain ⟨lexed, start, ds', hlexed, hparse⟩ := runGrammar_tree hrun
  have hleaves := parse_between (tokenize_between hcompile hlexed) hparse
  intro n hn
  exact Tree.nested_of_between (Tree.leafSpans_between hleaves hn)

def sumGrammar : List Char := "e:e'+'e|'1';".toList

theorem sumGrammar_interpreted :
    ∃ a ∈ (interpret ⟨none, 2⟩ sumGrammar "1 +".toList false).analysis, ∃ tree ∈ a.tree?,
      tree.span? = some ⟨0, 3⟩ ∧
      tree.children.filterMap Tree.span? = [⟨0, 1⟩, ⟨2, 3⟩, ⟨3, 3⟩] := by
  decide +kernel

/-- A blank that no rule matches leaves a gap, and the sum lacks its right side at the end. -/
theorem interpret_spans_nested_sum : ∃ tree,
    (interpret ⟨none, 2⟩ sumGrammar "1 +".toList false).analysis = some (.tree tree) ∧
    tree.span? = some ⟨0, 3⟩ ∧
    tree.children.filterMap Tree.span? = [⟨0, 1⟩, ⟨2, 3⟩, ⟨3, 3⟩] ∧
    ∀ n ∈ tree.nodes, n.Nested 3 := by
  obtain ⟨a, ha, tree, htree, hspan, hchildren⟩ := sumGrammar_interpreted
  have hanalysis : (interpret ⟨none, 2⟩ sumGrammar "1 +".toList false).analysis =
      some (.tree tree) := by
    cases a with
    | tokens ts => cases htree
    | tree t =>
      cases htree
      exact ha
  exact ⟨tree, hanalysis, hspan, hchildren, interpret_spans_nested hanalysis⟩

end GrammarWorkbench.Run
