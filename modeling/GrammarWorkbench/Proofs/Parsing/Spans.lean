import GrammarWorkbench.Proofs.Parsing.Recovered
import Mathlib.Order.Bounds.Basic

/-!
# The spans of a parse tree

A node takes its span from the first and the last of its children that have one. That is the span
of all leaves below it because the leaves are in order: each token that is read starts behind the
one before it, and a leaf that is made up to recover from an error stands at the start of the next
token or at the end of the input.
-/

set_option autoImplicit false

namespace GrammarWorkbench.Text

/-- Spans that follow one another between two offsets, possibly with gaps. -/
def Between : Nat → List Span → Nat → Prop
  | lo, [], hi => lo ≤ hi
  | lo, s :: ss, hi => lo ≤ s.start ∧ s.start ≤ s.stop ∧ Between s.stop ss hi

namespace Between

variable {lo mid hi : Nat} {ss ts : List Span}

theorem le (h : Between lo ss hi) : lo ≤ hi := by
  induction ss generalizing lo with
  | nil => exact h
  | cons s ss ih =>
    obtain ⟨hstart, hspan, hrest⟩ := h
    have hle := ih hrest
    omega

theorem weaken {lo' hi' : Nat} (h : Between lo ss hi) (hlo : lo' ≤ lo) (hhi : hi ≤ hi') :
    Between lo' ss hi' := by
  induction ss generalizing lo lo' with
  | nil => exact hlo.trans (h.le.trans hhi)
  | cons s ss ih =>
    obtain ⟨hstart, hspan, hrest⟩ := h
    exact ⟨hlo.trans hstart, hspan, ih hrest (Nat.le_refl _)⟩

theorem append (h : Between lo ss mid) (h' : Between mid ts hi) : Between lo (ss ++ ts) hi := by
  induction ss generalizing lo with
  | nil => exact h'.weaken h (Nat.le_refl _)
  | cons s ss ih =>
    obtain ⟨hstart, hspan, hrest⟩ := h
    exact ⟨hstart, hspan, ih hrest⟩

theorem split (h : Between lo (ss ++ ts) hi) : ∃ mid, Between lo ss mid ∧ Between mid ts hi := by
  induction ss generalizing lo with
  | nil => exact ⟨lo, Nat.le_refl _, h⟩
  | cons s ss ih =>
    obtain ⟨hstart, hspan, hrest⟩ := h
    obtain ⟨mid, hfirst, hsecond⟩ := ih hrest
    exact ⟨mid, ⟨hstart, hspan, hfirst⟩, hsecond⟩

theorem sublist (h : Between lo ts hi) (hsub : ss.Sublist ts) : Between lo ss hi := by
  induction hsub generalizing lo with
  | slnil => exact h
  | cons s _ ih =>
    obtain ⟨hstart, hspan, hrest⟩ := h
    exact (ih hrest).weaken (hstart.trans hspan) (Nat.le_refl _)
  | cons_cons s _ ih =>
    obtain ⟨hstart, hspan, hrest⟩ := h
    exact ⟨hstart, hspan, ih hrest⟩

theorem mem {s : Span} (h : Between lo ss hi) (hs : s ∈ ss) :
    lo ≤ s.start ∧ s.start ≤ s.stop ∧ s.stop ≤ hi := by
  obtain ⟨hstart, hspan, hrest⟩ := h.sublist (List.singleton_sublist.mpr hs)
  exact ⟨hstart, hspan, hrest⟩

/-- Of two spans the one behind starts where the other ends, or later. -/
theorem pairwise (h : Between lo ss hi) : ss.Pairwise fun s t => s.stop ≤ t.start := by
  induction ss generalizing lo with
  | nil => exact .nil
  | cons s ss ih =>
    obtain ⟨-, -, hrest⟩ := h
    exact .cons (fun t ht => (hrest.mem ht).1) (ih hrest)

end Between

def hull (ss : List Span) : Option Span :=
  match ss.head?, ss.getLast? with
  | some s, some t => some ⟨s.start, t.stop⟩
  | _, _ => none

theorem hull_eq_none {ss : List Span} : hull ss = none ↔ ss = [] := by
  constructor
  · intro h
    by_contra hne
    simp [hull, List.head?_eq_some_head hne, List.getLast?_eq_some_getLast hne] at h
  · rintro rfl
    rfl

theorem hull_map_start (ss : List Span) : (hull ss).map (·.start) = ss.head?.map (·.start) := by
  cases hnil : ss.getLast? with
  | none => simp [List.getLast?_eq_none_iff.mp hnil, hull]
  | some t => cases hhead : ss.head? <;> simp [hull, hnil, hhead]

theorem hull_map_stop (ss : List Span) : (hull ss).map (·.stop) = ss.getLast?.map (·.stop) := by
  cases hnil : ss.head? with
  | none => simp [List.head?_eq_none_iff.mp hnil, hull]
  | some s => cases hlast : ss.getLast? <;> simp [hull, hnil, hlast]

theorem exists_of_hull {ss : List Span} {s : Span} (h : hull ss = some s) :
    (∃ t ∈ ss, t.start = s.start) ∧ ∃ t ∈ ss, t.stop = s.stop := by
  unfold hull at h
  split at h
  · rename_i first last hfirst hlast
    cases h
    exact ⟨⟨first, List.mem_of_mem_head? hfirst, rfl⟩, last, List.mem_of_getLast? hlast, rfl⟩
  · cases h

theorem Between.hull {lo hi : Nat} {ss : List Span} {s : Span} (h : Between lo ss hi)
    (hs : Text.hull ss = some s) :
    Between s.start ss s.stop ∧ lo ≤ s.start ∧ s.start ≤ s.stop ∧ s.stop ≤ hi := by
  obtain ⟨⟨t, ht, hstart⟩, u, hu, hstop⟩ := exists_of_hull hs
  have hall : Between s.start ss s.stop := by
    unfold Text.hull at hs
    split at hs
    · rename_i first last hfirst hlast
      cases hs
      obtain ⟨rest, rfl⟩ := List.head?_eq_some_iff.mp hfirst
      obtain ⟨-, hspan, hrest⟩ := h
      have hbegin : Between first.start (first :: rest) hi := ⟨Nat.le_refl _, hspan, hrest⟩
      obtain ⟨init, hinit⟩ := List.getLast?_eq_some_iff.mp hlast
      rw [hinit] at hbegin ⊢
      obtain ⟨mid, hbefore, hlo, hle, -⟩ := hbegin.split
      exact hbefore.append ⟨hlo, hle, Nat.le_refl _⟩
    · cases hs
  refine ⟨hall, ?_, hall.le, ?_⟩
  · rw [← hstart]
    exact (h.mem ht).1
  · rw [← hstop]
    exact (h.mem hu).2.2

end GrammarWorkbench.Text

namespace GrammarWorkbench.Run

open GrammarWorkbench.Text GrammarWorkbench.Model GrammarWorkbench.Derivation

namespace Tree

mutual

def nodes : Tree → List Tree
  | rule i cs => rule i cs :: allNodes cs
  | token t => [token t]
  | error text s => [error text s]

def allNodes : List Tree → List Tree
  | [] => []
  | t :: ts => nodes t ++ allNodes ts

end

def leafSpans (t : Tree) : List Span := t.leaves.filterMap span?

def allLeafSpans (ts : List Tree) : List Span := (allLeaves ts).filterMap span?

theorem allLeafSpans_cons (t : Tree) (ts : List Tree) :
    allLeafSpans (t :: ts) = t.leafSpans ++ allLeafSpans ts := by
  rw [allLeafSpans, allLeaves, List.filterMap_append]
  rfl

theorem allLeafSpans_append (ss ts : List Tree) :
    allLeafSpans (ss ++ ts) = allLeafSpans ss ++ allLeafSpans ts := by
  rw [allLeafSpans, allLeaves_append, List.filterMap_append]
  rfl

theorem leafSpans_rule (i : Nat) (cs : List Tree) : (rule i cs).leafSpans = allLeafSpans cs := by
  rw [leafSpans, leaves]
  rfl

mutual

/-- The leaves of a node stand together among those of a node above it. -/
theorem leaves_isInfix : ∀ (t : Tree), ∀ n ∈ t.nodes, n.leaves <:+: t.leaves
  | rule i cs, n, hn => by
    rw [nodes] at hn
    rcases List.mem_cons.mp hn with rfl | hn
    · exact List.infix_refl _
    · rw [leaves]
      exact allLeaves_isInfix cs n hn
  | token t, n, hn => by
    rw [List.mem_singleton.mp hn]
  | error text s, n, hn => by
    rw [List.mem_singleton.mp hn]

theorem allLeaves_isInfix : ∀ (ts : List Tree), ∀ n ∈ allNodes ts, n.leaves <:+: allLeaves ts
  | [], n, hn => by cases hn
  | t :: ts, n, hn => by
    rw [allNodes] at hn
    rw [allLeaves]
    rcases List.mem_append.mp hn with hn | hn
    · exact (leaves_isInfix t n hn).trans (List.prefix_append _ _).isInfix
    · exact (allLeaves_isInfix ts n hn).trans (List.suffix_append _ _).isInfix

end

mutual

theorem span?_eq_hull : ∀ t : Tree, t.span? = hull t.leafSpans
  | rule i cs => by
    have hfirst := firstSpan?_start cs
    have hlast := lastSpan?_stop cs
    rw [span?, leafSpans_rule, hull]
    cases hf : firstSpan? cs with
    | none =>
      rw [hf] at hfirst
      have hnil : (allLeafSpans cs).head? = none := Option.map_eq_none_iff.mp hfirst.symm
      simp [hnil]
    | some s =>
      rw [hf] at hfirst
      obtain ⟨s', hs', hstart⟩ := Option.map_eq_some_iff.mp hfirst.symm
      cases hl : lastSpan? cs with
      | none =>
        rw [hl] at hlast
        have hnil : (allLeafSpans cs).getLast? = none := Option.map_eq_none_iff.mp hlast.symm
        simp [hnil]
      | some t =>
        rw [hl] at hlast
        obtain ⟨t', ht', hstop⟩ := Option.map_eq_some_iff.mp hlast.symm
        simp [hs', ht', hstart, hstop]
  | token t => rfl
  | error text s => rfl

theorem firstSpan?_start : ∀ ts : List Tree,
    (firstSpan? ts).map (·.start) = (allLeafSpans ts).head?.map (·.start)
  | [] => rfl
  | t :: ts => by
    have hspan := span?_eq_hull t
    rw [allLeafSpans_cons, firstSpan?]
    cases hs : span? t with
    | none =>
      rw [hull_eq_none.mp (hspan.symm.trans hs)]
      exact firstSpan?_start ts
    | some s =>
      have hstart := hull_map_start t.leafSpans
      rw [← hspan, hs] at hstart
      obtain ⟨s', hs', -⟩ := Option.map_eq_some_iff.mp hstart.symm
      rw [List.head?_append, hs']
      rw [hs'] at hstart
      exact hstart

theorem lastSpan?_stop : ∀ ts : List Tree,
    (lastSpan? ts).map (·.stop) = (allLeafSpans ts).getLast?.map (·.stop)
  | [] => rfl
  | t :: ts => by
    have hrest := lastSpan?_stop ts
    rw [allLeafSpans_cons, lastSpan?, List.getLast?_append]
    cases hs : lastSpan? ts with
    | none =>
      rw [hs] at hrest
      have hnil : (allLeafSpans ts).getLast? = none := Option.map_eq_none_iff.mp hrest.symm
      rw [hnil, span?_eq_hull t]
      exact hull_map_stop t.leafSpans
    | some s =>
      rw [hs] at hrest
      obtain ⟨s', hs', -⟩ := Option.map_eq_some_iff.mp hrest.symm
      rw [hs'] at hrest ⊢
      exact hrest

end

mutual

theorem leaves_spanned : ∀ (t : Tree), ∀ leaf ∈ t.leaves, leaf.span?.isSome
  | rule i cs, leaf, hleaf => by
    rw [leaves] at hleaf
    exact allLeaves_spanned cs leaf hleaf
  | token t, leaf, hleaf => by
    rw [List.mem_singleton.mp hleaf]
    rfl
  | error text s, leaf, hleaf => by
    rw [List.mem_singleton.mp hleaf]
    rfl

theorem allLeaves_spanned : ∀ (ts : List Tree), ∀ leaf ∈ allLeaves ts, leaf.span?.isSome
  | [], leaf, hleaf => by cases hleaf
  | t :: ts, leaf, hleaf => by
    rw [allLeaves] at hleaf
    rcases List.mem_append.mp hleaf with hleaf | hleaf
    · exact leaves_spanned t leaf hleaf
    · exact allLeaves_spanned ts leaf hleaf

end

theorem leafSpans_eq_nil {t : Tree} : t.leafSpans = [] ↔ t.leaves = [] := by
  rw [leafSpans, List.filterMap_eq_nil_iff]
  constructor
  · intro h
    rw [List.eq_nil_iff_forall_not_mem]
    intro leaf hleaf
    have hspanned := leaves_spanned t leaf hleaf
    rw [h leaf hleaf] at hspanned
    cases hspanned
  · intro h leaf hleaf
    rw [h] at hleaf
    cases hleaf

theorem mem_leafSpans {t : Tree} {s : Span} :
    s ∈ t.leafSpans ↔ ∃ leaf ∈ t.leaves, leaf.span? = some s :=
  List.mem_filterMap

/-- The span of a node fits the spans of all nodes below it. The children that have a span follow
one another, the node has a span exactly when it has leaves, and then its span runs from the least
start of a leaf to the greatest end of one, and covers the span of every node below. All of this
lies in an input of the given length. -/
structure Nested (length : Nat) (t : Tree) : Prop where
  children : (t.children.filterMap span?).Pairwise fun s u => s.stop ≤ u.start
  none_iff : t.span? = none ↔ t.leaves = []
  start : ∀ s ∈ t.span?, IsLeast {n | ∃ leaf ∈ t.leaves, leaf.span?.map (·.start) = some n} s.start
  stop : ∀ s ∈ t.span?, IsGreatest {n | ∃ leaf ∈ t.leaves, leaf.span?.map (·.stop) = some n} s.stop
  covers : ∀ s ∈ t.span?, ∀ n ∈ t.nodes, ∀ u ∈ n.span?, s.start ≤ u.start ∧ u.stop ≤ s.stop
  within : ∀ s ∈ t.span?, s.start ≤ s.stop ∧ s.stop ≤ length

section Order

variable {lo hi : Nat}

theorem leafSpans_between {t n : Tree} (h : Between lo t.leafSpans hi) (hn : n ∈ t.nodes) :
    Between lo n.leafSpans hi :=
  h.sublist ((leaves_isInfix t n hn).sublist.filterMap _)

theorem spans_between {ts : List Tree} (h : Between lo (allLeafSpans ts) hi) :
    Between lo (ts.filterMap span?) hi := by
  induction ts generalizing lo with
  | nil => exact h
  | cons t ts ih =>
    rw [allLeafSpans_cons] at h
    obtain ⟨mid, hfirst, hrest⟩ := h.split
    have hmore := ih hrest
    cases hs : t.span? with
    | none =>
      rw [List.filterMap_cons_none hs]
      exact hmore.weaken hfirst.le (Nat.le_refl _)
    | some s =>
      obtain ⟨-, hstart, hspan, hstop⟩ := hfirst.hull ((span?_eq_hull t).symm.trans hs)
      rw [List.filterMap_cons_some hs]
      exact ⟨hstart, hspan, hmore.weaken hstop (Nat.le_refl _)⟩

theorem nested_of_between {t : Tree} (h : Between lo t.leafSpans hi) : t.Nested hi where
  children := by
    cases t with
    | rule i cs =>
      rw [leafSpans_rule] at h
      exact (spans_between h).pairwise
    | token t => exact .nil
    | error text s => exact .nil
  none_iff := by rw [span?_eq_hull, hull_eq_none, leafSpans_eq_nil]
  start := by
    intro s hs
    have hhull := (span?_eq_hull t).symm.trans hs
    obtain ⟨hall, -⟩ := h.hull hhull
    constructor
    · obtain ⟨⟨u, hu, hstart⟩, -⟩ := exists_of_hull hhull
      obtain ⟨leaf, hleaf, hspan⟩ := mem_leafSpans.mp hu
      exact ⟨leaf, hleaf, by rw [hspan, Option.map_some, hstart]⟩
    · rintro n ⟨leaf, hleaf, hn⟩
      obtain ⟨u, hu, rfl⟩ := Option.map_eq_some_iff.mp hn
      exact (hall.mem (mem_leafSpans.mpr ⟨leaf, hleaf, hu⟩)).1
  stop := by
    intro s hs
    have hhull := (span?_eq_hull t).symm.trans hs
    obtain ⟨hall, -⟩ := h.hull hhull
    constructor
    · obtain ⟨-, u, hu, hstop⟩ := exists_of_hull hhull
      obtain ⟨leaf, hleaf, hspan⟩ := mem_leafSpans.mp hu
      exact ⟨leaf, hleaf, by rw [hspan, Option.map_some, hstop]⟩
    · rintro n ⟨leaf, hleaf, hn⟩
      obtain ⟨u, hu, rfl⟩ := Option.map_eq_some_iff.mp hn
      exact (hall.mem (mem_leafSpans.mpr ⟨leaf, hleaf, hu⟩)).2.2
  covers := by
    intro s hs n hn u hu
    obtain ⟨hall, -⟩ := h.hull ((span?_eq_hull t).symm.trans hs)
    obtain ⟨-, hstart, -, hstop⟩ :=
      (leafSpans_between hall hn).hull ((span?_eq_hull n).symm.trans hu)
    exact ⟨hstart, hstop⟩
  within := by
    intro s hs
    obtain ⟨-, -, hspan, hstop⟩ := h.hull ((span?_eq_hull t).symm.trans hs)
    exact ⟨hspan, hstop⟩

end Order

end Tree

section Steps

variable {p : ParserConfig} {length : Nat}

/-- The next token is a leaf between what was read before and what is left. Behind the last token it
is the end of the input, which takes no room. -/
theorem current_between (hend : p.endToken.span = .empty length) {lo : Nat} {ts : List Token}
    (h : Between lo (ts.map Token.span) length) :
    ∃ mid, Between lo [(currentToken p ts).span] mid ∧
      Between mid (ts.tail.map Token.span) length := by
  cases ts with
  | nil =>
    refine ⟨length, ?_, Nat.le_refl _⟩
    rw [currentToken, hend]
    exact ⟨h, Nat.le_refl _, Nat.le_refl _⟩
  | cons t ts =>
    obtain ⟨hstart, hspan, hrest⟩ := h
    exact ⟨t.span.stop, ⟨hstart, hspan, Nat.le_refl _⟩, hrest⟩

theorem missing_between (hend : p.endToken.span = .empty length) {lo : Nat} {ts : List Token}
    (h : Between lo (ts.map Token.span) length) :
    ∃ mid, Between lo [.empty (currentToken p ts).span.start] mid ∧
      Between mid (ts.map Token.span) length := by
  cases ts with
  | nil =>
    refine ⟨length, ?_, Nat.le_refl _⟩
    rw [currentToken, hend]
    exact ⟨h, Nat.le_refl _, Nat.le_refl _⟩
  | cons t ts =>
    obtain ⟨hstart, hspan, hrest⟩ := h
    exact ⟨t.span.start, ⟨hstart, Nat.le_refl _, Nat.le_refl _⟩, Nat.le_refl _, hspan, hrest⟩

/-- Tokens in order are read to leaves in order, with the tokens that are left behind them. What the
words are does not matter. -/
def orderedRun (p : ParserConfig) (hend : p.endToken.span = .empty length) : RunInvariant p where
  holds _ ts r := ∀ lo, Between lo (ts.map Token.span) length →
    ∃ mid, Between lo (Tree.allLeafSpans r.value) mid ∧ Between mid (r.rest.map Token.span) length
  mono _ h := h
  done ts lo hts := ⟨lo, Nat.le_refl _, hts⟩
  andThen := by
    intro l m ts r s hr hs lo hts
    obtain ⟨mid, hfirst, hrest⟩ := hr lo hts
    obtain ⟨mid', hsecond, hrest'⟩ := hs mid hrest
    refine ⟨mid', ?_, hrest'⟩
    rw [Tree.allLeafSpans_append]
    exact hfirst.append hsecond
  terminal := by
    intro m ts r hr lo hts
    simp only [parseTerminal] at hr
    split_ifs at hr
    · cases hr
      exact current_between hend hts
    · cases hr
      exact missing_between hend hts
    · cases hr
      obtain ⟨mid, hskipped, hrest⟩ := current_between hend hts
      obtain ⟨mid', hleaf, hrest'⟩ := current_between hend hrest
      exact ⟨mid', hskipped.append hleaf, hrest'⟩
    · cases hr
      exact current_between hend hts
  nothing := by
    intro l ts r hr lo hts
    simp only [parseNothing] at hr
    split_ifs at hr
    · cases hr
      exact ⟨lo, Nat.le_refl _, hts⟩
    · cases hr
      exact current_between hend hts

theorem callRule_ordered (hend : p.endToken.span = .empty length) (room : Nat) :
    (orderedRun p hend).Calls (callRule p room) fun _ _ => 0 := by
  apply RunInvariant.callRule_holds
  · intro i rule q ts c _ hc lo hts
    obtain ⟨mid, hleaves, hrest⟩ := hc lo hts
    refine ⟨mid, ?_, hrest⟩
    rw [Tree.allLeafSpans_cons, Tree.leafSpans_rule]
    exact hleaves.append (Nat.le_refl mid)
  · -- an operator takes the tree so far as its first child, so its leaves stay in front
    intro i rule q start left ds ts c _ hleft hc lo hts
    obtain ⟨mid, hoperand, hrest⟩ := hleft lo hts
    obtain ⟨mid', hmore, hrest'⟩ := hc mid hrest
    refine ⟨mid', ?_, hrest'⟩
    have hnode : Tree.allLeafSpans [Tree.rule i (left :: c.value)] =
        Tree.allLeafSpans [left] ++ Tree.allLeafSpans c.value := by
      rw [← Tree.allLeafSpans_append, Tree.allLeafSpans_cons, Tree.leafSpans_rule]
      exact List.append_nil _
    rw [hnode]
    exact hoperand.append hmore

end Steps

theorem parse_between {g : Grammar} {input : List Char} {tokens : List Token}
    {limit start : Nat} {isCancelled : Bool} {tree : Tree} {ds : List Diagnostic.Defect}
    (htokens : Between 0 (tokens.map Token.span) (byteLength input))
    (h : parse g input tokens limit isCancelled start = .ok (tree, ds)) :
    Between 0 tree.leafSpans (byteLength input) := by
  obtain ⟨r, hr, rfl, -⟩ := parse_ok.mp h
  have hvisible : Between 0 ((visibleTokens tokens).map Token.span) (byteLength input) :=
    htokens.sublist (List.filter_sublist.map _)
  obtain ⟨mid, hleaves, hrest⟩ :=
    callRule_ordered (p := ⟨g, input, .atEnd input, limit, isCancelled⟩) rfl limit start 0 _ r hr
      0 hvisible
  rw [Tree.allLeafSpans_cons] at hleaves
  obtain ⟨mid', hfirst, hnone⟩ := hleaves.split
  exact hfirst.weaken (Nat.le_refl _) (hnone.le.trans hrest.le)

end GrammarWorkbench.Run
