import GrammarWorkbench.Proofs.Attribution.Interpreted
import GrammarWorkbench.Proofs.Lexing.Types

/-!
# The order of the defects of a run

The defects of a grammar with parser rules are sorted by where they start. Those of a grammar
without are left as the lexer meets them. They are in order too, except where a character that no
rule matches ends a token that was begun before: its defect starts where the token does, and a
return to nowhere behind the first segment of the token has been reported by then.
-/

set_option autoImplicit false

namespace GrammarWorkbench.Diagnostic

open GrammarWorkbench.Text

def StartsInOrder (ds : List Defect) : Prop :=
  ∃ starts : List Nat, ds.map (fun d => d.span.map (·.start)) = starts.map some ∧
    starts.Pairwise (· ≤ ·)

theorem startsInOrder_iff {ds : List Defect} {starts : List Nat}
    (h : ds.map (fun d => d.span.map (·.start)) = starts.map some) :
    StartsInOrder ds ↔ starts.Pairwise (· ≤ ·) := by
  constructor
  · rintro ⟨starts', hstarts, horder⟩
    have heq : starts = starts' :=
      List.map_injective_iff.mpr (Option.some_injective _) (h.symm.trans hstarts)
    rwa [heq]
  · intro horder
    exact ⟨starts, h, horder⟩

theorem StartsInOrder.first_le {ds : List Defect} (h : StartsInOrder ds) {first d : Defect}
    (hfirst : ds.head? = some first) (hd : d ∈ ds) :
    ∃ s t, first.span = some s ∧ d.span = some t ∧ s.start ≤ t.start := by
  obtain ⟨starts, hstarts, horder⟩ := h
  obtain ⟨rest, rfl⟩ := List.head?_eq_some_iff.mp hfirst
  cases starts with
  | nil => cases hstarts
  | cons n starts =>
    rw [List.map_cons, List.map_cons, List.cons.injEq] at hstarts
    obtain ⟨s, hs, rfl⟩ := Option.map_eq_some_iff.mp hstarts.1
    refine ⟨s, ?_⟩
    rcases List.mem_cons.mp hd with rfl | hd
    · exact ⟨s, hs, hs, Nat.le_refl _⟩
    · have hmem : d.span.map (·.start) ∈ starts.map some := by
        rw [← hstarts.2]
        exact List.mem_map_of_mem hd
      obtain ⟨m, hm, heq⟩ := List.mem_map.mp hmem
      obtain ⟨t, ht, rfl⟩ := Option.map_eq_some_iff.mp heq.symm
      exact ⟨t, hs, ht, (List.pairwise_cons.mp horder).1 _ hm⟩

theorem Defect.le_trans (a b c : Defect) (hab : a.le b) (hbc : b.le c) : a.le c := by
  unfold Defect.le at *
  cases ha : a.span <;> cases hb : b.span <;> cases hc : c.span <;> simp_all
  omega

theorem Defect.le_total (a b : Defect) : a.le b || b.le a := by
  unfold Defect.le
  cases ha : a.span <;> cases hb : b.span <;> simp
  omega

theorem sort_startsInOrder {ds : List Defect} (h : ∀ d ∈ ds, d.span.isSome) :
    StartsInOrder (Defect.sort ds) := by
  have hspans : ∀ d ∈ Defect.sort ds, d.span.isSome := fun d hd => h d (List.mem_mergeSort.mp hd)
  have hsorted : (Defect.sort ds).Pairwise fun a b => a.le b :=
    List.pairwise_mergeSort Defect.le_trans Defect.le_total ds
  refine ⟨(Defect.sort ds).map fun d => (d.span.map (·.start)).getD 0, ?_, ?_⟩
  · rw [List.map_map]
    apply List.map_congr_left
    intro d hd
    obtain ⟨s, hs⟩ := Option.isSome_iff_exists.mp (hspans d hd)
    simp [hs]
  · rw [List.pairwise_map]
    refine List.Pairwise.imp_of_mem ?_ hsorted
    intro a b ha hb hle
    obtain ⟨s, hs⟩ := Option.isSome_iff_exists.mp (hspans a ha)
    obtain ⟨t, ht⟩ := Option.isSome_iff_exists.mp (hspans b hb)
    simpa [Defect.le, hs, ht] using hle

end GrammarWorkbench.Diagnostic

namespace GrammarWorkbench.Run

open GrammarWorkbench.Text GrammarWorkbench.Diagnostic GrammarWorkbench.Model
open GrammarWorkbench.Compile

def spannedRun (p : ParserConfig) : RunInvariant p where
  holds _ _ r := ∀ d ∈ r.defects, d.span.isSome
  mono _ h := h
  done _ := by simp
  andThen := by
    intro l m ts r s hr hs d hd
    exact (List.mem_append.mp hd).elim (hr d) (hs d)
  terminal := by
    intro m ts r hr
    simp only [parseTerminal] at hr
    split_ifs at hr <;> cases hr <;> simp [defectAt, Defect.inText]
  nothing := by
    intro l ts r hr
    simp only [parseNothing] at hr
    split_ifs at hr <;> cases hr <;> simp [defectAt, Defect.inText]

theorem callRule_spanned (p : ParserConfig) (room : Nat) :
    (spannedRun p).Calls (callRule p room) fun _ _ => 0 := by
  apply RunInvariant.callRule_holds
  · intro i rule q ts c _ hc
    exact hc
  · intro i rule q start left ds ts c _ hleft hc d hd
    exact (List.mem_append.mp hd).elim (hleft d) (hc d)

theorem parse_spanned {g : Grammar} {input : List Char} {tokens : List Token} {limit start : Nat}
    {isCancelled : Bool} {tree : Tree} {ds : List Defect}
    (h : parse g input tokens limit isCancelled start = .ok (tree, ds)) :
    ∀ d ∈ ds, d.span.isSome := by
  unfold parse at h
  dsimp only at h
  split at h
  · cases h
  · rename_i r hr
    cases h
    exact callRule_spanned _ limit start 0 _ r hr

def startsAt (before : List Segment) (seg : Segment) : List Nat :=
  List.replicate ((modesBehind before).failures seg.modeChanges) (byteLength (textOf before)) ++
    match seg.rule with
    | some _ => []
    | none => [byteLength (textOf (settled before))]

theorem defectsAt_starts (before : List Segment) (seg : Segment) :
    (defectsAt before seg).map (fun d => d.span.map (·.start)) =
      (startsAt before seg).map some := by
  unfold defectsAt startsAt
  cases seg.rule <;> simp [defectBehind]

theorem lexedAt_starts (v : Vocabulary) (ps : List (List Segment × Segment)) :
    (lexedAt v ps).defects.map (fun d => d.span.map (·.start)) =
      (ps.flatMap fun p => startsAt p.1 p.2).map some := by
  rw [lexedAt, List.map_flatMap, List.map_flatMap]
  exact List.flatMap_congr fun p _ => defectsAt_starts p.1 p.2

theorem startsAt_of_rule {before : List Segment} {seg : Segment} {rule : TokenRule}
    (h : seg.rule = some rule) : startsAt before seg =
      List.replicate ((modesBehind before).failures seg.modeChanges)
        (byteLength (textOf before)) := by
  simp [startsAt, h]

theorem startsAt_of_mismatch {before : List Segment} {seg : Segment} (h : seg.rule = none) :
    startsAt before seg = [byteLength (textOf (settled before))] := by
  simp [startsAt, h, Segment.modeChanges, Modes.failures]

theorem startsAt_pairwise (before : List Segment) (seg : Segment) :
    (startsAt before seg).Pairwise (· ≤ ·) := by
  cases hrule : seg.rule with
  | some rule =>
    rw [startsAt_of_rule hrule, List.pairwise_replicate]
    exact .inr (Nat.le_refl _)
  | none => simp [startsAt_of_mismatch hrule]

theorem byteLength_settled_le (before : List Segment) :
    byteLength (textOf (settled before)) ≤ byteLength (textOf before) := by
  conv_rhs => rw [← settled_append_begun before]
  simp

theorem startsAt_le {before : List Segment} {seg : Segment} :
    ∀ n ∈ startsAt before seg, n ≤ byteLength (textOf before) := by
  intro n hn
  cases hrule : seg.rule with
  | some rule =>
    rw [startsAt_of_rule hrule] at hn
    exact (List.eq_of_mem_replicate hn).le
  | none =>
    rw [startsAt_of_mismatch hrule, List.mem_singleton] at hn
    rw [hn]
    exact byteLength_settled_le before

theorem mem_of_mem_places {before segs : List Segment} {p : List Segment × Segment}
    (h : p ∈ places before segs) : p.2 ∈ segs ∧ before <+: p.1 ∧ p.1 <+: before ++ segs := by
  induction segs generalizing before with
  | nil => cases h
  | cons seg segs ih =>
    rw [places] at h
    rcases List.mem_cons.mp h with rfl | h
    · exact ⟨List.mem_cons_self, List.prefix_refl _, List.prefix_append _ _⟩
    · obtain ⟨hmem, hbehind, hbefore⟩ := ih h
      rw [List.append_assoc, List.singleton_append] at hbefore
      exact ⟨List.mem_cons_of_mem _ hmem, (List.prefix_append _ _).trans hbehind, hbefore⟩

theorem byteLength_textOf_le {segs segs' : List Segment} (h : segs <+: segs') :
    byteLength (textOf segs) ≤ byteLength (textOf segs') := by
  obtain ⟨more, rfl⟩ := h
  simp

theorem pairwise_places_iff {R : List Segment × Segment → List Segment × Segment → Prop}
    {segs : List Segment} :
    (places [] segs).Pairwise R ↔ ∀ q ∈ places [] segs, ∀ p ∈ places [] q.1, R p q := by
  induction segs using List.reverseRecOn with
  | nil => simp [places]
  | append_singleton segs seg ih =>
    rw [places_append, List.pairwise_append, ih]
    simp [places, or_imp, forall_and]

/-- No character that no rule matches ends a token one of whose segments, other than the first,
returns to nowhere. -/
def RunsUnbroken (segs : List Segment) : Prop :=
  ∀ p ∈ places [] segs, p.2.rule = none → ∀ q ∈ (places (settled p.1) (begun p.1)).tail,
    (modesBehind q.1).failures q.2.modeChanges = 0

theorem rule_of_mem_begun {before : List Segment} {seg : Segment} (h : seg ∈ begun before) :
    ∃ rule, seg.rule = some rule := by
  have hmore := List.mem_rtakeWhile_imp h
  cases hrule : seg.rule with
  | some rule => exact ⟨rule, rfl⟩
  | none => simp [Segment.isMore, hrule] at hmore

/-- The defects before a character that no rule matches start no later than its own, unless one is
behind the first segment of the token it ends. -/
theorem starts_before_mismatch {before : List Segment} (hne : ∀ seg ∈ before, seg.text ≠ []) :
    (∀ p ∈ places [] before, ∀ n ∈ startsAt p.1 p.2, n ≤ byteLength (textOf (settled before))) ↔
      ∀ q ∈ (places (settled before) (begun before)).tail,
        (modesBehind q.1).failures q.2.modeChanges = 0 := by
  have hsplit : places [] before =
      places [] (settled before) ++ places (settled before) (begun before) := by
    conv_lhs => rw [← settled_append_begun before]
    rw [places_append, List.nil_append]
  have hsettled : ∀ p ∈ places [] (settled before), ∀ n ∈ startsAt p.1 p.2,
      n ≤ byteLength (textOf (settled before)) := by
    intro p hp n hn
    exact (startsAt_le n hn).trans (byteLength_textOf_le (mem_of_mem_places hp).2.2)
  rw [hsplit]
  simp only [List.mem_append, or_imp, forall_and]
  rw [and_iff_right hsettled]
  cases hbegun : begun before with
  | nil => simp [places]
  | cons first more =>
    rw [places, List.tail_cons]
    simp only [List.mem_cons, forall_eq_or_imp]
    rw [and_iff_right (fun n hn => startsAt_le n hn)]
    refine forall₂_congr fun q hq => ?_
    obtain ⟨hmem, hbehind, -⟩ := mem_of_mem_places hq
    have hbegins : ∀ seg ∈ first :: more, seg ∈ begun before := fun seg hseg => hbegun ▸ hseg
    obtain ⟨rule, hrule⟩ := rule_of_mem_begun (hbegins q.2 (List.mem_cons_of_mem _ hmem))
    -- The first segment is not empty, so whatever is behind it starts later than the token.
    have hlater : byteLength (textOf (settled before)) < byteLength (textOf q.1) := by
      have hfirst : first.text ≠ [] := by
        apply hne
        rw [← settled_append_begun before]
        exact List.mem_append_right _ (hbegins first List.mem_cons_self)
      obtain ⟨c, cs, hcons⟩ := List.exists_cons_of_ne_nil hfirst
      have hpos := c.utf8Size_pos
      have hle := byteLength_textOf_le hbehind
      simp only [textOf_append, textOf_singleton, hcons, byteLength_append, byteLength_cons] at hle
      omega
    rw [startsAt_of_rule hrule]
    constructor
    · intro h
      by_contra hfail
      have hle := h _ (List.mem_replicate.mpr ⟨hfail, rfl⟩)
      omega
    · intro hfail n hn
      rw [hfail] at hn
      cases hn

/-- The defects of the lexer are in order exactly when no run of segments is broken. -/
theorem lexedAt_startsInOrder_iff (v : Vocabulary) {segs : List Segment}
    (hne : ∀ seg ∈ segs, seg.text ≠ []) :
    StartsInOrder (lexedAt v (places [] segs)).defects ↔ RunsUnbroken segs := by
  have hsingle : ∀ p ∈ places [] segs, (startsAt p.1 p.2).Pairwise (· ≤ ·) :=
    fun p _ => startsAt_pairwise p.1 p.2
  rw [startsInOrder_iff (lexedAt_starts v _), List.pairwise_flatMap, and_iff_right hsingle,
    pairwise_places_iff]
  refine forall₂_congr fun q hq => ?_
  have hbefore : q.1 <+: segs := (mem_of_mem_places hq).2.2
  cases hrule : q.2.rule with
  | some rule =>
    simp only [reduceCtorEq, false_imp_iff, iff_true]
    intro p hp m hm n hn
    rw [startsAt_of_rule hrule] at hn
    rw [List.eq_of_mem_replicate hn]
    exact (startsAt_le m hm).trans (byteLength_textOf_le (mem_of_mem_places hp).2.2)
  | none =>
    rw [← starts_before_mismatch fun seg hseg => hne seg (hbefore.subset hseg),
      startsAt_of_mismatch hrule]
    simp

/-- The defects of a run come in the order of their places if the grammar has parser rules. If it
has none, they do exactly when no character that no rule matches ends a token behind a reported
return to nowhere. Where they are in order the first is a leftmost one. -/
theorem run_defects_in_order_iff {grammar : List Char} {start : Option String} {g : Grammar}
    (h : compile grammar start = .ok g) {input : List Char} {maxDepth : Nat} {isCancelled : Bool}
    {analysis : Analysis} {ds : List Defect}
    (hrun : runGrammar g input maxDepth isCancelled = .ok (analysis, ds)) :
    (g.parserRules ≠ [] → StartsInOrder ds) ∧
    (g.parserRules = [] → ∃ segs, Divides g .initial input segs ∧
      (StartsInOrder ds ↔ RunsUnbroken segs)) ∧
    (StartsInOrder ds → ∀ first ∈ ds.head?, ∀ d ∈ ds,
      ∃ s t, first.span = some s ∧ d.span = some t ∧ s.start ≤ t.start) := by
  obtain ⟨segs, hsegs, -, hok⟩ := tokenize_ok h input
  have hlexed : ∀ d ∈ (lexedAt g.vocabulary (places [] segs)).defects, d.span.isSome := by
    intro d hd
    have hmem : d.span.map (·.start) ∈
        ((places [] segs).flatMap fun p => startsAt p.1 p.2).map some := by
      rw [← lexedAt_starts g.vocabulary]
      exact List.mem_map_of_mem hd
    obtain ⟨n, -, hn⟩ := List.mem_map.mp hmem
    obtain ⟨s, hs, -⟩ := Option.map_eq_some_iff.mp hn.symm
    rw [hs]
    rfl
  refine ⟨?_, ?_, fun horder first hfirst d hd => horder.first_le hfirst hd⟩
  · intro hparser
    unfold runGrammar at hrun
    split at hrun
    · cases hrun
    · rename_i lexed hlex
      obtain rfl := hok _ lexed hlex
      rw [Grammar.isLexerOnly, if_neg (by simpa using hparser)] at hrun
      split at hrun
      · cases hrun
      · split at hrun
        · cases hrun
        · rename_i tree ds' hparse
          cases hrun
          apply sort_startsInOrder
          intro d hd
          exact (List.mem_append.mp hd).elim (hlexed d) (parse_spanned hparse d)
  · intro hlexer
    refine ⟨segs, hsegs, ?_⟩
    unfold runGrammar at hrun
    split at hrun
    · cases hrun
    · rename_i lexed hlex
      obtain rfl := hok _ lexed hlex
      rw [Grammar.isLexerOnly, if_pos (by simpa using hlexer)] at hrun
      cases hrun
      exact lexedAt_startsInOrder_iff g.vocabulary hsegs.ne_nil

def brokenGrammar : List Char := "A : 'a' -> more ; B : 'b' -> more, popMode ;".toList

theorem brokenGrammar_run : ∃ g ∈ (compile brokenGrammar none).toOption,
    g.parserRules.length = 0 ∧ ∃ run ∈ (runGrammar g "abc".toList 1000 false).toOption,
      run.2.map (fun d => d.span.map (·.start)) = [1, 0].map some := by
  decide +kernel

/-- A character that no rule matches ends a token in which a return to nowhere has been reported, so
the first defect is not a leftmost one. -/
theorem run_defects_out_of_order : ∃ g analysis first last, compile brokenGrammar none = .ok g ∧
    runGrammar g "abc".toList 1000 false = .ok (analysis, [first, last]) ∧
    ¬ StartsInOrder [first, last] ∧ ∃ s ∈ first.span, ∃ t ∈ last.span, t.start < s.start := by
  obtain ⟨g, hg, -, ⟨analysis, ds⟩, hrun, hstarts⟩ := brokenGrammar_run
  obtain ⟨first, last, rfl⟩ : ∃ first last, ds = [first, last] :=
    List.length_eq_two.mp (by simpa using congrArg List.length hstarts)
  refine ⟨g, analysis, first, last, Derivation.toOption_eq_some.mp hg,
    Derivation.toOption_eq_some.mp hrun, ?_, ?_⟩
  · rw [startsInOrder_iff hstarts]
    decide
  · simp only [List.map_cons, List.map_nil, List.cons.injEq, Option.map_eq_some_iff,
      and_true] at hstarts
    obtain ⟨⟨s, hs, hstart⟩, t, ht, htstart⟩ := hstarts
    exact ⟨s, hs, t, ht, by omega⟩

/-- The segments of this input show why its defects are out of order. -/
theorem run_defects_in_order_iff_broken : ∃ g ds analysis segs,
    compile brokenGrammar none = .ok g ∧
    runGrammar g "abc".toList 1000 false = .ok (analysis, ds) ∧ g.parserRules = [] ∧
    Divides g .initial "abc".toList segs ∧ ¬ RunsUnbroken segs := by
  obtain ⟨g, hg, hnone, ⟨analysis, ds⟩, hrun, hstarts⟩ := brokenGrammar_run
  have hcompile := Derivation.toOption_eq_some.mp hg
  have hran := Derivation.toOption_eq_some.mp hrun
  have hlexer := List.length_eq_zero_iff.mp hnone
  obtain ⟨segs, hsegs, horder⟩ := (run_defects_in_order_iff hcompile hran).2.1 hlexer
  refine ⟨g, ds, analysis, segs, hcompile, hran, hlexer, hsegs, ?_⟩
  rw [← horder, startsInOrder_iff hstarts]
  decide

end GrammarWorkbench.Run
