import GrammarWorkbench.Proofs.Lookahead.Notes
import GrammarWorkbench.Proofs.Recursion.Unread

/-!
# Rules that are entered again without a token read

A rule can be entered again while it is active. If no token was read in between, the active calls
that lead from the one to the other are a cycle of calls from the left. The search for cycles finds
those that go through blocks only. It does not look at operators, so it misses the cycles that go
through an operator behind an empty operand.
-/

set_option autoImplicit false

namespace GrammarWorkbench.Run

open GrammarWorkbench.Diagnostic GrammarWorkbench.Model GrammarWorkbench.Analysis
open GrammarWorkbench.Compile GrammarWorkbench.Derivation

/-- The calls that are active when a rule has just been entered, the innermost first. -/
inductive Active (p : ParserConfig) (start : Nat) (ts : List Token) : List Call → Prop
  | start : Active p start ts [⟨start, 0, ts, [], false⟩]
  | call {c c' : Call} {outer : List Call} : Active p start ts (c :: outer) →
      c' ∈ callTrace p (p.limit - outer.length) c → Active p start ts (c' :: c :: outer)

def Call.Reported (c : Call) : Prop := c.defects ≠ [] ∨ nextType c.rest = endType

/-- A rule is entered by `c` while `d` is a call of it that is still active, and no token was read
since. `between` are the calls from `d` to `c`, the innermost first. -/
structure Reentry (p : ParserConfig) (start : Nat) (ts : List Token) (c d : Call)
    (between : List Call) : Prop where
  active : ∃ outer, Active p start ts (c :: (between ++ d :: outer))
  sameRule : c.index = d.index
  unread : c.rest = d.rest

/-- Whenever a rule is entered again without a token read, something was reported or the input is
at its end. -/
def ReentriesReported (p : ParserConfig) (start : Nat) (ts : List Token) : Prop :=
  ∀ c d between, Reentry p start ts c d between → c.Reported

section Active

variable {p : ParserConfig} {start : Nat} {ts : List Token} {c c' d : Call}
variable {between outer : List Call}

theorem mem_callTrace {room : Nat} : c' ∈ callTrace p room c ↔ ∃ n, room = n + 1 ∧
    ∃ e ∈ ruleTrace p (callRule p n) c.index c.precedence c.rest, e.after c.defects = c' := by
  cases room <;> simp [callTrace]

/-- A call is one of its caller's, which leaves room for one call less. -/
theorem Active.called (h : Active p start ts (c' :: c :: outer)) :
    ∃ n, p.limit - outer.length = n + 1 ∧ p.limit - (c :: outer).length = n ∧
      ∃ e ∈ ruleTrace p (callRule p n) c.index c.precedence c.rest, e.after c.defects = c' := by
  cases h with
  | call _ hc =>
    obtain ⟨n, hn, he⟩ := mem_callTrace.mp hc
    refine ⟨n, hn, ?_, he⟩
    rw [List.length_cons]
    omega

theorem Active.caller (h : Active p start ts (c' :: c :: outer)) :
    Active p start ts (c :: outer) := by
  cases h with
  | call h _ => exact h

theorem Active.drop {inner : List Call} (h : Active p start ts (inner ++ c :: outer)) :
    Active p start ts (c :: outer) := by
  induction inner with
  | nil => exact h
  | cons e inner ih =>
    apply ih
    cases inner with
    | nil => exact h.caller
    | cons e' inner => exact h.caller

/-- A call begins at what is left of its caller's tokens, with what was reported until then. If
nothing was read or reported, it is a call from the left or in an operator. -/
theorem Active.link (hend : p.endToken.isEnd) (h : Active p start ts (c' :: c :: outer)) :
    c'.rest <:+ c.rest ∧ c.defects <+: c'.defects ∧
      (c'.rest = c.rest → ¬ c'.Reported →
        c'.index ∈ leftEdges p.vocabulary p.rules p.table c.index ∨
          (c'.byOperator ∧ OperatorCalls p.grammar c.index c'.index)) := by
  obtain ⟨n, -, -, e, he, rfl⟩ := h.called
  have hleft := ruleTrace_left (callRule_suffix n _) (callRule_empty hend n) c.index c.precedence
    c.rest
  refine ⟨hleft.suffix e he, List.prefix_append _ _, fun hrest hquiet => ?_⟩
  obtain ⟨hclean, hnext⟩ := not_or.mp hquiet
  have hnil := (List.append_eq_nil_iff.mp (not_not.mp hclean)).2
  exact hleft.left e he hrest hnil (hrest ▸ hnext)

theorem Active.fails {e : Defect} (h : Active p start ts (c :: outer))
    (hc : c.answer (callRule p (p.limit - outer.length)) = .error e) :
    callRule p p.limit start 0 ts = .error e := by
  induction outer generalizing c with
  | nil =>
    cases h
    exact hc
  | cons d outer ih =>
    refine ih h.caller ?_
    obtain ⟨n, hn, hroom, e', he', rfl⟩ := h.called
    rw [hroom] at hc
    rw [Call.answer, hn, callRule_succ]
    exact (ruleTrace_traced d.index d.precedence d.rest).made he' hc

theorem Active.reports {r : Parsed Tree} (hr : callRule p p.limit start 0 ts = .ok r)
    (h : Active p start ts (c :: outer)) :
    ∃ a, c.answer (callRule p (p.limit - outer.length)) = .ok a ∧
      c.defects ++ a.defects <+: r.defects := by
  induction outer generalizing c with
  | nil =>
    cases h
    exact ⟨r, hr, List.prefix_refl _⟩
  | cons d outer ih =>
    obtain ⟨b, hb, hbr⟩ := ih h.caller
    cases hc : c.answer (callRule p (p.limit - (d :: outer).length)) with
    | error e =>
      have hfail := h.fails hc
      rw [hr] at hfail
      cases hfail
    | ok a =>
      refine ⟨a, rfl, ?_⟩
      obtain ⟨n, hn, hroom, e', he', rfl⟩ := h.called
      rw [hroom] at hc
      rw [Call.answer, hn, callRule_succ] at hb
      have hle := (ruleTrace_traced d.index d.precedence d.rest).reported he' hc hb
      rw [Call.after_defects, List.append_assoc]
      exact ((List.prefix_append_right_inj _).mpr hle).trans hbr

theorem Active.rest_suffix (hend : p.endToken.isEnd)
    (h : Active p start ts (c :: (between ++ d :: outer))) : c.rest <:+ d.rest := by
  induction between generalizing c with
  | nil => exact (h.link hend).1
  | cons e between ih => exact (h.link hend).1.trans (ih h.caller)

theorem Call.Reported.inner (h : d.Reported) (hrest : c.rest = d.rest)
    (hdefects : d.defects <+: c.defects) : c.Reported := by
  rcases h with hd | hd
  · refine Or.inl fun hnil => hd ?_
    rw [hnil] at hdefects
    exact List.prefix_nil.mp hdefects
  · exact Or.inr (hrest ▸ hd)

/-- The calls from one active call to another behind which no token was read and nothing was
reported, one link after the other. -/
theorem Active.transGen (hend : p.endToken.isEnd) {R : Nat → Nat → Prop}
    (h : Active p start ts (c :: (between ++ d :: outer))) (hrest : c.rest = d.rest)
    (hquiet : ¬ c.Reported)
    (hlink : ∀ e ∈ c :: between, ∀ i,
      e.index ∈ leftEdges p.vocabulary p.rules p.table i ∨
        (e.byOperator ∧ OperatorCalls p.grammar i e.index) → R i e.index) :
    Relation.TransGen R d.index c.index := by
  induction between generalizing c with
  | nil =>
    have hcall := (h.link hend).2.2 hrest hquiet
    exact .single (hlink c List.mem_cons_self d.index hcall)
  | cons e between ih =>
    obtain ⟨hsuffix, hdefects, hcall⟩ := h.link hend
    have hback : e.rest <:+ c.rest := hrest ▸ h.caller.rest_suffix hend
    have hsame : c.rest = e.rest := hsuffix.eq_of_length_le hback.length_le
    have hmore := ih h.caller (hsame.symm.trans hrest)
      (fun he => hquiet (he.inner hsame hdefects))
      fun e' he' => hlink e' (List.mem_cons_of_mem c he')
    exact hmore.tail (hlink c List.mem_cons_self e.index (hcall hsame hquiet))

/-- Active calls between which no token was read are of different rules. -/
theorem Active.nodup (hend : p.endToken.isEnd) (hall : ReentriesReported p start ts)
    {stretch : List Call} (h : Active p start ts (c :: (stretch ++ outer)))
    (hrest : ∀ e ∈ stretch, e.rest = c.rest) (hquiet : ¬ c.Reported) :
    ((c :: stretch).map Call.index).Nodup := by
  induction stretch generalizing c with
  | nil => exact List.nodup_singleton _
  | cons e stretch ih =>
    rw [List.map_cons, List.nodup_cons]
    constructor
    · intro hmem
      obtain ⟨d, hd, hindex⟩ := List.mem_map.mp hmem
      obtain ⟨between, rest, hsplit⟩ := List.append_of_mem hd
      rw [hsplit, List.append_assoc, List.cons_append] at h
      exact hquiet (hall c d between ⟨⟨_, h⟩, hindex.symm, (hrest d hd).symm⟩)
    · have he := hrest e List.mem_cons_self
      refine ih h.caller (fun e' he' => ?_) fun hreported => ?_
      · rw [hrest e' (List.mem_cons_of_mem e he'), he]
      · exact hquiet (hreported.inner he.symm (h.link hend).2.1)

theorem callRule_index_lt {room i q : Nat} {r : Parsed Tree} (h : callRule p room i q ts = .ok r) :
    i < p.rules.length := by
  cases room with
  | zero => cases h
  | succ room =>
    obtain ⟨rule, c, hrule, -⟩ := callRule_ok h
    exact (List.getElem?_eq_some_iff.mp hrule).1

/-- In a parse that reports nothing, no more rules are nested without a token read than there
are. -/
theorem Active.length_le (hend : p.endToken.isEnd) (hall : ReentriesReported p start ts)
    {r : Parsed Tree} (hr : callRule p p.limit start 0 ts = .ok r) (hclean : r.defects = [])
    {stretch : List Call} (h : Active p start ts (c :: (stretch ++ outer)))
    (hrest : ∀ e ∈ stretch, e.rest = c.rest) (hnext : nextType c.rest ≠ endType) :
    (c :: stretch).length ≤ p.rules.length := by
  have hquiet : ¬ c.Reported := by
    obtain ⟨a, -, hdefects⟩ := h.reports hr
    rw [hclean, List.prefix_nil, List.append_eq_nil_iff] at hdefects
    exact not_or.mpr ⟨not_not.mpr hdefects.1, hnext⟩
  have hsub : (c :: stretch).map Call.index ⊆ List.range p.rules.length := by
    intro i hi
    obtain ⟨e, he, rfl⟩ := List.mem_map.mp hi
    obtain ⟨inner, rest, hsplit⟩ := List.append_of_mem he
    rw [← List.cons_append, hsplit, List.append_assoc] at h
    obtain ⟨a, ha, -⟩ := h.drop.reports hr
    exact List.mem_range.mpr (callRule_index_lt ha)
  have hle := (List.subperm_of_subset (h.nodup hend hall hrest hquiet) hsub).length_le
  simpa using hle

end Active

section Accepted

variable {text : List Char} {g : Grammar} {d : DeclaredGrammar} {rules : List (ParserRule Unit)}

/-- Where no operand can be empty, operators add no cycle. -/
theorem callsFirst_acyclic (acc : Accepted text g d rules)
    (hoperand : ∀ r ∈ g.parserRules, r.operators ≠ none →
      ¬ (blockLook g.vocabulary (table g.vocabulary g.parserRules) r.block).nullable) (i : Nat) :
    ¬ Relation.TransGen (CallsFirst g) i i := by
  intro hcycle
  refine accepted_acyclic acc i (Relation.TransGen.mono (fun j k hcall => ?_) i i hcycle)
  rcases hcall with hleft | ⟨r, o, hr, ho, hnullable, -⟩
  · exact hleft
  · exact absurd hnullable (hoperand r (List.mem_of_getElem? hr) (by simp [ho]))

variable {p : ParserConfig} {start : Nat} {ts : List Token}

/-- Where nothing is reported, a rule is entered again only through an operator behind an operand
that can be empty. -/
theorem Reentry.byOperator (acc : Accepted text g d rules) (hg : p.grammar = g)
    (hend : p.endToken.isEnd) {c e : Call} {between : List Call}
    (h : Reentry p start ts c e between) (hquiet : ¬ c.Reported) :
    ∃ e ∈ c :: between, e.byOperator ∧ ∃ i, OperatorCalls g i e.index := by
  subst hg
  by_contra hnone
  obtain ⟨outer, hactive⟩ := h.active
  have hcycle := hactive.transGen hend h.unread hquiet fun e' he' i hcall =>
    hcall.resolve_right fun hop => hnone ⟨e', he', hop.1, i, hop.2⟩
  rw [h.sameRule] at hcycle
  exact accepted_acyclic acc _ hcycle

/-- If calls from the left, operators included, never lead back, then every rule that is entered
again is so behind a report or at the end. -/
theorem reentriesReported_of_acyclic (hend : p.endToken.isEnd)
    (hacyclic : ∀ i, ¬ Relation.TransGen (CallsFirst p.grammar) i i) :
    ReentriesReported p start ts := by
  intro c e between h
  by_contra hquiet
  obtain ⟨outer, hactive⟩ := h.active
  have hcycle : Relation.TransGen (CallsFirst p.grammar) e.index c.index :=
    hactive.transGen hend h.unread hquiet fun e' _ i hcall => hcall.imp id fun hop => hop.2
  rw [h.sameRule] at hcycle
  exact hacyclic _ hcycle

end Accepted

/-- Left recursion stays undetected in a parse exactly if it goes through an operator: every rule
that is entered again without a token read is so behind a report or at the end, if and only if this
holds where the way leads through an operator behind an operand that can be empty. It does if calls
from the left, those of such operators included, never lead back. And then rules are nested no
deeper than there are rules between two tokens of a parse that reports nothing. -/
theorem reentries_reported_iff {text : List Char} {startName : Option String} {g : Grammar}
    (h : compile text startName = .ok g) (input : List Char) (tokens : List Token)
    (limit start : Nat) (cancelled : Bool) :
    let p : ParserConfig := ⟨g, input, .atEnd input, limit, cancelled⟩
    let ts := visibleTokens tokens
    (ReentriesReported p start ts ↔ ∀ c d between, Reentry p start ts c d between →
      (∃ e ∈ c :: between, e.byOperator ∧ ∃ i, OperatorCalls g i e.index) → c.Reported) ∧
    ((∀ i, ¬ Relation.TransGen (CallsFirst g) i i) → ReentriesReported p start ts) ∧
    (ReentriesReported p start ts → ∀ tree,
      parse g input tokens limit cancelled start = .ok (tree, []) → ∀ c stretch outer,
      Active p start ts (c :: (stretch ++ outer)) → (∀ e ∈ stretch, e.rest = c.rest) →
      nextType c.rest ≠ endType → (c :: stretch).length ≤ g.parserRules.length) := by
  intro p ts
  obtain ⟨d, rules, acc⟩ := compile_accepted h
  refine ⟨⟨?_, ?_⟩, ?_, ?_⟩
  · intro hall c d between hentry _
    exact hall c d between hentry
  · intro hoperators c d between hentry
    by_contra hquiet
    exact hquiet (hoperators c d between hentry (hentry.byOperator acc rfl rfl hquiet))
  · exact reentriesReported_of_acyclic (p := p) rfl
  · intro hall tree hparse c stretch outer hactive hrest hnext
    obtain ⟨r, hr, -, hclean⟩ := parse_ok.mp hparse
    exact hactive.length_le rfl hall hr hclean hrest hnext

/-- Between two tokens of an expression no rule is nested in itself. -/
theorem reentries_reported_expression : ∃ g, compile expressionText none = .ok g ∧
    (∀ i, ¬ Relation.TransGen (CallsFirst g) i i) ∧
    ReentriesReported ⟨g, [], .atEnd [], 5, false⟩ 0 (visibleTokens expressionTokens) := by
  have h : ∃ g ∈ (compile expressionText none).toOption, ∀ r ∈ g.parserRules,
      r.operators.isSome →
      (blockLook g.vocabulary (table g.vocabulary g.parserRules) r.block).nullable = false := by
    decide +kernel
  obtain ⟨g, hg, hoperand⟩ := h
  have hcompile := toOption_eq_some.mp hg
  obtain ⟨d, rules, acc⟩ := compile_accepted hcompile
  have hacyclic := callsFirst_acyclic acc fun r hr ho => by
    simp [hoperand r hr (Option.isSome_iff_ne_none.mpr ho)]
  exact ⟨g, hcompile, hacyclic,
    (reentries_reported_iff hcompile [] expressionTokens 5 0 false).2.1 hacyclic⟩

def emptyOperandText : List Char := "e : e f | 'x'? ; f : e 'y' ;".toList

/-- The rule is entered again at its first token, where nothing has been reported. -/
theorem reentry_unreported_empty_operand : ∃ g, compile emptyOperandText none = .ok g ∧
    (∀ t ∈ [Token.ofType 2], 1 ≤ t.type ∧ t.type < g.vocabulary.size) ∧
    ¬ ReentriesReported ⟨g, [], .atEnd [], 3, false⟩ 0 (visibleTokens [.ofType 2]) := by
  have h : ∃ g ∈ (compile emptyOperandText none).toOption, 2 < g.vocabulary.size ∧
      ∃ f ∈ callTrace ⟨g, [], .atEnd [], 3, false⟩ 3 ⟨0, 0, [.ofType 2], [], false⟩,
      ∃ e ∈ callTrace ⟨g, [], .atEnd [], 3, false⟩ 2 f,
        e.index = 0 ∧ e.rest = [.ofType 2] ∧ e.defects = [] := by decide +kernel
  obtain ⟨g, hg, hsize, f, hf, e, he, hindex, hrest, hdefects⟩ := h
  refine ⟨g, toOption_eq_some.mp hg, by simpa [Token.ofType] using hsize, fun hall => ?_⟩
  have hactive := Active.call (Active.call .start hf) he
  have hreported := hall e _ [f] ⟨⟨[], hactive⟩, hindex, hrest⟩
  rcases hreported with hne | hend
  · exact hne hdefects
  · rw [hrest] at hend
    cases hend

end GrammarWorkbench.Run
