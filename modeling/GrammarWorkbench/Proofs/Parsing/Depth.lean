import GrammarWorkbench.Proofs.Closed.Run

/-!
# The limit on the depth of calls

A parse with a limit does what one with a higher limit does, up to the call for which there is no
room. That call ends the parse: no step recovers from it. So a limit either cuts a parse off or has
no part in its answer.
-/

set_option autoImplicit false

namespace GrammarWorkbench.Run

open GrammarWorkbench.Diagnostic GrammarWorkbench.Model GrammarWorkbench.Compile
open GrammarWorkbench.Derivation

/-- A step either ends the parse with a defect or does what another step does. -/
def CutBy {α : Type} (d : Defect) (m m' : Parse α) : Prop :=
  ∀ ts, m ts = .error d ∨ m ts = m' ts

namespace CutBy

variable {α β : Type} {d : Defect}

theorem refl (m : Parse α) : CutBy d m m := fun _ => .inr rfl

/-- A step that is taken on a condition, which does not depend on the limit. -/
theorem ite {c : Prop} [Decidable c] {r r' other : Except Defect (Parsed α)}
    (h : r = .error d ∨ r = r') :
    (if c then r else other) = .error d ∨
      (if c then r else other) = if c then r' else other := by
  by_cases hc : c
  · rw [if_pos hc, if_pos hc]
    exact h
  · rw [if_neg hc, if_neg hc]
    exact .inr rfl

/-- The defect of a first step is that of both, and else the second step starts from the same
place. -/
theorem bind {m m' : Parse α} {f f' : α → Parse β} (hm : CutBy d m m')
    (hf : ∀ a, CutBy d (f a) (f' a)) : CutBy d (m >>= f) (m' >>= f') := by
  intro ts
  rcases hm ts with hcut | hsame
  · exact .inl (Parse.bind_error.mpr (.inl hcut))
  · cases hresult : m ts with
    | error e =>
      right
      rw [Parse.bind_error.mpr (.inl hresult),
        Parse.bind_error.mpr (.inl (hsame.symm.trans hresult))]
    | ok a =>
      rcases hf a.value a.rest with hcut | hnext
      · exact .inl (Parse.bind_error.mpr (.inr ⟨a, hresult, hcut⟩))
      · right
        apply Parse.bind_congr hsame
        intro b hb
        obtain rfl : a = b := Except.ok.inj (hresult.symm.trans (hsame.trans hb))
        exact hnext

end CutBy

section Parts

variable {d : Defect}

/-- The rounds of a loop. The induction is on the number of rounds that are left. -/
theorem repeatWhile_cutBy {enters : Nat → Bool} {body body' : Parse (List Tree)}
    (h : CutBy d body body') (n : Nat) :
    CutBy d (repeatWhile enters body n) (repeatWhile enters body' n) := by
  induction n with
  | zero => exact .refl _
  | succ n ih =>
    intro ts
    rw [repeatWhile, repeatWhile]
    apply CutBy.ite
    refine CutBy.bind h (fun first => .bind ?_ fun more => .refl _) ts
    exact fun ts' => CutBy.ite (ih ts')

/-- The operators behind an operand. The induction is on the number of operators that are left. -/
theorem extendOperand_cutBy {index precedence : Nat} {operators : Operators Lookahead}
    {run run' : Nat → Parse (List Tree)} (h : ∀ i, CutBy d (run i) (run' i)) (n : Nat)
    (left : Tree) :
    CutBy d (extendOperand index operators precedence run n left)
      (extendOperand index operators precedence run' n left) := by
  induction n generalizing left with
  | zero => exact .refl _
  | succ n ih =>
    intro ts
    rw [extendOperand, extendOperand]
    dsimp only
    cases operators.predict (nextType ts) precedence with
    | none => exact .inr rfl
    | some i =>
      refine CutBy.bind (h i) (fun children => ?_) ts
      exact fun ts' => CutBy.ite (ih _ ts')

variable {p : ParserConfig} {limit : Nat} {call call' : Nat → Nat → Parse Tree}

theorem loop_cutBy {kind : Declaration.RepeatKind} {greedy : Bool} {exit note : Lookahead}
    {alternatives : List (RuleAlternative Lookahead)}
    (h : CutBy d (parseBlock p call ⟨note, alternatives⟩)
      (parseBlock { p with limit := limit } call' ⟨note, alternatives⟩)) :
    CutBy d (parseElement p call (.loop kind greedy exit ⟨note, alternatives⟩))
      (parseElement { p with limit := limit } call'
        (.loop kind greedy exit ⟨note, alternatives⟩)) := by
  intro ts
  cases kind with
  | optional =>
    simp only [parseElement]
    exact CutBy.ite (h ts)
  | zeroOrMore =>
    simp only [parseElement]
    exact repeatWhile_cutBy h _ ts
  | oneOrMore =>
    simp only [parseElement]
    refine CutBy.bind h (fun first => .bind ?_ fun more => .refl _) ts
    exact fun ts' => repeatWhile_cutBy h _ ts'

mutual

theorem element_cutBy (hcall : ∀ i q, CutBy d (call i q) (call' i q)) :
    ∀ e : Element Lookahead,
      CutBy d (parseElement p call e) (parseElement { p with limit := limit } call' e)
  | .token terminal => by
    rw [parseElement, parseElement]
    exact .refl _
  | .rule index => by
    rw [parseElement, parseElement]
    exact .bind (hcall index 0) fun _ => .refl _
  | .operand index precedence => by
    rw [parseElement, parseElement]
    exact .bind (hcall index precedence) fun _ => .refl _
  | .block body => by
    rw [parseElement, parseElement]
    exact block_cutBy hcall body
  | .loop kind greedy exit body => by
    have hbody := block_cutBy hcall body
    obtain ⟨note, alternatives⟩ := body
    exact loop_cutBy hbody

theorem sequence_cutBy (hcall : ∀ i q, CutBy d (call i q) (call' i q)) :
    ∀ es : Sequence Lookahead,
      CutBy d (parseSequence p call es) (parseSequence { p with limit := limit } call' es)
  | [] => by
    rw [parseSequence, parseSequence]
    exact .refl _
  | e :: es => by
    rw [parseSequence, parseSequence]
    exact .bind (element_cutBy hcall e) fun _ =>
      .bind (sequence_cutBy hcall es) fun _ => .refl _

theorem alternative_cutBy (hcall : ∀ i q, CutBy d (call i q) (call' i q)) :
    ∀ (as : List (RuleAlternative Lookahead)) (i : Nat),
      CutBy d (parseAlternative p call as i) (parseAlternative { p with limit := limit } call' as i)
  | [], _ => by
    rw [parseAlternative, parseAlternative]
    exact .refl _
  | ⟨_, _, elements⟩ :: _, 0 => by
    rw [parseAlternative, parseAlternative]
    exact sequence_cutBy hcall elements
  | ⟨_, _, _⟩ :: as, i + 1 => by
    rw [parseAlternative, parseAlternative]
    exact alternative_cutBy hcall as i

theorem block_cutBy (hcall : ∀ i q, CutBy d (call i q) (call' i q)) :
    ∀ b : RuleBlock Lookahead,
      CutBy d (parseBlock p call b) (parseBlock { p with limit := limit } call' b)
  | ⟨note, alternatives⟩ => by
    intro ts
    simp only [parseBlock]
    cases chooseAlternative ⟨note, alternatives⟩ (nextType ts) with
    | none => exact .inr rfl
    | some i => exact alternative_cutBy hcall alternatives i ts

end

end Parts

/-- Calls with less room are cut off or do what calls with more room do. The induction is on the
smaller room. -/
theorem callRule_cutBy (p : ParserConfig) (limit more room i q : Nat) :
    CutBy (.unplaced (.recursionLimit p.limit)) (callRule p room i q)
      (callRule { p with limit := limit } (room + more) i q) := by
  induction room generalizing i q with
  | zero => exact fun _ => .inl rfl
  | succ room ih =>
    rw [Nat.add_right_comm, callRule, callRule]
    by_cases hcancelled : p.isCancelled
    · rw [if_pos hcancelled, if_pos hcancelled]
      exact .refl _
    · rw [if_neg hcancelled, if_neg hcancelled]
      dsimp only
      cases p.grammar.parserRules[i]? with
      | none => exact .refl _
      | some rule =>
        refine .bind (block_cutBy ih rule.block) fun children => ?_
        cases rule.operators with
        | none => exact .refl _
        | some operators =>
          exact fun ts => extendOperand_cutBy (alternative_cutBy ih _) _ _ ts

theorem callRule_limit (p : ParserConfig) (room i q : Nat) :
    FailsOnly (fun d => ∀ n, d = .unplaced (.recursionLimit n) → n = p.limit)
      (callRule p room i q) := by
  induction room generalizing i q with
  | zero =>
    intro ts d hd n hn
    cases hd
    cases hn
    rfl
  | succ room ih =>
    have hcalls (refs : List Reference) : CallsFail
        (fun d => ∀ n, d = .unplaced (.recursionLimit n) → n = p.limit) (callRule p room) refs :=
      fun _ _ j _ q => ih j q
    intro ts d hd
    rw [callRule] at hd
    by_cases hcancelled : p.isCancelled
    · simp only [hcancelled, if_true] at hd
      cases hd
      intro n hn
      cases hn
    · simp only [hcancelled, Bool.false_eq_true, if_false] at hd
      cases hrule : p.grammar.parserRules[i]? with
      | none =>
        simp only [hrule] at hd
        cases hd
        intro n hn
        cases hn
      | some rule =>
        simp only [hrule] at hd
        refine FailsOnly.bind (block_fails _ (hcalls _)) (fun children => ?_) ts d hd
        cases rule.operators with
        | none => exact .value _
        | some operators =>
          exact fun ts' => extendOperand_fails (alternative_fails _ (hcalls _)) _ _ ts'

section Parse

variable {g : Grammar} {input : List Char} {tokens : List Token} {isCancelled : Bool}
  {start limit limit' : Nat}

/-- A parse is cut off at its limit or answers as with any higher limit. -/
theorem parse_cut_or_same (h : limit ≤ limit') :
    parse g input tokens limit isCancelled start = .error (.unplaced (.recursionLimit limit)) ∨
      parse g input tokens limit isCancelled start =
        parse g input tokens limit' isCancelled start := by
  obtain ⟨more, rfl⟩ := Nat.exists_eq_add_of_le h
  have hcut := callRule_cutBy ⟨g, input, .atEnd input, limit, isCancelled⟩ (limit + more) more limit
    start 0 (visibleTokens tokens)
  unfold parse
  rcases hcut with hcut | hsame
  · left
    simp only [hcut]
  · right
    simp only [hsame]

theorem parse_limit_eq {n : Nat}
    (h : parse g input tokens limit isCancelled start = .error (.unplaced (.recursionLimit n))) :
    n = limit := by
  unfold parse at h
  dsimp only at h
  split at h
  · rename_i d hd
    cases h
    exact callRule_limit ⟨g, input, .atEnd input, limit, isCancelled⟩ limit start 0 _ _ hd n rfl
  · cases h

/-- What a parse answers within a limit it answers within every higher one, tree and defects alike.
So where a higher limit cuts it off, a lower one does too. -/
theorem parse_within_limit (h : limit ≤ limit') :
    (∀ tree ds, parse g input tokens limit isCancelled start = .ok (tree, ds) →
      parse g input tokens limit' isCancelled start = .ok (tree, ds)) ∧
    (parse g input tokens limit' isCancelled start = .error (.unplaced (.recursionLimit limit')) →
      parse g input tokens limit isCancelled start =
        .error (.unplaced (.recursionLimit limit))) := by
  have hcut : parse g input tokens limit isCancelled start =
        .error (.unplaced (.recursionLimit limit)) ∨
      parse g input tokens limit isCancelled start =
        parse g input tokens limit' isCancelled start := parse_cut_or_same h
  constructor
  · intro tree ds hparse
    rcases hcut with hcut | hsame
    · rw [hparse] at hcut
      cases hcut
    · rw [← hsame, hparse]
  · intro hstopped
    rcases hcut with hcut | hsame
    · exact hcut
    · have heq : limit' = limit := parse_limit_eq (hsame.trans hstopped)
      rw [hsame, hstopped, heq]

end Parse

def bracketTokens : List Token :=
  [⟨"'('", 1, ['('], ⟨0, 1⟩, ⟨1, 1⟩, 0⟩, ⟨"'x'", 3, ['x'], ⟨1, 2⟩, ⟨1, 2⟩, 0⟩,
    ⟨"')'", 2, [')'], ⟨2, 3⟩, ⟨1, 3⟩, 0⟩]

theorem bracketTokens_parsed : ∃ g ∈ (compile "s:'('s')'|'x';".toList none).toOption,
    (∃ r ∈ (parse g "(x)".toList bracketTokens 2 false 0).toOption, r.2 = []) ∧
    (match parse g "(x)".toList bracketTokens 1 false 0 with
      | .error d => d == .unplaced (.recursionLimit 1)
      | .ok _ => false) = true := by
  decide +kernel

theorem parse_within_limit_brackets : ∃ g tree, compile "s:'('s')'|'x';".toList none = .ok g ∧
    parse g "(x)".toList bracketTokens 2 false 0 = .ok (tree, []) ∧
    parse g "(x)".toList bracketTokens 1000 false 0 = .ok (tree, []) ∧
    parse g "(x)".toList bracketTokens 1 false 0 = .error (.unplaced (.recursionLimit 1)) ∧
    parse g "(x)".toList bracketTokens 0 false 0 = .error (.unplaced (.recursionLimit 0)) := by
  obtain ⟨g, hg, ⟨⟨tree, ds⟩, hr, rfl⟩, hstopped⟩ := bracketTokens_parsed
  have hparse := toOption_eq_some.mp hr
  have hone : parse g "(x)".toList bracketTokens 1 false 0 =
      .error (.unplaced (.recursionLimit 1)) := by
    split at hstopped
    · rename_i d hd
      rw [hd, beq_iff_eq.mp hstopped]
    · cases hstopped
  exact ⟨g, tree, toOption_eq_some.mp hg, hparse, (parse_within_limit (by decide)).1 tree [] hparse,
    hone, (parse_within_limit (by decide)).2 hone⟩

end GrammarWorkbench.Run
