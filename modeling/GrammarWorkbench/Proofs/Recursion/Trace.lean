import GrammarWorkbench.Proofs.Parsing.Invariant

/-!
# The calls that a step of the parser makes

A call is entered with the tokens that are still to be read and the defects reported so far. The
calls of a step are listed by the same recursion as the step itself. The list is exact: answers to
these calls alone decide what the step does, and if one of them fails then so does the step.
-/

set_option autoImplicit false

namespace GrammarWorkbench.Run

open GrammarWorkbench.Diagnostic GrammarWorkbench.Model

/-- A rule as it is entered: at a precedence, with tokens that are left to read and defects that
were reported until then. Whether an operator of the calling rule makes the call is noted. -/
structure Call where
  index : Nat
  precedence : Nat
  rest : List Token
  defects : List Defect
  byOperator : Bool
  deriving DecidableEq

namespace Call

def after (ds : List Defect) (c : Call) : Call := { c with defects := ds ++ c.defects }

theorem after_defects (ds : List Defect) (c : Call) :
    (c.after ds).defects = ds ++ c.defects := rfl

def inOperator (c : Call) : Call := { c with byOperator := true }

def answer (c : Call) (call : Nat → Nat → Parse Tree) : Except Defect (Parsed Tree) :=
  call c.index c.precedence c.rest

end Call

abbrev Trace := List Token → List Call

def traceThen {α : Type} (step : Parse α) (first next : Trace) : Trace := fun ts =>
  first ts ++
    match step ts with
    | .ok r => (next r.rest).map (.after r.defects)
    | .error _ => []

theorem mem_traceThen {α : Type} {step : Parse α} {first next : Trace} {ts : List Token}
    {c : Call} : c ∈ traceThen step first next ts ↔ c ∈ first ts ∨
      ∃ r, step ts = .ok r ∧ ∃ c' ∈ next r.rest, c'.after r.defects = c := by
  unfold traceThen
  cases step ts <;> simp

def repeatTrace (enters : Nat → Bool) (body : Parse (List Tree)) (trace : Trace) : Nat → Trace
  | 0 => fun _ => []
  | n + 1 => fun ts =>
    if enters (nextType ts) then
      traceThen body trace
        (fun ts' => if ts'.length < ts.length then repeatTrace enters body trace n ts' else []) ts
    else []

def operatorTrace (operators : Operators Lookahead) (precedence : Nat)
    (run : Nat → Parse (List Tree)) (trace : Nat → Trace) : Nat → Trace
  | 0 => fun _ => []
  | n + 1 => fun ts =>
    match operators.predict (nextType ts) precedence with
    | none => []
    | some i =>
      traceThen (run i) (trace i)
        (fun ts' =>
          if ts'.length < ts.length then operatorTrace operators precedence run trace n ts'
          else []) ts

section Parts

variable (p : ParserConfig) (call : Nat → Nat → Parse Tree)

mutual

def elementTrace : Element Lookahead → Trace
  | .token _ => fun _ => []
  | .rule index => fun ts => [⟨index, 0, ts, [], false⟩]
  | .operand index precedence => fun ts => [⟨index, precedence, ts, [], false⟩]
  | .block body => blockTrace body
  | .loop kind greedy exit ⟨note, alternatives⟩ =>
    let body := parseBlock p call ⟨note, alternatives⟩
    let trace := blockTrace ⟨note, alternatives⟩
    let enters := entersLoop greedy exit note
    let rounds : Trace := fun ts => repeatTrace enters body trace (ts.length + 1) ts
    match kind with
    | .optional => fun ts => if enters (nextType ts) then trace ts else []
    | .zeroOrMore => rounds
    | .oneOrMore => traceThen body trace rounds

def sequenceTrace : Sequence Lookahead → Trace
  | [] => fun _ => []
  | e :: es => traceThen (parseElement p call e) (elementTrace e) (sequenceTrace es)

def alternativeTrace : List (RuleAlternative Lookahead) → Nat → Trace
  | [], _ => fun _ => []
  | ⟨_, _, elements⟩ :: _, 0 => sequenceTrace elements
  | _ :: rest, n + 1 => alternativeTrace rest n

def blockTrace : RuleBlock Lookahead → Trace
  | ⟨note, alternatives⟩ => fun ts =>
    match chooseAlternative ⟨note, alternatives⟩ (nextType ts) with
    | some i => alternativeTrace alternatives i ts
    | none => []

end

def enterRule (index precedence : Nat) : Parse Tree :=
  if p.isCancelled then .abort .cancelled
  else
    match p.grammar.parserRules[index]? with
    | none => .abort (.internal s!"no parser rule with index {index}")
    | some rule => do
      let children ← parseBlock p call rule.block
      let node := Tree.rule index children
      match rule.operators with
      | none => return node
      | some operators =>
        let run := parseAlternative p call operators.block.alternatives
        fun ts => extendOperand index operators precedence run (ts.length + 1) node ts

def ruleTrace (index precedence : Nat) : Trace :=
  if p.isCancelled then fun _ => []
  else
    match p.grammar.parserRules[index]? with
    | none => fun _ => []
    | some rule =>
      traceThen (parseBlock p call rule.block) (blockTrace p call rule.block) fun ts =>
        match rule.operators with
        | none => []
        | some operators =>
          (operatorTrace operators precedence (parseAlternative p call operators.block.alternatives)
            (alternativeTrace p call operators.block.alternatives) (ts.length + 1) ts).map
            Call.inOperator

end Parts

def callTrace (p : ParserConfig) : Nat → Call → List Call
  | 0, _ => []
  | room + 1, c =>
    (ruleTrace p (callRule p room) c.index c.precedence c.rest).map (.after c.defects)

theorem callRule_succ (p : ParserConfig) (room index precedence : Nat) :
    callRule p (room + 1) index precedence = enterRule p (callRule p room) index precedence :=
  rfl

/-- Some calls are those that a step makes: it depends on no other answers, it fails if one of them
does, and it reports what was reported before and in any of them. -/
structure Traced {α : Type} (call : Nat → Nat → Parse Tree)
    (run : (Nat → Nat → Parse Tree) → Except Defect (Parsed α)) (calls : List Call) : Prop where
  decides (call' : Nat → Nat → Parse Tree) :
    (∀ c ∈ calls, c.answer call' = c.answer call) → run call' = run call
  made {c : Call} {d : Defect} : c ∈ calls → c.answer call = .error d → run call = .error d
  reported {c : Call} {a : Parsed Tree} {r : Parsed α} : c ∈ calls → c.answer call = .ok a →
    run call = .ok r → c.defects ++ a.defects <+: r.defects

namespace Traced

variable {α β : Type} {call : Nat → Nat → Parse Tree}

theorem none (x : Except Defect (Parsed α)) : Traced call (fun _ => x) [] where
  decides _ _ := rfl
  made h := by cases h
  reported h := by cases h

theorem one (i q : Nat) (ts : List Token) :
    Traced call (fun k => k i q ts) [⟨i, q, ts, [], false⟩] where
  decides call' h := h _ List.mem_cons_self
  made h hd := by
    obtain rfl := List.mem_singleton.mp h
    exact hd
  reported h ha hr := by
    obtain rfl := List.mem_singleton.mp h
    obtain rfl := Except.ok.inj (ha.symm.trans hr)
    exact List.prefix_refl _

theorem andThen {m : (Nat → Nat → Parse Tree) → Parse α}
    {f : (Nat → Nat → Parse Tree) → α → Parse β} {first next : Trace} {ts : List Token}
    (hm : Traced call (fun k => m k ts) (first ts))
    (hf : ∀ r, m call ts = .ok r → Traced call (fun k => f k r.value r.rest) (next r.rest)) :
    Traced call (fun k => (m k >>= f k) ts) (traceThen (m call) first next ts) where
  decides call' h := by
    apply Parse.bind_congr
    · exact hm.decides call' fun c hc => h c (mem_traceThen.mpr (Or.inl hc))
    · intro r hr
      exact (hf r hr).decides call' fun c hc =>
        h (c.after r.defects) (mem_traceThen.mpr (Or.inr ⟨r, hr, c, hc, rfl⟩))
  made {c d} h hd := by
    rw [Parse.bind_error]
    rcases mem_traceThen.mp h with hc | ⟨r, hr, c, hc, rfl⟩
    · exact Or.inl (hm.made hc hd)
    · exact Or.inr ⟨r, hr, (hf r hr).made hc hd⟩
  reported {c x r} h hx hr := by
    obtain ⟨a, b, ha, hb, rfl⟩ := Parse.bind_ok.mp hr
    rcases mem_traceThen.mp h with hc | ⟨a', ha', c, hc, rfl⟩
    · exact (hm.reported hc hx ha).trans (List.prefix_append _ _)
    · obtain rfl := Except.ok.inj (ha.symm.trans ha')
      rw [Call.after_defects, List.append_assoc]
      exact (List.prefix_append_right_inj _).mpr ((hf a ha).reported hc hx hb)

theorem andReturn {m : (Nat → Nat → Parse Tree) → Parse α} {g : α → β} {ts : List Token}
    {calls : List Call} (hm : Traced call (fun k => m k ts) calls) :
    Traced call (fun k => (m k >>= fun a => pure (g a)) ts) calls := by
  have hboth : Traced call (fun k => (m k >>= fun a => pure (g a)) ts)
      (traceThen (m call) (fun _ => calls) (fun _ => []) ts) :=
    andThen hm fun r _ => none _
  have hcalls : traceThen (m call) (fun _ => calls) (fun _ => []) ts = calls := by
    unfold traceThen
    cases m call ts <;> simp
  rwa [hcalls] at hboth

theorem mark {run : (Nat → Nat → Parse Tree) → Except Defect (Parsed α)}
    {calls : List Call} (h : Traced call run calls) :
    Traced call run (calls.map Call.inOperator) where
  decides call' hall := h.decides call' fun c hc => hall c.inOperator (List.mem_map_of_mem hc)
  made hmem hd := by
    obtain ⟨c, hc, rfl⟩ := List.mem_map.mp hmem
    exact h.made (c := c) hc hd
  reported hmem ha hr := by
    obtain ⟨c, hc, rfl⟩ := List.mem_map.mp hmem
    exact h.reported (c := c) hc ha hr

end Traced

section Exact

variable {p : ParserConfig} {call : Nat → Nat → Parse Tree}

theorem repeatTrace_traced {enters : Nat → Bool}
    {body : (Nat → Nat → Parse Tree) → Parse (List Tree)} {trace : Trace}
    (h : ∀ ts, Traced call (fun k => body k ts) (trace ts)) (n : Nat) (ts : List Token) :
    Traced call (fun k => repeatWhile enters (body k) n ts)
      (repeatTrace enters (body call) trace n ts) := by
  induction n generalizing ts with
  | zero => exact .none _
  | succ n ih =>
    simp only [repeatWhile, repeatTrace]
    split
    · refine .andThen (h ts) fun r _ => .andReturn ?_
      split
      · exact ih r.rest
      · exact .none _
    · exact .none _

theorem operatorTrace_traced {index precedence : Nat} {operators : Operators Lookahead}
    {run : (Nat → Nat → Parse Tree) → Nat → Parse (List Tree)} {trace : Nat → Trace}
    (h : ∀ i ts, Traced call (fun k => run k i ts) (trace i ts)) (n : Nat) (left : Tree)
    (ts : List Token) :
    Traced call (fun k => extendOperand index operators precedence (run k) n left ts)
      (operatorTrace operators precedence (run call) trace n ts) := by
  induction n generalizing left ts with
  | zero => exact .none _
  | succ n ih =>
    simp only [extendOperand, operatorTrace]
    cases operators.predict (nextType ts) precedence with
    | none => exact .none _
    | some i =>
      refine .andThen (h i ts) fun r _ => ?_
      split
      · exact ih _ r.rest
      · exact .none _

mutual

theorem elementTrace_traced (ts : List Token) : ∀ e : Element Lookahead,
    Traced call (fun k => parseElement p k e ts) (elementTrace p call e ts)
  | .token _ => by
    simp only [parseElement, elementTrace]
    exact .none _
  | .rule i => by
    simp only [parseElement, elementTrace]
    exact .andReturn (.one i 0 ts)
  | .operand i q => by
    simp only [parseElement, elementTrace]
    exact .andReturn (.one i q ts)
  | .block body => by
    simp only [parseElement, elementTrace]
    exact blockTrace_traced ts body
  | .loop kind greedy exit ⟨note, alternatives⟩ => by
    have hbody (ts : List Token) := blockTrace_traced ts ⟨note, alternatives⟩
    cases kind with
    | optional =>
      simp only [parseElement, elementTrace]
      split
      · exact hbody ts
      · exact .none _
    | zeroOrMore =>
      simp only [parseElement, elementTrace]
      exact repeatTrace_traced hbody _ ts
    | oneOrMore =>
      simp only [parseElement, elementTrace]
      exact .andThen (hbody ts) fun r _ => .andReturn (repeatTrace_traced hbody _ r.rest)

theorem sequenceTrace_traced (ts : List Token) : ∀ es : Sequence Lookahead,
    Traced call (fun k => parseSequence p k es ts) (sequenceTrace p call es ts)
  | [] => by
    simp only [parseSequence, sequenceTrace]
    exact .none _
  | e :: es => by
    simp only [parseSequence, sequenceTrace]
    exact .andThen (elementTrace_traced ts e) fun r _ => .andReturn (sequenceTrace_traced r.rest es)

theorem alternativeTrace_traced (ts : List Token) :
    ∀ (as : List (RuleAlternative Lookahead)) (i : Nat),
      Traced call (fun k => parseAlternative p k as i ts) (alternativeTrace p call as i ts)
  | [], _ => by
    simp only [parseAlternative, alternativeTrace]
    exact .none _
  | ⟨_, _, elements⟩ :: _, 0 => by
    simp only [parseAlternative, alternativeTrace]
    exact sequenceTrace_traced ts elements
  | ⟨_, _, _⟩ :: as, i + 1 => by
    simp only [parseAlternative, alternativeTrace]
    exact alternativeTrace_traced ts as i

theorem blockTrace_traced (ts : List Token) : ∀ b : RuleBlock Lookahead,
    Traced call (fun k => parseBlock p k b ts) (blockTrace p call b ts)
  | ⟨note, alternatives⟩ => by
    simp only [parseBlock, blockTrace]
    cases chooseAlternative ⟨note, alternatives⟩ (nextType ts) with
    | none => exact .none _
    | some i => exact alternativeTrace_traced ts alternatives i

end

theorem ruleTrace_traced (index precedence : Nat) (ts : List Token) :
    Traced call (fun k => enterRule p k index precedence ts)
      (ruleTrace p call index precedence ts) := by
  simp only [enterRule, ruleTrace]
  split
  · exact .none _
  · cases p.grammar.parserRules[index]? with
    | none => exact .none _
    | some rule =>
      refine .andThen (blockTrace_traced ts rule.block) fun r _ => ?_
      cases rule.operators with
      | none => exact .none _
      | some o =>
        exact .mark (operatorTrace_traced (fun i ts => alternativeTrace_traced ts _ i) _ _ _)

end Exact

end GrammarWorkbench.Run
