import GrammarWorkbench.Proofs.Derivation.Declared
import GrammarWorkbench.Run.Parser

/-!
# Invariants of runs of the parser

What a step of the parser does is described by a relation between the tokens it starts from and
what it leaves behind, indexed by the words of the part that is read. If the relation is kept by
one step after another, and holds of reading a terminal and of finding no alternative, then it
holds of reading every part of a rule; and if calls keep it as well, it holds of every call.
-/

set_option autoImplicit false

namespace GrammarWorkbench.Run

open GrammarWorkbench.Declaration GrammarWorkbench.Diagnostic GrammarWorkbench.Model
open GrammarWorkbench.Derivation
open scoped Computability

namespace Parse

variable {α β : Type}

theorem pure_ok {a : α} {ts : List Token} {r : Parsed α} :
    (pure a : Parse α) ts = .ok r ↔ r = ⟨a, [], ts⟩ := by
  constructor
  · intro h
    exact (Except.ok.inj h).symm
  · rintro rfl
    rfl

theorem bind_ok {m : Parse α} {f : α → Parse β} {ts : List Token} {r : Parsed β} :
    (m >>= f) ts = .ok r ↔ ∃ a b, m ts = .ok a ∧ f a.value a.rest = .ok b ∧
      r = ⟨b.value, a.defects ++ b.defects, b.rest⟩ := by
  change andThen m f ts = .ok r ↔ _
  unfold andThen
  cases hm : m ts with
  | error d => simp
  | ok a =>
    cases hf : f a.value a.rest with
    | error d => simp [hf]
    | ok b => simp [hf, eq_comm]

theorem bind_error {m : Parse α} {f : α → Parse β} {ts : List Token} {d : Defect} :
    (m >>= f) ts = .error d ↔
      m ts = .error d ∨ ∃ a, m ts = .ok a ∧ f a.value a.rest = .error d := by
  change andThen m f ts = .error d ↔ _
  unfold andThen
  cases hm : m ts with
  | error e => simp
  | ok a => cases hf : f a.value a.rest <;> simp [hf]

theorem bind_congr {m m' : Parse α} {f f' : α → Parse β} {ts : List Token} (hm : m ts = m' ts)
    (hf : ∀ a, m' ts = .ok a → f a.value a.rest = f' a.value a.rest) :
    (m >>= f) ts = (m' >>= f') ts := by
  change andThen m f ts = andThen m' f' ts
  unfold andThen
  rw [hm]
  cases ha : m' ts with
  | error d => rfl
  | ok a => simp only [hf a ha]

end Parse

theorem chooseAlternative_some {b : RuleBlock Lookahead} {type i : Nat}
    (h : chooseAlternative b type = some i) : ∃ a, b.alternatives[i]? = some a := by
  obtain ⟨note, alternatives⟩ := b
  suffices i < alternatives.length from ⟨_, List.getElem?_eq_getElem this⟩
  unfold chooseAlternative RuleBlock.predict at h
  split at h
  · rename_i a ha
    dsimp only at ha
    rw [ha, ← Option.some.inj h]
    simp
  · dsimp only at h
    split at h
    · rename_i hi
      rw [← Option.some.inj h]
      exact (List.findIdx?_eq_some_iff_findIdx_eq.mp hi).1
    · exact (List.findIdx?_eq_some_iff_findIdx_eq.mp h).1

theorem operators_predict_some {o : Operators Lookahead} {type atLeast i : Nat}
    (h : o.predict type atLeast = some i) : ∃ a level, o.block.alternatives[i]? = some a ∧
      (a, level) ∈ o.block.alternatives.zip o.precedence ∧ atLeast ≤ level := by
  unfold Operators.predict at h
  obtain ⟨hi, hp, -⟩ := List.findIdx?_eq_some_iff_getElem.mp h
  have hget := List.getElem_mem hi
  rw [List.getElem_zip] at hp hget
  simp only [Bool.and_eq_true, decide_eq_true_eq] at hp
  have hlen : i < o.block.alternatives.length := by
    simp only [List.length_zip] at hi
    omega
  exact ⟨_, _, List.getElem?_eq_getElem hlen, hget, hp.1⟩

/-- A call that succeeds reads the block of its rule, and then operators if the rule is split. -/
theorem callRule_ok {p : ParserConfig} {room i q : Nat} {ts : List Token} {r : Parsed Tree}
    (h : callRule p (room + 1) i q ts = .ok r) :
    ∃ rule c, p.grammar.parserRules[i]? = some rule ∧
      parseBlock p (callRule p room) rule.block ts = .ok c ∧
      ((rule.operators = none ∧ r = ⟨.rule i c.value, c.defects, c.rest⟩) ∨
        ∃ o b, rule.operators = some o ∧
          extendOperand i o q (parseAlternative p (callRule p room) o.block.alternatives)
            (c.rest.length + 1) (.rule i c.value) c.rest = .ok b ∧
          r = ⟨b.value, c.defects ++ b.defects, b.rest⟩) := by
  rw [callRule] at h
  split at h
  · cases h
  · cases hrule : p.grammar.parserRules[i]? with
    | none => simp only [hrule] at h; cases h
    | some rule =>
      simp only [hrule] at h
      obtain ⟨c, b, hc, hb, rfl⟩ := Parse.bind_ok.mp h
      refine ⟨rule, c, rfl, hc, ?_⟩
      cases ho : rule.operators with
      | none =>
        simp only [ho] at hb
        obtain rfl := Parse.pure_ok.mp hb
        exact Or.inl ⟨rfl, by simp⟩
      | some o =>
        simp only [ho] at hb
        exact Or.inr ⟨o, b, rfl, hb, rfl⟩

/-- A relation between the tokens before a step and what the step leaves behind, indexed by the
words of what is read. -/
structure RunInvariant (p : ParserConfig) where
  holds : Language Tree → List Token → Parsed (List Tree) → Prop
  mono {l m : Language Tree} {ts : List Token} {r : Parsed (List Tree)} :
    l ≤ m → holds l ts r → holds m ts r
  done (ts : List Token) : holds 1 ts ⟨[], [], ts⟩
  andThen {l m : Language Tree} {ts : List Token} {r s : Parsed (List Tree)} :
    holds l ts r → holds m r.rest s →
      holds (l * m) ts ⟨r.value ++ s.value, r.defects ++ s.defects, s.rest⟩
  terminal {m : TokenMatch} {ts : List Token} {r : Parsed (List Tree)} :
    parseTerminal p m ts = .ok r → holds (leafWords {t | m.accepts t}) ts r
  nothing {l : Language Tree} {ts : List Token} {r : Parsed (List Tree)} :
    parseNothing p ts = .ok r → holds l ts r

namespace RunInvariant

variable {p : ParserConfig} (I : RunInvariant p)

def Calls (call : Nat → Nat → Parse Tree) (words : Nat → Nat → Language Tree) : Prop :=
  ∀ i q ts r, call i q ts = .ok r → I.holds (words i q) ts ⟨[r.value], r.defects, r.rest⟩

def Step (step : Parse (List Tree)) (l : Language Tree) : Prop :=
  ∀ ts r, step ts = .ok r → I.holds l ts r

variable {I}

theorem repeatWhile_step {enters : Nat → Bool} {body : Parse (List Tree)} {l : Language Tree}
    (h : I.Step body l) (n : Nat) : I.Step (repeatWhile enters body n) l∗ := by
  induction n with
  | zero =>
    intro ts r hr
    rw [repeatWhile, Parse.pure_ok] at hr
    subst hr
    exact I.mono one_le_kstar (I.done ts)
  | succ n ih =>
    intro ts r hr
    simp only [repeatWhile] at hr
    split at hr
    · obtain ⟨a, b, ha, hb, rfl⟩ := Parse.bind_ok.mp hr
      obtain ⟨c, c', hc, hpure, rfl⟩ := Parse.bind_ok.mp hb
      obtain rfl := Parse.pure_ok.mp hpure
      have hmore : I.holds l∗ a.rest c := by
        split at hc
        · exact ih _ _ hc
        · obtain rfl := Parse.pure_ok.mp hc
          exact I.mono one_le_kstar (I.done _)
      simpa using I.mono mul_kstar_le_kstar (I.andThen (h ts a ha) hmore)
    · obtain rfl := Parse.pure_ok.mp hr
      exact I.mono one_le_kstar (I.done ts)

section Parts

variable {call : Nat → Nat → Parse Tree} {words : Nat → Nat → Language Tree}

theorem call_step (hcall : I.Calls call words) (i q : Nat) :
    I.Step (do return [← call i q]) (words i q) := by
  intro ts r hr
  obtain ⟨a, b, ha, hb, rfl⟩ := Parse.bind_ok.mp hr
  obtain rfl := Parse.pure_ok.mp hb
  simpa using hcall i q ts a ha

theorem loop_step {kind : RepeatKind} {greedy : Bool} {exit note : Lookahead}
    {alternatives : List (RuleAlternative Lookahead)} {l : Language Tree}
    (h : I.Step (parseBlock p call ⟨note, alternatives⟩) l) :
    I.Step (parseElement p call (.loop kind greedy exit ⟨note, alternatives⟩))
      (repetition l kind) := by
  intro ts r hr
  cases kind with
  | optional =>
    simp only [parseElement] at hr
    split at hr
    · exact I.mono (le_add_of_nonneg_left zero_le) (h ts r hr)
    · obtain rfl := Parse.pure_ok.mp hr
      exact I.mono (le_add_of_nonneg_right zero_le) (I.done ts)
  | zeroOrMore =>
    simp only [parseElement] at hr
    exact repeatWhile_step h _ ts r hr
  | oneOrMore =>
    simp only [parseElement] at hr
    obtain ⟨a, b, ha, hb, rfl⟩ := Parse.bind_ok.mp hr
    obtain ⟨c, c', hc, hpure, rfl⟩ := Parse.bind_ok.mp hb
    obtain rfl := Parse.pure_ok.mp hpure
    have hboth := I.andThen (h ts a ha) (repeatWhile_step h _ _ c hc)
    simpa only [repetition, List.append_nil] using hboth

mutual

theorem element_step (hcall : I.Calls call words) : ∀ e : Element Lookahead,
    I.Step (parseElement p call e) (elementWords leafWords words e)
  | .token m => by
    intro ts r hr
    rw [parseElement] at hr
    rw [elementWords]
    exact I.terminal hr
  | .rule i => by
    rw [parseElement, elementWords]
    exact call_step hcall i 0
  | .operand i q => by
    rw [parseElement, elementWords]
    exact call_step hcall i q
  | .block body => by
    rw [parseElement, elementWords]
    exact block_step hcall body
  | .loop kind greedy exit body => by
    have hbody := block_step hcall body
    obtain ⟨note, alternatives⟩ := body
    rw [elementWords]
    exact loop_step hbody

theorem sequence_step (hcall : I.Calls call words) : ∀ es : Sequence Lookahead,
    I.Step (parseSequence p call es) (sequenceWords leafWords words es)
  | [] => by
    intro ts r hr
    rw [parseSequence, Parse.pure_ok] at hr
    subst hr
    rw [sequenceWords]
    exact I.done ts
  | e :: es => by
    intro ts r hr
    rw [parseSequence] at hr
    obtain ⟨a, b, ha, hb, rfl⟩ := Parse.bind_ok.mp hr
    obtain ⟨c, c', hc, hpure, rfl⟩ := Parse.bind_ok.mp hb
    obtain rfl := Parse.pure_ok.mp hpure
    rw [sequenceWords]
    simpa using I.andThen (element_step hcall e ts a ha) (sequence_step hcall es _ c hc)

theorem alternative_step (hcall : I.Calls call words) :
    ∀ (as : List (RuleAlternative Lookahead)) (i : Nat) (a : RuleAlternative Lookahead),
      as[i]? = some a →
      I.Step (parseAlternative p call as i) (sequenceWords leafWords words a.elements)
  | [], _, _, h => by simp at h
  | ⟨label, note, elements⟩ :: _, 0, a, h => by
    obtain rfl : _ = a := by simpa using h
    rw [parseAlternative]
    exact sequence_step hcall elements
  | ⟨label, note, elements⟩ :: as, i + 1, a, h => by
    rw [parseAlternative]
    exact alternative_step hcall as i a (by simpa using h)

theorem block_step (hcall : I.Calls call words) : ∀ b : RuleBlock Lookahead,
    I.Step (parseBlock p call b) (blockWords leafWords words b)
  | ⟨note, alternatives⟩ => by
    intro ts r hr
    simp only [parseBlock] at hr
    split at hr
    · rename_i i hi
      obtain ⟨a, ha⟩ := chooseAlternative_some hi
      exact I.mono (sequenceWords_le_blockWords (List.mem_of_getElem? ha))
        (alternative_step hcall alternatives i a ha ts r hr)
    · exact I.nothing hr

end

end Parts

theorem extendOperand_holds {index precedence : Nat} {operators : Operators Lookahead}
    {run : Nat → Parse (List Tree)} {l m : Language Tree} {start : List Token}
    (hrun : ∀ type i, operators.predict type precedence = some i → I.Step (run i) m)
    (hop : ∀ left ds ts c, I.holds l start ⟨[left], ds, ts⟩ → I.holds m ts c →
      I.holds l start ⟨[.rule index (left :: c.value)], ds ++ c.defects, c.rest⟩)
    (n : Nat) : ∀ left ds ts r, I.holds l start ⟨[left], ds, ts⟩ →
      extendOperand index operators precedence run n left ts = .ok r →
      I.holds l start ⟨[r.value], ds ++ r.defects, r.rest⟩ := by
  induction n with
  | zero =>
    intro left ds ts r hleft hr
    obtain rfl := Parse.pure_ok.mp hr
    simpa using hleft
  | succ n ih =>
    intro left ds ts r hleft hr
    simp only [extendOperand] at hr
    split at hr
    · obtain rfl := Parse.pure_ok.mp hr
      simpa using hleft
    · rename_i i hi
      obtain ⟨c, b, hc, hb, rfl⟩ := Parse.bind_ok.mp hr
      have hnode := hop left ds ts c hleft (hrun _ i hi ts c hc)
      split at hb
      · simpa using ih _ _ _ b hnode hb
      · obtain rfl := Parse.pure_ok.mp hb
        simpa using hnode

/-- Calls keep an invariant if making a node of a rule does, out of what its block reads, and out
of an operand and what an operator reads. The induction is on the room for calls. -/
theorem callRule_holds {words : Nat → Nat → Language Tree}
    (hnode : ∀ i r q ts c, p.grammar.parserRules[i]? = some r →
      I.holds (blockWords leafWords words r.block) ts c →
      I.holds (words i q) ts ⟨[.rule i c.value], c.defects, c.rest⟩)
    (hop : ∀ i r q start left ds ts c, p.grammar.parserRules[i]? = some r →
      I.holds (words i q) start ⟨[left], ds, ts⟩ →
      I.holds (operatorWords leafWords words r.operators q) ts c →
      I.holds (words i q) start ⟨[.rule i (left :: c.value)], ds ++ c.defects, c.rest⟩)
    (room : Nat) : I.Calls (callRule p room) words := by
  induction room with
  | zero =>
    intro i q ts r hr
    cases hr
  | succ room ih =>
    intro i q ts r hr
    obtain ⟨rule, c, hrule, hc, hrest⟩ := callRule_ok hr
    have hfirst := hnode i rule q ts c hrule (block_step ih rule.block ts c hc)
    rcases hrest with ⟨-, rfl⟩ | ⟨o, b, ho, hb, rfl⟩
    · exact hfirst
    · refine extendOperand_holds ?_ (hop i rule q ts · · · · hrule) _ _ _ _ b hfirst hb
      intro type j hj ts' c' hc'
      obtain ⟨a, level, ha, hzip, hq⟩ := operators_predict_some hj
      rw [ho]
      exact I.mono (fun w hw => ⟨o, rfl, (a, level), hzip, hq, hw⟩)
        (alternative_step ih _ j a ha ts' c' hc')

end RunInvariant

end GrammarWorkbench.Run
