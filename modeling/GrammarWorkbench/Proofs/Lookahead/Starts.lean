import GrammarWorkbench.Proofs.Derivation.Words

/-!
# What can start a part of a rule

A token type can start a sequence if a terminal that accepts it can be reached by going into rules,
blocks and loops, past parts that derive the empty word, and past an empty operand into the
operators of a rule. Every word that is derived and is not empty starts with such a type.
-/

set_option autoImplicit false

namespace GrammarWorkbench.Derivation

open GrammarWorkbench.Declaration GrammarWorkbench.Model
open scoped Computability

def callee? {α : Type} : Element α → Option Nat
  | .rule index => some index
  | .operand index _ => some index
  | _ => none

inductive Starts {α : Type} (rules : List (ParserRule α)) (t : Nat) : Sequence α → Prop
  | token {m : TokenMatch} {es : Sequence α} (hm : m.accepts t) : Starts rules t (.token m :: es)
  | call {e : Element α} {i : Nat} {r : ParserRule α} {a : RuleAlternative α} {es : Sequence α}
      (he : callee? e = some i) (hr : rules[i]? = some r) (ha : a ∈ r.block.alternatives)
      (h : Starts rules t a.elements) : Starts rules t (e :: es)
  | operator {e : Element α} {i : Nat} {r : ParserRule α} {o : Operators α}
      {a : RuleAlternative α} {es : Sequence α} (he : callee? e = some i)
      (hr : rules[i]? = some r) (ho : r.operators = some o)
      (hempty : [] ∈ blockWords typeWords (compiledWords rules) r.block)
      (ha : a ∈ o.block.alternatives) (h : Starts rules t a.elements) : Starts rules t (e :: es)
  | block {b : RuleBlock α} {a : RuleAlternative α} {es : Sequence α} (ha : a ∈ b.alternatives)
      (h : Starts rules t a.elements) : Starts rules t (.block b :: es)
  | loop {kind : RepeatKind} {greedy : Bool} {exit : α} {b : RuleBlock α}
      {a : RuleAlternative α} {es : Sequence α} (ha : a ∈ b.alternatives)
      (h : Starts rules t a.elements) : Starts rules t (.loop kind greedy exit b :: es)
  | skip {e : Element α} {es : Sequence α}
      (hempty : [] ∈ elementWords typeWords (compiledWords rules) e)
      (h : Starts rules t es) : Starts rules t (e :: es)

namespace Starts

variable {α : Type} {rules : List (ParserRule α)} {t : Nat}

theorem not_nil : ¬ Starts rules t [] := nofun

theorem append_left {es : Sequence α} (h : Starts rules t es) (fs : Sequence α) :
    Starts rules t (es ++ fs) := by
  induction h with
  | token hm => exact .token hm
  | call he hr ha h _ => exact .call he hr ha h
  | operator he hr ho hempty ha h _ => exact .operator he hr ho hempty ha h
  | block ha h _ => exact .block ha h
  | loop ha h _ => exact .loop ha h
  | skip hempty _ ih => exact .skip hempty ih

theorem append_right {es fs : Sequence α}
    (hempty : [] ∈ sequenceWords typeWords (compiledWords rules) es) (h : Starts rules t fs) :
    Starts rules t (es ++ fs) := by
  induction es with
  | nil => exact h
  | cons e es ih =>
    rw [sequenceWords] at hempty
    obtain ⟨he, hes⟩ := nil_mem_mul.mp hempty
    exact .skip he (ih hes)

theorem of_call {e : Element α} {i : Nat} (he : callee? e = some i) (h : Starts rules t [.rule i])
    (es : Sequence α) : Starts rules t (e :: es) := by
  generalize hs : ([.rule i] : Sequence α) = s at h
  cases h with
  | token hm => cases hs
  | block ha h => cases hs
  | loop ha h => cases hs
  | call he' hr ha h =>
    cases hs
    cases he'
    exact .call he hr ha h
  | operator he' hr ho hempty ha h =>
    cases hs
    cases he'
    exact .operator he hr ho hempty ha h
  | skip hempty h =>
    cases hs
    exact absurd h not_nil

end Starts

section Words

variable {α : Type} {rules : List (ParserRule α)} {call : Nat → Nat → Language Nat} {t : Nat}

mutual

theorem element_starts (hle : call ≤ compiledWords rules)
    (hcall : ∀ i q w, t :: w ∈ call i q → Starts rules t [.rule i]) :
    ∀ (e : Element α) (w : List Nat), t :: w ∈ elementWords typeWords call e → Starts rules t [e]
  | .token m, w, hw => by
    rw [elementWords] at hw
    obtain ⟨u, hu, hw⟩ := hw
    obtain ⟨rfl, -⟩ := List.cons.inj hw
    exact .token hu
  | .rule i, w, hw => by
    rw [elementWords] at hw
    exact hcall i 0 w hw
  | .operand i q, w, hw => by
    rw [elementWords] at hw
    exact (hcall i q w hw).of_call rfl []
  | .block body, w, hw => by
    rw [elementWords] at hw
    obtain ⟨a, ha, h⟩ := block_starts hle hcall body w hw
    exact .block ha h
  | .loop kind greedy exit body, w, hw => by
    rw [elementWords] at hw
    obtain ⟨u, hu⟩ := cons_mem_repetition hw
    obtain ⟨a, ha, h⟩ := block_starts hle hcall body u hu
    exact .loop ha h

theorem sequence_starts (hle : call ≤ compiledWords rules)
    (hcall : ∀ i q w, t :: w ∈ call i q → Starts rules t [.rule i]) :
    ∀ (es : Sequence α) (w : List Nat), t :: w ∈ sequenceWords typeWords call es →
      Starts rules t es
  | [], w, hw => by
    rw [sequenceWords] at hw
    cases hw
  | e :: es, w, hw => by
    rw [sequenceWords] at hw
    obtain ⟨u, -, -, hu, -⟩ | ⟨hempty, hw⟩ := cons_mem_mul_iff.mp hw
    · exact (element_starts hle hcall e u hu).append_left es
    · exact .skip ((inclusion hle).mem_elementWords e [] hempty (by simp))
        (sequence_starts hle hcall es w hw)

theorem choice_starts (hle : call ≤ compiledWords rules)
    (hcall : ∀ i q w, t :: w ∈ call i q → Starts rules t [.rule i]) :
    ∀ (as : List (RuleAlternative α)) (w : List Nat), t :: w ∈ choiceWords typeWords call as →
      ∃ a ∈ as, Starts rules t a.elements
  | [], w, hw => by
    rw [choiceWords] at hw
    exact absurd hw (Language.notMem_zero _)
  | ⟨label, note, es⟩ :: as, w, hw => by
    rw [choiceWords] at hw
    rcases hw with hw | hw
    · exact ⟨_, List.mem_cons_self, sequence_starts hle hcall es w hw⟩
    · obtain ⟨a, ha, h⟩ := choice_starts hle hcall as w hw
      exact ⟨a, List.mem_cons_of_mem _ ha, h⟩

theorem block_starts (hle : call ≤ compiledWords rules)
    (hcall : ∀ i q w, t :: w ∈ call i q → Starts rules t [.rule i]) :
    ∀ (b : RuleBlock α) (w : List Nat), t :: w ∈ blockWords typeWords call b →
      ∃ a ∈ b.alternatives, Starts rules t a.elements
  | ⟨note, as⟩, w, hw => by
    rw [blockWords] at hw
    split_ifs at hw
    · cases hw
    · exact choice_starts hle hcall as w hw

end

theorem rule_starts (hle : call ≤ compiledWords rules)
    (hcall : ∀ i q w, t :: w ∈ call i q → Starts rules t [.rule i]) {i : Nat} {r : ParserRule α}
    (hr : rules[i]? = some r) {q : Nat} {w : List Nat}
    (hw : t :: w ∈ ruleWords typeWords call r q) : Starts rules t [.rule i] := by
  obtain ⟨u, -, -, hu, -⟩ | ⟨hempty, hw⟩ := cons_mem_mul_iff.mp hw
  · obtain ⟨a, ha, h⟩ := block_starts hle hcall r.block u hu
    exact .call rfl hr ha h
  · obtain ⟨u, -, -, ⟨o, ho, a, ha, -, hu⟩, -⟩ := cons_mem_kstar_iff.mp hw
    exact .operator rfl hr ho ((inclusion hle).mem_blockWords _ [] hempty (by simp))
      (List.of_mem_zip ha).1 (sequence_starts hle hcall _ u hu)

/-- A word of a rule that is not empty starts with a type that can start the rule. -/
theorem compiledWords_starts {i q : Nat} {w : List Nat} (hw : t :: w ∈ compiledWords rules i q) :
    Starts rules t [.rule i] := by
  -- the words that start right are closed under the rules
  let good : Nat → Nat → Language Nat := fun i q =>
    {w | w ∈ compiledWords rules i q ∧ ∀ t u, w = t :: u → Starts rules t [.rule i]}
  have hle : good ≤ compiledWords rules := fun i q w hw => hw.1
  have hall : compiledWords rules ≤ good := by
    apply compiledWords_le
    intro i r hr q w hw
    refine ⟨?_, ?_⟩
    · rw [compiledWords_some hr]
      exact (inclusion hle).mem_ruleWords r q w hw fun _ _ => trivial
    · rintro t u rfl
      exact rule_starts hle (fun j p u hu => hu.2 t u rfl) hr hw
  exact (hall i q hw).2 t w rfl

/-- A word of a sequence that is not empty starts with a type that can start the sequence. -/
theorem sequenceWords_starts {es : Sequence α} {w : List Nat}
    (hw : t :: w ∈ sequenceWords typeWords (compiledWords rules) es) : Starts rules t es :=
  sequence_starts le_rfl (fun _ _ _ => compiledWords_starts) es w hw

theorem blockWords_starts {b : RuleBlock α} {w : List Nat}
    (hw : t :: w ∈ blockWords typeWords (compiledWords rules) b) :
    ∃ a ∈ b.alternatives, Starts rules t a.elements :=
  block_starts le_rfl (fun _ _ _ => compiledWords_starts) b w hw

end Words

end GrammarWorkbench.Derivation
