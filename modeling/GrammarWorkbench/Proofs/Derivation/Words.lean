import Mathlib.Computability.Language
import Mathlib.Order.FixedPoints
import Mathlib.Order.CompletePartialOrder
import GrammarWorkbench.Model.Block

/-!
# Words of parser rules

A part of a parser rule is read as a language: the words it derives. The reading is open in what
the words are made of, so that it serves both for token types and for the children of a node. It
takes the words of a set of token types, and the words of a call of a rule for the operators of at
least a precedence. Notes play no part in it.

The words of all rules over token types are the least ones that agree with the rules: a word of a
rule at a precedence is one of an operand, followed by words of operators of at least that
precedence.
-/

set_option autoImplicit false

namespace GrammarWorkbench.Derivation

open GrammarWorkbench.Declaration GrammarWorkbench.Model
open scoped Computability

def repetition {σ : Type} (l : Language σ) : RepeatKind → Language σ
  | .optional => 1 + l
  | .zeroOrMore => l∗
  | .oneOrMore => l * l∗

section Reading

variable {σ α : Type} (terminal : Set Nat → Language σ) (call : Nat → Nat → Language σ)

mutual

def elementWords : Element α → Language σ
  | .token m => terminal {t | m.accepts t}
  | .rule index => call index 0
  | .operand index precedence => call index precedence
  | .block body => blockWords body
  | .loop kind _ _ body => repetition (blockWords body) kind

def sequenceWords : Sequence α → Language σ
  | [] => 1
  | e :: es => elementWords e * sequenceWords es

def choiceWords : List (RuleAlternative α) → Language σ
  | [] => 0
  | ⟨_, _, elements⟩ :: rest => sequenceWords elements + choiceWords rest

/-- The words of a block. As in the lookahead, one without alternatives counts as empty. -/
def blockWords : RuleBlock α → Language σ
  | ⟨_, alternatives⟩ => if alternatives.isEmpty then 1 else choiceWords alternatives

end

def operatorWords (operators : Option (Operators α)) (atLeast : Nat) : Language σ :=
  {w | ∃ o ∈ operators, ∃ a ∈ o.block.alternatives.zip o.precedence,
    atLeast ≤ a.2 ∧ w ∈ sequenceWords terminal call a.1.elements}

def ruleWords (r : ParserRule α) (precedence : Nat) : Language σ :=
  blockWords terminal call r.block * (operatorWords terminal call r.operators precedence)∗

end Reading

section Empty

variable {σ : Type}

theorem nil_mem_mul {l m : Language σ} : [] ∈ l * m ↔ [] ∈ l ∧ [] ∈ m := by
  rw [Language.mem_mul]
  constructor
  · rintro ⟨u, hu, v, hv, h⟩
    obtain ⟨rfl, rfl⟩ := List.append_eq_nil_iff.mp h
    exact ⟨hu, hv⟩
  · rintro ⟨hl, hm⟩
    exact ⟨[], hl, [], hm, rfl⟩

theorem nil_mem_repetition {l : Language σ} {kind : RepeatKind} :
    [] ∈ repetition l kind ↔ [] ∈ l ∨ kind ≠ .oneOrMore := by
  cases kind with
  | optional =>
    have h : [] ∈ repetition l .optional := Or.inl Language.nil_mem_one
    simp [h]
  | zeroOrMore => simp [repetition, Language.nil_mem_kstar]
  | oneOrMore => simp [repetition, nil_mem_mul, Language.nil_mem_kstar]

theorem cons_mem_mul_iff {l m : Language σ} {a : σ} {w : List σ} : a :: w ∈ l * m ↔
    (∃ u v, w = u ++ v ∧ a :: u ∈ l ∧ v ∈ m) ∨ ([] ∈ l ∧ a :: w ∈ m) := by
  rw [Language.mem_mul]
  constructor
  · rintro ⟨u, hu, v, hv, h⟩
    cases u with
    | nil => exact Or.inr ⟨hu, h ▸ hv⟩
    | cons b u =>
      obtain ⟨rfl, rfl⟩ := List.cons.inj h
      exact Or.inl ⟨u, v, rfl, hu, hv⟩
  · rintro (⟨u, v, rfl, hu, hv⟩ | ⟨hl, hm⟩)
    · exact ⟨a :: u, hu, v, hv, rfl⟩
    · exact ⟨[], hl, a :: w, hm, rfl⟩

/-- Rounds that take nothing are left out. -/
theorem cons_mem_kstar_iff {l : Language σ} {a : σ} {w : List σ} :
    a :: w ∈ l∗ ↔ ∃ u v, w = u ++ v ∧ a :: u ∈ l ∧ v ∈ l∗ := by
  constructor
  · rw [Language.mem_kstar_iff_exists_nonempty]
    rintro ⟨rounds, hw, hrounds⟩
    cases rounds with
    | nil => cases hw
    | cons first rounds =>
      obtain ⟨hfirst, hne⟩ := hrounds first List.mem_cons_self
      cases first with
      | nil => exact absurd rfl hne
      | cons b u =>
        obtain ⟨rfl, rfl⟩ := List.cons.inj hw
        refine ⟨u, rounds.flatten, rfl, hfirst, ?_⟩
        apply Language.join_mem_kstar
        intro v hv
        exact (hrounds v (List.mem_cons_of_mem _ hv)).1
  · rintro ⟨u, v, rfl, hu, hv⟩
    have hle : l * l∗ ≤ l∗ := mul_kstar_le_kstar
    exact hle (Language.append_mem_mul hu hv)

theorem cons_mem_repetition {l : Language σ} {kind : RepeatKind} {a : σ} {w : List σ}
    (h : a :: w ∈ repetition l kind) : ∃ u, a :: u ∈ l := by
  cases kind with
  | optional =>
    rcases h with h | h
    · cases h
    · exact ⟨w, h⟩
  | zeroOrMore =>
    obtain ⟨u, -, -, hu, -⟩ := cons_mem_kstar_iff.mp h
    exact ⟨u, hu⟩
  | oneOrMore =>
    obtain ⟨u, -, -, hu, -⟩ | ⟨-, h⟩ := cons_mem_mul_iff.mp h
    · exact ⟨u, hu⟩
    · obtain ⟨u, -, -, hu, -⟩ := cons_mem_kstar_iff.mp h
      exact ⟨u, hu⟩

end Empty

section Membership

variable {σ α : Type} {terminal : Set Nat → Language σ} {call : Nat → Nat → Language σ}

theorem sequenceWords_append (es fs : Sequence α) :
    sequenceWords terminal call (es ++ fs) =
      sequenceWords terminal call es * sequenceWords terminal call fs := by
  induction es with
  | nil => simp [sequenceWords]
  | cons e es ih => simp [sequenceWords, ih, mul_assoc]

theorem mem_choiceWords_iff {as : List (RuleAlternative α)} {w : List σ} :
    w ∈ choiceWords terminal call as ↔ ∃ a ∈ as, w ∈ sequenceWords terminal call a.elements := by
  induction as with
  | nil => simp [choiceWords]
  | cons a as ih =>
    obtain ⟨label, note, elements⟩ := a
    rw [choiceWords, Language.mem_add, ih]
    simp

theorem mem_blockWords_iff {note : α} {as : List (RuleAlternative α)} (hne : as ≠ [])
    {w : List σ} :
    w ∈ blockWords terminal call ⟨note, as⟩ ↔
      ∃ a ∈ as, w ∈ sequenceWords terminal call a.elements := by
  rw [blockWords, if_neg (by simpa using hne), mem_choiceWords_iff]

theorem sequenceWords_le_blockWords {b : RuleBlock α} {a : RuleAlternative α}
    (ha : a ∈ b.alternatives) :
    sequenceWords terminal call a.elements ≤ blockWords terminal call b := fun _ hw =>
  (mem_blockWords_iff (List.ne_nil_of_mem ha)).mpr ⟨a, ha, hw⟩

theorem operatorWords_none (q : Nat) :
    operatorWords terminal call (none : Option (Operators α)) q = 0 := by
  ext w
  constructor
  · rintro ⟨o, ho, _⟩
    cases ho
  · intro h
    exact absurd h (Language.notMem_zero w)

end Membership

/-- A map from the words of one reading to those of another. It keeps concatenation and takes
terminals to terminals and calls to calls, at least for words whose members have a property. -/
structure WordMap {σ τ : Type} (terminal : Set Nat → Language σ) (call : Nat → Nat → Language σ)
    (terminal' : Set Nat → Language τ) (call' : Nat → Nat → Language τ) (p : σ → Prop) where
  toFun : List σ → List τ
  map_nil : toFun [] = []
  map_append (u v : List σ) : toFun (u ++ v) = toFun u ++ toFun v
  map_terminal (s : Set Nat) : ∀ w ∈ terminal s, (∀ x ∈ w, p x) → toFun w ∈ terminal' s
  map_call (i q : Nat) : ∀ w ∈ call i q, (∀ x ∈ w, p x) → toFun w ∈ call' i q

namespace WordMap

variable {σ τ α : Type} {p : σ → Prop}
variable {terminal : Set Nat → Language σ} {call : Nat → Nat → Language σ}
variable {terminal' : Set Nat → Language τ} {call' : Nat → Nat → Language τ}
variable (f : WordMap terminal call terminal' call' p)

theorem map_flatten (ws : List (List σ)) :
    f.toFun ws.flatten = (ws.map f.toFun).flatten := by
  induction ws with
  | nil => simpa using f.map_nil
  | cons w ws ih => simp [f.map_append, ih]

theorem mem_kstar {l : Language σ} {m : Language τ}
    (h : ∀ w ∈ l, (∀ x ∈ w, p x) → f.toFun w ∈ m) :
    ∀ w ∈ l∗, (∀ x ∈ w, p x) → f.toFun w ∈ m∗ := by
  rintro w ⟨ws, rfl, hws⟩ hp
  rw [f.map_flatten]
  apply Language.join_mem_kstar
  intro y hy
  obtain ⟨u, hu, rfl⟩ := List.mem_map.mp hy
  exact h u (hws u hu) fun x hx => hp x (List.mem_flatten.mpr ⟨u, hu, hx⟩)

theorem mem_mul {l l' : Language σ} {m m' : Language τ}
    (h : ∀ w ∈ l, (∀ x ∈ w, p x) → f.toFun w ∈ m)
    (h' : ∀ w ∈ l', (∀ x ∈ w, p x) → f.toFun w ∈ m') :
    ∀ w ∈ l * l', (∀ x ∈ w, p x) → f.toFun w ∈ m * m' := by
  intro w hw hp
  obtain ⟨u, hu, v, hv, rfl⟩ := Language.mem_mul.mp hw
  rw [f.map_append]
  exact Language.append_mem_mul (h u hu fun x hx => hp x (List.mem_append_left _ hx))
    (h' v hv fun x hx => hp x (List.mem_append_right _ hx))

theorem mem_one : ∀ w ∈ (1 : Language σ), (∀ x ∈ w, p x) → f.toFun w ∈ (1 : Language τ) := by
  intro w hw _
  rw [Language.mem_one] at hw ⊢
  rw [hw, f.map_nil]

theorem mem_repetition {l : Language σ} {m : Language τ}
    (h : ∀ w ∈ l, (∀ x ∈ w, p x) → f.toFun w ∈ m) (kind : RepeatKind) :
    ∀ w ∈ repetition l kind, (∀ x ∈ w, p x) → f.toFun w ∈ repetition m kind := by
  cases kind with
  | optional =>
    intro w hw hp
    rcases hw with hw | hw
    · exact Or.inl (f.mem_one w hw hp)
    · exact Or.inr (h w hw hp)
  | zeroOrMore => exact f.mem_kstar h
  | oneOrMore => exact f.mem_mul h (f.mem_kstar h)

mutual

theorem mem_elementWords : ∀ e : Element α, ∀ w ∈ elementWords terminal call e,
    (∀ x ∈ w, p x) → f.toFun w ∈ elementWords terminal' call' e
  | .token _, w, hw, hp => by
    rw [elementWords] at hw ⊢
    exact f.map_terminal _ w hw hp
  | .rule i, w, hw, hp => by
    rw [elementWords] at hw ⊢
    exact f.map_call i 0 w hw hp
  | .operand i q, w, hw, hp => by
    rw [elementWords] at hw ⊢
    exact f.map_call i q w hw hp
  | .block body, w, hw, hp => by
    rw [elementWords] at hw ⊢
    exact mem_blockWords body w hw hp
  | .loop kind _ _ body, w, hw, hp => by
    rw [elementWords] at hw ⊢
    exact f.mem_repetition (mem_blockWords body) kind w hw hp

theorem mem_sequenceWords : ∀ es : Sequence α, ∀ w ∈ sequenceWords terminal call es,
    (∀ x ∈ w, p x) → f.toFun w ∈ sequenceWords terminal' call' es
  | [], w, hw, hp => by
    rw [sequenceWords] at hw ⊢
    exact f.mem_one w hw hp
  | e :: es, w, hw, hp => by
    rw [sequenceWords] at hw ⊢
    exact f.mem_mul (mem_elementWords e) (mem_sequenceWords es) w hw hp

theorem mem_choiceWords : ∀ as : List (RuleAlternative α), ∀ w ∈ choiceWords terminal call as,
    (∀ x ∈ w, p x) → f.toFun w ∈ choiceWords terminal' call' as
  | [], w, hw, _ => by
    rw [choiceWords] at hw
    exact absurd hw (Language.notMem_zero w)
  | ⟨_, _, es⟩ :: as, w, hw, hp => by
    rw [choiceWords] at hw ⊢
    rcases hw with hw | hw
    · exact Or.inl (mem_sequenceWords es w hw hp)
    · exact Or.inr (mem_choiceWords as w hw hp)

theorem mem_blockWords : ∀ b : RuleBlock α, ∀ w ∈ blockWords terminal call b,
    (∀ x ∈ w, p x) → f.toFun w ∈ blockWords terminal' call' b
  | ⟨_, as⟩, w, hw, hp => by
    rw [blockWords] at hw ⊢
    split_ifs at hw ⊢
    · exact f.mem_one w hw hp
    · exact mem_choiceWords as w hw hp

end

theorem mem_operatorWords (o : Option (Operators α)) (q : Nat) :
    ∀ w ∈ operatorWords terminal call o q, (∀ x ∈ w, p x) →
      f.toFun w ∈ operatorWords terminal' call' o q := by
  rintro w ⟨o, ho, a, ha, hq, hw⟩ hp
  exact ⟨o, ho, a, ha, hq, f.mem_sequenceWords _ w hw hp⟩

theorem mem_ruleWords (r : ParserRule α) (q : Nat) :
    ∀ w ∈ ruleWords terminal call r q, (∀ x ∈ w, p x) →
      f.toFun w ∈ ruleWords terminal' call' r q :=
  f.mem_mul (f.mem_blockWords r.block) (f.mem_kstar (f.mem_operatorWords r.operators q))

end WordMap

section Least

variable {α : Type}

def typeWords (s : Set Nat) : Language Nat := {w | ∃ t ∈ s, w = [t]}

def inclusion {call call' : Nat → Nat → Language Nat} (h : call ≤ call') :
    WordMap typeWords call typeWords call' fun _ => True where
  toFun := id
  map_nil := rfl
  map_append _ _ := rfl
  map_terminal _ _ hw _ := hw
  map_call i q _ hw _ := h i q hw

def wordsStep (rules : List (ParserRule α)) :
    (Nat → Nat → Language Nat) →o (Nat → Nat → Language Nat) where
  toFun call i q :=
    match rules[i]? with
    | some r => ruleWords typeWords call r q
    | none => 0
  monotone' := by
    intro call call' h i q w hw
    cases hr : rules[i]? with
    | none => simp only [hr] at hw; exact absurd hw (Language.notMem_zero w)
    | some r =>
      simp only [hr] at hw ⊢
      exact (inclusion h).mem_ruleWords r q w hw fun _ _ => trivial

theorem wordsStep_some {rules : List (ParserRule α)} {i : Nat} {r : ParserRule α}
    (hr : rules[i]? = some r) (call : Nat → Nat → Language Nat) (q : Nat) :
    wordsStep rules call i q = ruleWords typeWords call r q := by
  change (match rules[i]? with | some r => ruleWords typeWords call r q | none => 0) = _
  rw [hr]

theorem wordsStep_none {rules : List (ParserRule α)} {i : Nat} (hr : rules[i]? = none)
    (call : Nat → Nat → Language Nat) (q : Nat) : wordsStep rules call i q = 0 := by
  change (match rules[i]? with | some r => ruleWords typeWords call r q | none => 0) = _
  rw [hr]

/-- The words over token types that the rule of an index derives at a precedence. -/
def compiledWords (rules : List (ParserRule α)) : Nat → Nat → Language Nat :=
  OrderHom.lfp (wordsStep rules)

theorem wordsStep_compiledWords (rules : List (ParserRule α)) :
    wordsStep rules (compiledWords rules) = compiledWords rules :=
  OrderHom.map_lfp _

theorem compiledWords_some {rules : List (ParserRule α)} {i : Nat} {r : ParserRule α}
    (hr : rules[i]? = some r) (q : Nat) :
    compiledWords rules i q = ruleWords typeWords (compiledWords rules) r q := by
  rw [← wordsStep_some hr, wordsStep_compiledWords]

theorem compiledWords_le {rules : List (ParserRule α)} {l : Nat → Nat → Language Nat}
    (h : ∀ i r, rules[i]? = some r → ∀ q, ruleWords typeWords l r q ≤ l i q) :
    compiledWords rules ≤ l := by
  apply OrderHom.lfp_le
  intro i q
  cases hr : rules[i]? with
  | none =>
    rw [wordsStep_none hr]
    exact fun w hw => absurd hw (Language.notMem_zero w)
  | some r =>
    rw [wordsStep_some hr]
    exact h i r hr q

end Least

end GrammarWorkbench.Derivation
