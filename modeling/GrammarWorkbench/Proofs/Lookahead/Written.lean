import GrammarWorkbench.Proofs.Lookahead.Exact

/-!
# The lookahead written into rules is exact

Rules with their lookahead differ from those without only in the notes. The note of an alternative
says exactly what its elements allow, the note of a block what the choice among its alternatives
allows, and the note at the end of a loop what the elements behind the loop allow, at any depth.
-/

set_option autoImplicit false

namespace GrammarWorkbench.Analysis

open GrammarWorkbench.Model GrammarWorkbench.Derivation
open scoped Computability

section Noted

variable {α : Type} (v : Vocabulary) (rules : List (ParserRule α))

/-- A lookahead that is nullable if a sequence derives the empty word, and holds those types of
the vocabulary that can start it. -/
structure ExactFor (es : Sequence α) (l : Lookahead) : Prop where
  nullable : l.nullable ↔ [] ∈ sequenceWords typeWords (compiledWords rules) es
  first (n : Nat) : n < v.size → (l.first.contains n ↔ Starts rules n es)

mutual

def ElementNoted (after : Sequence α) : Element α → Element Lookahead → Prop
  | .token m, f => f = .token m
  | .rule i, f => f = .rule i
  | .operand i q, f => f = .operand i q
  | .block b, f => ∃ c, f = .block c ∧ BlockNoted b c
  | .loop kind greedy _ b, f =>
    ∃ exit c, f = .loop kind greedy exit c ∧ ExactFor v rules after exit ∧ BlockNoted b c

def SequenceNoted : Sequence α → Sequence Lookahead → Prop
  | [], fs => fs = []
  | e :: es, fs => ∃ f rest, fs = f :: rest ∧ ElementNoted es e f ∧ SequenceNoted es rest

def ChoiceNoted : List (RuleAlternative α) → List (RuleAlternative Lookahead) → Prop
  | [], bs => bs = []
  | ⟨label, _, es⟩ :: as, bs =>
    ∃ l fs rest, bs = ⟨label, l, fs⟩ :: rest ∧ ExactFor v rules es l ∧ SequenceNoted es fs ∧
      ChoiceNoted as rest

def BlockNoted : RuleBlock α → RuleBlock Lookahead → Prop
  | ⟨note, as⟩, c =>
    ∃ l bs, c = ⟨l, bs⟩ ∧ ExactFor v rules [.block ⟨note, as⟩] l ∧ ChoiceNoted as bs

end

structure RuleNoted (r : ParserRule α) (s : ParserRule Lookahead) : Prop where
  name : s.name = r.name
  index : s.index = r.index
  span : s.span = r.span
  block : BlockNoted v rules r.block s.block
  operators : Option.Rel
    (fun o p => BlockNoted v rules o.block p.block ∧ p.precedence = o.precedence)
    r.operators s.operators

end Noted

section Exact

variable {α : Type} {v : Vocabulary} {rules : List (ParserRule α)}

theorem starts_block_iff {n : Nat} {b : RuleBlock α} :
    Starts rules n [.block b] ↔ ∃ a ∈ b.alternatives, Starts rules n a.elements := by
  constructor
  · generalize hs : ([.block b] : Sequence α) = s
    intro h
    cases h with
    | token hm => cases hs
    | loop ha h => cases hs
    | block ha h =>
      cases hs
      exact ⟨_, ha, h⟩
    | call he | operator he =>
      cases hs
      cases he
    | skip hempty h =>
      cases hs
      exact absurd h Starts.not_nil
  · rintro ⟨a, ha, h⟩
    exact .block ha h

theorem sequenceLook_exact (es : Sequence α) :
    ExactFor v rules es (sequenceLook v (table v rules) es) where
  nullable := sequence_nullable_iff es
  first _ hn := sequence_first_iff hn es

theorem blockLook_exact (b : RuleBlock α) :
    ExactFor v rules [.block b] (blockLook v (table v rules) b) where
  nullable := by
    rw [block_nullable_iff, sequenceWords, sequenceWords, elementWords, mul_one]
  first n hn := by rw [block_first_iff hn, starts_block_iff]

theorem rule_first_iff {n : Nat} (hn : n < v.size) (i : Nat) :
    ((table v rules).rule i).first.contains n ↔ Starts rules n [.rule i] := by
  have hrule : (sequenceLook v (table v rules) [.rule i]).first.contains n ↔
      Starts rules n [.rule i] := sequence_first_iff hn _
  rw [sequenceLook, followedBy_first, elementLook, sequenceLook] at hrule
  rw [← hrule]
  simp [Lookahead.nothing]

mutual

theorem element_noted (after : Sequence α) : ∀ e : Element α, ElementNoted v rules after e
    (annotateElement v (table v rules) (sequenceLook v (table v rules) after) e)
  | .token _ | .rule _ | .operand _ _ => by rw [ElementNoted, annotateElement]
  | .block b => by
    rw [ElementNoted, annotateElement]
    exact ⟨_, rfl, block_noted b⟩
  | .loop kind greedy exit b => by
    rw [ElementNoted, annotateElement]
    exact ⟨_, _, rfl, sequenceLook_exact after, block_noted b⟩

theorem sequence_noted : ∀ es : Sequence α,
    SequenceNoted v rules es (annotateSequence v (table v rules) es)
  | [] => by rw [SequenceNoted, annotateSequence]
  | e :: es => by
    rw [SequenceNoted, annotateSequence]
    exact ⟨_, _, rfl, element_noted es e, sequence_noted es⟩

theorem choice_noted : ∀ as : List (RuleAlternative α),
    ChoiceNoted v rules as (annotateChoice v (table v rules) as)
  | [] => by rw [ChoiceNoted, annotateChoice]
  | ⟨label, note, es⟩ :: as => by
    rw [ChoiceNoted, annotateChoice]
    exact ⟨_, _, _, rfl, sequenceLook_exact es, sequence_noted es, choice_noted as⟩

theorem block_noted : ∀ b : RuleBlock α,
    BlockNoted v rules b (annotateBlock v (table v rules) b)
  | ⟨note, as⟩ => by
    rw [BlockNoted, annotateBlock]
    exact ⟨_, _, rfl, blockLook_exact ⟨note, as⟩, choice_noted as⟩

end

theorem rule_noted (r : ParserRule α) :
    RuleNoted v rules r (annotateRule v (table v rules) r) where
  name := rfl
  index := rfl
  span := rfl
  block := block_noted r.block
  operators := by
    unfold annotateRule
    cases r.operators with
    | none => exact .none
    | some o => exact .some ⟨block_noted o.block, rfl⟩

end Exact

/-- Rounds from the empty table end at the table: a further one changes nothing. Its entries are
exact for all rules, and so are the notes it gives to the parts of the rules. -/
theorem table_exact {α : Type} (v : Vocabulary) (rules : List (ParserRule α)) :
    (∃ n, (refresh v rules)^[n] (rules.map fun _ => .bottom) = table v rules ∧
      refresh v rules (table v rules) = table v rules) ∧
    (∀ i q, ((table v rules).rule i).nullable ↔ [] ∈ compiledWords rules i q) ∧
    (∀ i n, n < v.size →
      (((table v rules).rule i).first.contains n ↔ Starts rules n [.rule i])) ∧
    List.Forall₂ (RuleNoted v rules) rules
      (rules.map (annotateRule v (table v rules))) := by
  obtain ⟨rounds, hrounds⟩ := table_eq_iterate v rules
  refine ⟨⟨rounds, hrounds.symm, table_fixed v rules⟩, ?_, ?_, ?_⟩
  · intro i q
    exact ⟨table_sound.nullable i q, table_nullable_complete i q⟩
  · intro i n hn
    exact rule_first_iff hn i
  · rw [List.forall₂_map_right_iff, List.forall₂_same]
    intro r _
    exact rule_noted r

end GrammarWorkbench.Analysis
