import GrammarWorkbench.Proofs.Lookahead.Settled
import GrammarWorkbench.Proofs.Lookahead.Starts

/-!
# The table of lookaheads is exact

A part of a rule is marked as nullable if and only if it derives the empty word, and a type of the
vocabulary is among those that start it if and only if it can. No table on the way to the settled
one says too much, and one that agrees with itself cannot say too little.
-/

set_option autoImplicit false

namespace GrammarWorkbench.Analysis

open GrammarWorkbench.Declaration GrammarWorkbench.Model GrammarWorkbench.Derivation
open scoped Computability

section Look

variable {α : Type} {v : Vocabulary} {t : Table}

theorem followedBy_nullable (l m : Lookahead) :
    (l.followedBy m).nullable ↔ l.nullable ∧ m.nullable := by
  unfold Lookahead.followedBy
  cases hl : l.nullable <;> simp [hl]

theorem followedBy_first (l m : Lookahead) (n : Nat) :
    (l.followedBy m).first.contains n ↔
      l.first.contains n ∨ (l.nullable ∧ m.first.contains n) := by
  unfold Lookahead.followedBy
  cases hl : l.nullable <;> simp

theorem choiceLook_nullable (as : List (RuleAlternative α)) :
    (choiceLook v t as).nullable ↔ ∃ a ∈ as, (sequenceLook v t a.elements).nullable := by
  induction as with
  | nil => simp [choiceLook, Lookahead.bottom]
  | cons a as ih => simp [choiceLook, Lookahead.orElse, ih]

theorem choiceLook_first (as : List (RuleAlternative α)) (n : Nat) :
    (choiceLook v t as).first.contains n ↔
      ∃ a ∈ as, (sequenceLook v t a.elements).first.contains n := by
  induction as with
  | nil => simp [choiceLook, Lookahead.bottom]
  | cons a as ih => simp [choiceLook, Lookahead.orElse, ih]

theorem blockLook_nullable (b : RuleBlock α) :
    (blockLook v t b).nullable ↔
      b.alternatives = [] ∨ ∃ a ∈ b.alternatives, (sequenceLook v t a.elements).nullable := by
  obtain ⟨note, as⟩ := b
  cases as with
  | nil => simp [blockLook, Lookahead.nothing]
  | cons a as =>
    rw [blockLook, if_neg (by simp), choiceLook_nullable]
    simp

theorem blockLook_first (b : RuleBlock α) (n : Nat) :
    (blockLook v t b).first.contains n ↔
      ∃ a ∈ b.alternatives, (sequenceLook v t a.elements).first.contains n := by
  obtain ⟨note, as⟩ := b
  cases as with
  | nil => simp [blockLook, Lookahead.nothing]
  | cons a as => rw [blockLook, if_neg (by simp), choiceLook_first]

theorem ruleLook_nullable (r : ParserRule α) :
    (ruleLook v t r).nullable ↔ (blockLook v t r.block).nullable := by
  unfold ruleLook
  cases r.operators with
  | none => rfl
  | some o =>
    dsimp only
    split <;> simp [*]

theorem ruleLook_first (r : ParserRule α) (n : Nat) :
    (ruleLook v t r).first.contains n ↔ (blockLook v t r.block).first.contains n ∨
      ∃ o, r.operators = some o ∧ (blockLook v t r.block).nullable ∧
        (blockLook v t o.block).first.contains n := by
  unfold ruleLook
  cases r.operators with
  | none => simp
  | some o =>
    dsimp only
    split <;> simp [*]

/-- Within the vocabulary, what a terminal accepts is its lookahead. -/
theorem first_iff_accepts {m : TokenMatch} {n : Nat} (hn : n < v.size) :
    (m.first v).contains n ↔ m.accepts n := by
  cases m with
  | type u =>
    rw [TokenMatch.first, TokenSet.contains_single, TokenMatch.accepts, beq_iff_eq]
    exact eq_comm
  | any => simp [TokenMatch.first, TokenMatch.accepts, Vocabulary.allTokens, hn]
  | notIn excluded => simp [TokenMatch.first, TokenMatch.accepts, Vocabulary.allTokens, hn]

end Look

theorem nil_mem_blockWords {α : Type} {call : Nat → Nat → Language Nat} {b : RuleBlock α} :
    [] ∈ blockWords typeWords call b ↔ b.alternatives = [] ∨
      ∃ a ∈ b.alternatives, [] ∈ sequenceWords typeWords call a.elements := by
  obtain ⟨note, as⟩ := b
  cases as with
  | nil => simp [blockWords]
  | cons a as => rw [mem_blockWords_iff (by simp)]; simp

theorem nil_notMem_typeWords (s : Set Nat) : [] ∉ typeWords s := by
  rintro ⟨t, -, h⟩
  cases h

section Sound

variable {α : Type} {v : Vocabulary} {rules : List (ParserRule α)} {t : Table}

structure SoundTable (v : Vocabulary) (rules : List (ParserRule α)) (t : Table) : Prop where
  nullable (i q : Nat) : (t.rule i).nullable → [] ∈ compiledWords rules i q
  first (i n : Nat) : n < v.size → (t.rule i).first.contains n → Starts rules n [.rule i]

mutual

theorem element_nullable_sound (h : SoundTable v rules t) : ∀ e : Element α,
    (elementLook v t e).nullable → [] ∈ elementWords typeWords (compiledWords rules) e
  | .token _, hn => by simp [elementLook] at hn
  | .rule i, hn => by rw [elementLook] at hn; rw [elementWords]; exact h.nullable i 0 hn
  | .operand i q, hn => by rw [elementLook] at hn; rw [elementWords]; exact h.nullable i q hn
  | .block body, hn => by
    rw [elementLook] at hn
    rw [elementWords]
    exact block_nullable_sound h body hn
  | .loop kind _ _ body, hn => by
    rw [elementLook, Bool.or_eq_true_iff, bne_iff_ne] at hn
    rw [elementWords]
    exact nil_mem_repetition.mpr (hn.imp (block_nullable_sound h body) id)

theorem sequence_nullable_sound (h : SoundTable v rules t) : ∀ es : Sequence α,
    (sequenceLook v t es).nullable → [] ∈ sequenceWords typeWords (compiledWords rules) es
  | [], _ => by rw [sequenceWords]; exact Language.nil_mem_one
  | e :: es, hn => by
    rw [sequenceLook, followedBy_nullable] at hn
    rw [sequenceWords]
    exact nil_mem_mul.mpr ⟨element_nullable_sound h e hn.1, sequence_nullable_sound h es hn.2⟩

theorem choice_nullable_sound (h : SoundTable v rules t) : ∀ as : List (RuleAlternative α),
    ∀ a ∈ as, (sequenceLook v t a.elements).nullable →
      [] ∈ sequenceWords typeWords (compiledWords rules) a.elements
  | [], a, ha, _ => by cases ha
  | ⟨_, _, es⟩ :: as, a, ha, hn => by
    rcases List.mem_cons.mp ha with rfl | ha
    · exact sequence_nullable_sound h es hn
    · exact choice_nullable_sound h as a ha hn

theorem block_nullable_sound (h : SoundTable v rules t) : ∀ b : RuleBlock α,
    (blockLook v t b).nullable → [] ∈ blockWords typeWords (compiledWords rules) b
  | ⟨note, as⟩, hn => by
    refine nil_mem_blockWords.mpr ((blockLook_nullable _).mp hn |>.imp id ?_)
    rintro ⟨a, ha, han⟩
    exact ⟨a, ha, choice_nullable_sound h as a ha han⟩

end

mutual

theorem element_first_sound (h : SoundTable v rules t) {n : Nat} (hn : n < v.size) :
    ∀ e : Element α, (elementLook v t e).first.contains n → Starts rules n [e]
  | .token m, hc => by
    rw [elementLook] at hc
    exact .token ((first_iff_accepts hn).mp hc)
  | .rule i, hc => by rw [elementLook] at hc; exact h.first i n hn hc
  | .operand i _, hc => by
    rw [elementLook] at hc
    exact (h.first i n hn hc).of_call rfl []
  | .block body, hc => by
    rw [elementLook] at hc
    obtain ⟨a, ha, hs⟩ := block_first_sound h hn body hc
    exact .block ha hs
  | .loop _ _ _ body, hc => by
    rw [elementLook] at hc
    obtain ⟨a, ha, hs⟩ := block_first_sound h hn body hc
    exact .loop ha hs

theorem sequence_first_sound (h : SoundTable v rules t) {n : Nat} (hn : n < v.size) :
    ∀ es : Sequence α, (sequenceLook v t es).first.contains n → Starts rules n es
  | [], hc => by simp [sequenceLook, Lookahead.nothing] at hc
  | e :: es, hc => by
    rw [sequenceLook, followedBy_first] at hc
    rcases hc with hc | ⟨hnull, hc⟩
    · exact (element_first_sound h hn e hc).append_left es
    · exact .skip (element_nullable_sound h e hnull) (sequence_first_sound h hn es hc)

theorem choice_first_sound (h : SoundTable v rules t) {n : Nat} (hn : n < v.size) :
    ∀ as : List (RuleAlternative α), ∀ a ∈ as, (sequenceLook v t a.elements).first.contains n →
      Starts rules n a.elements
  | [], a, ha, _ => by cases ha
  | ⟨_, _, es⟩ :: as, a, ha, hc => by
    rcases List.mem_cons.mp ha with rfl | ha
    · exact sequence_first_sound h hn es hc
    · exact choice_first_sound h hn as a ha hc

theorem block_first_sound (h : SoundTable v rules t) {n : Nat} (hn : n < v.size) :
    ∀ b : RuleBlock α, (blockLook v t b).first.contains n →
      ∃ a ∈ b.alternatives, Starts rules n a.elements
  | ⟨note, as⟩, hc => by
    obtain ⟨a, ha, hs⟩ := (blockLook_first _ n).mp hc
    exact ⟨a, ha, choice_first_sound h hn as a ha hs⟩

end

theorem SoundTable.set (h : SoundTable v rules t) {i : Nat} {r : ParserRule α}
    (hr : rules[i]? = some r) : SoundTable v rules (t.set i (ruleLook v t r)) where
  nullable j q hn := by
    rcases Table.rule_set_cases t i j (ruleLook v t r) with hj | ⟨rfl, hj⟩
    · exact h.nullable j q (hj ▸ hn)
    · rw [hj, ruleLook_nullable] at hn
      rw [compiledWords_some hr]
      exact nil_mem_mul.mpr ⟨block_nullable_sound h r.block hn, Language.nil_mem_kstar _⟩
  first j n hn hc := by
    rcases Table.rule_set_cases t i j (ruleLook v t r) with hj | ⟨rfl, hj⟩
    · exact h.first j n hn (hj ▸ hc)
    · rw [hj, ruleLook_first] at hc
      rcases hc with hc | ⟨o, ho, hnull, hc⟩
      · obtain ⟨a, ha, hs⟩ := block_first_sound h hn r.block hc
        exact .call rfl hr ha hs
      · obtain ⟨a, ha, hs⟩ := block_first_sound h hn o.block hc
        exact .operator rfl hr ho (block_nullable_sound h r.block hnull) ha hs

theorem table_sound : SoundTable v rules (table v rules) := by
  refine table_induction ⟨fun i q hn => ?_, fun i n _ hc => ?_⟩ fun _ _ _ hr ht => ht.set hr
  · rw [rule_map_bottom] at hn
    cases hn
  · rw [rule_map_bottom] at hc
    cases hc

end Sound

section Complete

variable {α : Type} {v : Vocabulary} {rules : List (ParserRule α)} {t : Table}

mutual

theorem element_nullable_complete {call : Nat → Nat → Language Nat}
    (h : ∀ i q, [] ∈ call i q → (t.rule i).nullable) : ∀ e : Element α,
    [] ∈ elementWords typeWords call e → (elementLook v t e).nullable
  | .token m, hw => by
    rw [elementWords] at hw
    exact absurd hw (nil_notMem_typeWords _)
  | .rule i, hw => by rw [elementWords] at hw; rw [elementLook]; exact h i 0 hw
  | .operand i q, hw => by rw [elementWords] at hw; rw [elementLook]; exact h i q hw
  | .block body, hw => by
    rw [elementWords] at hw
    rw [elementLook]
    exact block_nullable_complete h body hw
  | .loop kind _ _ body, hw => by
    rw [elementWords] at hw
    rw [elementLook, Bool.or_eq_true_iff, bne_iff_ne]
    exact (nil_mem_repetition.mp hw).imp (block_nullable_complete h body) id

theorem sequence_nullable_complete {call : Nat → Nat → Language Nat}
    (h : ∀ i q, [] ∈ call i q → (t.rule i).nullable) : ∀ es : Sequence α,
    [] ∈ sequenceWords typeWords call es → (sequenceLook v t es).nullable
  | [], _ => by rw [sequenceLook]; rfl
  | e :: es, hw => by
    rw [sequenceWords] at hw
    obtain ⟨he, hes⟩ := nil_mem_mul.mp hw
    rw [sequenceLook, followedBy_nullable]
    exact ⟨element_nullable_complete h e he, sequence_nullable_complete h es hes⟩

theorem choice_nullable_complete {call : Nat → Nat → Language Nat}
    (h : ∀ i q, [] ∈ call i q → (t.rule i).nullable) : ∀ as : List (RuleAlternative α),
    ∀ a ∈ as, [] ∈ sequenceWords typeWords call a.elements →
      (sequenceLook v t a.elements).nullable
  | [], a, ha, _ => by cases ha
  | ⟨_, _, es⟩ :: as, a, ha, hw => by
    rcases List.mem_cons.mp ha with rfl | ha
    · exact sequence_nullable_complete h es hw
    · exact choice_nullable_complete h as a ha hw

theorem block_nullable_complete {call : Nat → Nat → Language Nat}
    (h : ∀ i q, [] ∈ call i q → (t.rule i).nullable) : ∀ b : RuleBlock α,
    [] ∈ blockWords typeWords call b → (blockLook v t b).nullable
  | ⟨note, as⟩, hw => by
    refine (blockLook_nullable _).mpr ((nil_mem_blockWords.mp hw).imp id ?_)
    rintro ⟨a, ha, han⟩
    exact ⟨a, ha, choice_nullable_complete h as a ha han⟩

end

theorem table_nullable_complete (i q : Nat) (hw : [] ∈ compiledWords rules i q) :
    ((table v rules).rule i).nullable := by
  -- the words that are empty only where the table says so are closed under the rules
  let good : Nat → Nat → Language Nat := fun i _ => {w | w = [] → ((table v rules).rule i).nullable}
  have hall : compiledWords rules ≤ good := by
    apply compiledWords_le
    rintro i r hr q w hw rfl
    rw [rule_table hr, ruleLook_nullable]
    have hgood : ∀ j p, [] ∈ good j p → ((table v rules).rule j).nullable := fun j p hj => hj rfl
    exact block_nullable_complete hgood r.block (nil_mem_mul.mp hw).1
  exact hall i q hw rfl

theorem first_complete {n : Nat} (hn : n < v.size) {es : Sequence α} (h : Starts rules n es) :
    (sequenceLook v (table v rules) es).first.contains n := by
  have hnull (i q : Nat) : [] ∈ compiledWords rules i q → ((table v rules).rule i).nullable :=
    table_nullable_complete i q
  have hcall {e : Element α} {i : Nat} (he : callee? e = some i) :
      elementLook v (table v rules) e = (table v rules).rule i := by
    cases e with
    | rule j => cases he; rw [elementLook]
    | operand j q => cases he; rw [elementLook]
    | token _ | block _ | loop _ _ _ _ => cases he
  induction h with
  | token hm =>
    rw [sequenceLook, followedBy_first, elementLook]
    exact Or.inl ((first_iff_accepts hn).mpr hm)
  | call he hr ha _ ih =>
    rw [sequenceLook, followedBy_first, hcall he, rule_table hr, ruleLook_first]
    exact Or.inl (Or.inl ((blockLook_first _ n).mpr ⟨_, ha, ih⟩))
  | operator he hr ho hempty ha _ ih =>
    rw [sequenceLook, followedBy_first, hcall he, rule_table hr, ruleLook_first]
    refine Or.inl (Or.inr ⟨_, ho, block_nullable_complete hnull _ hempty, ?_⟩)
    exact (blockLook_first _ n).mpr ⟨_, ha, ih⟩
  | block ha _ ih =>
    rw [sequenceLook, followedBy_first, elementLook]
    exact Or.inl ((blockLook_first _ n).mpr ⟨_, ha, ih⟩)
  | loop ha _ ih =>
    rw [sequenceLook, followedBy_first, elementLook]
    exact Or.inl ((blockLook_first _ n).mpr ⟨_, ha, ih⟩)
  | skip hempty _ ih =>
    rw [sequenceLook, followedBy_first]
    exact Or.inr ⟨element_nullable_complete hnull _ hempty, ih⟩

end Complete

section Exact

variable {α : Type} {v : Vocabulary} {rules : List (ParserRule α)}

theorem element_nullable_iff (e : Element α) : (elementLook v (table v rules) e).nullable ↔
    [] ∈ elementWords typeWords (compiledWords rules) e :=
  ⟨element_nullable_sound table_sound e, element_nullable_complete table_nullable_complete e⟩

theorem sequence_nullable_iff (es : Sequence α) : (sequenceLook v (table v rules) es).nullable ↔
    [] ∈ sequenceWords typeWords (compiledWords rules) es :=
  ⟨sequence_nullable_sound table_sound es, sequence_nullable_complete table_nullable_complete es⟩

theorem block_nullable_iff (b : RuleBlock α) : (blockLook v (table v rules) b).nullable ↔
    [] ∈ blockWords typeWords (compiledWords rules) b :=
  ⟨block_nullable_sound table_sound b, block_nullable_complete table_nullable_complete b⟩

theorem sequence_first_iff {n : Nat} (hn : n < v.size) (es : Sequence α) :
    (sequenceLook v (table v rules) es).first.contains n ↔ Starts rules n es :=
  ⟨sequence_first_sound table_sound hn es, first_complete hn⟩

theorem block_first_iff {n : Nat} (hn : n < v.size) (b : RuleBlock α) :
    (blockLook v (table v rules) b).first.contains n ↔
      ∃ a ∈ b.alternatives, Starts rules n a.elements := by
  rw [blockLook_first]
  simp only [sequence_first_iff hn]

end Exact

end GrammarWorkbench.Analysis
