import Mathlib.Algebra.GroupWithZero.Nat
import Mathlib.Algebra.Order.BigOperators.Group.Finset
import Mathlib.Data.List.Perm.Subperm
import GrammarWorkbench.Analysis.Lookahead

/-!
# The table of lookaheads settles

The lookahead of a rule grows with the table it is computed from, so the tables grow from round to
round. A table that changes gets heavier, where the weight of a table counts the token types and
the rules that can match nothing. Only types of the vocabulary and types that some terminal names
ever occur, which bounds the weight, and with it the number of rounds.
-/

set_option autoImplicit false

namespace GrammarWorkbench.Model

namespace TokenSet

instance : LE TokenSet := ⟨fun s t => ∀ n, s.contains n → t.contains n⟩

variable {s t : TokenSet}

theorem subperm_of_le (h : s ≤ t) : s.toList.Subperm t.toList := by
  apply List.subperm_of_subset (s.ascending.imp Nat.ne_of_lt)
  intro n hn
  exact contains_iff.mp (h n (contains_iff.mpr hn))

theorem eq_of_le (h : s ≤ t) (hlen : t.toList.length ≤ s.toList.length) : s = t := by
  have hperm := (subperm_of_le h).perm_of_length_le hlen
  have heq : s.toList = t.toList :=
    hperm.eq_of_pairwise (fun _ _ _ _ hab hba => absurd hab (Nat.lt_asymm hba))
      s.ascending t.ascending
  cases s
  cases t
  cases heq
  rfl

end TokenSet

namespace Lookahead

instance : LE Lookahead :=
  ⟨fun l m => l.first ≤ m.first ∧ (l.nullable → m.nullable)⟩

variable {l l' m m' : Lookahead}

theorem le_refl (l : Lookahead) : l ≤ l := ⟨fun _ h => h, id⟩

theorem bottom_le (l : Lookahead) : bottom ≤ l := by
  refine ⟨fun n h => ?_, fun h => ?_⟩
  · simp [bottom] at h
  · simp [bottom] at h

theorem followedBy_mono (h : l ≤ l') (hm : m ≤ m') : l.followedBy m ≤ l'.followedBy m' := by
  unfold followedBy
  cases hl : l.nullable with
  | true =>
    rw [if_pos rfl, if_pos (h.2 hl)]
    refine ⟨fun n hn => ?_, hm.2⟩
    exact TokenSet.contains_union.mpr
      ((TokenSet.contains_union.mp hn).imp (h.1 n) (hm.1 n))
  | false =>
    rw [if_neg (by simp)]
    split
    · exact ⟨fun n hn => TokenSet.contains_union.mpr (Or.inl (h.1 n hn)), by simp [hl]⟩
    · exact h

theorem orElse_mono (h : l ≤ l') (hm : m ≤ m') : l.orElse m ≤ l'.orElse m' := by
  refine ⟨fun n hn => ?_, fun hn => ?_⟩
  · exact TokenSet.contains_union.mpr ((TokenSet.contains_union.mp hn).imp (h.1 n) (hm.1 n))
  · exact Bool.or_eq_true_iff.mpr ((Bool.or_eq_true_iff.mp hn).imp h.2 hm.2)

def weight (l : Lookahead) : Nat := l.first.toList.length + l.nullable.toNat

theorem weight_mono (h : l ≤ m) : l.weight ≤ m.weight := by
  have hfirst := (TokenSet.subperm_of_le h.1).length_le
  have hnull : l.nullable.toNat ≤ m.nullable.toNat := by
    cases hl : l.nullable with
    | true => rw [h.2 hl]
    | false => exact Nat.zero_le _
  exact Nat.add_le_add hfirst hnull

theorem eq_of_weight_le (h : l ≤ m) (hw : m.weight ≤ l.weight) : l = m := by
  have hfirst := (TokenSet.subperm_of_le h.1).length_le
  have hnull : l.nullable = m.nullable := by
    cases hl : l.nullable with
    | true => exact (h.2 hl).symm
    | false =>
      cases hm : m.nullable with
      | false => rfl
      | true => simp only [weight, hl, hm, Bool.toNat_true, Bool.toNat_false] at hw; omega
  have hset : l.first = m.first := by
    apply TokenSet.eq_of_le h.1
    simp only [weight, hnull] at hw
    omega
  cases l
  cases m
  cases hset
  cases hnull
  rfl

instance : PartialOrder Lookahead where
  le_refl := le_refl
  le_trans _ _ _ h h' := ⟨fun n hn => h'.1 n (h.1 n hn), fun hn => h'.2 (h.2 hn)⟩
  le_antisymm _ _ h h' := eq_of_weight_le h (weight_mono h')

end Lookahead

end GrammarWorkbench.Model

namespace GrammarWorkbench.Analysis

open GrammarWorkbench.Model

section Growth

variable {α : Type} {v : Vocabulary} {t t' : Table}

mutual

theorem elementLook_mono (h : ∀ i, t.rule i ≤ t'.rule i) : ∀ e : Element α,
    elementLook v t e ≤ elementLook v t' e
  | .token _ => by simpa only [elementLook] using Lookahead.le_refl _
  | .rule i => by simpa only [elementLook] using h i
  | .operand i _ => by simpa only [elementLook] using h i
  | .block body => by simpa only [elementLook] using blockLook_mono h body
  | .loop kind _ _ body => by
    have hbody := blockLook_mono h body
    simp only [elementLook]
    refine ⟨hbody.1, fun hn => ?_⟩
    exact Bool.or_eq_true_iff.mpr ((Bool.or_eq_true_iff.mp hn).imp hbody.2 id)

theorem sequenceLook_mono (h : ∀ i, t.rule i ≤ t'.rule i) : ∀ es : Sequence α,
    sequenceLook v t es ≤ sequenceLook v t' es
  | [] => by simpa only [sequenceLook] using Lookahead.le_refl _
  | e :: es => by
    simp only [sequenceLook]
    exact Lookahead.followedBy_mono (elementLook_mono h e) (sequenceLook_mono h es)

theorem choiceLook_mono (h : ∀ i, t.rule i ≤ t'.rule i) : ∀ as : List (RuleAlternative α),
    choiceLook v t as ≤ choiceLook v t' as
  | [] => by simpa only [choiceLook] using Lookahead.le_refl _
  | ⟨_, _, es⟩ :: as => by
    simp only [choiceLook]
    exact Lookahead.orElse_mono (sequenceLook_mono h es) (choiceLook_mono h as)

theorem blockLook_mono (h : ∀ i, t.rule i ≤ t'.rule i) : ∀ b : RuleBlock α,
    blockLook v t b ≤ blockLook v t' b
  | ⟨_, as⟩ => by
    simp only [blockLook]
    split
    · exact Lookahead.le_refl _
    · exact choiceLook_mono h as

end

theorem ruleLook_mono (h : ∀ i, t.rule i ≤ t'.rule i) (r : ParserRule α) :
    ruleLook v t r ≤ ruleLook v t' r := by
  have hblock := blockLook_mono (v := v) h r.block
  unfold ruleLook
  cases r.operators with
  | none => exact hblock
  | some o =>
    have hops := blockLook_mono (v := v) h o.block
    dsimp only
    split
    · rename_i hn
      rw [if_pos (hblock.2 hn)]
      refine ⟨fun n hm => ?_, fun _ => rfl⟩
      exact TokenSet.contains_union.mpr
        ((TokenSet.contains_union.mp hm).imp (hblock.1 n) (hops.1 n))
    · rename_i hn
      split
      · exact ⟨fun n hm => TokenSet.contains_union.mpr (Or.inl (hblock.1 n hm)), fun _ => rfl⟩
      · exact hblock

end Growth

section Types

variable {α : Type}

mutual

def elementTypes : Element α → List Nat
  | .token (.type t) => [t]
  | .token _ => []
  | .rule _ => []
  | .operand _ _ => []
  | .block body => blockTypes body
  | .loop _ _ _ body => blockTypes body

def sequenceTypes : Sequence α → List Nat
  | [] => []
  | e :: es => elementTypes e ++ sequenceTypes es

def choiceTypes : List (RuleAlternative α) → List Nat
  | [] => []
  | ⟨_, _, elements⟩ :: rest => sequenceTypes elements ++ choiceTypes rest

def blockTypes : RuleBlock α → List Nat
  | ⟨_, alternatives⟩ => choiceTypes alternatives

end

def ruleTypes (r : ParserRule α) : List Nat :=
  blockTypes r.block ++ (r.operators.map (blockTypes ·.block)).getD []

mutual

theorem elementTypes_length : ∀ e : Element α, (elementTypes e).length ≤ elementTerminals e
  | .token (.type _) | .token .any | .token (.notIn _) | .rule _ | .operand _ _ => by
    simp [elementTypes, elementTerminals]
  | .block body => by simpa only [elementTypes, elementTerminals] using blockTypes_length body
  | .loop _ _ _ body => by
    simpa only [elementTypes, elementTerminals] using blockTypes_length body

theorem sequenceTypes_length : ∀ es : Sequence α,
    (sequenceTypes es).length ≤ sequenceTerminals es
  | [] => by simp [sequenceTypes]
  | e :: es => by
    rw [sequenceTypes, sequenceTerminals, List.length_append]
    exact Nat.add_le_add (elementTypes_length e) (sequenceTypes_length es)

theorem choiceTypes_length : ∀ as : List (RuleAlternative α),
    (choiceTypes as).length ≤ choiceTerminals as
  | [] => by simp [choiceTypes]
  | ⟨_, _, es⟩ :: as => by
    rw [choiceTypes, choiceTerminals, List.length_append]
    exact Nat.add_le_add (sequenceTypes_length es) (choiceTypes_length as)

theorem blockTypes_length : ∀ b : RuleBlock α, (blockTypes b).length ≤ blockTerminals b
  | ⟨_, as⟩ => by simpa only [blockTypes, blockTerminals] using choiceTypes_length as

end

theorem ruleTypes_length (r : ParserRule α) : (ruleTypes r).length ≤ ruleTerminals r := by
  rw [ruleTypes, ruleTerminals, List.length_append]
  apply Nat.add_le_add (blockTypes_length r.block)
  cases r.operators with
  | none => exact Nat.le_refl _
  | some o => exact blockTypes_length o.block

end Types

section Bound

variable {α : Type} {v : Vocabulary} {t : Table} {U : List Nat}

theorem contains_first {m : TokenMatch} {n : Nat} (h : (m.first v).contains n) :
    n ∈ List.range v.size ++ elementTypes (.token m : Element α) := by
  cases m with
  | type u => simpa [TokenMatch.first, elementTypes] using Or.inr h
  | any =>
    simp only [TokenMatch.first, Vocabulary.allTokens, TokenSet.contains_ofList,
      List.mem_filter] at h
    exact List.mem_append_left _ h.1
  | notIn excluded =>
    simp only [TokenMatch.first, Vocabulary.allTokens, TokenSet.contains_filter,
      TokenSet.contains_ofList, List.mem_filter] at h
    exact List.mem_append_left _ h.1.1

mutual

theorem elementLook_types (ht : ∀ i n, (t.rule i).first.contains n → n ∈ List.range v.size ++ U) :
    ∀ e : Element α, elementTypes e ⊆ U → ∀ n, (elementLook v t e).first.contains n →
      n ∈ List.range v.size ++ U
  | .token m, hU, n, h => by
    rw [elementLook] at h
    rcases List.mem_append.mp (contains_first h) with h | h
    · exact List.mem_append_left _ h
    · exact List.mem_append_right _ (hU h)
  | .rule i, _, n, h => by rw [elementLook] at h; exact ht i n h
  | .operand i _, _, n, h => by rw [elementLook] at h; exact ht i n h
  | .block body, hU, n, h => by
    rw [elementLook] at h
    exact blockLook_types ht body (by rwa [elementTypes] at hU) n h
  | .loop _ _ _ body, hU, n, h => by
    rw [elementLook] at h
    exact blockLook_types ht body (by rwa [elementTypes] at hU) n h

theorem sequenceLook_types (ht : ∀ i n, (t.rule i).first.contains n → n ∈ List.range v.size ++ U) :
    ∀ es : Sequence α, sequenceTypes es ⊆ U → ∀ n, (sequenceLook v t es).first.contains n →
      n ∈ List.range v.size ++ U
  | [], _, n, h => by simp [sequenceLook, Lookahead.nothing] at h
  | e :: es, hU, n, h => by
    rw [sequenceTypes, List.append_subset] at hU
    rw [sequenceLook, Lookahead.followedBy] at h
    split at h
    · rcases TokenSet.contains_union.mp h with h | h
      · exact elementLook_types ht e hU.1 n h
      · exact sequenceLook_types ht es hU.2 n h
    · exact elementLook_types ht e hU.1 n h

theorem choiceLook_types (ht : ∀ i n, (t.rule i).first.contains n → n ∈ List.range v.size ++ U) :
    ∀ as : List (RuleAlternative α), choiceTypes as ⊆ U → ∀ n,
      (choiceLook v t as).first.contains n → n ∈ List.range v.size ++ U
  | [], _, n, h => by simp [choiceLook, Lookahead.bottom] at h
  | ⟨_, _, es⟩ :: as, hU, n, h => by
    rw [choiceTypes, List.append_subset] at hU
    rw [choiceLook, Lookahead.orElse] at h
    rcases TokenSet.contains_union.mp h with h | h
    · exact sequenceLook_types ht es hU.1 n h
    · exact choiceLook_types ht as hU.2 n h

theorem blockLook_types (ht : ∀ i n, (t.rule i).first.contains n → n ∈ List.range v.size ++ U) :
    ∀ b : RuleBlock α, blockTypes b ⊆ U → ∀ n, (blockLook v t b).first.contains n →
      n ∈ List.range v.size ++ U
  | ⟨_, as⟩, hU, n, h => by
    rw [blockTypes] at hU
    rw [blockLook] at h
    split at h
    · simp [Lookahead.nothing] at h
    · exact choiceLook_types ht as hU n h

end

theorem ruleLook_types (ht : ∀ i n, (t.rule i).first.contains n → n ∈ List.range v.size ++ U)
    (r : ParserRule α) (hU : ruleTypes r ⊆ U) (n : Nat) (h : (ruleLook v t r).first.contains n) :
    n ∈ List.range v.size ++ U := by
  rw [ruleTypes, List.append_subset] at hU
  have hblock := blockLook_types ht r.block hU.1 n
  unfold ruleLook at h
  cases ho : r.operators with
  | none => simp only [ho] at h; exact hblock h
  | some o =>
    simp only [ho] at h
    split at h
    · rcases TokenSet.contains_union.mp h with h | h
      · exact hblock h
      · exact blockLook_types ht o.block (by simpa [ho] using hU.2) n h
    · exact hblock h

end Bound

section Rounds

variable {α : Type} {v : Vocabulary} {rules : List (ParserRule α)} {t t' : Table}

namespace Table

theorem rule_set_self {i : Nat} (hi : i < t.length) (l : Lookahead) :
    Table.rule (t.set i l) i = l := by
  simp [Table.rule, hi]

theorem rule_set_ne {i j : Nat} (h : i ≠ j) (l : Lookahead) :
    Table.rule (t.set i l) j = t.rule j := by
  simp [Table.rule, List.getElem?_set_ne h]

theorem rule_set_cases (t : Table) (i j : Nat) (l : Lookahead) :
    Table.rule (t.set i l) j = t.rule j ∨ (i = j ∧ Table.rule (t.set i l) j = l) := by
  by_cases hij : i = j
  · subst hij
    by_cases hi : i < t.length
    · exact Or.inr ⟨rfl, rule_set_self hi l⟩
    · rw [List.set_eq_of_length_le (Nat.le_of_not_lt hi)]
      exact Or.inl rfl
  · exact Or.inl (rule_set_ne hij l)

theorem ext_rule (hlen : t.length = t'.length) (h : ∀ i, i < t.length → t.rule i = t'.rule i) :
    t = t' := by
  apply List.ext_getElem hlen
  intro i hi hi'
  have hrule := h i hi
  rwa [Table.rule, Table.rule, List.getElem?_eq_getElem hi, List.getElem?_eq_getElem hi'] at hrule

def weight (n : Nat) (t : Table) : Nat := ∑ i ∈ Finset.range n, (t.rule i).weight

theorem weight_lt (hlen : t.length = t'.length) (hle : ∀ i, t.rule i ≤ t'.rule i) (hne : t' ≠ t) :
    weight t.length t < weight t.length t' := by
  refine Finset.sum_lt_sum (fun i _ => Lookahead.weight_mono (hle i)) ?_
  by_contra hnone
  apply hne
  -- no entry gets heavier, so none changes
  refine (ext_rule hlen fun i hi => ?_).symm
  have hw : (t'.rule i).weight ≤ (t.rule i).weight := by
    by_contra hlt
    exact hnone ⟨i, Finset.mem_range.mpr hi, Nat.lt_of_not_le hlt⟩
  exact Lookahead.eq_of_weight_le (hle i) hw

end Table

theorem drop_eq_cons {i : Nat} {r : ParserRule α} {rs : List (ParserRule α)}
    (h : rules.drop i = r :: rs) : rules[i]? = some r ∧ rules.drop (i + 1) = rs := by
  constructor
  · have hhead := congrArg (·[0]?) h
    simpa using hhead
  · rw [← List.tail_drop, h, List.tail_cons]

/-- What holds of a table and is kept when one entry is computed anew holds after a round from any
rule on. -/
theorem refreshFrom_induction {P : Table → Prop}
    (hset : ∀ t i r, rules[i]? = some r → P t → P (t.set i (ruleLook v t r)))
    {rs : List (ParserRule α)} {i : Nat} (hrs : rules.drop i = rs) (ht : P t) :
    P (refreshFrom v i rs t) := by
  induction rs generalizing i t with
  | nil => exact ht
  | cons r rs ih =>
    obtain ⟨hr, hrest⟩ := drop_eq_cons hrs
    exact ih hrest (hset t i r hr ht)

/-- What is true of every table on the way: it has an entry for every rule, names only types of
the rules and the vocabulary, and no entry shrinks when it is computed anew. -/
structure Growing (v : Vocabulary) (rules : List (ParserRule α)) (t : Table) : Prop where
  length_eq : t.length = rules.length
  types (i n : Nat) : (t.rule i).first.contains n →
    n ∈ List.range v.size ++ rules.flatMap ruleTypes
  grows (i : Nat) (r : ParserRule α) : rules[i]? = some r → t.rule i ≤ ruleLook v t r

theorem rule_map_bottom (i : Nat) :
    Table.rule (rules.map fun _ => Lookahead.bottom) i = .bottom := by
  rw [Table.rule, List.getElem?_map]
  cases rules[i]? <;> rfl

theorem growing_bottom : Growing v rules (rules.map fun _ => .bottom) where
  length_eq := List.length_map _
  types i n h := by
    rw [rule_map_bottom] at h
    simp [Lookahead.bottom] at h
  grows i r _ := by
    rw [rule_map_bottom]
    exact Lookahead.bottom_le _

namespace Growing

/-- An entry that is computed anew does not shrink, and the others stay. -/
theorem le_set (h : Growing v rules t) {i : Nat} {r : ParserRule α} (hr : rules[i]? = some r)
    (j : Nat) : t.rule j ≤ Table.rule (t.set i (ruleLook v t r)) j := by
  rcases Table.rule_set_cases t i j (ruleLook v t r) with hj | ⟨rfl, hj⟩
  · exact hj.ge
  · rw [hj]
    exact h.grows i r hr

theorem set (h : Growing v rules t) {i : Nat} {r : ParserRule α} (hr : rules[i]? = some r) :
    Growing v rules (t.set i (ruleLook v t r)) where
  length_eq := by rw [List.length_set, h.length_eq]
  types j n hn := by
    rcases Table.rule_set_cases t i j (ruleLook v t r) with hj | ⟨rfl, hj⟩
    · exact h.types j n (hj ▸ hn)
    · rw [hj] at hn
      refine ruleLook_types h.types r ?_ n hn
      exact fun n hn => List.mem_flatMap.mpr ⟨r, List.mem_of_getElem? hr, hn⟩
  grows j s hs := by
    have hmono := ruleLook_mono (v := v) (h.le_set hr) s
    rcases Table.rule_set_cases t i j (ruleLook v t r) with hj | ⟨rfl, hj⟩
    · rw [hj]
      exact (h.grows j s hs).trans hmono
    · obtain rfl : r = s := Option.some.inj (hr.symm.trans hs)
      rw [hj]
      exact hmono

theorem refreshFrom (h : Growing v rules t) {rs : List (ParserRule α)} {i : Nat}
    (hrs : rules.drop i = rs) : Growing v rules (refreshFrom v i rs t) :=
  refreshFrom_induction (fun _ _ _ hr ht => ht.set hr) hrs h

theorem le_refreshFrom (h : Growing v rules t) {rs : List (ParserRule α)} {i : Nat}
    (hrs : rules.drop i = rs) (j : Nat) : t.rule j ≤ (Analysis.refreshFrom v i rs t).rule j := by
  have hboth := refreshFrom_induction (v := v)
    (P := fun t' => Growing v rules t' ∧ t.rule j ≤ t'.rule j)
    (fun t' i r hr ht' => ⟨ht'.1.set hr, ht'.2.trans (ht'.1.le_set hr j)⟩) hrs
    ⟨h, Lookahead.le_refl _⟩
  exact hboth.2

/-- If a round changes nothing, no entry changes when it is computed anew. -/
theorem agrees (h : Growing v rules t) {rs : List (ParserRule α)} {i : Nat}
    (hrs : rules.drop i = rs) (hfix : Analysis.refreshFrom v i rs t = t) {k : Nat}
    {r : ParserRule α} (hr : rs[k]? = some r) : t.rule (i + k) = ruleLook v t r := by
  induction rs generalizing i k with
  | nil => simp at hr
  | cons r' rs ih =>
    obtain ⟨hr', hrest⟩ := drop_eq_cons hrs
    have hi : i < t.length := by
      rw [h.length_eq]
      exact (List.getElem?_eq_some_iff.mp hr').1
    -- the round only grows and ends where it began, so its first step changes nothing
    have hstep : t.set i (ruleLook v t r') = t := by
      apply Table.ext_rule (List.length_set)
      intro j _
      have hup := (h.set hr').le_refreshFrom hrest j
      rw [Analysis.refreshFrom] at hfix
      rw [hfix] at hup
      exact hup.antisymm (h.le_set hr' j)
    cases k with
    | zero =>
      obtain rfl : r' = r := by simpa using hr
      have hself := Table.rule_set_self hi (ruleLook v t r')
      rwa [hstep] at hself
    | succ k =>
      rw [Analysis.refreshFrom, hstep] at hfix
      have hnext := ih hrest hfix (by simpa using hr)
      rwa [Nat.add_right_comm] at hnext

end Growing

theorem flatMap_ruleTypes_length (rules : List (ParserRule α)) :
    (rules.flatMap ruleTypes).length ≤ (rules.map ruleTerminals).sum := by
  rw [List.length_flatMap]
  induction rules with
  | nil => exact Nat.le_refl _
  | cons r rs ih =>
    simp only [List.map_cons, List.sum_cons]
    exact Nat.add_le_add (ruleTypes_length r) ih

theorem Growing.weight_le {t : Table} (h : Growing v rules t) :
    Table.weight rules.length t ≤
      rules.length * (v.size + (rules.map ruleTerminals).sum + 1) := by
  have hrule : ∀ i, (t.rule i).weight ≤ v.size + (rules.map ruleTerminals).sum + 1 := by
    intro i
    have hnodup := (t.rule i).first.ascending.imp Nat.ne_of_lt
    have hsub : (t.rule i).first.toList ⊆ List.range v.size ++ rules.flatMap ruleTypes :=
      fun n hn => h.types i n (TokenSet.contains_iff.mpr hn)
    have hlen := (List.subperm_of_subset hnodup hsub).length_le
    rw [List.length_append, List.length_range] at hlen
    have htypes := flatMap_ruleTypes_length rules
    have hnull := Bool.toNat_le (t.rule i).nullable
    unfold Lookahead.weight
    omega
  have hsum := Finset.sum_le_card_nsmul (Finset.range rules.length) _ _ fun i _ => hrule i
  simpa [Table.weight] using hsum

theorem foldl_ruleTerminals (n : Nat) :
    rules.foldl (fun n r => n + ruleTerminals r) n = n + (rules.map ruleTerminals).sum := by
  induction rules generalizing n with
  | nil => rfl
  | cons r rs ih =>
    rw [List.foldl_cons, ih, List.map_cons, List.sum_cons, Nat.add_assoc]

theorem settle_succ (n : Nat) (t : Table) : settle v rules (n + 1) t =
    if refresh v rules t = t then t else settle v rules n (refresh v rules t) := rfl

theorem settle_induction {P : Table → Prop}
    (hset : ∀ t i r, rules[i]? = some r → P t → P (t.set i (ruleLook v t r))) (n : Nat)
    (ht : P t) : P (settle v rules n t) := by
  induction n generalizing t with
  | zero => exact ht
  | succ n ih =>
    rw [settle_succ]
    split
    · exact ht
    · exact ih (refreshFrom_induction hset rfl ht)

/-- With enough rounds left the table settles. Every round that changes it makes it heavier. -/
theorem settle_fixed (n : Nat) (t : Table) (h : Growing v rules t)
    (hn : rules.length * (v.size + (rules.map ruleTerminals).sum + 1) <
      Table.weight rules.length t + n) :
    refresh v rules (settle v rules n t) = settle v rules n t := by
  induction n generalizing t with
  | zero =>
    have := h.weight_le
    omega
  | succ n ih =>
    rw [settle_succ]
    by_cases heq : refresh v rules t = t
    · rw [if_pos heq]
      exact heq
    · rw [if_neg heq]
      have hnext : Growing v rules (refresh v rules t) := h.refreshFrom rfl
      apply ih _ hnext
      have hlt := Table.weight_lt (h.length_eq.trans hnext.length_eq.symm)
        (h.le_refreshFrom rfl) heq
      rw [h.length_eq] at hlt
      omega

theorem table_fixed (v : Vocabulary) (rules : List (ParserRule α)) :
    refresh v rules (table v rules) = table v rules := by
  unfold table
  rw [foldl_ruleTerminals]
  apply settle_fixed _ _ growing_bottom
  omega

/-- What holds of the empty table and is kept when one entry is computed anew holds of the
table. -/
theorem table_induction {P : Table → Prop} (hbottom : P (rules.map fun _ => .bottom))
    (hset : ∀ t i r, rules[i]? = some r → P t → P (t.set i (ruleLook v t r))) :
    P (table v rules) :=
  settle_induction hset _ hbottom

theorem rule_table {i : Nat} {r : ParserRule α} (hr : rules[i]? = some r) :
    (table v rules).rule i = ruleLook v (table v rules) r := by
  have hgrowing : Growing v rules (table v rules) :=
    table_induction growing_bottom fun _ _ _ hr ht => ht.set hr
  have hagrees := hgrowing.agrees rfl (table_fixed v rules) hr
  rwa [Nat.zero_add] at hagrees

theorem table_eq_iterate (v : Vocabulary) (rules : List (ParserRule α)) :
    ∃ n, table v rules = (refresh v rules)^[n] (rules.map fun _ => .bottom) := by
  have hsettle : ∀ (n : Nat) (t : Table), ∃ m, settle v rules n t = (refresh v rules)^[m] t := by
    intro n
    induction n with
    | zero => exact fun t => ⟨0, rfl⟩
    | succ n ih =>
      intro t
      rw [settle_succ]
      split
      · exact ⟨0, rfl⟩
      · obtain ⟨m, hm⟩ := ih (refresh v rules t)
        exact ⟨m + 1, hm⟩
  exact hsettle _ _

end Rounds

end GrammarWorkbench.Analysis
