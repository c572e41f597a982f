import GrammarWorkbench.Proofs.Derivation.Annotated
import GrammarWorkbench.Proofs.Lookahead.Exact
import GrammarWorkbench.Run.Parser

/-!
# Predictive rules

What stands behind a block inside its rule, what can follow a rule in a derivation from the start
rule, and when one token is enough to choose: the alternatives of a block start differently, at
most one of them is empty, and what can follow an empty one starts none of the others. Likewise no
round of a loop starts with what can follow the loop. The parser then chooses the one alternative
that can be read.
-/

set_option autoImplicit false

namespace GrammarWorkbench.Derivation

open GrammarWorkbench.Declaration GrammarWorkbench.Model GrammarWorkbench.Analysis
open GrammarWorkbench.Run

section Places

variable {α : Type}

/-- What a loop can read behind a round: further rounds, unless there is one at most. -/
def roundsBehind (kind : RepeatKind) (greedy : Bool) (exit : α) (body : RuleBlock α) :
    Sequence α :=
  match kind with
  | .optional => []
  | .zeroOrMore | .oneOrMore => [.loop .zeroOrMore greedy exit body]

mutual

/-- A block inside the block of a rule, with what stands behind it in the rule. -/
inductive BlockAt (root : RuleBlock α) : RuleBlock α → Sequence α → Prop
  | root : BlockAt root root []
  | block {b : RuleBlock α} {k : Sequence α} (h : ElementAt root (.block b) k) : BlockAt root b k
  | loop {kind : RepeatKind} {greedy : Bool} {exit : α} {b : RuleBlock α} {k : Sequence α}
      (h : ElementAt root (.loop kind greedy exit b) k) :
      BlockAt root b (roundsBehind kind greedy exit b ++ k)

inductive ElementAt (root : RuleBlock α) : Element α → Sequence α → Prop
  | mk {b : RuleBlock α} {k : Sequence α} {a : RuleAlternative α} {before : Sequence α}
      {e : Element α} {behind : Sequence α} (h : BlockAt root b k) (ha : a ∈ b.alternatives)
      (he : a.elements = before ++ e :: behind) : ElementAt root e (behind ++ k)

end

inductive Reachable (rules : List (ParserRule α)) (start : Nat) : Nat → Prop
  | start : Reachable rules start start
  | call {i j : Nat} {r : ParserRule α} {e : Element α} {k : Sequence α}
      (h : Reachable rules start j) (hr : rules[j]? = some r) (he : ElementAt r.block e k)
      (hi : callee? e = some i) : Reachable rules start i

/-- The token types that can follow a rule in derivations from the start rule, which the end of
the input follows. -/
inductive Follow (rules : List (ParserRule α)) (start : Nat) : Nat → Nat → Prop
  | start : Follow rules start start endType
  | next {i j t : Nat} {r : ParserRule α} {e : Element α} {k : Sequence α}
      (hj : Reachable rules start j) (hr : rules[j]? = some r) (he : ElementAt r.block e k)
      (hi : callee? e = some i) (h : Starts rules t k) : Follow rules start i t
  | last {i j t : Nat} {r : ParserRule α} {e : Element α} {k : Sequence α}
      (hr : rules[j]? = some r) (he : ElementAt r.block e k) (hi : callee? e = some i)
      (hempty : [] ∈ sequenceWords typeWords (compiledWords rules) k)
      (h : Follow rules start j t) : Follow rules start i t

def FollowAt (rules : List (ParserRule α)) (start index : Nat) (k : Sequence α) (t : Nat) : Prop :=
  Starts rules t k ∨
    ([] ∈ sequenceWords typeWords (compiledWords rules) k ∧ Follow rules start index t)

/-- One token tells the alternatives of a block apart. -/
structure PredictiveBlock (v : Vocabulary) (rules : List (ParserRule α)) (follow : Nat → Prop)
    (b : RuleBlock α) : Prop where
  starts {m n : Nat} {a c : RuleAlternative α} : b.alternatives[m]? = some a →
    b.alternatives[n]? = some c → m ≠ n → ∀ t < v.size, Starts rules t a.elements →
    ¬ Starts rules t c.elements
  empty {m n : Nat} {a c : RuleAlternative α} : b.alternatives[m]? = some a →
    b.alternatives[n]? = some c → m ≠ n →
    [] ∈ sequenceWords typeWords (compiledWords rules) a.elements →
    [] ∉ sequenceWords typeWords (compiledWords rules) c.elements
  apart {m n : Nat} {a c : RuleAlternative α} : b.alternatives[m]? = some a →
    b.alternatives[n]? = some c → m ≠ n →
    [] ∈ sequenceWords typeWords (compiledWords rules) a.elements →
    ∀ t < v.size, Starts rules t c.elements → ¬ follow t

/-- One token tells a further round of a loop from what follows the loop. -/
structure PredictiveLoop (v : Vocabulary) (rules : List (ParserRule α)) (follow : Nat → Prop)
    (b : RuleBlock α) : Prop where
  empty : [] ∉ blockWords typeWords (compiledWords rules) b
  apart {a : RuleAlternative α} : a ∈ b.alternatives → ∀ t < v.size,
    Starts rules t a.elements → ¬ follow t

/-- Rules that can be read from a start rule with one token of lookahead. -/
structure IsLL1 (v : Vocabulary) (rules : List (ParserRule α)) (start : Nat) : Prop where
  block {j : Nat} {r : ParserRule α} {b : RuleBlock α} {k : Sequence α} :
    rules[j]? = some r → BlockAt r.block b k →
    PredictiveBlock v rules (FollowAt rules start j k) b
  loop {j : Nat} {r : ParserRule α} {kind : RepeatKind} {greedy : Bool} {exit : α}
    {b : RuleBlock α} {k : Sequence α} :
    rules[j]? = some r → ElementAt r.block (.loop kind greedy exit b) k →
    PredictiveLoop v rules (FollowAt rules start j k) b

end Places

section Choice

variable {α : Type} {v : Vocabulary} {rules : List (ParserRule α)} {follow : Nat → Prop}
variable {b : RuleBlock α}

theorem findIdx?_eq {β : Type} {l : List β} {f : β → Bool} {m : Nat} {x : β}
    (hx : l[m]? = some x) (hm : f x) (hne : ∀ n y, l[n]? = some y → m ≠ n → f y = false) :
    l.findIdx? f = some m := by
  obtain ⟨hlt, rfl⟩ := List.getElem?_eq_some_iff.mp hx
  rw [List.findIdx?_eq_some_iff_getElem]
  refine ⟨hlt, hm, fun n hn => ?_⟩
  simpa using hne n _ (List.getElem?_eq_getElem (hn.trans hlt)) (by omega)

/-- The parser chooses the alternative that starts with the next token, or that is empty where
the next token can follow. -/
theorem chooseAlternative_eq (h : PredictiveBlock v rules follow b) {m t : Nat}
    {a : RuleAlternative α} (ha : b.alternatives[m]? = some a) (ht : t < v.size)
    (hnext : Starts rules t a.elements ∨
      ([] ∈ sequenceWords typeWords (compiledWords rules) a.elements ∧ follow t)) :
    chooseAlternative (annotateBlock v (table v rules) b) t = some m := by
  have hm : m < b.alternatives.length := (List.getElem?_eq_some_iff.mp ha).1
  have halts := annotateBlock_alternatives v (table v rules) b
  rw [annotateChoice_eq_map] at halts
  unfold chooseAlternative
  split
  · rename_i x hx
    have hlen := congrArg List.length (halts.symm.trans hx)
    simp only [List.length_map, List.length_cons, List.length_nil] at hlen
    exact congrArg some (by omega)
  · unfold RuleBlock.predict
    simp only [halts, List.findIdx?_map, Function.comp_def, Lookahead.accepts]
    have hother {n : Nat} {c : RuleAlternative α} (hc : b.alternatives[n]? = some c)
        (hmn : m ≠ n) : (sequenceLook v (table v rules) c.elements).first.contains t = false := by
      rw [← Bool.not_eq_true, sequence_first_iff ht]
      intro hstarts
      rcases hnext with hs | ⟨hempty, hfollow⟩
      · exact h.starts ha hc hmn t ht hs hstarts
      · exact h.apart ha hc hmn hempty t ht hstarts hfollow
    by_cases hs : Starts rules t a.elements
    · rw [findIdx?_eq ha ((sequence_first_iff ht _).mpr hs) fun n c => hother]
    · obtain ⟨hempty, -⟩ := hnext.resolve_left hs
      have hnone : b.alternatives.findIdx?
          (fun c => (sequenceLook v (table v rules) c.elements).first.contains t) = none := by
        rw [List.findIdx?_eq_none_iff]
        intro c hc
        obtain ⟨n, hn⟩ := List.mem_iff_getElem?.mp hc
        by_cases hmn : m = n
        · subst hmn
          obtain rfl : a = c := Option.some.inj (ha.symm.trans hn)
          rw [← Bool.not_eq_true, sequence_first_iff ht]
          exact hs
        · exact hother hn hmn
      rw [hnone]
      apply findIdx?_eq ha ((sequence_nullable_iff _).mpr hempty)
      intro n c hc hmn
      rw [← Bool.not_eq_true, sequence_nullable_iff]
      exact h.empty ha hc hmn hempty

theorem entersLoop_of_starts {start j t : Nat} {behind k : Sequence α}
    (h : PredictiveLoop v rules (FollowAt rules start j (behind ++ k)) b) (greedy : Bool)
    (ht : t < v.size) {a : RuleAlternative α} (ha : a ∈ b.alternatives)
    (hs : Starts rules t a.elements) :
    entersLoop greedy (sequenceLook v (table v rules) behind)
      (blockLook v (table v rules) b) t := by
  have hexit : (sequenceLook v (table v rules) behind).first.contains t = false := by
    rw [← Bool.not_eq_true, sequence_first_iff ht]
    exact fun hbehind => h.apart ha t ht hs (Or.inl (hbehind.append_left k))
  have hbody : (blockLook v (table v rules) b).first.contains t :=
    (block_first_iff ht b).mpr ⟨a, ha, hs⟩
  simp [entersLoop, Lookahead.accepts, hexit, hbody]

theorem entersLoop_of_follow (h : PredictiveLoop v rules follow b) (greedy : Bool)
    (exit : Lookahead) {t : Nat} (ht : t < v.size) (hfollow : follow t) :
    entersLoop greedy exit (blockLook v (table v rules) b) t = false := by
  have hbody : (blockLook v (table v rules) b).first.contains t = false := by
    rw [← Bool.not_eq_true, block_first_iff ht]
    rintro ⟨a, ha, hs⟩
    exact h.apart ha t ht hs hfollow
  simp only [entersLoop, Lookahead.accepts, hbody, Bool.false_and]

end Choice

end GrammarWorkbench.Derivation
