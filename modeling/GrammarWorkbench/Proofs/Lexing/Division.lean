import GrammarWorkbench.Proofs.Lexing.Rules
import Mathlib.Data.List.Induction

/-!
# The division of an input

An input is divided into segments from the left. Each is the longest match of a rule of the mode
that is current there, by the first rule that matches as much, or else a single character that no
rule matches. The changes of mode of its rule lead to the mode for the next one. An accepted
grammar divides every input, and in one way only.
-/

set_option autoImplicit false

namespace GrammarWorkbench.Run

open GrammarWorkbench.Text GrammarWorkbench.Model

/-- A piece of the input and the rule that matched it. A character that no rule matches has
none. -/
structure Segment where
  text : List Char
  rule : Option TokenRule

namespace Segment

def modeChanges (seg : Segment) : List ModeChange :=
  match seg.rule with
  | some rule => rule.action.modeChanges
  | none => []

end Segment

structure Modes where
  current : Nat
  saved : List Nat
  deriving DecidableEq, Repr

namespace Modes

def initial : Modes := ⟨0, []⟩

/-- A change of mode. A return to nowhere changes nothing. -/
def change : Modes → ModeChange → Modes
  | ⟨_, saved⟩, .set mode => ⟨mode, saved⟩
  | ⟨current, saved⟩, .push mode => ⟨mode, current :: saved⟩
  | ⟨_, mode :: saved⟩, .pop => ⟨mode, saved⟩
  | ⟨current, []⟩, .pop => ⟨current, []⟩

def failures (m : Modes) : List ModeChange → Nat
  | [] => 0
  | c :: cs => (if c = .pop ∧ m.saved = [] then 1 else 0) + (m.change c).failures cs

def behind (m : Modes) (seg : Segment) : Modes := seg.modeChanges.foldl change m

end Modes

/-- The longest match of some rules at the start of a text, by its number of characters, and the
first rule that matches as much. -/
structure LongestMatch (rules : List TokenRule) (text : List Char) (n : Nat) (rule : TokenRule) :
    Prop where
  longest (r : TokenRule) (h : r ∈ rules) (m : Nat) : r.pattern.matchLength text = some m → m ≤ n
  first : rules.find? (fun r => r.pattern.matchLength text == some n) = some rule

/-- A segment at the start of a text: the longest match of the rules, or a character if none of them
matches. -/
def Segment.CutBy (rules : List TokenRule) (text : List Char) (seg : Segment) : Prop :=
  match seg.rule with
  | some rule => LongestMatch rules text seg.text.length rule
  | none => (∀ r ∈ rules, r.pattern.matchLength text = none) ∧ ∃ c, seg.text = [c]

/-- A division of a text into non-empty segments, from given modes on. -/
inductive Divides (g : Grammar) : Modes → List Char → List Segment → Prop
  | done {m : Modes} : Divides g m [] []
  | cut {m : Modes} {seg : Segment} {rest : List Char} {segs : List Segment}
      (hne : seg.text ≠ [])
      (hcut : seg.CutBy (modeRules g m.current) (seg.text ++ rest))
      (hrest : Divides g (m.behind seg) rest segs) :
      Divides g m (seg.text ++ rest) (seg :: segs)

section BestMatch

variable {rules : List TokenRule} {text : List Char} {n : Nat} {rule : TokenRule}

theorem LongestMatch.mem (h : LongestMatch rules text n rule) : rule ∈ rules :=
  List.mem_of_find?_eq_some h.first

theorem LongestMatch.matchLength (h : LongestMatch rules text n rule) :
    rule.pattern.matchLength text = some n := by
  simpa using List.find?_some h.first

theorem LongestMatch.unique {n' : Nat} {rule' : TokenRule} (h : LongestMatch rules text n rule)
    (h' : LongestMatch rules text n' rule') : n = n' ∧ rule = rule' := by
  have hle := h'.longest rule h.mem n h.matchLength
  have hge := h.longest rule' h'.mem n' h'.matchLength
  obtain rfl : n = n' := by omega
  exact ⟨rfl, Option.some.inj (h.first.symm.trans h'.first)⟩

theorem LongestMatch.concat (h : LongestMatch rules text n rule) {r : TokenRule}
    (hr : ∀ m, r.pattern.matchLength text = some m → m ≤ n) :
    LongestMatch (rules ++ [r]) text n rule where
  longest r' hr' m hm := by
    rcases List.mem_append.mp hr' with hmem | hmem
    · exact h.longest r' hmem m hm
    · rw [List.mem_singleton.mp hmem] at hm
      exact hr m hm
  first := by rw [List.find?_append, h.first, Option.some_or]

/-- A further rule that matches more than all before has the longest match. -/
theorem LongestMatch.last (h : rule.pattern.matchLength text = some n)
    (hless : ∀ r ∈ rules, ∀ m, r.pattern.matchLength text = some m → m < n) :
    LongestMatch (rules ++ [rule]) text n rule where
  longest r hr m hm := by
    rcases List.mem_append.mp hr with hmem | hmem
    · exact Nat.le_of_lt (hless r hmem m hm)
    · rw [List.mem_singleton.mp hmem, h] at hm
      exact Nat.le_of_eq (Option.some.inj hm).symm
  first := by
    have hnone : rules.find? (fun r => r.pattern.matchLength text == some n) = none := by
      rw [List.find?_eq_none]
      intro r hr heq
      have hlt := hless r hr n (by simpa using heq)
      omega
    simp [List.find?_append, hnone, h]

theorem bestMatch_concat (rules : List TokenRule) (rule : TokenRule) (text : List Char) :
    bestMatch (rules ++ [rule]) text =
      match rule.pattern.matchLength text with
      | some n => betterMatch (bestMatch rules text) (n, rule)
      | none => bestMatch rules text := by
  rw [bestMatch, List.foldl_append]
  rfl

def IsBest (rules : List TokenRule) (text : List Char) : Option (Nat × TokenRule) → Prop
  | some (n, rule) => 0 < n ∧ LongestMatch rules text n rule
  | none => ∀ r ∈ rules, ∀ m, r.pattern.matchLength text = some m → m = 0

theorem IsBest.concat_none {best : Option (Nat × TokenRule)} (h : IsBest rules text best)
    (hrule : rule.pattern.matchLength text = none) : IsBest (rules ++ [rule]) text best := by
  cases best with
  | none =>
    intro r hr m hm
    rcases List.mem_append.mp hr with hmem | hmem
    · exact h r hmem m hm
    · rw [List.mem_singleton.mp hmem, hrule] at hm
      cases hm
  | some best =>
    refine ⟨h.1, h.2.concat ?_⟩
    intro m hm
    rw [hrule] at hm
    cases hm

/-- A rule that matches is compared with the best one before it. -/
theorem IsBest.betterMatch {best : Option (Nat × TokenRule)} (h : IsBest rules text best)
    (hrule : rule.pattern.matchLength text = some n) :
    IsBest (rules ++ [rule]) text (betterMatch best (n, rule)) := by
  cases best with
  | none =>
    by_cases hn : n = 0
    · simp only [Run.betterMatch, hn, if_true]
      intro r hr m hm
      rcases List.mem_append.mp hr with hmem | hmem
      · exact h r hmem m hm
      · rw [List.mem_singleton.mp hmem, hrule] at hm
        cases hm
        exact hn
    · simp only [Run.betterMatch, hn, if_false]
      have hpos : 0 < n := by omega
      refine ⟨hpos, .last hrule ?_⟩
      intro r hr m hm
      rw [h r hr m hm]
      exact hpos
  | some best =>
    by_cases hlt : best.1 < n
    · simp only [Run.betterMatch, hlt, if_true]
      refine ⟨by omega, .last hrule ?_⟩
      intro r hr m hm
      have hle := h.2.longest r hr m hm
      omega
    · simp only [Run.betterMatch, hlt, if_false]
      refine ⟨h.1, h.2.concat ?_⟩
      intro m hm
      rw [hrule] at hm
      cases hm
      omega

theorem bestMatch_isBest (rules : List TokenRule) (text : List Char) :
    IsBest rules text (bestMatch rules text) := by
  induction rules using List.reverseRecOn with
  | nil => simp [bestMatch, IsBest]
  | append_singleton rules rule ih =>
    rw [bestMatch_concat]
    cases hrule : rule.pattern.matchLength text with
    | none => exact ih.concat_none hrule
    | some n => exact ih.betterMatch hrule

/-- The longest match, if it takes a character, is the best one. -/
theorem LongestMatch.bestMatch_eq (h : LongestMatch rules text n rule) (hpos : 0 < n) :
    bestMatch rules text = some (n, rule) := by
  have hbest := bestMatch_isBest rules text
  cases hfound : bestMatch rules text with
  | none =>
    rw [hfound] at hbest
    have hzero := hbest rule h.mem n h.matchLength
    omega
  | some found =>
    rw [hfound] at hbest
    obtain ⟨rfl, rfl⟩ := h.unique hbest.2
    rfl

theorem bestMatch_eq_none (h : ∀ r ∈ rules, r.pattern.matchLength text = none) :
    bestMatch rules text = none := by
  have hbest := bestMatch_isBest rules text
  cases hfound : bestMatch rules text with
  | none => rfl
  | some found =>
    rw [hfound] at hbest
    have hmatch := hbest.2.matchLength
    rw [h _ hbest.2.mem] at hmatch
    cases hmatch

end BestMatch

theorem Segment.CutBy.unique {rules : List TokenRule} {text : List Char} {seg seg' : Segment}
    (h : seg.CutBy rules text) (h' : seg'.CutBy rules text) (hpre : seg.text <+: text)
    (hpre' : seg'.text <+: text) : seg = seg' := by
  obtain ⟨t, rule⟩ := seg
  obtain ⟨t', rule'⟩ := seg'
  have heq (hlength : t.length = t'.length) : t = t' :=
    (List.prefix_of_prefix_length_le hpre hpre' hlength.le).eq_of_length hlength
  cases rule with
  | some rule =>
    cases rule' with
    | some rule' =>
      obtain ⟨hlength, rfl⟩ := LongestMatch.unique h h'
      rw [heq hlength]
    | none =>
      have hnone := h'.1 rule (LongestMatch.mem h)
      rw [LongestMatch.matchLength h] at hnone
      cases hnone
  | none =>
    cases rule' with
    | some rule' =>
      have hnone := h.1 rule' (LongestMatch.mem h')
      rw [LongestMatch.matchLength h'] at hnone
      cases hnone
    | none =>
      obtain ⟨-, c, rfl⟩ := h
      obtain ⟨-, c', rfl⟩ := h'
      rw [heq rfl]

theorem Divides.unique {g : Grammar} {m : Modes} {text : List Char} {segs segs' : List Segment}
    (h : Divides g m text segs) (h' : Divides g m text segs') : segs = segs' := by
  induction h generalizing segs' with
  | done =>
    generalize htext : [] = text at h'
    cases h' with
    | done => rfl
    | cut hne _ _ =>
      have hnil := (List.append_eq_nil_iff.mp htext.symm).1
      exact absurd hnil hne
  | @cut m seg rest segs hne hcut _ ih =>
    generalize htext : seg.text ++ rest = text at h'
    cases h' with
    | done => exact absurd (List.append_eq_nil_iff.mp htext).1 hne
    | @cut _ seg' rest' segs' hne' hcut' hrest' =>
      rw [← htext] at hcut'
      have hseg : seg = seg' :=
        hcut.unique hcut' (List.prefix_append _ _) (htext ▸ List.prefix_append _ _)
      subst hseg
      have hrest : rest = rest' := List.append_cancel_left htext
      subst hrest
      rw [ih hrest']

/-- An accepted grammar divides every text, since every match takes a character. -/
theorem exists_divides {grammar : List Char} {start : Option String} {g : Grammar}
    (h : compile grammar start = .ok g) (m : Modes) (text : List Char) :
    ∃ segs, Divides g m text segs := by
  induction hlen : text.length using Nat.strong_induction_on generalizing m text with
  | _ length ih =>
    subst hlen
    have hcut (seg : Segment) (hne : seg.text ≠ []) (hpre : seg.text <+: text)
        (hcut : seg.CutBy (modeRules g m.current) text) : ∃ segs, Divides g m text segs := by
      obtain ⟨rest, rfl⟩ := hpre
      have hpos := List.length_pos_iff.mpr hne
      obtain ⟨segs, hsegs⟩ := ih rest.length (by simp; omega) (m.behind seg) rest rfl
      exact ⟨seg :: segs, .cut hne hcut hsegs⟩
    cases text with
    | nil => exact ⟨[], .done⟩
    | cons c cs =>
      have hbest := bestMatch_isBest (modeRules g m.current) (c :: cs)
      cases hfound : bestMatch (modeRules g m.current) (c :: cs) with
      | none =>
        rw [hfound] at hbest
        apply hcut ⟨[c], none⟩ (by simp) (by simp)
        refine ⟨?_, c, rfl⟩
        intro r hr
        cases hmatch : r.pattern.matchLength (c :: cs) with
        | none => rfl
        | some n =>
          have hzero := hbest r hr n hmatch
          have hpos := matchLength_pos h hr hmatch
          omega
      | some best =>
        rw [hfound] at hbest
        have hle := Pattern.matchLength_le_length hbest.2.matchLength
        have hlength : ((c :: cs).take best.1).length = best.1 := List.length_take_of_le hle
        apply hcut ⟨(c :: cs).take best.1, some best.2⟩ _ (List.take_prefix _ _)
        · simp only [Segment.CutBy, hlength]
          exact hbest.2
        · rw [Ne, ← List.length_eq_zero_iff, hlength]
          have hpos := hbest.1
          omega

end GrammarWorkbench.Run
