import GrammarWorkbench.Proofs.Pattern.Accepted
import Mathlib.Data.List.TakeWhile

/-!
# The preferred match is a text of the pattern

A search along the forks meets every state that they lead to, and no state from which more is
accepted. So there is a preferred match wherever a text of the pattern begins, and it is a text of
the pattern. Which one it is depends on the order of the search, of which nothing is said here.
-/

set_option autoImplicit false

namespace GrammarWorkbench.Pattern

open GrammarWorkbench.Text

namespace Automaton

variable {a : Automaton}

def unmet (a : Automaton) (met : List Nat) : Finset Nat :=
  (Finset.range a.states.size).filter (· ∉ met)

theorem unmet_card_le {met met' : List Nat} (h : met ⊆ met') :
    (a.unmet met').card ≤ (a.unmet met).card := by
  apply Finset.card_le_card
  intro n hn
  obtain ⟨hsize, hmet⟩ := Finset.mem_filter.mp hn
  exact Finset.mem_filter.mpr ⟨hsize, fun hn => hmet (h hn)⟩

theorem unmet_card_lt {met : List Nat} {n : Nat} (hn : n < a.states.size) (hmet : n ∉ met) :
    (a.unmet (met ++ [n])).card < (a.unmet met).card := by
  apply Finset.card_lt_card
  constructor
  · intro m hm
    obtain ⟨hsize, hm⟩ := Finset.mem_filter.mp hm
    exact Finset.mem_filter.mpr ⟨hsize, fun hmem => hm (List.mem_append_left _ hmem)⟩
  · intro hsub
    have hmem : n ∈ a.unmet met := Finset.mem_filter.mpr ⟨Finset.mem_range.mpr hn, hmet⟩
    exact (Finset.mem_filter.mp (hsub hmem)).2 (by simp)

theorem unmet_card_le_size (met : List Nat) : (a.unmet met).card ≤ a.states.size := by
  have hle := Finset.card_filter_le (Finset.range a.states.size) (· ∉ met)
  rwa [Finset.card_range] at hle

/-- What a search makes of a list of states: the ways of the forks it adds are on the list too, and
from the states it adds nothing is accepted outside a language. -/
structure Found (a : Automaton) (l : Language Char) (met found : List Nat) : Prop where
  kept : met ⊆ found
  closed : ∀ n ∈ found, n ∉ met → ∀ ws, a.states[n]? = some (.fork ws) → ws ⊆ found
  sound : ∀ n ∈ found, n ∉ met → a.accepted n ≤ l

section Found

variable {l m : Language Char} {met found more : List Nat} {room : Nat}

theorem Found.refl (a : Automaton) (l : Language Char) (met : List Nat) : a.Found l met met where
  kept := List.Subset.refl met
  closed _ hn hmet := absurd hn hmet
  sound _ hn hmet := absurd hn hmet

theorem Found.trans (h : a.Found l met found) (h' : a.Found l found more) :
    a.Found l met more where
  kept := List.Subset.trans h.kept h'.kept
  closed n hn hmet ws hws := by
    by_cases hfound : n ∈ found
    · exact List.Subset.trans (h.closed n hfound hmet ws hws) h'.kept
    · exact h'.closed n hn hfound ws hws
  sound n hn hmet := by
    by_cases hfound : n ∈ found
    · exact h.sound n hfound hmet
    · exact h'.sound n hn hfound

theorem Found.mono (h : a.Found l met found) (hle : l ≤ m) : a.Found m met found :=
  ⟨h.kept, h.closed, fun n hn hmet => (h.sound n hn hmet).trans hle⟩

theorem Found.of_next {n : Nat} (h : a.Found (a.accepted n) (met ++ [n]) found)
    (hways : ∀ ws, a.states[n]? = some (.fork ws) → ws ⊆ found) :
    a.Found (a.accepted n) met found where
  kept := List.Subset.trans (List.subset_append_left met [n]) h.kept
  closed m hm hmet ws hws := by
    by_cases heq : m = n
    · exact hways ws (heq ▸ hws)
    · exact h.closed m hm (by simp [hmet, heq]) ws hws
  sound m hm hmet := by
    by_cases heq : m = n
    · rw [heq]
    · exact h.sound m hm (by simp [hmet, heq])

theorem foldl_found {f : List Nat → Nat → List Nat} (met ns : List Nat)
    (hf : ∀ met, (a.unmet met).card < room → ∀ n ∈ ns,
      a.Found (a.accepted n) met (f met n) ∧ n ∈ f met n)
    (hl : ∀ n ∈ ns, a.accepted n ≤ l) (hroom : (a.unmet met).card < room) :
    a.Found l met (ns.foldl f met) ∧ ns ⊆ ns.foldl f met := by
  induction ns generalizing met with
  | nil => exact ⟨.refl a l met, List.nil_subset _⟩
  | cons n ns ih =>
    obtain ⟨hfirst, hn⟩ := hf met hroom n List.mem_cons_self
    have hroom' := Nat.lt_of_le_of_lt (unmet_card_le hfirst.kept) hroom
    obtain ⟨hrest, hns⟩ := ih (f met n)
      (fun met hmet m hm => hf met hmet m (List.mem_cons_of_mem n hm))
      (fun m hm => hl m (List.mem_cons_of_mem n hm)) hroom'
    refine ⟨(hfirst.mono (hl n List.mem_cons_self)).trans hrest, ?_⟩
    exact List.cons_subset.mpr ⟨hrest.kept hn, hns⟩

/-- The bound on the length of a way is never met: a way leads through states that were not met
before. -/
theorem visit_found (room : Nat) (met : List Nat) (hroom : (a.unmet met).card < room) (n : Nat) :
    a.Found (a.accepted n) met (a.visit room met n) ∧ n ∈ a.visit room met n := by
  induction room generalizing met n with
  | zero => exact absurd hroom (Nat.not_lt_zero _)
  | succ room ih =>
    rw [visit]
    by_cases hseen : met.contains n
    · rw [if_pos hseen]
      exact ⟨.refl a _ met, List.contains_iff_mem.mp hseen⟩
    · rw [if_neg hseen]
      have hmet : n ∉ met := by simpa using hseen
      split
      · rename_i ws hws
        have hn : n < a.states.size := (Array.getElem?_eq_some_iff.mp hws).1
        have hlt := unmet_card_lt hn hmet
        obtain ⟨hfound, hall⟩ := foldl_found (f := a.visit room) (met ++ [n]) ws
          (fun met hmet m _ => ih met hmet m) (fun m hm => accepted_le_of_fork hws hm)
          (Nat.lt_of_lt_of_le hlt (Nat.le_of_lt_succ hroom))
        refine ⟨hfound.of_next ?_, hfound.kept (by simp)⟩
        intro ws' hws'
        obtain rfl : ws = ws' := by simpa [hws] using hws'
        exact hall
      · rename_i hnone
        exact ⟨(Found.refl a _ (met ++ [n])).of_next fun ws hws => absurd hws (hnone ws), by simp⟩

theorem reach_found (met : List Nat) (n : Nat) :
    a.Found (a.accepted n) met (a.reach met n) ∧ n ∈ a.reach met n :=
  visit_found _ met (Nat.lt_succ_of_le (unmet_card_le_size met)) n

end Found

def Closed (a : Automaton) (live : List Nat) : Prop :=
  ∀ n ∈ live, ∀ ws, a.states[n]? = some (.fork ws) → ws ⊆ live

theorem Found.keeps_closed {l : Language Char} {met found : List Nat} (h : a.Found l met found)
    (hmet : a.Closed met) : a.Closed found := by
  intro n hn ws hws
  by_cases hold : n ∈ met
  · exact List.Subset.trans (hmet n hold ws hws) h.kept
  · exact h.closed n hn hold ws hws

/-- The states behind a character, from which nothing is accepted that is not accepted behind the
character from the states before it. -/
structure Advanced (a : Automaton) (c : Char) (live met found : List Nat) : Prop where
  kept : met ⊆ found
  closed : a.Closed met → a.Closed found
  reached : ∀ n ∈ live, ∀ s m, a.states[n]? = some (.take s m) → s.contains c → m ∈ found
  sound : ∀ n ∈ found, n ∉ met → ∃ m ∈ live, ∀ w ∈ a.accepted n, c :: w ∈ a.accepted m

section Run

variable {c : Char} {live : List Nat}

theorem step_advanced (c : Char) (met : List Nat) (n : Nat) :
    a.Advanced c [n] met (a.step c met n) := by
  have hskip (h : ∀ s m, a.states[n]? = some (.take s m) → ¬ s.contains c) :
      a.Advanced c [n] met met := by
    refine ⟨List.Subset.refl met, id, ?_, fun m hm hmet => absurd hm hmet⟩
    intro k hk s m hs hc
    rw [List.mem_singleton.mp hk] at hs
    exact absurd hc (h s m hs)
  unfold step
  split
  · rename_i s m hs
    by_cases hc : s.contains c
    · rw [if_pos hc]
      obtain ⟨hfound, hm⟩ := reach_found (a := a) met m
      refine ⟨hfound.kept, hfound.keeps_closed, ?_, ?_⟩
      · intro k hk s' m' hs' _
        rw [List.mem_singleton.mp hk] at hs'
        obtain ⟨rfl, rfl⟩ : s = s' ∧ m = m' := by simpa [hs] using hs'
        exact hm
      · intro k hk hmet
        refine ⟨n, List.mem_singleton_self n, fun w hw => ?_⟩
        exact cons_mem_accepted hs hc (hfound.sound k hk hmet hw)
    · rw [if_neg hc]
      apply hskip
      intro s' m' hs'
      obtain ⟨rfl, rfl⟩ : s = s' ∧ m = m' := by simpa [hs] using hs'
      exact hc
  · rename_i hnone
    exact hskip fun s m hs => absurd hs (hnone s m)

theorem foldl_step_advanced (c : Char) (live met : List Nat) :
    a.Advanced c live met (live.foldl (a.step c) met) := by
  induction live generalizing met with
  | nil => exact ⟨List.Subset.refl met, id, by simp, fun n hn hmet => absurd hn hmet⟩
  | cons n live ih =>
    have hfirst := step_advanced (a := a) c met n
    have hrest := ih (a.step c met n)
    refine ⟨List.Subset.trans hfirst.kept hrest.kept, hrest.closed ∘ hfirst.closed, ?_, ?_⟩
    · intro k hk s m hs hc
      rcases List.mem_cons.mp hk with rfl | hk
      · exact hrest.kept (hfirst.reached k (List.mem_singleton_self k) s m hs hc)
      · exact hrest.reached k hk s m hs hc
    · intro k hk hmet
      by_cases hold : k ∈ a.step c met n
      · obtain ⟨m, hm, hw⟩ := hfirst.sound k hold hmet
        exact ⟨m, List.mem_cons.mpr (.inl (List.mem_singleton.mp hm)), hw⟩
      · obtain ⟨m, hm, hw⟩ := hrest.sound k hk hold
        exact ⟨m, List.mem_cons_of_mem n hm, hw⟩

theorem isAccept_iff {n : Nat} : a.isAccept n ↔ a.states[n]? = some .accept := by
  simp [isAccept]

/-- What is accepted from a state on a list with all ways is accepted at once by one on the list, or
begins with a character that one on the list takes. -/
theorem Accepts.on_list {k n : Nat} {w : List Char} (h : a.Accepts k n w)
    (hclosed : a.Closed live) (hn : n ∈ live) :
    (w = [] ∧ live.any a.isAccept) ∨ ∃ c v s next, ∃ m ∈ live, w = c :: v ∧
      a.states[m]? = some (.take s next) ∧ s.contains c ∧ v ∈ a.accepted next := by
  induction h with
  | accept h => exact .inl ⟨rfl, List.any_eq_true.mpr ⟨_, hn, isAccept_iff.mpr h⟩⟩
  | take h hc hw => exact .inr ⟨_, _, _, _, _, hn, rfl, h, hc, _, hw⟩
  | fork h hm _ ih => exact ih (hclosed _ hn _ h hm)

/-- A run ends with a match if something is accepted from a state on its list. -/
theorem run_ne_none {text w : List Char} {n : Nat} (hclosed : a.Closed live) (hn : n ∈ live)
    (hw : w ∈ a.accepted n) (hbegins : w <+: text) : a.run live text ≠ none := by
  induction text generalizing live w n with
  | nil =>
    obtain ⟨k, hw⟩ := hw
    rw [List.prefix_nil] at hbegins
    rcases hw.on_list hclosed hn with ⟨-, haccept⟩ | ⟨c, v, s, next, m, hm, rfl, -⟩
    · simp [run, haccept]
    · cases hbegins
  | cons c cs ih =>
    have hne : live.isEmpty = false := List.isEmpty_eq_false_iff_exists_mem.mpr ⟨n, hn⟩
    rw [run, if_neg (by simp [hne])]
    split
    · simp
    · rename_i hnone
      by_cases haccept : live.any a.isAccept
      · simp [haccept]
      · -- no state ends a match, so all of them go on
        obtain ⟨k, hw⟩ := hw
        rcases hw.on_list hclosed hn with ⟨-, hany⟩ | ⟨d, v, s, next, m, hm, rfl, hs, hc, hv⟩
        · exact absurd hany haccept
        · obtain ⟨rfl, hrest⟩ := List.cons_prefix_cons.mp hbegins
          rw [List.takeWhile_eq_self_iff.mpr (by simpa using haccept)] at hnone
          have hadvanced := foldl_step_advanced (a := a) d live []
          exact absurd hnone (ih (hadvanced.closed (by simp [Closed]))
            (hadvanced.reached m hm s next hs hc) hv hrest)

theorem run_sound {text : List Char} {k : Nat} (h : a.run live text = some k) :
    ∃ n ∈ live, text.take k ∈ a.accepted n := by
  have hend {live : List Nat} (haccept : live.any a.isAccept) : ∃ n ∈ live, [] ∈ a.accepted n := by
    obtain ⟨n, hn, haccept⟩ := List.any_eq_true.mp haccept
    exact ⟨n, hn, 0, .accept (isAccept_iff.mp haccept)⟩
  induction text generalizing live k with
  | nil =>
    rw [run] at h
    split at h
    · simpa using hend ‹_›
    · cases h
  | cons c cs ih =>
    rw [run] at h
    split at h
    · cases h
    · split at h
      · rename_i m hm
        cases h
        obtain ⟨n, hn, hw⟩ := ih hm
        obtain ⟨n', hn', hsound⟩ := (foldl_step_advanced (a := a) c
          (live.takeWhile (!a.isAccept ·)) []).sound n hn List.not_mem_nil
        exact ⟨n', (List.takeWhile_prefix _).subset hn', hsound _ hw⟩
      · split at h
        · cases h
          exact hend ‹_›
        · cases h

end Run

end Automaton

section Preferred

variable {p : Pattern} {text : List Char}

theorem accepted_factored (p : Pattern) : (Automaton.accepting.addPattern 0 p.factored).2.accepted
    (Automaton.accepting.addPattern 0 p.factored).1 = p.ranged.words := by
  obtain ⟨hexact, hwords⟩ := factored_words p
  rw [Automaton.accepted_addPattern hexact, hwords]

theorem take_preferred_mem {n : Nat} (h : preferred p text = some n) :
    text.take n ∈ p.ranged.words := by
  obtain ⟨m, hm, hw⟩ := Automaton.run_sound h
  rw [← accepted_factored]
  exact (Automaton.reach_found _ _).1.sound m hm List.not_mem_nil hw

/-- There is a preferred match exactly where a text of the pattern begins. -/
theorem preferred_eq_none_iff :
    preferred p text = none ↔ ∀ w ∈ p.ranged.words, ¬ w <+: text := by
  constructor
  · intro hnone w hw hbegins
    rw [← accepted_factored] at hw
    obtain ⟨hfound, hstart⟩ := Automaton.reach_found
      (a := (Automaton.accepting.addPattern 0 p.factored).2) [] _
    have hclosed := hfound.keeps_closed (by simp [Automaton.Closed])
    exact Automaton.run_ne_none hclosed hstart hw hbegins hnone
  · intro hnone
    rw [Option.eq_none_iff_forall_ne_some]
    intro n hsome
    exact hnone _ (take_preferred_mem hsome) (List.take_prefix n text)

end Preferred

end GrammarWorkbench.Pattern
