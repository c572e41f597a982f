import GrammarWorkbench.Pattern.Match
import GrammarWorkbench.Proofs.Pattern.Factored
import Mathlib.Data.Set.Basic

/-!
# Matches that take a character

A match ends within the text, and one without a character is made only by a pattern that matches
the empty text. For the longest match this is read off the pattern. The preferred match is found
by an automaton: from the first state of a pattern that does not match the empty text, forks alone
lead to no state that ends a match.
-/

set_option autoImplicit false

namespace GrammarWorkbench.Pattern

open GrammarWorkbench.Text GrammarWorkbench.Declaration

namespace Automaton

structure Extends (a b : Automaton) : Prop where
  size_le : a.states.size ≤ b.states.size
  same (n : Nat) (h : n < a.states.size) : b.states[n]? = a.states[n]?

theorem Extends.refl (a : Automaton) : Extends a a := ⟨Nat.le_refl _, fun _ _ => rfl⟩

theorem Extends.trans {a b c : Automaton} (hab : Extends a b) (hbc : Extends b c) :
    Extends a c where
  size_le := Nat.le_trans hab.size_le hbc.size_le
  same n h := (hbc.same n (Nat.lt_of_lt_of_le h hab.size_le)).trans (hab.same n h)

theorem Extends.add {a b : Automaton} (h : Extends a b) (s : State) : Extends a (b.add s).2 := by
  have hadd : Extends b (b.add s).2 := by
    constructor
    · simp [Automaton.add]
    · intro n hn
      simp [Automaton.add, Array.getElem?_push, Nat.ne_of_lt hn]
  exact h.trans hadd

theorem Extends.set {a b : Automaton} (h : Extends a b) {n : Nat} (hn : a.states.size ≤ n)
    (s : State) : Extends a (b.set n s) where
  size_le := by simpa [Automaton.set] using h.size_le
  same m hm := by
    have hne : n ≠ m := by omega
    rw [← h.same m hm]
    simp [Automaton.set, hne]

theorem addLiteral_extends (a : Automaton) (next : Nat) (text : List Char) :
    Extends a (a.addLiteral next text).2 := by
  induction text with
  | nil => exact .refl a
  | cons c cs ih => exact ih.add _

def addRounds (a : Automaton) (next : Nat) (greedy : Bool) (p : Pattern) : Nat × Automaton :=
  let (round, b) := (a.add (.fork [])).2.addPattern a.states.size p
  (round, b.set a.states.size (.fork (ways greedy round next)))

theorem addPattern_oneOrMore (a : Automaton) (next : Nat) (greedy : Bool) (p : Pattern) :
    a.addPattern next (loop .oneOrMore greedy p) = a.addRounds next greedy p := rfl

theorem addPattern_zeroOrMore (a : Automaton) (next : Nat) (greedy : Bool) (p : Pattern) :
    a.addPattern next (loop .zeroOrMore greedy p) =
      let (round, b) := a.addRounds next greedy p
      if matchesEmpty p then b.add (.fork (ways greedy round next)) else (a.states.size, b) := rfl

theorem addPattern_extends (a : Automaton) (next : Nat) (p : Pattern) :
    Extends a (a.addPattern next p).2 := by
  induction p generalizing a next with
  | nothing => exact .refl a
  | literal text => exact addLiteral_extends a next text
  | one set => exact (Extends.refl a).add _
  | anyChar => exact (Extends.refl a).add _
  | seq p q ihp ihq => exact (ihq a next).trans (ihp _ _)
  | alt p q ihp ihq => exact ((ihp a next).trans (ihq _ next)).add _
  | group p ih => exact ih a next
  | loop kind greedy p ih =>
    have hagain : Extends a (a.add (.fork [])).2 := (Extends.refl a).add _
    have hrounds : Extends a (a.addRounds next greedy p).2 :=
      (hagain.trans (ih _ _)).set (Nat.le_refl _) _
    cases kind with
    | optional => exact (ih a next).add _
    | oneOrMore => exact hrounds
    | zeroOrMore =>
      rw [addPattern_zeroOrMore]
      by_cases hempty : p.matchesEmpty
      · simp only [hempty, if_true]
        exact hrounds.add _
      · simp only [hempty, Bool.false_eq_true, if_false]
        exact hrounds

/-- Forks lead from the states of a set, all of them numbered from `lo` on, only to the set itself
and to exits, and none of these states ends a match. -/
structure Enclosed (a : Automaton) (lo : Nat) (exits inside : Set Nat) : Prop where
  range (n : Nat) (h : n ∈ inside) : lo ≤ n ∧ n < a.states.size
  no_accept (n : Nat) (h : n ∈ inside) : a.states[n]? ≠ some .accept
  ways (n : Nat) (h : n ∈ inside) (ws : List Nat) (hw : a.states[n]? = some (.fork ws)) :
    ∀ w ∈ ws, w ∈ inside ∪ exits

def enclosure (a : Automaton) (lo : Nat) (exits : Set Nat) : Set Nat :=
  {n | ∃ inside, a.Enclosed lo exits inside ∧ n ∈ inside}

def LeadsTo (a : Automaton) (lo : Nat) (exits : Set Nat) (s : Nat) : Prop :=
  s ∈ a.enclosure lo exits ∪ exits

section Enclosed

variable {a b : Automaton} {lo mid m n : Nat} {exits inside more : Set Nat}

theorem Enclosed.congr (h : a.Enclosed mid exits inside) (hsize : a.states.size ≤ b.states.size)
    (hsame : ∀ n, mid ≤ n → n < a.states.size → b.states[n]? = a.states[n]?) (hlo : lo ≤ mid) :
    b.Enclosed lo exits inside := by
  have heq : ∀ n ∈ inside, b.states[n]? = a.states[n]? := by
    intro n hn
    exact hsame n (h.range n hn).1 (h.range n hn).2
  constructor
  · intro n hn
    have hrange := h.range n hn
    omega
  · intro n hn
    rw [heq n hn]
    exact h.no_accept n hn
  · intro n hn ws hw
    rw [heq n hn] at hw
    exact h.ways n hn ws hw

theorem Enclosed.extend (h : a.Enclosed mid exits inside) (hab : Extends a b) (hlo : lo ≤ mid) :
    b.Enclosed lo exits inside :=
  h.congr hab.size_le (fun n _ hn => hab.same n hn) hlo

theorem Enclosed.set (h : a.Enclosed mid exits inside) (hn : n < mid) (hlo : lo ≤ mid)
    (state : State) : (a.set n state).Enclosed lo exits inside := by
  apply h.congr (by simp [Automaton.set]) _ hlo
  intro m hm _
  have hne : n ≠ m := by omega
  simp [Automaton.set, hne]

theorem Enclosed.more_exits (h : a.Enclosed lo exits inside) (m : Nat) :
    a.Enclosed lo (insert m exits) inside where
  range := h.range
  no_accept := h.no_accept
  ways n hn ws hw w hmem := by
    rcases h.ways n hn ws hw w hmem with hin | hexit
    · exact .inl hin
    · exact .inr (.inr hexit)

theorem enclosure_enclosed (a : Automaton) (lo : Nat) (exits : Set Nat) :
    a.Enclosed lo exits (a.enclosure lo exits) := by
  constructor
  · rintro n ⟨inside, henc, hn⟩
    exact henc.range n hn
  · rintro n ⟨inside, henc, hn⟩
    exact henc.no_accept n hn
  · rintro n ⟨inside, henc, hn⟩ ws hw w hmem
    rcases henc.ways n hn ws hw w hmem with hin | hexit
    · exact .inl ⟨inside, henc, hin⟩
    · exact .inr hexit

/-- States that lead to an exit, together with those that this exit leads to. -/
theorem Enclosed.union (h : a.Enclosed lo (insert m exits) inside) (h' : a.Enclosed lo exits more)
    (hm : m ∈ more ∪ exits) : a.Enclosed lo exits (inside ∪ more) := by
  constructor
  · rintro n (hn | hn)
    · exact h.range n hn
    · exact h'.range n hn
  · rintro n (hn | hn)
    · exact h.no_accept n hn
    · exact h'.no_accept n hn
  · have hmore {w : Nat} (hw : w ∈ more ∪ exits) : w ∈ inside ∪ more ∪ exits := by
      rcases hw with hin | hexit
      · exact .inl (.inr hin)
      · exact .inr hexit
    rintro n (hn | hn) ws hw w hmem
    · rcases h.ways n hn ws hw w hmem with hin | rfl | hexit
      · exact .inl (.inl hin)
      · exact hmore hm
      · exact .inr hexit
    · exact hmore (h'.ways n hn ws hw w hmem)

/-- A fork joins the states it leads to, even if they lead back to it. -/
theorem Enclosed.insert_fork (h : a.Enclosed lo (insert n exits) inside) {ws : List Nat}
    (hrange : lo ≤ n ∧ n < a.states.size) (hfork : a.states[n]? = some (.fork ws))
    (hws : ∀ w ∈ ws, w ∈ inside ∪ insert n exits) : a.Enclosed lo exits (insert n inside) := by
  have hmove {w : Nat} (hw : w ∈ inside ∪ insert n exits) : w ∈ insert n inside ∪ exits := by
    rcases hw with hin | heq | hexit
    · exact .inl (.inr hin)
    · exact .inl (.inl heq)
    · exact .inr hexit
  constructor
  · rintro k (rfl | hk)
    · exact hrange
    · exact h.range k hk
  · rintro k (rfl | hk)
    · simp [hfork]
    · exact h.no_accept k hk
  · rintro k (rfl | hk) ws' hw w hmem
    · obtain rfl : ws = ws' := by simpa [hfork] using hw
      exact hmove (hws w hmem)
    · exact hmove (h.ways k hk ws' hw w hmem)

end Enclosed

section LeadsTo

variable {a b : Automaton} {lo mid s m : Nat} {exits inside : Set Nat}

theorem LeadsTo.of_enclosed (h : a.Enclosed lo exits inside) (hs : s ∈ inside ∪ exits) :
    a.LeadsTo lo exits s := by
  rcases hs with hin | hexit
  · exact .inl ⟨inside, h, hin⟩
  · exact .inr hexit

theorem LeadsTo.extend (h : a.LeadsTo mid exits s) (hab : Extends a b) (hlo : lo ≤ mid) :
    b.LeadsTo lo exits s :=
  .of_enclosed ((enclosure_enclosed a mid exits).extend hab hlo) h

theorem LeadsTo.set (h : a.LeadsTo mid exits s) {n : Nat} (hn : n < mid) (hlo : lo ≤ mid)
    (state : State) : (a.set n state).LeadsTo lo exits s :=
  .of_enclosed ((enclosure_enclosed a mid exits).set hn hlo state) h

theorem LeadsTo.trans (hs : b.LeadsTo mid (insert m exits) s) (hm : a.LeadsTo lo exits m)
    (hab : Extends a b) (hlo : lo ≤ mid) : b.LeadsTo lo exits s := by
  have hm' : b.LeadsTo lo exits m := hm.extend hab (Nat.le_refl _)
  have hinside := (enclosure_enclosed b mid (insert m exits)).extend (.refl b) hlo
  apply LeadsTo.of_enclosed (hinside.union (enclosure_enclosed b lo exits) hm')
  rcases hs with hin | rfl | hexit
  · exact .inl (.inl hin)
  · rcases hm' with hin | hexit
    · exact .inl (.inr hin)
    · exact .inr hexit
  · exact .inr hexit

theorem add_size (a : Automaton) (s : State) :
    (a.add s).2.states.size = a.states.size + 1 := by
  simp [Automaton.add]

theorem add_get (a : Automaton) (s : State) : (a.add s).2.states[a.states.size]? = some s := by
  simp [Automaton.add]

theorem set_size (a : Automaton) (n : Nat) (s : State) :
    (a.set n s).states.size = a.states.size := by
  simp [Automaton.set]

theorem set_get {n : Nat} (hn : n < a.states.size) (state : State) :
    (a.set n state).states[n]? = some state := by
  simp [Automaton.set, hn]

theorem LeadsTo.take (set : CharSet) (next : Nat) (hlo : lo ≤ a.states.size) :
    (a.add (.take set next)).2.LeadsTo lo exits a.states.size := by
  refine .inl ⟨{a.states.size}, ?_, rfl⟩
  constructor
  · rintro n rfl
    rw [add_size]
    omega
  · rintro n rfl
    simp [add_get]
  · rintro n rfl ws hw
    simp [add_get] at hw

theorem LeadsTo.fork {ws : List Nat} (h : ∀ w ∈ ws, a.LeadsTo lo exits w)
    (hlo : lo ≤ a.states.size) : (a.add (.fork ws)).2.LeadsTo lo exits a.states.size := by
  have hab : Extends a (a.add (.fork ws)).2 := (Extends.refl a).add _
  have hinside := (enclosure_enclosed a lo exits).extend hab (Nat.le_refl _)
  have hrange : lo ≤ a.states.size ∧ a.states.size < (a.add (.fork ws)).2.states.size := by
    rw [add_size]
    omega
  refine .inl ⟨_, (hinside.more_exits a.states.size).insert_fork hrange (add_get a _) ?_, .inl rfl⟩
  intro w hw
  rcases h w hw with hin | hexit
  · exact .inl hin
  · exact .inr (.inr hexit)

theorem mem_ways {greedy : Bool} {round finish w : Nat} (h : w ∈ ways greedy round finish) :
    w = round ∨ w = finish := by
  cases greedy <;> simp [ways] at h <;> omega

/-- Rounds that lead back to the fork behind them lead on as the fork does. -/
theorem LeadsTo.rounds {again round next : Nat}
    (h : a.LeadsTo (again + 1) (insert again exits) round) (hagain : again < a.states.size)
    (hnext : next ∈ exits) (greedy : Bool) :
    (a.set again (.fork (ways greedy round next))).LeadsTo again exits again ∧
      (a.set again (.fork (ways greedy round next))).LeadsTo again exits round := by
  have hinside := (enclosure_enclosed a (again + 1) (insert again exits)).set
    (Nat.lt_succ_self again) (Nat.le_succ again) (.fork (ways greedy round next))
  have hrange : again ≤ again ∧
      again < (a.set again (.fork (ways greedy round next))).states.size := by
    rw [set_size]
    omega
  have hwhole := hinside.insert_fork hrange (set_get hagain _) (by
    intro w hw
    rcases mem_ways hw with rfl | rfl
    · exact h
    · exact .inr (.inr hnext))
  constructor
  · exact .inl ⟨_, hwhole, .inl rfl⟩
  · apply LeadsTo.of_enclosed hwhole
    rcases h with hin | heq | hexit
    · exact .inl (.inr hin)
    · exact .inl (.inl heq)
    · exact .inr hexit

end LeadsTo

theorem addLiteral_leadsTo (a : Automaton) (next : Nat) (text : List Char) {exits : Set Nat}
    (h : text.isEmpty → next ∈ exits) :
    (a.addLiteral next text).2.LeadsTo a.states.size exits (a.addLiteral next text).1 := by
  cases text with
  | nil => exact .inr (h rfl)
  | cons c cs => exact .take _ _ (addLiteral_extends a next cs).size_le

section AddRounds

variable (a : Automaton) (next : Nat) (greedy : Bool) (p : Pattern) {exits : Set Nat}

theorem addRounds_extends : Extends a (a.addRounds next greedy p).2 := by
  have hagain : Extends a (a.add (.fork [])).2 := (Extends.refl a).add _
  exact (hagain.trans (addPattern_extends _ _ p)).set (Nat.le_refl _) _

/-- When the rounds lead to the fork behind them, they and the fork lead on. -/
theorem addRounds_leadsTo
    (hround : ((a.add (.fork [])).2.addPattern a.states.size p).2.LeadsTo (a.states.size + 1)
      (insert a.states.size exits) ((a.add (.fork [])).2.addPattern a.states.size p).1)
    (hnext : next ∈ exits) :
    (a.addRounds next greedy p).2.LeadsTo a.states.size exits a.states.size ∧
      (a.addRounds next greedy p).2.LeadsTo a.states.size exits
        (a.addRounds next greedy p).1 := by
  have hsize := (addPattern_extends (a.add (.fork [])).2 a.states.size p).size_le
  rw [add_size] at hsize
  exact hround.rounds hsize hnext greedy

end AddRounds

/-- From the first state of a pattern forks lead through its own states, and on to what follows it
only if it matches the empty text. -/
theorem addPattern_leadsTo (a : Automaton) (next : Nat) (p : Pattern) (exits : Set Nat)
    (h : p.matchesEmpty → next ∈ exits) :
    (a.addPattern next p).2.LeadsTo a.states.size exits (a.addPattern next p).1 := by
  induction p generalizing a next exits with
  | nothing => exact .inr (h rfl)
  | literal text => exact addLiteral_leadsTo a next text h
  | one set => exact .take _ _ (Nat.le_refl _)
  | anyChar => exact .take _ _ (Nat.le_refl _)
  | group p ih => exact ih a next exits h
  | seq p q ihp ihq =>
    have hq := addPattern_extends a next q
    have hp := addPattern_extends (a.addPattern next q).2 (a.addPattern next q).1 p
    by_cases hempty : p.matchesEmpty
    · have hmiddle := ihq a next exits fun hq => h (by simp [matchesEmpty, hempty, hq])
      exact (ihp _ _ _ fun _ => .inl rfl).trans hmiddle hp hq.size_le
    · exact (ihp _ _ exits fun hp => absurd hp hempty).extend (.refl _) hq.size_le
  | alt p q ihp ihq =>
    have hp := addPattern_extends a next p
    have hq := addPattern_extends (a.addPattern next p).2 next q
    have hfirst := ihp a next exits fun hp => h (by simp [matchesEmpty, hp])
    have hsecond := ihq (a.addPattern next p).2 next exits fun hq => h (by simp [matchesEmpty, hq])
    apply LeadsTo.fork _ (hp.trans hq).size_le
    intro w hw
    simp only [List.mem_cons, List.not_mem_nil, or_false] at hw
    rcases hw with rfl | rfl
    · exact hfirst.extend hq (Nat.le_refl _)
    · exact hsecond.extend (.refl _) hp.size_le
  | loop kind greedy p ih =>
    have hadded := add_size a (.fork [])
    have hrounds (hnext : next ∈ exits) := addRounds_leadsTo a next greedy p
      (hadded ▸ ih (a.add (.fork [])).2 a.states.size _ fun _ => .inl rfl) hnext
    cases kind with
    | optional =>
      have hnext := h rfl
      apply LeadsTo.fork _ (addPattern_extends a next p).size_le
      intro w hw
      rcases mem_ways hw with rfl | rfl
      · exact ih a next exits fun _ => hnext
      · exact .inr hnext
    | oneOrMore =>
      rw [addPattern_oneOrMore]
      by_cases hempty : p.matchesEmpty
      · exact (hrounds (h hempty)).2
      · have hround := ih (a.add (.fork [])).2 a.states.size exits fun hp => absurd hp hempty
        rw [hadded] at hround
        exact hround.set (Nat.lt_succ_self _) (Nat.le_succ _) _
    | zeroOrMore =>
      have hnext := h rfl
      rw [addPattern_zeroOrMore]
      by_cases hempty : p.matchesEmpty
      · simp only [hempty, if_true]
        apply LeadsTo.fork _ (addRounds_extends a next greedy p).size_le
        intro w hw
        rcases mem_ways hw with rfl | rfl
        · exact (hrounds hnext).2
        · exact .inr hnext
      · simp only [hempty, Bool.false_eq_true, if_false]
        exact (hrounds hnext).1

/-- What a search meets from an enclosed state without exits is enclosed. -/
theorem visit_enclosed {a : Automaton} {lo : Nat} {inside : Set Nat}
    (henc : a.Enclosed lo ∅ inside) (room : Nat) {met : List Nat} (hmet : ∀ m ∈ met, m ∈ inside)
    {n : Nat} (hn : n ∈ inside) : ∀ m ∈ a.visit room met n, m ∈ inside := by
  induction room generalizing met n with
  | zero => exact hmet
  | succ room ih =>
    rw [visit]
    have hmet' : ∀ m ∈ met ++ [n], m ∈ inside := by
      intro m hm
      rcases List.mem_append.mp hm with hm | hm
      · exact hmet m hm
      · rw [List.mem_singleton.mp hm]
        exact hn
    by_cases hseen : met.contains n
    · rw [if_pos hseen]
      exact hmet
    · rw [if_neg hseen]
      cases hstate : a.states[n]? with
      | none => exact hmet'
      | some state =>
        cases state with
        | accept => exact hmet'
        | take set next => exact hmet'
        | fork ws =>
          have hws : ∀ w ∈ ws, w ∈ inside := by
            intro w hw
            rcases henc.ways n hn ws hstate w hw with hin | hin
            · exact hin
            · exact absurd hin (Set.notMem_empty w)
          exact List.foldlRecOn (motive := fun met => ∀ m ∈ met, m ∈ inside) ws (a.visit room)
            hmet' fun _ hmet w hw => ih hmet (hws w hw)

/-- A match ends where it begins, or behind a character and a match of what is left. -/
theorem run_eq_some {a : Automaton} {live : List Nat} {text : List Char} {n : Nat}
    (h : a.run live text = some n) : (n = 0 ∧ live.any a.isAccept) ∨
      ∃ c cs m live', text = c :: cs ∧ n = m + 1 ∧ a.run live' cs = some m := by
  fun_cases run a live text with
  | case1 live haccept | case5 live c cs _ _ haccept =>
    left
    exact ⟨by simp_all [run], haccept⟩
  | case4 live c cs _ m hm =>
    right
    exact ⟨c, cs, m, _, rfl, by simp_all [run], hm⟩
  | _ => simp_all [run]

theorem run_le_length {a : Automaton} {live : List Nat} {text : List Char} {n : Nat}
    (h : a.run live text = some n) : n ≤ text.length := by
  induction text generalizing live n with
  | nil =>
    rcases run_eq_some h with ⟨rfl, -⟩ | ⟨c, cs, m, live', heq, -⟩
    · exact Nat.zero_le _
    · cases heq
  | cons c cs ih =>
    rcases run_eq_some h with ⟨rfl, -⟩ | ⟨_, _, m, live', heq, rfl, hm⟩
    · exact Nat.zero_le _
    · cases heq
      exact Nat.succ_le_succ (ih hm)

/-- From a state that forks lead nowhere from, a match takes a character. -/
theorem run_reach_ne_zero {a : Automaton} {lo start : Nat} (h : a.LeadsTo lo ∅ start)
    (text : List Char) : a.run (a.reach [] start) text ≠ some 0 := by
  intro hrun
  rcases h with ⟨inside, henc, hstart⟩ | hexit
  · rcases run_eq_some hrun with ⟨-, hany⟩ | ⟨c, cs, m, live, -, hm, -⟩
    · obtain ⟨n, hn, haccept⟩ := List.any_eq_true.mp hany
      have hinside := visit_enclosed henc _ (by simp) hstart n hn
      exact henc.no_accept n hinside (by simpa [isAccept] using haccept)
    · cases hm
  · exact Set.notMem_empty _ hexit

end Automaton

theorem preferred_zero {p : Pattern} {text : List Char} (h : preferred p text = some 0) :
    p.matchesEmpty := by
  by_contra hempty
  have hfactored : ¬ p.factored.matchesEmpty := by rwa [matchesEmpty_factored]
  have hleads := Automaton.addPattern_leadsTo .accepting 0 p.factored ∅
    fun hp => absurd hp hfactored
  exact Automaton.run_reach_ne_zero hleads text h

/-- The longest match ends where it begins, or behind a character and the longest match of what is
left. -/
theorem longest_eq_some {ps : List Pattern} {text : List Char} {n : Nat}
    (h : longest ps text = some n) : (n = 0 ∧ ps.any matchesEmpty) ∨
      ∃ c cs m, text = c :: cs ∧ n = m + 1 ∧ longest (allRests c ps) cs = some m := by
  fun_cases longest ps text with
  | case1 ps hempty | case5 ps c cs _ _ hempty =>
    left
    exact ⟨by simp_all [longest], hempty⟩
  | case4 ps c cs _ m hm =>
    right
    exact ⟨c, cs, m, rfl, by simp_all [longest], hm⟩
  | _ => simp_all [longest]

theorem longest_le_length {ps : List Pattern} {text : List Char} {n : Nat}
    (h : longest ps text = some n) : n ≤ text.length := by
  induction text generalizing ps n with
  | nil =>
    rcases longest_eq_some h with ⟨rfl, -⟩ | ⟨c, cs, m, heq, -⟩
    · exact Nat.zero_le _
    · cases heq
  | cons c cs ih =>
    rcases longest_eq_some h with ⟨rfl, -⟩ | ⟨_, _, m, heq, rfl, hm⟩
    · exact Nat.zero_le _
    · cases heq
      exact Nat.succ_le_succ (ih hm)

theorem matchesEmpty_of_matchLength_zero {p : Pattern} {text : List Char}
    (h : p.matchLength text = some 0) : p.matchesEmpty := by
  rw [matchLength] at h
  split at h
  · exact preferred_zero h
  · rcases longest_eq_some h with ⟨-, hempty⟩ | ⟨c, cs, m, -, hm, -⟩
    · simpa using hempty
    · cases hm

theorem matchLength_le_length {p : Pattern} {text : List Char} {n : Nat}
    (h : p.matchLength text = some n) : n ≤ text.length := by
  rw [matchLength] at h
  split at h
  · exact Automaton.run_le_length h
  · exact longest_le_length h

end GrammarWorkbench.Pattern
