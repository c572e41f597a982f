import GrammarWorkbench.Proofs.Pattern.Ranged

/-!
# Texts that an automaton accepts

From each of its states an automaton accepts a language. The states of a pattern that leads to
another state read a text of the pattern, and then what is accepted from that state. For a
repetition the steps are counted: each round takes at least the step from the fork behind it, so
that a text that is accepted in finitely many steps has finitely many rounds.
-/

set_option autoImplicit false

namespace GrammarWorkbench.Pattern

open GrammarWorkbench.Text GrammarWorkbench.Declaration GrammarWorkbench.Derivation
open scoped Computability

namespace Automaton

inductive Accepts (b : Automaton) : Nat → Nat → List Char → Prop
  | accept {k n : Nat} (h : b.states[n]? = some .accept) : Accepts b k n []
  | take {k n m : Nat} {s : CharSet} {c : Char} {w : List Char}
      (h : b.states[n]? = some (.take s m)) (hc : s.contains c) (hw : Accepts b k m w) :
      Accepts b (k + 1) n (c :: w)
  | fork {k n m : Nat} {ws : List Nat} {w : List Char} (h : b.states[n]? = some (.fork ws))
      (hm : m ∈ ws) (hw : Accepts b k m w) : Accepts b (k + 1) n w

def accepted (b : Automaton) (n : Nat) : Language Char := {w | ∃ k, b.Accepts k n w}

section Accepts

variable {b : Automaton} {n m : Nat} {w : List Char}

theorem Accepts.succ {k : Nat} (h : b.Accepts k n w) : b.Accepts (k + 1) n w := by
  induction h with
  | accept h => exact .accept h
  | take h hc _ ih => exact .take h hc ih
  | fork h hm _ ih => exact .fork h hm ih

theorem mem_accepted : w ∈ b.accepted n ↔ ∃ k, b.Accepts k n w := Iff.rfl

theorem accepted_of_accept (h : b.states[n]? = some .accept) : b.accepted n = 1 := by
  ext w
  rw [mem_accepted, Language.mem_one]
  constructor
  · rintro ⟨k, hw⟩
    cases hw with
    | accept _ => rfl
    | take h' _ _ => simp [h] at h'
    | fork h' _ _ => simp [h] at h'
  · rintro rfl
    exact ⟨0, .accept h⟩

theorem accepted_le_of_fork {ws : List Nat} (h : b.states[n]? = some (.fork ws)) (hm : m ∈ ws) :
    b.accepted m ≤ b.accepted n := by
  rintro w ⟨k, hw⟩
  exact ⟨k + 1, .fork h hm hw⟩

theorem cons_mem_accepted {s : CharSet} {c : Char} (h : b.states[n]? = some (.take s m))
    (hc : s.contains c) (hw : w ∈ b.accepted m) : c :: w ∈ b.accepted n := by
  obtain ⟨k, hw⟩ := hw
  exact ⟨k + 1, .take h hc hw⟩

end Accepts

/-- From a state, an automaton reads a text of a language and goes on from another state. It takes
no more steps from there on than from the first state. -/
structure Reads (b : Automaton) (l : Language Char) (start next : Nat) : Prop where
  split : ∀ k w, b.Accepts k start w → ∃ u v, w = u ++ v ∧ u ∈ l ∧ b.Accepts k next v
  join : ∀ u v, u ∈ l → v ∈ b.accepted next → u ++ v ∈ b.accepted start

section Reads

variable {b : Automaton} {l m : Language Char} {start middle next : Nat}

theorem Reads.accepted (h : b.Reads l start next) : b.accepted start = l * b.accepted next := by
  ext w
  rw [Language.mem_mul]
  constructor
  · rintro ⟨k, hw⟩
    obtain ⟨u, v, rfl, hu, hv⟩ := h.split k w hw
    exact ⟨u, hu, v, ⟨k, hv⟩, rfl⟩
  · rintro ⟨u, hu, v, hv, rfl⟩
    exact h.join u v hu hv

theorem Reads.refl (b : Automaton) (n : Nat) : b.Reads 1 n n where
  split k w hw := ⟨[], w, rfl, Language.nil_mem_one, hw⟩
  join u v hu hv := by
    rw [(Language.mem_one u).mp hu]
    exact hv

theorem Reads.trans (h : b.Reads l start middle) (h' : b.Reads m middle next) :
    b.Reads (l * m) start next where
  split k w hw := by
    obtain ⟨u, v, rfl, hu, hv⟩ := h.split k w hw
    obtain ⟨v, x, rfl, hv, hx⟩ := h'.split k v hv
    exact ⟨u ++ v, x, by simp, Language.append_mem_mul hu hv, hx⟩
  join := by
    rintro w x hw hx
    obtain ⟨u, hu, v, hv, rfl⟩ := Language.mem_mul.mp hw
    rw [List.append_assoc]
    exact h.join u _ hu (h'.join v x hv hx)

theorem Reads.take {s : CharSet} (h : b.states[start]? = some (.take s next)) {chars : Set Char}
    (hs : ∀ c, s.contains c ↔ c ∈ chars) : b.Reads (letters chars) start next where
  split := by
    rintro k w hw
    cases hw with
    | accept h' => simp [h] at h'
    | fork h' _ _ => simp [h] at h'
    | take h' hc hw =>
      obtain ⟨rfl, rfl⟩ : s = _ ∧ next = _ := by simpa [h] using h'
      exact ⟨[_], _, rfl, ⟨_, (hs _).mp hc, rfl⟩, hw.succ⟩
  join := by
    rintro u v ⟨c, hc, rfl⟩ hv
    exact cons_mem_accepted h ((hs c).mpr hc) hv

theorem Reads.fork {ws : List Nat} (h : b.states[start]? = some (.fork ws)) {x y : Nat}
    (hws : ∀ w, w ∈ ws ↔ w = x ∨ w = y) (hx : b.Reads l x next) (hy : b.Reads m y next) :
    b.Reads (l + m) start next where
  split := by
    rintro k w hw
    cases hw with
    | accept h' => simp [h] at h'
    | take h' _ _ => simp [h] at h'
    | fork h' hm hw =>
      obtain rfl : ws = _ := by simpa [h] using h'
      rcases (hws _).mp hm with rfl | rfl
      · obtain ⟨u, v, rfl, hu, hv⟩ := hx.split _ _ hw
        exact ⟨u, v, rfl, Or.inl hu, hv.succ⟩
      · obtain ⟨u, v, rfl, hu, hv⟩ := hy.split _ _ hw
        exact ⟨u, v, rfl, Or.inr hu, hv.succ⟩
  join := by
    rintro u v (hu | hu) hv
    · exact accepted_le_of_fork h ((hws x).mpr (.inl rfl)) (hx.join u v hu hv)
    · exact accepted_le_of_fork h ((hws y).mpr (.inr rfl)) (hy.join u v hu hv)

theorem Reads.star {ws : List Nat} (h : b.states[start]? = some (.fork ws)) {round : Nat}
    (hws : ∀ w, w ∈ ws ↔ w = round ∨ w = next) (hround : b.Reads l round start) :
    b.Reads l∗ start next where
  split := by
    -- a round ends with fewer steps left than the fork before it had
    intro k
    induction k with
    | zero =>
      intro w hw
      cases hw with
      | accept h' => simp [h] at h'
    | succ k ih =>
      intro w hw
      cases hw with
      | accept h' => simp [h] at h'
      | take h' _ _ => simp [h] at h'
      | fork h' hm hw =>
        obtain rfl : ws = _ := by simpa [h] using h'
        rcases (hws _).mp hm with rfl | rfl
        · obtain ⟨u, v, rfl, hu, hv⟩ := hround.split _ _ hw
          obtain ⟨v, x, rfl, hv, hx⟩ := ih v hv
          have hmore : l * l∗ ≤ l∗ := mul_kstar_le_kstar
          exact ⟨u ++ v, x, by simp, hmore (Language.append_mem_mul hu hv), hx.succ⟩
        · exact ⟨[], w, rfl, Language.nil_mem_kstar l, hw.succ⟩
  join := by
    have hle : l * b.accepted start ≤ b.accepted start := by
      rw [← hround.accepted]
      exact accepted_le_of_fork h ((hws round).mpr (.inl rfl))
    have hnext : b.accepted next ≤ b.accepted start :=
      accepted_le_of_fork h ((hws next).mpr (.inr rfl))
    intro u v hu hv
    exact kstar_mul_le hnext hle (Language.append_mem_mul hu hv)

end Reads

def Holds (b : Automaton) (lo : Nat) (a : Automaton) : Prop :=
  ∀ n, lo ≤ n → n < a.states.size → b.states[n]? = a.states[n]?

theorem Holds.of_extends {a a' b : Automaton} {lo lo' : Nat} (h : b.Holds lo a')
    (hext : Extends a a') (hlo : lo ≤ lo') : b.Holds lo' a := by
  intro n hn hsize
  rw [h n (Nat.le_trans hlo hn) (Nat.lt_of_lt_of_le hsize hext.size_le), hext.same n hsize]

theorem Holds.added {a b : Automaton} {lo : Nat} {s : State} (h : b.Holds lo (a.add s).2)
    (hlo : lo ≤ a.states.size) : b.states[a.states.size]? = some s := by
  rw [h _ hlo (by rw [add_size]; omega), add_get]

theorem Holds.before_added {a b : Automaton} {lo : Nat} {s : State} (h : b.Holds lo (a.add s).2) :
    b.Holds lo a :=
  h.of_extends ((Extends.refl a).add s) (Nat.le_refl lo)

theorem mem_ways_iff {greedy : Bool} {round finish w : Nat} :
    w ∈ ways greedy round finish ↔ w = round ∨ w = finish := by
  cases greedy <;> simp [ways, or_comm]

theorem contains_single (c d : Char) : (CharSet.single c).contains d ↔ d ∈ ({c} : Set Char) := by
  have hregular : (CharSet.single c).Regular := by
    simp [CharSet.Regular, CharSet.single, Piece.Regular]
  rw [hregular.exact d]
  simp [CharSet.members, CharSet.single, Piece.members]

theorem addLiteral_reads (a : Automaton) (next : Nat) (text : List Char) {b : Automaton}
    (h : b.Holds a.states.size (a.addLiteral next text).2) :
    b.Reads (literal text).words (a.addLiteral next text).1 next := by
  induction text with
  | nil => exact .refl b next
  | cons c cs ih =>
    have hext := addLiteral_extends a next cs
    have hrest := ih h.before_added
    rw [← List.singleton_append, words_literal_append, words_literal_singleton]
    exact (Reads.take (h.added hext.size_le) (contains_single c)).trans hrest

section AddRounds

variable {a b : Automaton} {next : Nat} {greedy : Bool} {p : Pattern}
  (h : b.Holds a.states.size (a.addRounds next greedy p).2)

include h

theorem addRounds_fork : b.states[a.states.size]? =
    some (.fork (ways greedy (a.addRounds next greedy p).1 next)) := by
  have hsize := (addPattern_extends (a.add (.fork [])).2 a.states.size p).size_le
  rw [add_size] at hsize
  rw [h _ (Nat.le_refl _) (by rw [addRounds, set_size]; omega), addRounds, set_get hsize]

theorem addRounds_holds : b.Holds (a.add (.fork [])).2.states.size
    ((a.add (.fork [])).2.addPattern a.states.size p).2 := by
  intro n hn hsize
  rw [add_size] at hn
  have hne : a.states.size ≠ n := by omega
  rw [h n (by omega) (by rw [addRounds, set_size]; exact hsize)]
  simp [addRounds, Automaton.set, hne]

/-- From a round there is at least one round, and from the fork behind it any number of them. -/
theorem addRounds_reads {l : Language Char}
    (hround : b.Reads l (a.addRounds next greedy p).1 a.states.size) :
    b.Reads (l * l∗) (a.addRounds next greedy p).1 next ∧ b.Reads l∗ a.states.size next := by
  have hstar := Reads.star (addRounds_fork h) (fun _ => mem_ways_iff) hround
  exact ⟨hround.trans hstar, hstar⟩

end AddRounds

theorem addPattern_reads (a : Automaton) (next : Nat) {p : Pattern} (hexact : p.Exact)
    {b : Automaton} (h : b.Holds a.states.size (a.addPattern next p).2) :
    b.Reads p.words (a.addPattern next p).1 next := by
  induction p generalizing a next with
  | nothing => exact .refl b next
  | literal text => exact addLiteral_reads a next text h
  | one set => exact .take (h.added (Nat.le_refl _)) (hexact set (by simp [sets]))
  | anyChar =>
    apply Reads.take (h.added (Nat.le_refl _))
    intro c
    simp [CharSet.contains, CharSet.all, CharSet.codes, CharSet.ranges, CodeRanges.complement,
      CodeRanges.inOrder, CodeRanges.empty, CodeRanges.contains_all]
  | seq p q ihp ihq =>
    have hq := addPattern_extends a next q
    have hp := addPattern_extends (a.addPattern next q).2 (a.addPattern next q).1 p
    have hrest := ihq a next hexact.seq_right (h.of_extends hp (Nat.le_refl _))
    exact (ihp _ _ hexact.seq_left (h.of_extends (.refl _) hq.size_le)).trans hrest
  | alt p q ihp ihq =>
    have hp := addPattern_extends a next p
    have hq := addPattern_extends (a.addPattern next p).2 next q
    have hboth : b.Holds a.states.size ((a.addPattern next p).2.addPattern next q).2 :=
      h.before_added
    have hfirst := ihp a next hexact.seq_left (hboth.of_extends hq (Nat.le_refl _))
    have hsecond := ihq _ next hexact.seq_right (hboth.of_extends (.refl _) hp.size_le)
    exact .fork (h.added (hp.trans hq).size_le) (by simp) hfirst hsecond
  | group p ih => exact ih a next hexact h
  | loop kind greedy p ih =>
    cases kind with
    | optional =>
      have hround := ih a next hexact h.before_added
      have hfork := h.added (addPattern_extends a next p).size_le
      rw [words, repetition, add_comm]
      exact .fork hfork (fun _ => mem_ways_iff) hround (.refl b next)
    | oneOrMore =>
      rw [addPattern_oneOrMore] at h ⊢
      exact (addRounds_reads h (ih _ _ hexact (addRounds_holds h))).1
    | zeroOrMore =>
      rw [addPattern_zeroOrMore] at h ⊢
      by_cases hempty : p.matchesEmpty
      · simp only [hempty, if_true] at h ⊢
        have hrounds : b.Holds a.states.size (a.addRounds next greedy p).2 :=
          h.before_added
        have hmore := (addRounds_reads hrounds (ih _ _ hexact (addRounds_holds hrounds))).1
        have hfork := h.added (addRounds_extends a next greedy p).size_le
        rw [words, repetition, ← Language.one_add_self_mul_kstar_eq_kstar, add_comm]
        exact .fork hfork (fun _ => mem_ways_iff) hmore (.refl b next)
      · simp only [hempty, Bool.false_eq_true, if_false] at h ⊢
        exact (addRounds_reads h (ih _ _ hexact (addRounds_holds h))).2

/-- The automaton of a pattern accepts the texts of the pattern. -/
theorem accepted_addPattern {p : Pattern} (hexact : p.Exact) :
    (accepting.addPattern 0 p).2.accepted (accepting.addPattern 0 p).1 = p.words := by
  have haccept : (accepting.addPattern 0 p).2.states[0]? = some .accept :=
    (addPattern_extends accepting 0 p).same 0 Nat.zero_lt_one
  have hreads := addPattern_reads accepting 0 hexact
    (b := (accepting.addPattern 0 p).2) fun _ _ _ => rfl
  rw [hreads.accepted, accepted_of_accept haccept, mul_one]

end Automaton

end GrammarWorkbench.Pattern
