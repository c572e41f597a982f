import GrammarWorkbench.Recognizer.Run

/-!
# What an expression matches

Whether an expression matches at a place, and what it leaves, does not depend on the failures met
before. `Yields` and `Fails` say so for one way to match, and one lemma for each form of expression
says when they hold of it. `Repeats` follows a repetition from match to match.
-/

set_option autoImplicit false

namespace GrammarWorkbench.Recognizer

open GrammarWorkbench.Text

variable {ρ : Type} {rules : Rules ρ} {call : ρ → Matcher ρ} {inToken : Bool}

@[simp] theorem Node.rule_mk (r : ρ) (span : Span) (text : List Char) (kids : List (Node ρ)) :
    (Node.mk r span text kids).rule = r := rfl

@[simp] theorem Node.span_mk (r : ρ) (span : Span) (text : List Char) (kids : List (Node ρ)) :
    (Node.mk r span text kids).span = span := rfl

@[simp] theorem Node.text_mk (r : ρ) (span : Span) (text : List Char) (kids : List (Node ρ)) :
    (Node.mk r span text kids).text = text := rfl

@[simp] theorem Node.children_mk (r : ρ) (span : Span) (text : List Char) (kids : List (Node ρ)) :
    (Node.mk r span text kids).children = kids := rfl

def Yields (m : Matcher ρ) (p : Place) (nodes : List (Node ρ)) (q : Place) : Prop :=
  ∀ a, (m p a).result = some (nodes, q)

def Fails (m : Matcher ρ) (p : Place) : Prop := ∀ a, (m p a).result = none

section Expressions

variable {p q q' : Place} {e e₁ e₂ : Expr ρ} {nodes more : List (Node ρ)}

attribute [local simp] runExpr

theorem yields_char {test : Char → Bool} {c : Char} {cs : List Char} (hp : p.rest = c :: cs)
    (hc : test c = true) :
    Yields (runExpr rules call inToken (.char test)) p [] (p.after [c] cs) := by
  intro a
  simp [hp, hc]

theorem fails_char {test : Char → Bool} (h : ∀ c ∈ p.rest.head?, test c = false) :
    Fails (runExpr rules call inToken (.char test)) p := by
  intro a
  cases hp : p.rest with
  | nil => simp [hp]
  | cons c cs =>
    have hc := h c (by simp [hp])
    simp [hp, hc]

theorem dropText?_self_append (t cs : List Char) : dropText? t (t ++ cs) = some cs := by
  induction t with
  | nil => rfl
  | cons c t ih => simpa [dropText?] using ih

theorem dropText?_eq_none {t cs : List Char} (h : ¬ t <+: cs) : dropText? t cs = none := by
  induction t generalizing cs with
  | nil => exact absurd List.nil_prefix h
  | cons c t ih =>
    cases cs with
    | nil => rfl
    | cons d cs =>
      by_cases hcd : c = d
      · subst hcd
        rw [dropText?, if_pos rfl]
        exact ih fun ht => h ((List.prefix_cons_inj c).mpr ht)
      · rw [dropText?, if_neg hcd]

theorem yields_text {t cs : List Char} (hp : p.rest = t ++ cs) :
    Yields (runExpr rules call inToken (.text t)) p [] (p.after t cs) := by
  intro a
  simp [hp, dropText?_self_append]

theorem fails_text {t : List Char} (h : ¬ t <+: p.rest) :
    Fails (runExpr rules call inToken (.text t)) p := by
  intro a
  simp [dropText?_eq_none h]

theorem yields_finish (hp : p.rest = []) :
    Yields (runExpr rules call inToken .finish) p [] p := by
  intro a
  simp [hp]

theorem yields_seq (h₁ : Yields (runExpr rules call inToken e₁) p nodes q)
    (h₂ : Yields (runExpr rules call inToken e₂) (skipLayout rules inToken q) more q') :
    Yields (runExpr rules call inToken (.seq e₁ e₂)) p (nodes ++ more) q' := by
  intro a
  simp only [runExpr, h₁ a]
  rw [h₂]
  rfl

theorem fails_seq_left (h : Fails (runExpr rules call inToken e₁) p) :
    Fails (runExpr rules call inToken (.seq e₁ e₂)) p := by
  intro a
  simp only [runExpr, h a]

theorem fails_seq_right (h₁ : Yields (runExpr rules call inToken e₁) p nodes q)
    (h₂ : Fails (runExpr rules call inToken e₂) (skipLayout rules inToken q)) :
    Fails (runExpr rules call inToken (.seq e₁ e₂)) p := by
  intro a
  simp only [runExpr, h₁ a]
  rw [h₂]
  rfl

theorem yields_choice_left (h : Yields (runExpr rules call inToken e₁) p nodes q) :
    Yields (runExpr rules call inToken (.choice e₁ e₂)) p nodes q := by
  intro a
  simp only [runExpr, h a]

theorem yields_choice_right (h₁ : Fails (runExpr rules call inToken e₁) p)
    (h₂ : Yields (runExpr rules call inToken e₂) p nodes q) :
    Yields (runExpr rules call inToken (.choice e₁ e₂)) p nodes q := by
  intro a
  simp only [runExpr, h₁ a]
  exact h₂ _

theorem fails_choice (h₁ : Fails (runExpr rules call inToken e₁) p)
    (h₂ : Fails (runExpr rules call inToken e₂) p) :
    Fails (runExpr rules call inToken (.choice e₁ e₂)) p := by
  intro a
  simp only [runExpr, h₁ a]
  exact h₂ _

theorem yields_optional (h : Yields (runExpr rules call inToken e) p nodes q) :
    Yields (runExpr rules call inToken (.optional e)) p nodes q := by
  intro a
  simp [h a]

theorem yields_optional_missing (h : Fails (runExpr rules call inToken e) p) :
    Yields (runExpr rules call inToken (.optional e)) p [] p := by
  intro a
  simp [h a]

theorem yields_unless (h : Fails (runExpr rules call inToken e) p) :
    Yields (runExpr rules call inToken (.unless e)) p [] p := by
  intro a
  simp [h a]

theorem fails_unless (h : Yields (runExpr rules call inToken e) p nodes q) :
    Fails (runExpr rules call inToken (.unless e)) p := by
  intro a
  simp [h a]

end Expressions

section Repetitions

/-- A number of matches one behind the other, with layout before each, and none behind them. -/
inductive Repeats (skip : Place → Place) (item : Matcher ρ) :
    Nat → Place → List (Node ρ) → Place → Prop
  | stop {p : Place} (h : Fails item (skip p)) : Repeats skip item 0 p [] p
  | next {k : Nat} {p q q' : Place} {nodes more : List (Node ρ)}
      (h : Yields item (skip p) nodes q) (hmore : Repeats skip item k q more q') :
      Repeats skip item (k + 1) p (nodes ++ more) q'

variable {skip : Place → Place} {item : Matcher ρ} {k : Nat} {p q q' : Place} {e : Expr ρ}
  {nodes more : List (Node ρ)}

theorem Repeats.runAgain_eq (h : Repeats skip item k p nodes q) {n : Nat} (hn : k < n)
    (a : Attempts ρ) : (runAgain skip item n p a).2 = (nodes, q) := by
  induction h generalizing n a with
  | stop hfails =>
    obtain ⟨n, rfl⟩ := Nat.exists_eq_add_one_of_ne_zero (by omega : n ≠ 0)
    simp only [runAgain, hfails a]
  | next hyields hmore ih =>
    obtain ⟨n, rfl⟩ := Nat.exists_eq_add_one_of_ne_zero (by omega : n ≠ 0)
    have hrest := ih (Nat.lt_of_succ_lt_succ hn)
    simp only [runAgain, hyields a, hrest]

theorem yields_many_none (h : Fails (runExpr rules call inToken e) p) :
    Yields (runExpr rules call inToken (.many e)) p [] p := by
  intro a
  simp only [runExpr, h a]

/-- The bound on the number of trials is no smaller than the length of the text behind the first
match. -/
theorem yields_many (h : Yields (runExpr rules call inToken e) p nodes q)
    (hmore : Repeats (skipLayout rules inToken) (runExpr rules call inToken e) k q more q')
    (hk : k ≤ q.rest.length) :
    Yields (runExpr rules call inToken (.many e)) p (nodes ++ more) q' := by
  intro a
  have hrest := hmore.runAgain_eq (Nat.lt_succ_of_le hk)
  simp only [runExpr, h a, hrest]

end Repetitions

section Calls

variable {depth : Nat} {r : ρ} {p q : Place} {nodes : List (Node ρ)}

theorem fails_rule (h : ∀ d, d + 1 = depth → Fails (runExpr rules
      (runRule rules d (inToken || rules.style r == .token))
      (inToken || rules.style r == .token) (rules.body r)) p) :
    Fails (runRule rules depth inToken r) p := by
  intro a
  cases depth with
  | zero => rfl
  | succ d =>
    have hbody := h d rfl a
    simp only [runRule]
    split
    · exact hbody
    · split
      · rw [hbody]
        rfl
      · rw [hbody]

theorem yields_silent (hr : rules.style r = .silent)
    (h : Yields (runExpr rules (runRule rules depth inToken) inToken (rules.body r)) p nodes q) :
    Yields (runRule rules (depth + 1) inToken r) p nodes q := by
  intro a
  have hinside : (inToken || rules.style r == .token) = inToken := by simp [hr]
  simp only [runRule, hinside]
  rw [if_pos (by simp [hr])]
  exact h a

theorem yields_node (hr : rules.style r ≠ .silent)
    (h : Yields (runExpr rules (runRule rules depth (rules.style r == .token))
      (rules.style r == .token) (rules.body r)) p nodes q) :
    Yields (runRule rules (depth + 1) false r) p
      [.mk r ⟨p.offset, q.offset⟩ (takeBytes p.rest (q.offset - p.offset)) nodes] q := by
  intro a
  have hsilent : (rules.style r == .silent) = false := by simpa using hr
  simp only [runRule, Bool.false_or, hsilent, Bool.false_eq_true, if_false, h a]

theorem recognize_eq_ok {count : Nat} {start : ρ} {text : List Char} {node : Node ρ}
    (h : Yields (runRule rules (count * (text.length + 1)) false start) ⟨text, 0⟩ [node] q) :
    recognize rules count start text = .ok node := by
  simp only [recognize, h .none]

theorem takeBytes_append (cs ds : List Char) : takeBytes (cs ++ ds) (byteLength cs) = cs := by
  induction cs with
  | nil => cases ds <;> simp [takeBytes]
  | cons c cs ih =>
    have hc : c.utf8Size ≠ 0 := Nat.ne_of_gt c.utf8Size_pos
    simp [takeBytes, hc, ih]

end Calls

end GrammarWorkbench.Recognizer
