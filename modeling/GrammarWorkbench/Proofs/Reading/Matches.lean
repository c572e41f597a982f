import GrammarWorkbench.Recognizer.Run

/-!
# Taking matches apart

A match of an expression comes from matches of its parts, with one lemma for each form of
expression. A match of a rule comes from a match of its body.
-/

set_option autoImplicit false

namespace GrammarWorkbench.Recognizer

variable {ρ : Type} {rules : Rules ρ} {call : ρ → Matcher ρ} {inToken : Bool}

theorem dropText?_append {t cs rest : List Char} (h : dropText? t cs = some rest) :
    cs = t ++ rest := by
  induction t generalizing cs with
  | nil =>
    rw [dropText?] at h
    cases h
    rfl
  | cons c t ih =>
    cases cs with
    | nil => cases h
    | cons d cs =>
      rw [dropText?] at h
      split at h
      · rename_i heq
        rw [ih h, heq]
        rfl
      · cases h

section Expressions

variable {p q : Place} {a : Attempts ρ} {nodes : List (Node ρ)} {e e₁ e₂ : Expr ρ}

theorem runExpr_char_some {test : Char → Bool}
    (h : (runExpr rules call inToken (.char test) p a).result = some (nodes, q)) :
    ∃ c cs, p.rest = c :: cs ∧ test c ∧ nodes = [] ∧ q = p.after [c] cs := by
  simp only [runExpr] at h
  split at h
  · cases h
  · rename_i c cs hrest
    split at h
    · rename_i hc
      cases h
      exact ⟨c, cs, hrest, hc, rfl, rfl⟩
    · cases h

theorem runExpr_text_some {t : List Char}
    (h : (runExpr rules call inToken (.text t) p a).result = some (nodes, q)) :
    ∃ cs, p.rest = t ++ cs ∧ nodes = [] ∧ q = p.after t cs := by
  simp only [runExpr, Option.map_eq_some_iff] at h
  obtain ⟨cs, hdrop, heq⟩ := h
  cases heq
  exact ⟨cs, dropText?_append hdrop, rfl, rfl⟩

theorem runExpr_finish_some
    (h : (runExpr rules call inToken .finish p a).result = some (nodes, q)) :
    p.rest = [] ∧ nodes = [] ∧ q = p := by
  simp only [runExpr] at h
  split at h
  · rename_i hrest
    cases h
    exact ⟨List.isEmpty_iff.mp hrest, rfl, rfl⟩
  · cases h

theorem runExpr_seq_some
    (h : (runExpr rules call inToken (.seq e₁ e₂) p a).result = some (nodes, q)) :
    ∃ found r b more, (runExpr rules call inToken e₁ p a).result = some (found, r) ∧
      (runExpr rules call inToken e₂ (skipLayout rules inToken r) b).result = some (more, q) ∧
      nodes = found ++ more := by
  simp only [runExpr] at h
  split at h
  · rename_i hnone
    rw [hnone] at h
    cases h
  · rename_i found r hfirst
    obtain ⟨⟨more, q'⟩, hsecond, heq⟩ := Option.map_eq_some_iff.mp h
    cases heq
    exact ⟨found, r, _, more, hfirst, hsecond, rfl⟩

theorem runExpr_choice_some
    (h : (runExpr rules call inToken (.choice e₁ e₂) p a).result = some (nodes, q)) :
    (runExpr rules call inToken e₁ p a).result = some (nodes, q) ∨
      ∃ b, (runExpr rules call inToken e₂ p b).result = some (nodes, q) := by
  simp only [runExpr] at h
  split at h
  · exact .inr ⟨_, h⟩
  · exact .inl h

theorem runExpr_optional_some
    (h : (runExpr rules call inToken (.optional e) p a).result = some (nodes, q)) :
    (runExpr rules call inToken e p a).result = some (nodes, q) ∨ nodes = [] ∧ q = p := by
  simp only [runExpr, Option.some.injEq] at h
  cases ho : (runExpr rules call inToken e p a).result with
  | none =>
    rw [ho] at h
    cases h
    exact .inr ⟨rfl, rfl⟩
  | some found =>
    rw [ho] at h
    exact .inl (congrArg some h)

theorem runExpr_many_some
    (h : (runExpr rules call inToken (.many e) p a).result = some (nodes, q)) :
    nodes = [] ∧ q = p ∨ ∃ found r n b more,
      (runExpr rules call inToken e p a).result = some (found, r) ∧
      (runAgain (skipLayout rules inToken) (runExpr rules call inToken e) n r b).2 = (more, q) ∧
      nodes = found ++ more := by
  simp only [runExpr] at h
  split at h
  · cases h
    exact .inl ⟨rfl, rfl⟩
  · rename_i found r hfirst
    cases h
    exact .inr ⟨found, r, _, _, _, hfirst, rfl, rfl⟩

theorem runExpr_unless_some
    (h : (runExpr rules call inToken (.unless e) p a).result = some (nodes, q)) :
    nodes = [] ∧ q = p := by
  simp only [runExpr] at h
  split at h
  · cases h
  · cases h
    exact ⟨rfl, rfl⟩

theorem runAgain_succ {skip : Place → Place} {item : Matcher ρ} {n : Nat}
    (h : (runAgain skip item (n + 1) p a).2 = (nodes, q)) :
    nodes = [] ∧ q = p ∨ ∃ found r b more, (item (skip p) a).result = some (found, r) ∧
      (runAgain skip item n r b).2 = (more, q) ∧ nodes = found ++ more := by
  simp only [runAgain] at h
  split at h
  · cases h
    exact .inl ⟨rfl, rfl⟩
  · rename_i found r hitem
    cases h
    exact .inr ⟨found, r, _, _, hitem, rfl, rfl⟩

end Expressions

section Calls

variable {depth : Nat} {r : ρ} {p q : Place} {a : Attempts ρ} {nodes : List (Node ρ)}

def runBody (rules : Rules ρ) (depth : Nat) (r : ρ) : Matcher ρ :=
  runExpr rules (runRule rules depth (rules.style r == .token)) (rules.style r == .token)
    (rules.body r)

theorem runRule_some (h : (runRule rules (depth + 1) inToken r p a).result = some (nodes, q)) :
    ∃ kids, (runExpr rules (runRule rules depth (inToken || rules.style r == .token))
      (inToken || rules.style r == .token) (rules.body r) p a).result = some (kids, q) := by
  simp only [runRule] at h
  split at h
  · exact ⟨nodes, h⟩
  · split at h
    · obtain ⟨⟨kids, q'⟩, hbody, heq⟩ := Option.map_eq_some_iff.mp h
      cases heq
      exact ⟨kids, hbody⟩
    · split at h
      · cases h
      · rename_i kids q' hbody
        cases h
        exact ⟨kids, hbody⟩

/-- Outside tokens a rule leaves a node with the nodes of its body below it, unless it is
silent. -/
theorem runRule_outside (h : (runRule rules (depth + 1) false r p a).result = some (nodes, q)) :
    ∃ kids, (runBody rules depth r p a).result = some (kids, q) ∧
      nodes = if rules.style r == .silent then kids
        else [.mk r ⟨p.offset, q.offset⟩ (takeBytes p.rest (q.offset - p.offset)) kids] := by
  simp only [runRule, Bool.false_or, Bool.false_eq_true, if_false] at h
  split at h
  · rename_i hsilent
    exact ⟨nodes, h, by rw [if_pos hsilent]⟩
  · rename_i hsilent
    split at h
    · cases h
    · rename_i kids q' hbody
      cases h
      exact ⟨kids, hbody, by rw [if_neg hsilent]⟩

end Calls

end GrammarWorkbench.Recognizer
