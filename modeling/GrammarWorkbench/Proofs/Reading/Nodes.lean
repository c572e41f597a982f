import GrammarWorkbench.Proofs.Reading.Places

/-!
# The nodes of a recognised text

The nodes a match leaves are those that the rules called in it leave. So a property that passes from
the nodes below to a node holds of all nodes of a recognised text. Every node covers a part of the
text, and below it are nodes of the rules that each match of its rule calls.
-/

set_option autoImplicit false

namespace GrammarWorkbench.Recognizer

open GrammarWorkbench.Text

variable {ρ : Type} {rules : Rules ρ} {call : ρ → Matcher ρ} {inToken : Bool} {text : List Char}

/-- Every node that a way to match leaves at a place in a text has a property. -/
def Leaves (text : List Char) (P : Node ρ → Prop) (m : Matcher ρ) : Prop :=
  ∀ p a nodes q, p.In text → (m p a).result = some (nodes, q) → ∀ n ∈ nodes, P n

section Leaves

variable {P : Node ρ → Prop}

theorem runAgain_leaves {skip : Place → Place} {item : Matcher ρ}
    (hskip : ∀ p : Place, p.LeadsTo (skip p)) (hon : GoesOn item) (hitem : Leaves text P item)
    (n : Nat) : ∀ p a nodes q, p.In text → (runAgain skip item n p a).2 = (nodes, q) →
      ∀ m ∈ nodes, P m := by
  induction n with
  | zero =>
    intro p a nodes q _ h
    cases h
    simp
  | succ n ih =>
    intro p a nodes q hp h
    obtain ⟨rfl, -⟩ | ⟨found, r, b, more, hfound, hmore, rfl⟩ := runAgain_succ h
    · simp
    · have hp' := hp.leadsTo (hskip p)
      intro m hm
      rcases List.mem_append.mp hm with hm | hm
      · exact hitem _ a found r hp' hfound m hm
      · exact ih r b more q (hp'.leadsTo (hon _ a found r hfound)) hmore m hm

theorem runExpr_leaves (hlayout : LayoutSplits rules) (hon : ∀ r, GoesOn (call r))
    (hcall : ∀ r, Leaves text P (call r)) (e : Expr ρ) :
    Leaves text P (runExpr rules call inToken e) := by
  have hskip := skipLayout_leadsTo hlayout inToken
  have hexpr : ∀ e, GoesOn (runExpr rules call inToken e) := runExpr_goesOn hlayout hon
  induction e with
  | char test =>
    intro p a nodes q _ h
    obtain ⟨-, -, -, -, rfl, -⟩ := runExpr_char_some h
    simp
  | text t =>
    intro p a nodes q _ h
    obtain ⟨-, -, rfl, -⟩ := runExpr_text_some h
    simp
  | finish =>
    intro p a nodes q _ h
    obtain ⟨-, rfl, -⟩ := runExpr_finish_some h
    simp
  | rule r => exact hcall r
  | seq e₁ e₂ ih₁ ih₂ =>
    intro p a nodes q hp h
    obtain ⟨found, r, b, more, hfound, hmore, rfl⟩ := runExpr_seq_some h
    have hr := hp.leadsTo ((hexpr e₁ p a found r hfound).trans (hskip r))
    intro n hn
    rcases List.mem_append.mp hn with hn | hn
    · exact ih₁ p a found r hp hfound n hn
    · exact ih₂ _ b more q hr hmore n hn
  | choice e₁ e₂ ih₁ ih₂ =>
    intro p a nodes q hp h
    obtain h | ⟨b, h⟩ := runExpr_choice_some h
    · exact ih₁ p a nodes q hp h
    · exact ih₂ p b nodes q hp h
  | optional e ih =>
    intro p a nodes q hp h
    obtain h | ⟨rfl, -⟩ := runExpr_optional_some h
    · exact ih p a nodes q hp h
    · simp
  | many e ih =>
    intro p a nodes q hp h
    obtain ⟨rfl, -⟩ | ⟨found, r, n, b, more, hfound, hmore, rfl⟩ := runExpr_many_some h
    · simp
    · have hr := hp.leadsTo (hexpr e p a found r hfound)
      intro m hm
      rcases List.mem_append.mp hm with hm | hm
      · exact ih p a found r hp hfound m hm
      · exact runAgain_leaves hskip (hexpr e) ih n r b more q hr hmore m hm
  | «unless» e _ =>
    intro p a nodes q _ h
    obtain ⟨rfl, -⟩ := runExpr_unless_some h
    simp

theorem runRule_inToken (hlayout : LayoutSplits rules) (depth : Nat) (r : ρ) :
    Leaves text (fun _ => False) (runRule rules depth true r) := by
  induction depth generalizing r with
  | zero =>
    intro p a nodes q _ h
    cases h
  | succ depth ih =>
    have hbody : Leaves text (fun _ => False)
        (runExpr rules (runRule rules depth true) true (rules.body r)) :=
      runExpr_leaves hlayout (runRule_goesOn hlayout depth true) ih _
    intro p a nodes q hp h
    simp only [runRule, Bool.true_or, if_true] at h
    split at h
    · exact hbody p a nodes q hp h
    · obtain ⟨⟨kids, q'⟩, -, heq⟩ := Option.map_eq_some_iff.mp h
      cases heq
      simp

variable (hlayout : LayoutSplits rules)
  (hnode : ∀ depth r p q a kids, p.In text → (runBody rules depth r p a).result = some (kids, q) →
    (∀ k ∈ kids, P k) →
      P (.mk r ⟨p.offset, q.offset⟩ (takeBytes p.rest (q.offset - p.offset)) kids))
include hlayout hnode

theorem runRule_leaves (depth : Nat) (r : ρ) : Leaves text P (runRule rules depth false r) := by
  induction depth generalizing r with
  | zero =>
    intro p a nodes q _ h
    cases h
  | succ depth ih =>
    have hkids : Leaves text P (runBody rules depth r) := by
      rw [runBody]
      cases rules.style r == .token with
      | true =>
        have hnone : Leaves text (fun _ => False)
            (runExpr rules (runRule rules depth true) true (rules.body r)) :=
          runExpr_leaves hlayout (runRule_goesOn hlayout depth true)
            (runRule_inToken hlayout depth) _
        exact fun p a nodes q hp h n hn => (hnone p a nodes q hp h n hn).elim
      | false => exact runExpr_leaves hlayout (runRule_goesOn hlayout depth false) ih _
    intro p a nodes q hp h
    obtain ⟨kids, hbody, rfl⟩ := runRule_outside h
    have hbelow := hkids p a kids q hp hbody
    split
    · exact hbelow
    · intro n hn
      obtain rfl := List.mem_singleton.mp hn
      exact hnode depth r p q a kids hp hbody hbelow

/-- A property that passes from the nodes below to a node holds of what is recognised. -/
theorem recognize_leaves {count : Nat} {start : ρ} {node : Node ρ}
    (h : recognize rules count start text = .ok node) : P node := by
  unfold recognize at h
  dsimp only at h
  split at h
  · rename_i node' more q hresult
    cases h
    exact runRule_leaves hlayout hnode _ start _ _ _ q (Place.in_start text) hresult node
      List.mem_cons_self
  · cases h

end Leaves

inductive Node.In (text : List Char) : Node ρ → Prop
  | mk {r : ρ} {span : Span} {matched : List Char} {kids : List (Node ρ)}
      (hspan : span.PartOf text) (hkids : ∀ k ∈ kids, Node.In text k) :
      Node.In text (.mk r span matched kids)

theorem Node.In.span {n : Node ρ} (h : n.In text) : n.span.PartOf text := by
  cases h with
  | mk hspan _ => exact hspan

theorem Node.In.kids {n : Node ρ} (h : n.In text) : ∀ k ∈ n.children, k.In text := by
  cases h with
  | mk _ hkids => exact hkids

theorem recognize_in (hlayout : LayoutSplits rules) {count : Nat} {start : ρ} {node : Node ρ}
    (h : recognize rules count start text = .ok node) : node.In text := by
  refine recognize_leaves hlayout ?_ h
  intro depth r p q a kids hp hbody hkids
  exact .mk (hp.partOf (runBody_goesOn hlayout depth r p a kids q hbody)) hkids

/-- A rule is called in every match of an expression: it is a part of the sequence. -/
def Expr.Calls (r : ρ) : Expr ρ → Prop
  | .rule r' => r' = r
  | .seq e₁ e₂ => Expr.Calls r e₁ ∨ Expr.Calls r e₂
  | _ => False

theorem runExpr_calls {r : ρ}
    (h : ∀ p a nodes q, (call r p a).result = some (nodes, q) → ∃ n ∈ nodes, n.rule = r)
    (e : Expr ρ) (he : e.Calls r) : ∀ p a nodes q,
      (runExpr rules call inToken e p a).result = some (nodes, q) → ∃ n ∈ nodes, n.rule = r := by
  induction e with
  | rule r' =>
    obtain rfl : r' = r := he
    exact h
  | seq e₁ e₂ ih₁ ih₂ =>
    intro p a nodes q hr
    obtain ⟨found, r', b, more, hfound, hmore, rfl⟩ := runExpr_seq_some hr
    rcases he with he | he
    · obtain ⟨n, hn, hrule⟩ := ih₁ he p a found r' hfound
      exact ⟨n, List.mem_append_left _ hn, hrule⟩
    · obtain ⟨n, hn, hrule⟩ := ih₂ he _ b more q hmore
      exact ⟨n, List.mem_append_right _ hn, hrule⟩
  | char _ | text _ | finish | choice _ _ _ _ | optional _ _ | many _ _ | «unless» _ _ => cases he

/-- A rule that every match of another one calls leaves a node below. -/
theorem runBody_calls {r s : ρ} (hr : rules.style r ≠ .token) (hs : rules.style s ≠ .silent)
    (hcalls : (rules.body r).Calls s) {depth : Nat} {p q : Place} {a : Attempts ρ}
    {kids : List (Node ρ)} (h : (runBody rules depth r p a).result = some (kids, q)) :
    ∃ k ∈ kids, k.rule = s := by
  have houtside : (rules.style r == .token) = false := beq_eq_false_iff_ne.mpr hr
  have hown (p : Place) (a : Attempts ρ) (nodes : List (Node ρ)) (q : Place)
      (h : (runRule rules depth false s p a).result = some (nodes, q)) :
      ∃ n ∈ nodes, n.rule = s := by
    cases depth with
    | zero => cases h
    | succ depth =>
      obtain ⟨below, -, rfl⟩ := runRule_outside h
      rw [if_neg (by simpa using hs)]
      exact ⟨_, List.mem_cons_self, rfl⟩
  rw [runBody, houtside] at h
  exact runExpr_calls hown _ hcalls p a kids q h

end GrammarWorkbench.Recognizer
