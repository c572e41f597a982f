import GrammarWorkbench.Declaration.Read
import GrammarWorkbench.Proofs.Notation.Layout
import GrammarWorkbench.Proofs.Reading.Matches

/-!
# Phrases read from words

What an expression does outside tokens, said of words in place of characters: it `Reads` some of the
words it stands at, whatever layout is between them, or `Refuses` them. One lemma for each form of
expression builds these up. Most refusals follow from the first character alone: `starts` tells with
which characters a phrase can start.
-/

set_option autoImplicit false

namespace GrammarWorkbench.Declaration

open GrammarWorkbench.Text GrammarWorkbench.Recognizer GrammarWorkbench.Declaration.Phrase

@[simp] theorem rules_style (r : Phrase) : rules.style r = style r := rfl

abbrev outside (d : Nat) (e : Expr Phrase) : Matcher Phrase :=
  runExpr rules (runRule rules d false) false e

/-- At the words `ws` with the words `vs` behind them, an expression takes the former and leaves
nodes with a property. -/
def Reads (d : Nat) (e : Expr Phrase) (ws vs : List Word) (P : List PhraseNode → Prop) : Prop :=
  ∀ p, At (ws ++ vs) p → ∃ nodes q, Yields (outside d e) p nodes q ∧ Near vs q ∧ P nodes

def Refuses (d : Nat) (e : Expr Phrase) (ws : List Word) : Prop :=
  ∀ p, At ws p → Fails (outside d e) p

def Beside (P Q : List PhraseNode → Prop) (nodes : List PhraseNode) : Prop :=
  ∃ before behind, nodes = before ++ behind ∧ P before ∧ Q behind

def Each {α : Type} (P : α → List PhraseNode → Prop) : List α → List PhraseNode → Prop
  | [] => (· = [])
  | x :: xs => Beside (P x) (Each P xs)

theorem Each.forall_mem {α : Type} {P : α → List PhraseNode → Prop} {Q : PhraseNode → Prop}
    {xs : List α} {nodes : List PhraseNode} (h : Each P xs nodes)
    (hP : ∀ x nodes, P x nodes → ∀ n ∈ nodes, Q n) : ∀ n ∈ nodes, Q n := by
  induction xs generalizing nodes with
  | nil =>
    obtain rfl : nodes = [] := h
    simp
  | cons x xs ih =>
    obtain ⟨before, behind, rfl, hbefore, hbehind⟩ := h
    exact List.forall_mem_append.mpr ⟨hP x before hbefore, ih hbehind⟩

def OfPhrase (r : Phrase) (P : List PhraseNode → Prop) (nodes : List PhraseNode) : Prop :=
  ∃ span text kids, nodes = [.mk r span text kids] ∧ P kids

def OfToken (r : Phrase) (w : Word) (nodes : List PhraseNode) : Prop :=
  ∃ span, nodes = [.mk r span w []]

section Combined

variable {d : Nat} {e e₁ e₂ : Expr Phrase} {w : Word} {ws us vs : List Word}
  {P Q : List PhraseNode → Prop} {r : Phrase}

theorem Reads.imp (h : Reads d e ws vs P) (himp : ∀ nodes, P nodes → Q nodes) :
    Reads d e ws vs Q := by
  intro p hp
  obtain ⟨nodes, q, hyields, hq, hP⟩ := h p hp
  exact ⟨nodes, q, hyields, hq, himp nodes hP⟩

theorem Reads.seq (h₁ : Reads d e₁ ws (us ++ vs) P) (h₂ : Reads d e₂ us vs Q) :
    Reads d (.seq e₁ e₂) (ws ++ us) vs (Beside P Q) := by
  intro p hp
  rw [List.append_assoc] at hp
  obtain ⟨before, q, hyields, hq, hP⟩ := h₁ p hp
  obtain ⟨behind, q', hyields', hq', hQ⟩ := h₂ _ hq.skipLayout
  exact ⟨before ++ behind, q', yields_seq hyields hyields', hq', before, behind, rfl, hP, hQ⟩

theorem Reads.choice_left (h : Reads d e₁ ws vs P) : Reads d (.choice e₁ e₂) ws vs P := by
  intro p hp
  obtain ⟨nodes, q, hyields, hq, hP⟩ := h p hp
  exact ⟨nodes, q, yields_choice_left hyields, hq, hP⟩

theorem Reads.choice_right (h₁ : Refuses d e₁ (ws ++ vs)) (h₂ : Reads d e₂ ws vs P) :
    Reads d (.choice e₁ e₂) ws vs P := by
  intro p hp
  obtain ⟨nodes, q, hyields, hq, hP⟩ := h₂ p hp
  exact ⟨nodes, q, yields_choice_right (h₁ p hp) hyields, hq, hP⟩

theorem Reads.optional (h : Reads d e ws vs P) : Reads d (.optional e) ws vs P := by
  intro p hp
  obtain ⟨nodes, q, hyields, hq, hP⟩ := h p hp
  exact ⟨nodes, q, yields_optional hyields, hq, hP⟩

theorem Reads.optional_missing (h : Refuses d e vs) : Reads d (.optional e) [] vs (· = []) := by
  intro p hp
  exact ⟨[], p, yields_optional_missing (h p hp), hp.near, rfl⟩

theorem Reads.finish : Reads d .finish [] [] (· = []) := by
  intro p hp
  exact ⟨[], p, yields_finish hp.nil, hp.near, rfl⟩

theorem Reads.plain (hr : style r = .plain) (hd : 1 ≤ d) (h : Reads (d - 1) (body r) ws vs P) :
    Reads d (.rule r) ws vs (OfPhrase r P) := by
  obtain ⟨d, rfl⟩ := Nat.exists_eq_add_of_le' hd
  intro p hp
  obtain ⟨nodes, q, hyields, hq, hP⟩ := h p hp
  have htoken : (rules.style r == .token) = false := by simp [hr]
  have hbody : Yields (runExpr rules (runRule rules d (rules.style r == .token))
      (rules.style r == .token) (rules.body r)) p nodes q := by
    rw [htoken]
    exact hyields
  exact ⟨_, q, yields_node (by simp [hr]) hbody, hq, _, _, nodes, rfl, hP⟩

theorem Reads.silent (hr : style r = .silent) (hd : 1 ≤ d) (h : Reads (d - 1) (body r) ws vs P) :
    Reads d (.rule r) ws vs P := by
  obtain ⟨d, rfl⟩ := Nat.exists_eq_add_of_le' hd
  intro p hp
  obtain ⟨nodes, q, hyields, hq, hP⟩ := h p hp
  exact ⟨nodes, q, yields_silent hr hyields, hq, hP⟩

/-- A token rule reads a word that its body takes whatever stands behind the word. -/
theorem Reads.token (hr : style r = .token) (hd : 1 ≤ d)
    (h : ∀ rest offset, Apart rest →
      Yields (runExpr rules (runRule rules (d - 1) true) true (body r))
        ⟨w ++ rest, offset⟩ [] ⟨rest, offset + byteLength w⟩) :
    Reads d (.rule r) [w] vs (OfToken r w) := by
  obtain ⟨d, rfl⟩ := Nat.exists_eq_add_of_le' hd
  intro p hp
  obtain ⟨rest, hrest, -, hapart, hnear⟩ := At.cons hp
  have htoken : (rules.style r == .token) = true := by simp [hr]
  have hplace : p = ⟨w ++ rest, p.offset⟩ := by rw [← hrest]
  have hbody : Yields (runExpr rules (runRule rules d (rules.style r == .token))
      (rules.style r == .token) (rules.body r)) p [] ⟨rest, p.offset + byteLength w⟩ := by
    rw [htoken, hplace]
    exact h rest p.offset hapart
  have htext : takeBytes p.rest (p.offset + byteLength w - p.offset) = w := by
    rw [hrest, Nat.add_sub_cancel_left, takeBytes_append]
  have hnode := yields_node (by simp [hr]) hbody
  rw [htext] at hnode
  exact ⟨_, _, hnode, hnear _, _, rfl⟩

theorem Reads.lit (s : String) : Reads d (Expr.lit s) [s.toList] vs (· = []) := by
  intro p hp
  obtain ⟨rest, hrest, -, -, hnear⟩ := At.cons hp
  exact ⟨[], p.after s.toList rest, yields_text hrest, hnear _, rfl⟩

theorem Refuses.seq_left (h : Refuses d e₁ ws) : Refuses d (.seq e₁ e₂) ws :=
  fun p hp => fails_seq_left (h p hp)

theorem Refuses.seq_right (h₁ : Reads d e₁ ws vs P) (h₂ : Refuses d e₂ vs) :
    Refuses d (.seq e₁ e₂) (ws ++ vs) := by
  intro p hp
  obtain ⟨nodes, q, hyields, hq, -⟩ := h₁ p hp
  exact fails_seq_right hyields (h₂ _ hq.skipLayout)

theorem Refuses.choice (h₁ : Refuses d e₁ ws) (h₂ : Refuses d e₂ ws) :
    Refuses d (.choice e₁ e₂) ws :=
  fun p hp => fails_choice (h₁ p hp) (h₂ p hp)

theorem Refuses.rule (hr : style r ≠ .token) (h : Refuses (d - 1) (body r) ws) :
    Refuses d (.rule r) ws := by
  intro p hp
  have htoken : (rules.style r == .token) = false := by simpa using hr
  refine fails_rule fun d' hd' => ?_
  subst hd'
  rw [Bool.false_or, htoken]
  exact h p hp

theorem Refuses.token (hr : style r = .token)
    (h : ∀ p, At ws p → Fails (runExpr rules (runRule rules (d - 1) true) true (body r)) p) :
    Refuses d (.rule r) ws := by
  intro p hp
  have htoken : (rules.style r == .token) = true := by simp [hr]
  refine fails_rule fun d' hd' => ?_
  subst hd'
  rw [Bool.false_or, htoken]
  exact h p hp

/-- A fixed text with which the first word does not start is refused. -/
theorem Refuses.lit {s : String} (hs : s.toList.all opens = true) (h : ¬ s.toList <+: w) :
    Refuses d (Expr.lit s) (w :: ws) :=
  fun _ hp => fails_text fun hprefix => h (hp.starts_word (List.all_eq_true.mp hs) hprefix)

end Combined

section Repeated

variable {α : Type} {d : Nat} {e : Expr Phrase} {ws us vs : List Word}
  {P Q : List PhraseNode → Prop}

/-- What is left of a repetition takes the words `ws`, in no more matches than there are words. -/
def ReadsAgain (d : Nat) (e : Expr Phrase) (ws vs : List Word) (P : List PhraseNode → Prop) :
    Prop :=
  ∀ p, Near (ws ++ vs) p → ∃ k nodes q,
    Repeats (skipLayout rules false) (outside d e) k p nodes q ∧ k ≤ ws.length ∧ Near vs q ∧
      P nodes

theorem ReadsAgain.stop (h : Refuses d e vs) : ReadsAgain d e [] vs (· = []) := by
  intro p hp
  exact ⟨0, [], p, .stop (h _ hp.skipLayout), Nat.le_refl 0, hp, rfl⟩

theorem ReadsAgain.next (h : Reads d e ws (us ++ vs) P) (hne : ws ≠ [])
    (hmore : ReadsAgain d e us vs Q) : ReadsAgain d e (ws ++ us) vs (Beside P Q) := by
  intro p hp
  rw [List.append_assoc] at hp
  obtain ⟨before, q, hyields, hq, hP⟩ := h _ hp.skipLayout
  obtain ⟨k, behind, q', hrepeats, hk, hq', hQ⟩ := hmore q hq
  refine ⟨k + 1, before ++ behind, q', .next hyields hrepeats, ?_, hq', before, behind, rfl, hP, hQ⟩
  have hpos := List.length_pos_iff.mpr hne
  rw [List.length_append]
  omega

theorem Reads.many_none (h : Refuses d e vs) : Reads d (.many e) [] vs (· = []) := by
  intro p hp
  exact ⟨[], p, yields_many_none (h p hp), hp.near, rfl⟩

theorem Reads.many_next (h : Reads d e ws (us ++ vs) P) (hmore : ReadsAgain d e us vs Q) :
    Reads d (.many e) (ws ++ us) vs (Beside P Q) := by
  intro p hp
  rw [List.append_assoc] at hp
  obtain ⟨before, q, hyields, hq, hP⟩ := h p hp
  obtain ⟨k, behind, q', hrepeats, hk, hq', hQ⟩ := hmore q hq
  have hlength := hq.length_le
  rw [List.length_append] at hlength
  exact ⟨before ++ behind, q', yields_many hyields hrepeats (by omega), hq', before, behind, rfl,
    hP, hQ⟩

variable {f : α → List Word} {F : List Word → Prop} {R : α → List PhraseNode → Prop}
  {xs : List α}

/-- The words of each of a list are followed by those of the next, or by what follows all. -/
theorem follows_flatMap (hF : ∀ x ∈ xs, ∀ us, F (f x ++ us)) (hvs : F vs) :
    F (xs.flatMap f ++ vs) := by
  cases xs with
  | nil => exact hvs
  | cons x xs =>
    rw [List.flatMap_cons, List.append_assoc]
    exact hF x List.mem_cons_self _

theorem readsAgain_each (hitem : ∀ x ∈ xs, ∀ us, F us → Reads d e (f x) us (R x))
    (hne : ∀ x ∈ xs, f x ≠ []) (hF : ∀ x ∈ xs, ∀ us, F (f x ++ us)) (hvs : F vs)
    (hstop : Refuses d e vs) : ReadsAgain d e (xs.flatMap f) vs (Each R xs) := by
  induction xs with
  | nil => exact .stop hstop
  | cons x xs ih =>
    have hfollows : F (xs.flatMap f ++ vs) :=
      follows_flatMap (fun y hy => hF y (List.mem_cons_of_mem _ hy)) hvs
    exact .next (hitem x List.mem_cons_self _ hfollows) (hne x List.mem_cons_self)
      (ih (fun y hy => hitem y (List.mem_cons_of_mem _ hy))
        (fun y hy => hne y (List.mem_cons_of_mem _ hy))
        (fun y hy => hF y (List.mem_cons_of_mem _ hy)))

/-- A repetition reads the words of a list, when its body reads those of each member before
anything of the kind that follows a member. -/
theorem Reads.many_each (hitem : ∀ x ∈ xs, ∀ us, F us → Reads d e (f x) us (R x))
    (hne : ∀ x ∈ xs, f x ≠ []) (hF : ∀ x ∈ xs, ∀ us, F (f x ++ us)) (hvs : F vs)
    (hstop : Refuses d e vs) : Reads d (.many e) (xs.flatMap f) vs (Each R xs) := by
  cases xs with
  | nil => exact .many_none hstop
  | cons x xs =>
    have hmore := readsAgain_each (fun y hy => hitem y (List.mem_cons_of_mem _ hy))
      (fun y hy => hne y (List.mem_cons_of_mem _ hy))
      (fun y hy => hF y (List.mem_cons_of_mem _ hy)) hvs hstop
    have hfollows : F (xs.flatMap f ++ vs) :=
      follows_flatMap (fun y hy => hF y (List.mem_cons_of_mem _ hy)) hvs
    exact .many_next (hitem x List.mem_cons_self _ hfollows) hmore

/-- What is left of a separated list is read with its separators. -/
theorem Reads.many_separated {sep : String}
    (hitem : ∀ x ∈ xs, ∀ us, F us → Reads d e (f x) us (R x))
    (hF : ∀ us, F (sep.toList :: us)) (hvs : F vs) (hstop : Refuses d (Expr.lit sep) vs) :
    Reads d (.many (.seq (Expr.lit sep) e)) (xs.flatMap (sep.toList :: f ·)) vs (Each R xs) := by
  have hbranch : ∀ y ∈ xs, ∀ us, F us →
      Reads d (.seq (Expr.lit sep) e) (sep.toList :: f y) us (R y) := by
    intro y hy us hus
    refine (Reads.seq (.lit sep) (hitem y hy us hus)).imp ?_
    rintro nodes ⟨before, behind, rfl, rfl, hR⟩
    exact hR
  exact .many_each hbranch (fun _ _ => List.cons_ne_nil _ _) (fun _ _ us => hF _) hvs
    (.seq_left hstop)

theorem joined_cons (sep : String) (x : α) (xs : List α) :
    joined sep ((x :: xs).map f) = f x ++ xs.flatMap (sep.toList :: f ·) := by
  simp [joined, List.flatMap_map]

theorem Reads.separated {sep : String} (hxs : xs ≠ [])
    (hitem : ∀ x ∈ xs, ∀ us, F us → Reads d e (f x) us (R x))
    (hF : ∀ us, F (sep.toList :: us)) (hvs : F vs) (hstop : Refuses d (Expr.lit sep) vs) :
    Reads d (separated sep e) (joined sep (xs.map f)) vs (Each R xs) := by
  obtain ⟨x, xs, rfl⟩ := List.exists_cons_of_ne_nil hxs
  have hmore : Reads d (.many (.seq (Expr.lit sep) e)) (xs.flatMap (sep.toList :: f ·)) vs
      (Each R xs) :=
    .many_separated (fun y hy => hitem y (List.mem_cons_of_mem _ hy)) hF hvs hstop
  have hfollows : F (xs.flatMap (sep.toList :: f ·) ++ vs) :=
    follows_flatMap (fun _ _ us => hF _) hvs
  rw [joined_cons]
  exact .seq (hitem x List.mem_cons_self _ hfollows) hmore

end Repeated

section Starts

def mayMiss (call : Phrase → Bool) : Expr Phrase → Bool
  | .char _ => false
  | .text t => t.isEmpty
  | .rule r => call r
  | .seq e₁ e₂ => mayMiss call e₁ && mayMiss call e₂
  | .choice e₁ e₂ => mayMiss call e₁ || mayMiss call e₂
  | .finish | .optional _ | .many _ | .unless _ => true

def misses : Nat → Phrase → Bool
  | 0, _ => true
  | k + 1, r => mayMiss (misses k) (body r)

def mayStart (miss : Phrase → Bool) (call : Phrase → Option Char → Bool) :
    Expr Phrase → Option Char → Bool
  | .char test, first => first.any test
  | .text t, first => bif t.isEmpty then false else t.head? == first
  | .rule r, first => call r first
  | .seq e₁ e₂, first =>
    bif mayMiss miss e₁ then mayStart miss call e₁ first || mayStart miss call e₂ first
    else mayStart miss call e₁ first
  | .choice e₁ e₂, first => mayStart miss call e₁ first || mayStart miss call e₂ first
  | .optional e, first => mayStart miss call e first
  | .many e, first => mayStart miss call e first || mayMiss miss e
  | .finish, _ | .unless _, _ => false

def starts : Nat → Phrase → Option Char → Bool
  | 0, _, _ => true
  | k + 1, r, first => mayStart (misses k) (starts k) (body r) first

variable {d : Nat} {inToken : Bool} {p : Place}

def TakesNothing (m : Matcher Phrase) (p : Place) (miss : Bool) : Prop :=
  ∀ a nodes q, (m p a).result = some (nodes, q) → miss = true ∧ q = p

/-- What an expression matches takes nothing where it cannot start, if that holds of the rules it
calls. -/
theorem runExpr_takesNothing {call : Phrase → Matcher Phrase} {miss : Phrase → Bool}
    {start : Phrase → Option Char → Bool} (hskip : skipLayout rules inToken p = p)
    (hcall : ∀ r, start r p.rest.head? = false → TakesNothing (call r) p (miss r))
    (e : Expr Phrase) (hstart : mayStart miss start e p.rest.head? = false) :
    TakesNothing (runExpr rules call inToken e) p (mayMiss miss e) := by
  induction e with
  | char test =>
    intro a nodes q h
    obtain ⟨c, cs, hrest, hc, -, -⟩ := runExpr_char_some h
    simp [mayStart, hrest, hc] at hstart
  | text t =>
    intro a nodes q h
    obtain ⟨cs, hrest, -, rfl⟩ := runExpr_text_some h
    cases t with
    | nil =>
      obtain rfl : p.rest = cs := hrest
      exact ⟨rfl, rfl⟩
    | cons c t => simp [mayStart, hrest] at hstart
  | finish =>
    intro a nodes q h
    obtain ⟨-, -, rfl⟩ := runExpr_finish_some h
    exact ⟨rfl, rfl⟩
  | rule r => exact hcall r hstart
  | seq e₁ e₂ ih₁ ih₂ =>
    have hstarts : mayStart miss start e₁ p.rest.head? = false ∧
        (mayMiss miss e₁ = true → mayStart miss start e₂ p.rest.head? = false) := by
      cases hmiss : mayMiss miss e₁ <;> simp_all [mayStart]
    intro a nodes q h
    obtain ⟨found, r, b, more, hfound, hmore, -⟩ := runExpr_seq_some h
    obtain ⟨hmiss, rfl⟩ := ih₁ hstarts.1 a found r hfound
    rw [hskip] at hmore
    obtain ⟨hmiss', rfl⟩ := ih₂ (hstarts.2 hmiss) b more q hmore
    exact ⟨by simp [mayMiss, hmiss, hmiss'], rfl⟩
  | choice e₁ e₂ ih₁ ih₂ =>
    simp only [mayStart, Bool.or_eq_false_iff] at hstart
    intro a nodes q h
    obtain h | ⟨b, h⟩ := runExpr_choice_some h
    · obtain ⟨hmiss, rfl⟩ := ih₁ hstart.1 a nodes q h
      exact ⟨by simp [mayMiss, hmiss], rfl⟩
    · obtain ⟨hmiss, rfl⟩ := ih₂ hstart.2 b nodes q h
      exact ⟨by simp [mayMiss, hmiss], rfl⟩
  | optional e ih =>
    intro a nodes q h
    obtain h | ⟨-, rfl⟩ := runExpr_optional_some h
    · exact ⟨rfl, (ih hstart a nodes q h).2⟩
    · exact ⟨rfl, rfl⟩
  | many e ih =>
    simp only [mayStart, Bool.or_eq_false_iff] at hstart
    intro a nodes q h
    obtain ⟨-, rfl⟩ | ⟨found, r, -, -, -, hfound, -, -⟩ := runExpr_many_some h
    · exact ⟨rfl, rfl⟩
    · have hmiss := (ih hstart.1 a found r hfound).1
      rw [hstart.2] at hmiss
      cases hmiss
  | «unless» e _ =>
    intro a nodes q h
    obtain ⟨-, rfl⟩ := runExpr_unless_some h
    exact ⟨rfl, rfl⟩

theorem runRule_takesNothing (k : Nat) (r : Phrase) (hskip : skipLayout rules inToken p = p)
    (hstart : starts k r p.rest.head? = false) :
    TakesNothing (runRule rules d inToken r) p (misses k r) := by
  induction k generalizing d inToken r with
  | zero => cases hstart
  | succ k ih =>
    cases d with
    | zero =>
      intro a nodes q h
      cases h
    | succ d =>
      have hskip' : skipLayout rules (inToken || rules.style r == .token) p = p := by
        cases hinside : inToken || rules.style r == .token with
        | true => rfl
        | false =>
          rw [Bool.or_eq_false_iff] at hinside
          rw [← hinside.1]
          exact hskip
      have hbody := runExpr_takesNothing hskip' (fun r' => ih (d := d) r' hskip') (body r) hstart
      intro a nodes q h
      obtain ⟨kids, hkids⟩ := runRule_some h
      exact hbody a kids q hkids

/-- An expression that must take something refuses words with whose first character it cannot
start. -/
theorem Refuses.of_starts (k : Nat) {e : Expr Phrase} {ws : List Word}
    (hstart : mayStart (misses k) (starts k) e (firstChar ws) = false)
    (hmiss : mayMiss (misses k) e = false) : Refuses d e ws := by
  intro p hp a
  rw [← hp.head?_rest] at hstart
  have hnothing := runExpr_takesNothing hp.skipLayout_eq
    (fun r hr => runRule_takesNothing (d := d) k r hp.skipLayout_eq hr) e hstart
  cases h : (outside d e p a).result with
  | none => rfl
  | some result =>
    have htrue := (hnothing a result.1 result.2 h).1
    rw [hmiss] at htrue
    cases htrue

end Starts

end GrammarWorkbench.Declaration
