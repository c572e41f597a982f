import GrammarWorkbench.Declaration.Phrase
import GrammarWorkbench.Proofs.Reading.Matches

/-!
# Places in a recognised text

Recognition goes through a text from the left: what it has taken and what is left make up the text,
and the offset is the length of what is taken. So the furthest offset that was reached lies between
two characters.
-/

set_option autoImplicit false

namespace GrammarWorkbench.Text

def Span.PartOf (span : Span) (text : List Char) : Prop :=
  ∃ before inside after, text = before ++ inside ++ after ∧
    span = ⟨byteLength before, byteLength before + byteLength inside⟩

def IsBoundary (text : List Char) (offset : Nat) : Prop :=
  ∃ before after, text = before ++ after ∧ offset = byteLength before

theorem isBoundary_zero (text : List Char) : IsBoundary text 0 := ⟨[], text, rfl, rfl⟩

theorem IsBoundary.partOf_empty {text : List Char} {offset : Nat} (h : IsBoundary text offset) :
    (Span.empty offset).PartOf text := by
  obtain ⟨before, after, rfl, rfl⟩ := h
  exact ⟨before, [], after, by simp, rfl⟩

theorem Span.PartOf.start_boundary {span : Span} {text : List Char} (h : span.PartOf text) :
    IsBoundary text span.start := by
  obtain ⟨before, inside, after, rfl, rfl⟩ := h
  exact ⟨before, inside ++ after, by simp, rfl⟩

theorem Span.PartOf.stop_boundary {span : Span} {text : List Char} (h : span.PartOf text) :
    IsBoundary text span.stop := by
  obtain ⟨before, inside, after, rfl, rfl⟩ := h
  exact ⟨before ++ inside, after, rfl, by simp⟩

theorem Span.PartOf.start_le_stop {span : Span} {text : List Char} (h : span.PartOf text) :
    span.start ≤ span.stop := by
  obtain ⟨before, inside, after, -, rfl⟩ := h
  exact Nat.le_add_right _ _

theorem IsBoundary.le_length {text : List Char} {offset : Nat} (h : IsBoundary text offset) :
    offset ≤ byteLength text := by
  obtain ⟨before, after, rfl, rfl⟩ := h
  simp

/-- What is behind an offset is the end of the text that starts there. -/
theorem dropBytes?_eq_some {text rest : List Char} {offset : Nat} :
    dropBytes? text offset = some rest ↔
      ∃ before, text = before ++ rest ∧ offset = byteLength before := by
  constructor
  · intro h
    fun_induction dropBytes? text offset with
    | case1 text =>
      cases h
      exact ⟨[], rfl, rfl⟩
    | case2 => cases h
    | case3 c cs n hle ih =>
      obtain ⟨before, rfl, hoffset⟩ := ih h
      refine ⟨c :: before, rfl, ?_⟩
      rw [byteLength_cons]
      omega
    | case4 => cases h
  · rintro ⟨before, rfl, rfl⟩
    induction before with
    | nil =>
      rw [List.nil_append, byteLength_nil]
      unfold dropBytes?
      cases rest <;> rfl
    | cons c before ih =>
      obtain ⟨n, hn⟩ := Nat.exists_eq_add_of_lt c.utf8Size_pos
      have hsucc : byteLength (c :: before) = n + byteLength before + 1 := by
        rw [byteLength_cons]
        omega
      have hle : c.utf8Size ≤ n + byteLength before + 1 := by omega
      have hrest : n + byteLength before + 1 - c.utf8Size = byteLength before := by omega
      rw [List.cons_append, hsucc, dropBytes?, if_pos hle, hrest, ih]

theorem IsBoundary.dropBytes_isSome {text : List Char} {offset : Nat}
    (h : IsBoundary text offset) : (dropBytes? text offset).isSome := by
  obtain ⟨before, after, htext, hoffset⟩ := h
  rw [dropBytes?_eq_some.mpr ⟨before, htext, hoffset⟩]
  rfl

theorem splitAt?_append {marker text before behind : List Char}
    (h : splitAt? marker text = some (before, behind)) : text = before ++ marker ++ behind := by
  induction text generalizing before with
  | nil => cases h
  | cons c cs ih =>
    unfold splitAt? at h
    split at h
    · rename_i hprefix
      cases h
      obtain ⟨rest, hrest⟩ := List.isPrefixOf_iff_prefix.mp hprefix
      rw [← hrest]
      simp
    · obtain ⟨⟨before', behind'⟩, hsplit, heq⟩ := Option.map_eq_some_iff.mp h
      cases heq
      rw [ih hsplit]
      rfl

end GrammarWorkbench.Text

namespace GrammarWorkbench.Recognizer

open GrammarWorkbench.Text

variable {ρ : Type} {rules : Rules ρ} {text : List Char}

/-- A place in a text: what follows it is the end of the text, and its offset is the length of the
rest. -/
def Place.In (p : Place) (text : List Char) : Prop :=
  ∃ before, text = before ++ p.rest ∧ p.offset = byteLength before

def Place.LeadsTo (p q : Place) : Prop :=
  ∃ taken, p.rest = taken ++ q.rest ∧ q.offset = p.offset + byteLength taken

namespace Place

variable {p q r : Place}

theorem LeadsTo.refl (p : Place) : p.LeadsTo p := ⟨[], rfl, rfl⟩

theorem LeadsTo.trans (h : p.LeadsTo q) (h' : q.LeadsTo r) : p.LeadsTo r := by
  obtain ⟨taken, hrest, hoffset⟩ := h
  obtain ⟨more, hrest', hoffset'⟩ := h'
  refine ⟨taken ++ more, by rw [hrest, hrest', List.append_assoc], ?_⟩
  rw [hoffset', hoffset, byteLength_append]
  omega

theorem leadsTo_after {taken rest : List Char} (h : p.rest = taken ++ rest) :
    p.LeadsTo (p.after taken rest) :=
  ⟨taken, h, rfl⟩

theorem In.leadsTo (h : p.In text) (hlead : p.LeadsTo q) : q.In text := by
  obtain ⟨before, htext, hoffset⟩ := h
  obtain ⟨taken, hrest, hoffset'⟩ := hlead
  refine ⟨before ++ taken, by rw [htext, hrest, List.append_assoc], ?_⟩
  rw [hoffset', hoffset, byteLength_append]

theorem In.boundary (h : p.In text) : IsBoundary text p.offset := by
  obtain ⟨before, htext, hoffset⟩ := h
  exact ⟨before, p.rest, htext, hoffset⟩

theorem In.partOf (h : p.In text) (hlead : p.LeadsTo q) :
    (⟨p.offset, q.offset⟩ : Span).PartOf text := by
  obtain ⟨before, htext, hoffset⟩ := h
  obtain ⟨taken, hrest, hoffset'⟩ := hlead
  refine ⟨before, taken, q.rest, by rw [htext, hrest, List.append_assoc], ?_⟩
  rw [hoffset', hoffset]

end Place

def LayoutSplits (rules : Rules ρ) : Prop :=
  ∀ cs, (rules.layout cs).1 ++ (rules.layout cs).2 = cs

theorem skipLayout_leadsTo (h : LayoutSplits rules) (inToken : Bool) (p : Place) :
    p.LeadsTo (skipLayout rules inToken p) := by
  unfold skipLayout
  split
  · exact .refl p
  · exact Place.leadsTo_after (h p.rest).symm

def GoesOn (m : Matcher ρ) : Prop :=
  ∀ p a nodes q, (m p a).result = some (nodes, q) → p.LeadsTo q

section GoesOn

variable {call : ρ → Matcher ρ}

theorem runAgain_goesOn {skip : Place → Place} {item : Matcher ρ}
    (hskip : ∀ p : Place, p.LeadsTo (skip p)) (hitem : GoesOn item) (n : Nat) :
    ∀ p a nodes q, (runAgain skip item n p a).2 = (nodes, q) → p.LeadsTo q := by
  induction n with
  | zero =>
    intro p a nodes q h
    cases h
    exact .refl p
  | succ n ih =>
    intro p a nodes q h
    obtain ⟨-, rfl⟩ | ⟨found, r, b, more, hfound, hmore, -⟩ := runAgain_succ h
    · exact .refl _
    · exact ((hskip p).trans (hitem _ a found r hfound)).trans (ih r b more q hmore)

theorem runExpr_goesOn (hlayout : LayoutSplits rules) (hcall : ∀ r, GoesOn (call r)) {inToken : Bool}
    (e : Expr ρ) : GoesOn (runExpr rules call inToken e) := by
  have hskip := skipLayout_leadsTo hlayout inToken
  induction e with
  | char test =>
    intro p a nodes q h
    obtain ⟨c, cs, hrest, -, -, rfl⟩ := runExpr_char_some h
    exact Place.leadsTo_after hrest
  | text t =>
    intro p a nodes q h
    obtain ⟨cs, hrest, -, rfl⟩ := runExpr_text_some h
    exact Place.leadsTo_after hrest
  | finish =>
    intro p a nodes q h
    obtain ⟨-, -, rfl⟩ := runExpr_finish_some h
    exact .refl _
  | rule r => exact hcall r
  | seq e₁ e₂ ih₁ ih₂ =>
    intro p a nodes q h
    obtain ⟨found, r, b, more, hfound, hmore, -⟩ := runExpr_seq_some h
    exact ((ih₁ p a found r hfound).trans (hskip r)).trans (ih₂ _ b more q hmore)
  | choice e₁ e₂ ih₁ ih₂ =>
    intro p a nodes q h
    obtain h | ⟨b, h⟩ := runExpr_choice_some h
    · exact ih₁ p a nodes q h
    · exact ih₂ p b nodes q h
  | optional e ih =>
    intro p a nodes q h
    obtain h | ⟨-, rfl⟩ := runExpr_optional_some h
    · exact ih p a nodes q h
    · exact .refl _
  | many e ih =>
    intro p a nodes q h
    obtain ⟨-, rfl⟩ | ⟨found, r, n, b, more, hfound, hmore, -⟩ := runExpr_many_some h
    · exact .refl _
    · exact (ih p a found r hfound).trans (runAgain_goesOn hskip ih n r b more q hmore)
  | «unless» e _ =>
    intro p a nodes q h
    obtain ⟨-, rfl⟩ := runExpr_unless_some h
    exact .refl _

theorem runRule_goesOn (hlayout : LayoutSplits rules) (depth : Nat) (inToken : Bool) (r : ρ) :
    GoesOn (runRule rules depth inToken r) := by
  induction depth generalizing inToken r with
  | zero =>
    intro p a nodes q h
    cases h
  | succ depth ih =>
    intro p a nodes q h
    obtain ⟨kids, hbody⟩ := runRule_some h
    exact runExpr_goesOn hlayout (ih _) _ p a kids q hbody

theorem runBody_goesOn (hlayout : LayoutSplits rules) (depth : Nat) (r : ρ) :
    GoesOn (runBody rules depth r) :=
  runExpr_goesOn hlayout (runRule_goesOn hlayout depth _) _

end GoesOn

/-- A way to match that reaches only offsets between characters of a text. -/
def StaysIn (text : List Char) (m : Matcher ρ) : Prop :=
  ∀ p a, p.In text → IsBoundary text a.furthest → IsBoundary text (m p a).attempts.furthest

section StaysIn

variable {call : ρ → Matcher ρ}

theorem runAgain_staysIn {skip : Place → Place} {item : Matcher ρ}
    (hskip : ∀ p : Place, p.LeadsTo (skip p)) (hon : GoesOn item) (hitem : StaysIn text item)
    (n : Nat) (p : Place) (a : Attempts ρ) (hp : p.In text) (ha : IsBoundary text a.furthest) :
    IsBoundary text (runAgain skip item n p a).1.furthest := by
  induction n generalizing p a with
  | zero => exact ha
  | succ n ih =>
    have hp' := hp.leadsTo (hskip p)
    have hfurthest := hitem (skip p) a hp' ha
    simp only [runAgain]
    split
    · exact hfurthest
    · rename_i found q hfound
      exact ih q _ (hp'.leadsTo (hon _ a found q hfound)) hfurthest

theorem runExpr_staysIn (hlayout : LayoutSplits rules) (hon : ∀ r, GoesOn (call r))
    (hcall : ∀ r, StaysIn text (call r)) (inToken : Bool) (e : Expr ρ) :
    StaysIn text (runExpr rules call inToken e) := by
  have hskip := skipLayout_leadsTo hlayout inToken
  have hexpr : ∀ e, GoesOn (runExpr rules call inToken e) := runExpr_goesOn hlayout hon
  induction e with
  | char test =>
    intro p a hp ha
    simp only [runExpr]
    split
    · exact ha
    · split <;> exact ha
  | text t => exact fun p a _ ha => ha
  | finish => exact fun p a _ ha => ha
  | rule r => exact hcall r
  | seq e₁ e₂ ih₁ ih₂ =>
    intro p a hp ha
    have hfurthest := ih₁ p a hp ha
    simp only [runExpr]
    split
    · exact hfurthest
    · rename_i found q hfound
      have hlead := (hexpr e₁ p a found q hfound).trans (hskip q)
      exact ih₂ _ _ (hp.leadsTo hlead) hfurthest
  | choice e₁ e₂ ih₁ ih₂ =>
    intro p a hp ha
    have hfurthest := ih₁ p a hp ha
    simp only [runExpr]
    split
    · exact ih₂ p _ hp hfurthest
    · exact hfurthest
  | optional e ih => exact ih
  | many e ih =>
    intro p a hp ha
    have hfurthest := ih p a hp ha
    simp only [runExpr]
    split
    · exact hfurthest
    · rename_i found q hfound
      exact runAgain_staysIn hskip (hexpr e) ih _ q _
        (hp.leadsTo (hexpr e p a found q hfound)) hfurthest
  | «unless» e ih => exact ih

theorem Attempts.fail_boundary {before a : Attempts ρ} {r : ρ} {offset : Nat}
    (ha : IsBoundary text a.furthest) (hoffset : IsBoundary text offset) :
    IsBoundary text (Attempts.fail before a r offset).furthest := by
  unfold Attempts.fail
  split
  · exact ha
  · split
    · exact ha
    · split
      · exact hoffset
      · exact ha

theorem runRule_staysIn (hlayout : LayoutSplits rules) (text : List Char) (depth : Nat)
    (inToken : Bool) (r : ρ) : StaysIn text (runRule rules depth inToken r) := by
  induction depth generalizing inToken r with
  | zero => exact fun p a _ ha => ha
  | succ depth ih =>
    intro p a hp ha
    have hfurthest := runExpr_staysIn hlayout (runRule_goesOn hlayout depth _)
      (ih (inToken || rules.style r == .token)) (inToken || rules.style r == .token)
      (rules.body r) p a hp ha
    simp only [runRule]
    split
    · exact hfurthest
    · split
      · exact ha
      · split
        · exact Attempts.fail_boundary hfurthest hp.boundary
        · exact hfurthest

end StaysIn

theorem Place.in_start (text : List Char) : Place.In ⟨text, 0⟩ text := ⟨[], rfl, rfl⟩

theorem recognize_furthest (hlayout : LayoutSplits rules) {count : Nat} {start : ρ}
    {attempts : Attempts ρ} (h : recognize rules count start text = .error attempts) :
    IsBoundary text attempts.furthest := by
  have hfurthest := runRule_staysIn hlayout text (count * (text.length + 1)) false start
    ⟨text, 0⟩ .none (Place.in_start text) (isBoundary_zero text)
  unfold recognize at h
  dsimp only at h
  split at h
  · cases h
  · cases h
    exact hfurthest

end GrammarWorkbench.Recognizer

namespace GrammarWorkbench.Declaration

open GrammarWorkbench.Text GrammarWorkbench.Recognizer

namespace Phrase

theorem splitComment_append {cs comment rest : List Char}
    (h : splitComment cs = some (comment, rest)) : comment ++ rest = cs := by
  unfold splitComment at h
  split at h
  · obtain ⟨⟨inside, behind⟩, hsplit, heq⟩ := Option.map_eq_some_iff.mp h
    cases heq
    rw [splitAt?_append hsplit]
    simp
  · cases h
    simp
  · cases h

theorem splitLayout_append (n : Nat) (cs : List Char) :
    (splitLayout n cs).1 ++ (splitLayout n cs).2 = cs := by
  induction n generalizing cs with
  | zero => simp [splitLayout]
  | succ n ih =>
    simp only [splitLayout]
    split
    · exact List.takeWhile_append_dropWhile
    · rename_i comment rest hcomment
      simp only [List.append_assoc, ih, splitComment_append hcomment]
      exact List.takeWhile_append_dropWhile

theorem layoutSplits : LayoutSplits rules := fun cs => splitLayout_append cs.length cs

end Phrase

end GrammarWorkbench.Declaration
