import GrammarWorkbench.Compile.Tokens
import GrammarWorkbench.Proofs.Pattern.WrittenSets

/-!
# Quoted texts are different

A character of a quoted text is written as itself, by a letter behind a backslash, or by its code in
braces. Each form shows where it ends, so the characters of a quoted text can be told apart from the
left, and no two texts are quoted alike.
-/

set_option autoImplicit false

namespace GrammarWorkbench.Text

open GrammarWorkbench.Pattern.Written

def quotedLetters : List (Char × Char) :=
  [('0', '\x00'), ('t', '\t'), ('r', '\r'), ('n', '\n'), ('\'', '\''), ('"', '"'), ('\\', '\\')]

inductive QuotedAs (c : Char) : List Char → Prop
  | itself (hc : c ≠ '\\') : QuotedAs c [c]
  | letter {l : Char} (hl : (l, c) ∈ quotedLetters) : QuotedAs c ['\\', l]
  | code : QuotedAs c (codeEscape c)

theorem quotedChar_quotedAs (atStart : Bool) (c : Char) : QuotedAs c (quotedChar atStart c) := by
  unfold quotedChar
  split
  case h_8 hslash =>
    have hc : c ≠ '\\' := hslash
    split
    · exact .code
    · split
      · exact .itself hc
      · exact .code
  all_goals exact .letter (by decide)

theorem quotedLetters_left {l c d : Char} (hc : (l, c) ∈ quotedLetters)
    (hd : (l, d) ∈ quotedLetters) : c = d := by
  have hall : ∀ x ∈ quotedLetters, ∀ y ∈ quotedLetters, x.1 = y.1 → x.2 = y.2 := by decide
  exact hall _ hc _ hd rfl

theorem not_quotedLetter_u (c : Char) : ('u', c) ∉ quotedLetters := by
  simp [quotedLetters]

theorem toDigits_inj {m n : Nat} (h : Nat.toDigits 16 m = Nat.toDigits 16 n) : m = n := by
  have hm := hexDigits?_toDigits m
  rw [h, hexDigits?_toDigits n] at hm
  exact (Option.some.inj hm).symm

theorem no_brace_toDigits (n : Nat) : '\x7d' ∉ Nat.toDigits 16 n := by
  intro hmem
  have hdigit := hexDigit?_of_mem (hexDigits?_toDigits n) _ (List.mem_map_of_mem hmem)
  revert hdigit
  decide

theorem codeEscape_append_inj {c d : Char} {r s : List Char}
    (h : codeEscape c ++ r = codeEscape d ++ s) : c = d ∧ r = s := by
  have hcodes : Nat.toDigits 16 c.toNat ++ '\x7d' :: r =
      Nat.toDigits 16 d.toNat ++ '\x7d' :: s := by simpa [codeEscape] using h
  -- The first brace is where the digits end on both sides.
  have hdigits : Nat.toDigits 16 c.toNat = Nat.toDigits 16 d.toNat := by
    have hc : braced? (Nat.toDigits 16 c.toNat ++ '\x7d' :: r) = some (Nat.toDigits 16 c.toNat) :=
      braced?_append (no_brace_toDigits _)
    rw [hcodes, braced?_append (no_brace_toDigits _)] at hc
    exact (Option.some.inj hc).symm
  rw [hdigits] at hcodes
  have hrest := (List.cons.inj (List.append_cancel_left hcodes)).2
  exact ⟨Char.toNat_inj.mp (toDigits_inj hdigits), hrest⟩

/-- Two texts that begin with quoted characters are equal only if the characters are. -/
theorem QuotedAs.append_inj {c d : Char} {cs ds r s : List Char} (hc : QuotedAs c cs)
    (hd : QuotedAs d ds) (h : cs ++ r = ds ++ s) : c = d ∧ r = s := by
  cases hc with
  | itself hc =>
    cases hd with
    | itself hd => exact List.cons.inj h
    | letter hl => exact absurd (List.cons.inj h).1 hc
    | code => exact absurd (List.cons.inj h).1 hc
  | letter hl =>
    cases hd with
    | itself hd => exact absurd (List.cons.inj h).1.symm hd
    | letter hl' =>
      obtain ⟨rfl, hrest⟩ := List.cons.inj (List.cons.inj h).2
      exact ⟨quotedLetters_left hl hl', hrest⟩
    | code =>
      obtain ⟨rfl, -⟩ := List.cons.inj (List.cons.inj h).2
      exact absurd hl (not_quotedLetter_u c)
  | code =>
    cases hd with
    | itself hd => exact absurd (List.cons.inj h).1.symm hd
    | letter hl =>
      obtain ⟨rfl, -⟩ := List.cons.inj (List.cons.inj h).2
      exact absurd hl (not_quotedLetter_u d)
    | code => exact codeEscape_append_inj h

theorem quotedChar_ne_nil (atStart : Bool) (c : Char) : quotedChar atStart c ≠ [] := by
  have hc := quotedChar_quotedAs atStart c
  intro hnil
  rw [hnil] at hc
  cases hc

theorem flatMap_quotedChar_inj {cs ds : List Char}
    (h : cs.flatMap (quotedChar false) = ds.flatMap (quotedChar false)) : cs = ds := by
  induction cs generalizing ds with
  | nil =>
    cases ds with
    | nil => rfl
    | cons d ds => exact absurd h.symm (by simp [quotedChar_ne_nil])
  | cons c cs ih =>
    cases ds with
    | nil => exact absurd h (by simp [quotedChar_ne_nil])
    | cons d ds =>
      obtain ⟨rfl, hrest⟩ :=
        (quotedChar_quotedAs false c).append_inj (quotedChar_quotedAs false d) h
      rw [ih hrest]

theorem quoted_injective : Function.Injective quoted := by
  intro cs ds h
  cases cs with
  | nil =>
    cases ds with
    | nil => rfl
    | cons d ds => exact absurd h.symm (by simp [quoted, quotedChar_ne_nil])
  | cons c cs =>
    cases ds with
    | nil => exact absurd h (by simp [quoted, quotedChar_ne_nil])
    | cons d ds =>
      obtain ⟨rfl, hrest⟩ :=
        (quotedChar_quotedAs true c).append_inj (quotedChar_quotedAs true d) h
      rw [flatMap_quotedChar_inj hrest]

end GrammarWorkbench.Text

namespace GrammarWorkbench.Compile

open GrammarWorkbench.Text

theorem literalName_injective : Function.Injective literalName := by
  intro l m h
  have hlist := congrArg String.toList h
  simp only [literalName, String.toList_ofList, List.cons_append, List.cons.injEq,
    true_and] at hlist
  exact quoted_injective (List.append_cancel_right hlist)

end GrammarWorkbench.Compile
