import GrammarWorkbench.Compile.Grammar
import GrammarWorkbench.Declaration.Read
import GrammarWorkbench.Proofs.Notation.Spelling
import GrammarWorkbench.Proofs.Pattern.WrittenSets
import Mathlib.Data.List.Forall2
import Mathlib.Data.List.TakeWhile
import Mathlib.Data.Nat.Digits.Defs
import Mathlib.Tactic.IntervalCases

/-!
# Escapes in literals

What stands between the quotes of a literal is made of parts that stand for one character each: the
character itself, an escape of one letter, or the number of the character in hexadecimal digits.
Every text of such parts is decoded to what they stand for. More than these texts is decoded: a
number may have a plus sign before its digits, and the closing brace of a number may be missing at
the end of the literal. Everything else is reported once.
-/

set_option autoImplicit false

namespace GrammarWorkbench.Declaration

open GrammarWorkbench.Text GrammarWorkbench.Recognizer GrammarWorkbench.Diagnostic

def IsHexDigit (c : Char) (v : Nat) : Prop :=
  v < 16 ∧ (c = v.digitChar ∨ c = v.digitChar.toUpper)

theorem hexDigit?_toNat_lt {c : Char} {v : Nat} (h : hexDigit? c = some v) : c.toNat < 103 := by
  have hle : ∀ d : Char, c ≤ d → c.toNat ≤ d.toNat := fun _ hd => hd
  unfold hexDigit? at h
  split at h
  · rename_i hdigit
    exact Nat.lt_of_le_of_lt (hle '9' hdigit.2) (by decide)
  · split at h
    · rename_i hletter
      exact Nat.lt_of_le_of_lt (hle 'f' hletter.2) (by decide)
    · split at h
      · rename_i hcapital
        exact Nat.lt_of_le_of_lt (hle 'F' hcapital.2) (by decide)
      · cases h

theorem hexDigit?_eq_some {c : Char} {v : Nat} : hexDigit? c = some v ↔ IsHexDigit c v := by
  have hread : ∀ n < 103, ∀ v ∈ hexDigit? (Char.ofNat n),
      v < 16 ∧ (Char.ofNat n = v.digitChar ∨ Char.ofNat n = v.digitChar.toUpper) := by decide
  constructor
  · intro h
    have hc := hread c.toNat (hexDigit?_toNat_lt h) v
    rw [Char.ofNat_toNat] at hc
    exact hc h
  · rintro ⟨hv, rfl | rfl⟩
    · interval_cases v <;> rfl
    · interval_cases v <;> rfl

def Names (ds : List Char) (c : Char) : Prop :=
  ∃ vs, List.Forall₂ IsHexDigit ds vs ∧ c.toNat = Nat.ofDigits 16 vs.reverse

def SignedNames (ds : List Char) (c : Char) : Prop :=
  Names ds c ∨ ∃ ds', ds' ≠ [] ∧ ds = '+' :: ds' ∧ Names ds' c

theorem hexDigits?_eq_some {ds : List Char} {n m : Nat} : hexDigits? n ds = some m ↔
    ∃ vs, List.Forall₂ IsHexDigit ds vs ∧ m = n * 16 ^ ds.length + Nat.ofDigits 16 vs.reverse := by
  induction ds generalizing n with
  | nil => simp [hexDigits?, eq_comm]
  | cons d ds ih =>
    have hvalue : ∀ v vs, List.Forall₂ IsHexDigit ds vs →
        (16 * n + v) * 16 ^ ds.length + Nat.ofDigits 16 vs.reverse =
          n * 16 ^ (d :: ds).length + Nat.ofDigits 16 (v :: vs).reverse := by
      intro v vs hvs
      rw [List.reverse_cons, Nat.ofDigits_append, List.length_reverse, ← hvs.length_eq,
        Nat.ofDigits_singleton, List.length_cons]
      ring
    rw [hexDigits?, Option.bind_eq_some_iff]
    constructor
    · rintro ⟨v, hv, hrest⟩
      obtain ⟨vs, hvs, rfl⟩ := ih.mp hrest
      exact ⟨v :: vs, .cons (hexDigit?_eq_some.mp hv) hvs, hvalue v vs hvs⟩
    · rintro ⟨vs, hvs, rfl⟩
      cases hvs with
      | cons hv hvs => exact ⟨_, hexDigit?_eq_some.mpr hv, ih.mpr ⟨_, hvs, (hvalue _ _ hvs).symm⟩⟩

theorem charOfNumber?_eq_some {n : Nat} {c : Char} : charOfNumber? n = some c ↔ c.toNat = n := by
  constructor
  · intro h
    by_cases hn : n.isValidChar
    · rw [charOfNumber?, dif_pos hn] at h
      cases h
      rfl
    · rw [charOfNumber?, dif_neg hn] at h
      cases h
  · rintro rfl
    exact Pattern.Written.charOfNumber?_toNat c

theorem hexDigits?_bind {ds : List Char} {c : Char} :
    (hexDigits? 0 ds).bind charOfNumber? = some c ↔ Names ds c := by
  simp only [Option.bind_eq_some_iff, hexDigits?_eq_some, charOfNumber?_eq_some, Names]
  constructor
  · rintro ⟨n, ⟨vs, hvs, rfl⟩, hc⟩
    exact ⟨vs, hvs, by simpa using hc⟩
  · rintro ⟨vs, hvs, hc⟩
    exact ⟨_, ⟨vs, hvs, rfl⟩, by simpa using hc⟩

theorem not_isHexDigit_plus (v : Nat) : ¬ IsHexDigit '+' v := by
  rw [← hexDigit?_eq_some]
  simp [hexDigit?]

theorem not_names_plus {ds : List Char} {c : Char} : ¬ Names ('+' :: ds) c := by
  rintro ⟨vs, hvs, -⟩
  cases hvs with
  | cons hv hvs => exact not_isHexDigit_plus _ hv

theorem charOfDigits_eq_ok {ds : List Char} {c : Char} (hne : ds ≠ []) :
    charOfDigits ds = .ok c ↔ SignedNames ds c := by
  have hnumber : charOfDigits ds = .ok c ↔ (hexNumber? ds).bind charOfNumber? = some c := by
    unfold charOfDigits
    cases (hexNumber? ds).bind charOfNumber? <;> simp
  rw [hnumber]
  unfold hexNumber?
  split
  · exact absurd rfl hne
  · simp [SignedNames, not_names_plus]
  · rename_i ds' hds'
    have hsome : ds' ≠ [] := hds'
    simp [SignedNames, not_names_plus, hexDigits?_bind, hsome]
  · rename_i hplus
    have hsign : ∀ ds', ds ≠ '+' :: ds' := hplus
    simp [SignedNames, hexDigits?_bind, hsign]

def IsDigitOrSign (d : Char) : Prop := d = '+' ∨ ∃ v, IsHexDigit d v

theorem SignedNames.digits {ds : List Char} {c : Char} (h : SignedNames ds c) :
    ∀ d ∈ ds, IsDigitOrSign d := by
  have hnames : ∀ ds, Names ds c → ∀ d ∈ ds, IsDigitOrSign d := by
    rintro ds ⟨vs, hvs, -⟩
    clear h
    induction hvs with
    | nil => simp
    | cons hv hvs ih => exact List.forall_mem_cons.mpr ⟨.inr ⟨_, hv⟩, ih⟩
  rcases h with h | ⟨ds', -, rfl, h⟩
  · exact hnames ds h
  · exact List.forall_mem_cons.mpr ⟨.inl rfl, hnames ds' h⟩

theorem IsDigitOrSign.plain {d : Char} (h : IsDigitOrSign d) :
    d.utf8Size = 1 ∧ d ≠ '\x7b' ∧ d ≠ '\x7d' := by
  rcases h with rfl | ⟨v, hv, rfl | rfl⟩
  · decide
  · interval_cases v <;> decide
  · interval_cases v <;> decide

section Digits

variable {ds : List Char} {c : Char} (h : SignedNames ds c)
include h

theorem SignedNames.byteLength_eq : byteLength ds = ds.length := by
  have hplain := h.digits
  clear h
  induction ds with
  | nil => rfl
  | cons d ds ih =>
    obtain ⟨hd, hds⟩ := List.forall_mem_cons.mp hplain
    rw [byteLength_cons, List.length_cons, ih hds, hd.plain.1, Nat.add_comm]

theorem SignedNames.no_brace : '\x7d' ∉ ds := fun hmem => (h.digits _ hmem).plain.2.2 rfl

theorem SignedNames.not_braced (hne : ds ≠ []) (behind rest : List Char) :
    ds ++ behind ≠ '\x7b' :: rest := by
  intro heq
  obtain ⟨d, ds, rfl⟩ := List.exists_cons_of_ne_nil hne
  obtain ⟨rfl, -⟩ := List.cons.inj heq
  exact (h.digits _ List.mem_cons_self).plain.2.1 rfl

end Digits

def letterEscapes : List (Char × Char) :=
  [('n', '\n'), ('r', '\r'), ('t', '\t'), ('b', '\x08'), ('f', '\x0c'), ('\\', '\\'), ('\'', '\''),
    ('"', '"')]

theorem shortEscape?_eq_some {c d : Char} : shortEscape? c = some d ↔ (c, d) ∈ letterEscapes := by
  constructor
  · intro h
    unfold shortEscape? at h
    split at h
    all_goals first | cases h; decide | cases h
  · intro h
    simp only [letterEscapes, List.mem_cons, Prod.mk.injEq, List.not_mem_nil, or_false] at h
    rcases h with ⟨rfl, rfl⟩ | ⟨rfl, rfl⟩ | ⟨rfl, rfl⟩ | ⟨rfl, rfl⟩ | ⟨rfl, rfl⟩ | ⟨rfl, rfl⟩ |
      ⟨rfl, rfl⟩ | ⟨rfl, rfl⟩ <;> rfl

section Parts

variable (names : List Char → Char → Prop)

inductive Denotes : List Char → Char → Prop
  | plain {c : Char} (hc : c ≠ '\\') : Denotes [c] c
  | letter {l c : Char} (hl : (l, c) ∈ letterEscapes) : Denotes ['\\', l] c
  | four {ds : List Char} {c : Char} (hlength : ds.length = 4) (hds : names ds c) :
    Denotes ('\\' :: 'u' :: ds) c
  | braced {ds : List Char} {c : Char} (hne : ds ≠ []) (hlength : ds.length ≤ 6)
    (hds : names ds c) : Denotes ('\\' :: 'u' :: '\x7b' :: (ds ++ ['\x7d'])) c

inductive Spelled : List Char → List Char → Prop
  | nil : Spelled [] []
  | cons {part rest text : List Char} {c : Char} (hpart : Denotes names part c)
    (hrest : Spelled rest text) : Spelled (part ++ rest) (c :: text)

/-- A number in braces that lacks the closing one. -/
def Unclosed (part : List Char) (c : Char) : Prop :=
  ∃ ds, ds ≠ [] ∧ ds.length ≤ 6 ∧ names ds c ∧ part = '\\' :: 'u' :: '\x7b' :: ds

end Parts

theorem Spelled.number {names : List Char → Char → Prop} {cs text : List Char}
    (h : Spelled names ('\\' :: 'u' :: cs) text) : ∃ ds rest c, names ds c ∧
      (ds.length = 4 ∧ cs = ds ++ rest ∨ cs = '\x7b' :: (ds ++ '\x7d' :: rest)) := by
  generalize hbody : '\\' :: 'u' :: cs = body at h
  cases h with
  | nil => cases hbody
  | @cons part rest _ c hpart _ =>
    cases hpart with
    | plain hc => exact absurd (List.cons.inj hbody).1.symm hc
    | letter hl =>
      obtain ⟨rfl, -⟩ := List.cons.inj (List.cons.inj hbody).2
      simp [letterEscapes] at hl
    | @four ds _ hlength hds =>
      exact ⟨ds, rest, c, hds, .inl ⟨hlength, (List.cons.inj (List.cons.inj hbody).2).2⟩⟩
    | @braced ds _ hne hlength hds =>
      refine ⟨ds, rest, c, hds, .inr ?_⟩
      have hcs := (List.cons.inj (List.cons.inj hbody).2).2
      simpa using hcs

theorem map_eq_ok {ε α β : Type} {x : Except ε α} {f : α → β} {b : β} :
    x.map f = .ok b ↔ ∃ a, x = .ok a ∧ f a = b := by
  cases x <;> simp [Except.map]

section Codes

variable {cs ds : List Char} {c d : Char} {used used' : Nat}

theorem decodeCode_brace (huntil : untilBrace cs = (ds, used)) :
    decodeCode ('\x7b' :: cs) = .ok (c, used') ↔
      ds ≠ [] ∧ ds.length ≤ 6 ∧ SignedNames ds c ∧ used' = used + 1 := by
  simp only [decodeCode, huntil, List.isEmpty_iff]
  split
  · rename_i hfits
    simp only [reduceCtorEq, false_iff]
    rintro ⟨hne, hlength, hds, -⟩
    rw [hds.byteLength_eq] at hfits
    rcases hfits with hnil | hlong
    · exact hne hnil
    · omega
  · rename_i hfits
    rw [not_or, Nat.not_lt] at hfits
    have hshort : ds.length ≤ 6 := (length_le_byteLength ds).trans hfits.2
    rw [map_eq_ok, ← charOfDigits_eq_ok hfits.1]
    simp only [Prod.mk.injEq]
    constructor
    · rintro ⟨c', hc', rfl, rfl⟩
      exact ⟨hfits.1, hshort, hc', rfl⟩
    · rintro ⟨-, -, hc, rfl⟩
      exact ⟨c, hc, rfl, rfl⟩

theorem decodeCode_plain (hcs : ∀ rest, cs ≠ '\x7b' :: rest) :
    decodeCode cs = .ok (c, used) ↔
      (cs.take 4).length = 4 ∧ SignedNames (cs.take 4) c ∧ used = 4 := by
  have hcode : decodeCode cs = if byteLength (cs.take 4) ≠ 4 then .error .fourDigits
      else (charOfDigits (cs.take 4)).map fun c => (c, (cs.take 4).length) := by
    unfold decodeCode
    split
    · rename_i rest
      exact absurd rfl (hcs rest)
    · rfl
  rw [hcode]
  split
  · rename_i hbytes
    simp only [reduceCtorEq, false_iff]
    rintro ⟨hlength, hds, -⟩
    exact hbytes (hds.byteLength_eq.trans hlength)
  · rename_i hbytes
    rw [not_not] at hbytes
    have hne : cs.take 4 ≠ [] := by
      intro hnil
      rw [hnil] at hbytes
      cases hbytes
    rw [map_eq_ok, ← charOfDigits_eq_ok hne]
    simp only [Prod.mk.injEq]
    constructor
    · rintro ⟨c', hc', rfl, rfl⟩
      have hlength := ((charOfDigits_eq_ok hne).mp hc').byteLength_eq.symm.trans hbytes
      exact ⟨hlength, hc', hlength⟩
    · rintro ⟨hlength, hc, rfl⟩
      exact ⟨c, hc, rfl, hlength⟩

theorem untilBrace_all (hcs : '\x7d' ∉ cs) : untilBrace cs = (cs, cs.length) := by
  have hall : cs.takeWhile (· != '\x7d') = cs := by
    rw [List.takeWhile_eq_self_iff]
    intro d hd
    simp only [bne_iff_ne]
    rintro rfl
    exact hcs hd
  rw [untilBrace, hall, Nat.min_eq_right (Nat.le_succ _)]

theorem decodeCode_four (hlength : ds.length = 4) (hds : SignedNames ds c) (rest : List Char) :
    decodeCode (ds ++ rest) = .ok (c, ds.length) := by
  have htake : (ds ++ rest).take 4 = ds := by rw [← hlength, List.take_left]
  have hne : ds ≠ [] := List.ne_nil_of_length_pos (by omega)
  rw [decodeCode_plain (hds.not_braced hne rest), htake]
  exact ⟨hlength, hds, hlength⟩

theorem decodeCode_braced (hne : ds ≠ []) (hlength : ds.length ≤ 6) (hds : SignedNames ds c)
    (rest : List Char) : decodeCode ('\x7b' :: (ds ++ '\x7d' :: rest)) = .ok (c, ds.length + 2) :=
  (decodeCode_brace (untilBrace_name hds.no_brace rest)).mpr ⟨hne, hlength, hds, rfl⟩

/-- Whatever number is decoded stands at the beginning in one of three forms. -/
theorem decodeCode_cases (h : decodeCode cs = .ok (c, used)) : ∃ ds, SignedNames ds c ∧
    ((ds.length = 4 ∧ used = ds.length ∧ ∃ rest, cs = ds ++ rest) ∨
    (ds ≠ [] ∧ ds.length ≤ 6 ∧ used = ds.length + 2 ∧
      ∃ rest, cs = '\x7b' :: (ds ++ '\x7d' :: rest)) ∨
    (ds ≠ [] ∧ ds.length ≤ 6 ∧ used = ds.length + 1 ∧ cs = '\x7b' :: ds)) := by
  by_cases hbrace : ∃ rest, cs = '\x7b' :: rest
  · obtain ⟨cs, rfl⟩ := hbrace
    by_cases hclosed : '\x7d' ∈ cs
    · obtain ⟨ds, rest, rfl, hopen⟩ := List.eq_append_cons_of_mem hclosed
      obtain ⟨hne, hlength, hds, hused⟩ := (decodeCode_brace (untilBrace_name hopen rest)).mp h
      exact ⟨ds, hds, .inr (.inl ⟨hne, hlength, hused, rest, rfl⟩)⟩
    · obtain ⟨hne, hlength, hds, hused⟩ := (decodeCode_brace (untilBrace_all hclosed)).mp h
      exact ⟨cs, hds, .inr (.inr ⟨hne, hlength, hused, rfl⟩)⟩
  · obtain ⟨hlength, hds, hused⟩ := (decodeCode_plain (not_exists.mp hbrace)).mp h
    exact ⟨cs.take 4, hds, .inl ⟨hlength, hused.trans hlength.symm, cs.drop 4,
      (List.take_append_drop 4 cs).symm⟩⟩

end Codes

theorem decodeChars_skip (n : Nat) (cs : List Char) :
    decodeChars n cs = decodeChars 0 (cs.drop n) := by
  induction n generalizing cs with
  | zero => rfl
  | succ n ih =>
    cases cs with
    | nil => rfl
    | cons c cs => exact ih cs

theorem decodeChars_backslash (cs : List Char) {text : List Char} :
    decodeChars 0 ('\\' :: cs) = .ok text ↔ ∃ c used rest, decodeEscape cs = .ok (c, used) ∧
      decodeChars 0 (cs.drop used) = .ok rest ∧ text = c :: rest := by
  rw [decodeChars, if_pos rfl]
  cases hescape : decodeEscape cs with
  | error fault => simp [bind, Except.bind]
  | ok decoded =>
    obtain ⟨c, used⟩ := decoded
    simp only [bind, Except.bind, decodeChars_skip used]
    cases hrest : decodeChars 0 (cs.drop used) <;>
      simp [hrest, pure, Except.pure, eq_comm (a := text)]

theorem decodeChars_plain {c : Char} (hc : c ≠ '\\') (cs : List Char) {text : List Char} :
    decodeChars 0 (c :: cs) = .ok text ↔
      ∃ rest, decodeChars 0 cs = .ok rest ∧ text = c :: rest := by
  rw [decodeChars, if_neg hc]
  cases hrest : decodeChars 0 cs <;> simp [bind, Except.bind, pure, Except.pure, eq_comm]

theorem decodeEscape_letter {l c : Char} (hl : (l, c) ∈ letterEscapes) (cs : List Char) :
    decodeEscape (l :: cs) = .ok (c, 1) := by
  rw [decodeEscape, shortEscape?_eq_some.mpr hl]

theorem decodeEscape_code {cs : List Char} {c : Char} {used : Nat}
    (h : decodeCode cs = .ok (c, used)) : decodeEscape ('u' :: cs) = .ok (c, used + 1) := by
  simp [decodeEscape, shortEscape?, h, Except.map]

theorem decodeEscape_cases {cs : List Char} {c : Char} {used : Nat}
    (h : decodeEscape cs = .ok (c, used)) :
    (∃ l rest, cs = l :: rest ∧ (l, c) ∈ letterEscapes ∧ used = 1) ∨
    ∃ rest used', cs = 'u' :: rest ∧ decodeCode rest = .ok (c, used') ∧ used = used' + 1 := by
  cases cs with
  | nil => cases h
  | cons l rest =>
    rw [decodeEscape] at h
    split at h
    · rename_i d hshort
      cases h
      exact .inl ⟨l, rest, rfl, shortEscape?_eq_some.mp hshort, rfl⟩
    · split at h
      · rename_i hu
        obtain ⟨⟨d, used'⟩, hcode, heq⟩ := map_eq_ok.mp h
        cases heq
        exact .inr ⟨rest, used', by rw [hu], hcode, rfl⟩
      · cases h

/-- A part is decoded to what it stands for, before whatever follows. -/
theorem decodeChars_part {part rest text : List Char} {c : Char}
    (hpart : Denotes SignedNames part c) (hrest : decodeChars 0 rest = .ok text) :
    decodeChars 0 (part ++ rest) = .ok (c :: text) := by
  cases hpart with
  | plain hc => exact (decodeChars_plain hc rest).mpr ⟨text, hrest, rfl⟩
  | letter hl =>
    exact (decodeChars_backslash _).mpr ⟨c, 1, text, decodeEscape_letter hl rest, hrest, rfl⟩
  | @four ds _ hlength hds =>
    refine (decodeChars_backslash _).mpr
      ⟨c, ds.length + 1, text, decodeEscape_code (decodeCode_four hlength hds rest), ?_, rfl⟩
    show decodeChars 0 ((ds ++ rest).drop ds.length) = .ok text
    rw [List.drop_left]
    exact hrest
  | @braced ds _ hne hlength hds =>
    have htext : '\\' :: 'u' :: '\x7b' :: (ds ++ ['\x7d']) ++ rest =
        '\\' :: 'u' :: '\x7b' :: (ds ++ '\x7d' :: rest) := by simp
    rw [htext]
    refine (decodeChars_backslash _).mpr
      ⟨c, _, text, decodeEscape_code (decodeCode_braced hne hlength hds rest), ?_, rfl⟩
    show decodeChars 0 ((ds ++ '\x7d' :: rest).drop (ds.length + 1)) = .ok text
    rw [List.drop_length_add_append]
    exact hrest

theorem decodeChars_spelled {front text rest more : List Char}
    (hfront : Spelled SignedNames front text) (hrest : decodeChars 0 rest = .ok more) :
    decodeChars 0 (front ++ rest) = .ok (text ++ more) := by
  induction hfront with
  | nil => exact hrest
  | cons hpart _ ih =>
    rw [List.append_assoc]
    exact decodeChars_part hpart ih

theorem decodeChars_unclosed {part : List Char} {c : Char} (h : Unclosed SignedNames part c) :
    decodeChars 0 part = .ok [c] := by
  obtain ⟨ds, hne, hlength, hds, rfl⟩ := h
  have hcode := (decodeCode_brace (untilBrace_all hds.no_brace)).mpr ⟨hne, hlength, hds, rfl⟩
  refine (decodeChars_backslash _).mpr ⟨c, _, [], decodeEscape_code hcode, ?_, rfl⟩
  show decodeChars 0 (ds.drop ds.length) = .ok []
  rw [List.drop_length, decodeChars]

/-- What is decoded at the beginning of a text is a part of it, or a number that lacks its closing
brace and is all that is left. -/
theorem decodeChars_first {c : Char} {cs text : List Char}
    (h : decodeChars 0 (c :: cs) = .ok text) :
    (∃ part rest d text', c :: cs = part ++ rest ∧ text = d :: text' ∧ Denotes SignedNames part d ∧
      decodeChars 0 rest = .ok text') ∨
    ∃ d, text = [d] ∧ Unclosed SignedNames (c :: cs) d := by
  by_cases hc : c = '\\'
  · subst hc
    obtain ⟨d, used, text', hescape, hrest, rfl⟩ := (decodeChars_backslash cs).mp h
    rcases decodeEscape_cases hescape with ⟨l, rest, rfl, hl, rfl⟩ | ⟨rest, used, rfl, hcode, rfl⟩
    · exact .inl ⟨['\\', l], rest, d, text', rfl, rfl, .letter hl, hrest⟩
    · obtain ⟨ds, hds, ⟨hlength, rfl, rest, rfl⟩ | ⟨hne, hlength, rfl, rest, rfl⟩ |
        ⟨hne, hlength, rfl, rfl⟩⟩ := decodeCode_cases hcode
      · rw [List.drop_succ_cons, List.drop_left] at hrest
        exact .inl ⟨'\\' :: 'u' :: ds, rest, d, text', rfl, rfl, .four hlength hds, hrest⟩
      · rw [List.drop_succ_cons, List.drop_succ_cons, List.drop_length_add_append] at hrest
        exact .inl ⟨'\\' :: 'u' :: '\x7b' :: (ds ++ ['\x7d']), rest, d, text', by simp, rfl,
          .braced hne hlength hds, hrest⟩
      · rw [List.drop_succ_cons, List.drop_succ_cons, List.drop_length] at hrest
        cases hrest
        exact .inr ⟨d, rfl, ds, hne, hlength, hds, rfl⟩
  · obtain ⟨text', hrest, rfl⟩ := (decodeChars_plain hc cs).mp h
    exact .inl ⟨[c], cs, c, text', rfl, rfl, .plain hc, hrest⟩

theorem Denotes.ne_nil {names : List Char → Char → Prop} {part : List Char} {c : Char}
    (h : Denotes names part c) : part ≠ [] := by
  cases h <;> simp

/-- A text is decoded exactly when it is spelled by parts, the last of which may lack its closing
brace. -/
theorem decodeChars_eq_ok {cs text : List Char} : decodeChars 0 cs = .ok text ↔
    Spelled SignedNames cs text ∨ ∃ front part text' c, cs = front ++ part ∧ text = text' ++ [c] ∧
      Spelled SignedNames front text' ∧ Unclosed SignedNames part c := by
  constructor
  · intro h
    -- The induction is on the length of the text, since a step leaves out a whole part.
    induction hn : cs.length using Nat.strong_induction_on generalizing cs text with
    | h n ih =>
      subst hn
      cases cs with
      | nil =>
        cases h
        exact .inl .nil
      | cons c cs =>
        rcases decodeChars_first h with ⟨part, rest, d, text', hcs, rfl, hpart, hrest⟩ |
          ⟨d, rfl, hunclosed⟩
        · have hshorter : rest.length < (c :: cs).length := by
            have hpos := List.length_pos_iff.mpr hpart.ne_nil
            rw [hcs, List.length_append]
            omega
          rw [hcs]
          rcases ih _ hshorter hrest rfl with hspelled |
            ⟨front, last, text', e, rfl, rfl, hfront, hlast⟩
          · exact .inl (.cons hpart hspelled)
          · exact .inr ⟨part ++ front, last, d :: text', e, by simp, rfl, .cons hpart hfront, hlast⟩
        · exact .inr ⟨[], c :: cs, [], d, rfl, rfl, .nil, hunclosed⟩
  · rintro (h | ⟨front, part, text', c, rfl, rfl, hfront, hpart⟩)
    · have hall : decodeChars 0 (cs ++ []) = .ok (text ++ []) := decodeChars_spelled h rfl
      rwa [List.append_nil, List.append_nil] at hall
    · exact decodeChars_spelled hfront (decodeChars_unclosed hpart)

theorem Spelled.signed {cs text : List Char} (h : Spelled Names cs text) :
    Spelled SignedNames cs text := by
  induction h with
  | nil => exact .nil
  | cons hpart _ ih =>
    refine .cons ?_ ih
    cases hpart with
    | plain hc => exact .plain hc
    | letter hl => exact .letter hl
    | four hlength hds => exact .four hlength (.inl hds)
    | braced hne hlength hds => exact .braced hne hlength (.inl hds)

/-- No number in a text has a sign, and none lacks its closing brace. -/
structure NumbersRegular (cs : List Char) : Prop where
  unsigned : ¬ ['\\', 'u', '+'] <:+: cs
  unsigned_braced : ¬ ['\\', 'u', '\x7b', '+'] <:+: cs
  closed : ∀ front behind, cs = front ++ '\\' :: 'u' :: '\x7b' :: behind → '\x7d' ∈ behind

theorem SignedNames.names {ds : List Char} {c : Char} (h : SignedNames ds c)
    (hsign : ∀ ds', ds ≠ '+' :: ds') : Names ds c := by
  rcases h with h | ⟨ds', -, rfl, -⟩
  · exact h
  · exact absurd rfl (hsign ds')

theorem Denotes.unsigned {part : List Char} {c : Char} (h : Denotes SignedNames part c)
    (hplain : ¬ ['\\', 'u', '+'] <:+: part) (hbraced : ¬ ['\\', 'u', '\x7b', '+'] <:+: part) :
    Denotes Names part c := by
  cases h with
  | plain hc => exact .plain hc
  | letter hl => exact .letter hl
  | four hlength hds =>
    refine .four hlength (hds.names ?_)
    rintro ds' rfl
    exact hplain ⟨[], ds', rfl⟩
  | braced hne hlength hds =>
    refine .braced hne hlength (hds.names ?_)
    rintro ds' rfl
    exact hbraced ⟨[], ds' ++ ['\x7d'], rfl⟩

theorem Spelled.unsigned {cs text : List Char} (h : Spelled SignedNames cs text)
    (hplain : ¬ ['\\', 'u', '+'] <:+: cs) (hbraced : ¬ ['\\', 'u', '\x7b', '+'] <:+: cs) :
    Spelled Names cs text := by
  induction h with
  | nil => exact .nil
  | @cons part rest _ _ hpart _ ih =>
    have hfirst : part <:+: part ++ rest := (List.prefix_append part rest).isInfix
    have hlast : rest <:+: part ++ rest := (List.suffix_append part rest).isInfix
    refine .cons (hpart.unsigned ?_ ?_) (ih ?_ ?_)
    · exact fun hsign => hplain (hsign.trans hfirst)
    · exact fun hsign => hbraced (hsign.trans hfirst)
    · exact fun hsign => hplain (hsign.trans hlast)
    · exact fun hsign => hbraced (hsign.trans hlast)

theorem decodeChars_regular {cs text : List Char} (hregular : NumbersRegular cs) :
    decodeChars 0 cs = .ok text ↔ Spelled Names cs text := by
  rw [decodeChars_eq_ok]
  constructor
  · rintro (h | ⟨front, part, text', c, rfl, rfl, -, ds, -, -, hds, rfl⟩)
    · exact h.unsigned hregular.unsigned hregular.unsigned_braced
    · exact absurd (hregular.closed front ds rfl) hds.no_brace
  · exact fun h => .inl h.signed

theorem decodeLiteral_eq_ok {body text : List Char} :
    decodeLiteral body = .ok text ↔ body ≠ [] ∧ decodeChars 0 body = .ok text := by
  cases body <;> simp [decodeLiteral]

section Literals

variable (source : List Char) {n : PhraseNode} {body : List Char}

theorem readLiteral_value (hn : n.text = '\'' :: (body ++ ['\''])) {text : List Char} :
    (readLiteral source n).value = some text ↔ body ≠ [] ∧ decodeChars 0 body = .ok text := by
  have hbody : inner n.text = body := by simp [inner, hn]
  rw [readLiteral, hbody, ← decodeLiteral_eq_ok]
  cases decodeLiteral body <;> simp [Checked.missing]

theorem readLiteral_cases (n : PhraseNode) :
    (∃ text, readLiteral source n = pure (some text)) ∨
    ∃ reason, readLiteral source n =
      .missing (.inText source (.invalidLiteral (String.ofList n.text) reason) n.span) := by
  unfold readLiteral
  split
  · exact .inl ⟨_, rfl⟩
  · exact .inr ⟨_, rfl⟩

/-- What stands between the quotes of a literal is decoded whenever it is written in documented
parts, and then to what they stand for. No other text is decoded, except for texts with a sign
before the digits of a number or with a number at the end that lacks its closing brace. Whatever is
not decoded is reported by one defect. -/
theorem readLiteral_decodes (hn : n.text = '\'' :: (body ++ ['\''])) :
    (∀ text, body ≠ [] → Spelled Names body text → (readLiteral source n).value = some text) ∧
    (NumbersRegular body → ∀ text, (readLiteral source n).value = some text ↔
      body ≠ [] ∧ Spelled Names body text) ∧
    (∀ text, (readLiteral source n).value = some text ↔ body ≠ [] ∧
      (Spelled SignedNames body text ∨
        ∃ front part text' c, body = front ++ part ∧ text = text' ++ [c] ∧
          Spelled SignedNames front text' ∧ Unclosed SignedNames part c)) ∧
    ((readLiteral source n).value = none → ∃ reason, (readLiteral source n).defects =
      [.inText source (.invalidLiteral (String.ofList n.text) reason) n.span]) ∧
    ((readLiteral source n).value ≠ none → (readLiteral source n).defects = []) := by
  refine ⟨?_, ?_, ?_, ?_, ?_⟩
  · intro text hne hspelled
    rw [readLiteral_value source hn, decodeChars_eq_ok]
    exact ⟨hne, .inl hspelled.signed⟩
  · intro hregular text
    rw [readLiteral_value source hn, decodeChars_regular hregular]
  · intro text
    rw [readLiteral_value source hn, decodeChars_eq_ok]
  · intro hnone
    rcases readLiteral_cases source n with ⟨text, h⟩ | ⟨reason, h⟩
    · rw [h] at hnone
      cases hnone
    · exact ⟨reason, by rw [h]; rfl⟩
  · intro hsome
    rcases readLiteral_cases source n with ⟨text, h⟩ | ⟨reason, h⟩
    · rw [h]
      rfl
    · rw [h] at hsome
      exact absurd rfl hsome

end Literals

def quotedNode (body : List Char) : PhraseNode :=
  .mk .stringLiteral ⟨0, byteLength body + 2⟩ ('\'' :: (body ++ ['\''])) []

def numberedBody : List Char :=
  ['a', '\\', 'n', '\\', 'u', '2', '0', 'A', 'C', '\\', 'u', '\x7b', '4', '1', '\x7d']

theorem numberedBody_regular : NumbersRegular numberedBody where
  unsigned := by decide
  unsigned_braced := by decide
  closed := by
    intro front behind hbody
    have hall : ∀ k < 16, ['\\', 'u', '\x7b'] <+: numberedBody.drop k →
        '\x7d' ∈ numberedBody.drop (k + 3) := by decide
    have hlength : numberedBody.length = front.length + (3 + behind.length) := by
      rw [hbody]
      simp
      omega
    have hshort : front.length < 16 := by
      have hsize : numberedBody.length = 15 := rfl
      omega
    have hdrop : numberedBody.drop front.length = '\\' :: 'u' :: '\x7b' :: behind := by
      rw [hbody, List.drop_left]
    have hbehind : numberedBody.drop (front.length + 3) = behind := by
      rw [← List.drop_drop, hdrop]
      rfl
    rw [← hbehind]
    exact hall front.length hshort ⟨behind, hdrop.symm⟩

/-- A literal with each kind of part is regular, and so decoded to what is documented. -/
theorem readLiteral_decodes_numbered : NumbersRegular numberedBody ∧
    (readLiteral [] (quotedNode numberedBody)).value = some ['a', '\n', '\u20AC', 'A'] ∧
    Spelled Names numberedBody ['a', '\n', '\u20AC', 'A'] := by
  have hvalue : (readLiteral [] (quotedNode numberedBody)).value =
      some ['a', '\n', '\u20AC', 'A'] := by decide +kernel
  have hspelled := (((readLiteral_decodes [] rfl).2.1 numberedBody_regular _).mp hvalue).2
  exact ⟨numberedBody_regular, hvalue, hspelled⟩

def unclosedBody : List Char := ['\\', 'u', '\x7b', '4', '1']

def signedBody : List Char := ['\\', 'u', '+', '0', '4', '1']

theorem not_spelled_unclosed (text : List Char) : ¬ Spelled Names unclosedBody text := by
  intro h
  obtain ⟨ds, rest, c, -, ⟨hlength, hcs⟩ | hcs⟩ := h.number
  · have hle := congrArg List.length hcs
    rw [List.length_append, hlength] at hle
    simp at hle
    omega
  · have hmem : '\x7d' ∈ ['\x7b', '4', '1'] := by rw [hcs]; simp
    revert hmem
    decide

theorem not_spelled_signed (text : List Char) : ¬ Spelled Names signedBody text := by
  intro h
  obtain ⟨ds, rest, c, hds, ⟨hlength, hcs⟩ | hcs⟩ := h.number
  · cases ds with
    | nil => cases hlength
    | cons d ds =>
      obtain ⟨rfl, -⟩ := List.cons.inj hcs
      exact not_names_plus hds
  · have hhead := (List.cons.inj hcs).1
    revert hhead
    decide

/-- A text that is not documented, but decoded without a report, and accepted as a literal of a
grammar. -/
structure Overread (body text : List Char) : Prop where
  undocumented : ¬ ∃ text', Spelled Names body text'
  decoded : readLiteral [] (quotedNode body) = pure (some text)
  accepted : ∃ g, compile ("s:'".toList ++ body ++ "';".toList) none = .ok g

theorem overread_of_value {body text : List Char} (hbody : ∀ text', ¬ Spelled Names body text')
    (hvalue : (readLiteral [] (quotedNode body)).value = some text)
    (hcompiled : (compile ("s:'".toList ++ body ++ "';".toList) none).toOption.isSome) :
    Overread body text where
  undocumented := not_exists.mpr hbody
  decoded := by
    rcases readLiteral_cases [] (quotedNode body) with ⟨text', h⟩ | ⟨reason, h⟩
    · rw [h] at hvalue ⊢
      cases hvalue
      rfl
    · rw [h] at hvalue
      cases hvalue
  accepted := by
    cases hg : compile ("s:'".toList ++ body ++ "';".toList) none with
    | error ds =>
      rw [hg] at hcompiled
      cases hcompiled
    | ok g => exact ⟨g, rfl⟩

/-- Neither the number without its closing brace nor the number with a sign is documented, but both
are decoded to a letter. -/
theorem readLiteral_undocumented : Overread unclosedBody ['A'] ∧ Overread signedBody ['A'] :=
  ⟨overread_of_value not_spelled_unclosed (by decide +kernel) (by decide +kernel),
    overread_of_value not_spelled_signed (by decide +kernel) (by decide +kernel)⟩

end GrammarWorkbench.Declaration
