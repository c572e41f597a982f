import GrammarWorkbench.Declaration.Escape
import GrammarWorkbench.Pattern.Basic
import GrammarWorkbench.Text.Scan
import Mathlib.Tactic.ByContra

/-!
# Reading a written set of characters

Between the brackets of a set, characters stand for themselves or are written by their codes, a
dash between two of them makes a range, and a property is named in braces. The written form of a
set is read as the set, because no character that is written as itself has a meaning in sets.
-/

set_option autoImplicit false

namespace GrammarWorkbench.Pattern.Written

open GrammarWorkbench.Text GrammarWorkbench.Declaration

def isSetSign (c : Char) : Bool := ['\\', '[', ']', '^', '-', '&', '~'].contains c

def braced? (cs : List Char) : Option (List Char) := (splitAt? ['\x7d'] cs).map (·.1)

def setChar? (c : Char) (cs : List Char) : Option (Char × Nat) :=
  match c, cs with
  | '\\', 'x' :: '\x7b' :: cs => do
    let digits ← braced? cs
    let n ← if digits.isEmpty then none else hexDigits? 0 digits
    let d ← charOfNumber? n
    return (d, digits.length + 3)
  | c, _ => if isSetSign c then none else some (c, 0)

def property? (negated : Bool) (cs : List Char) : Option (Piece × Nat) :=
  (braced? cs).map fun name => (.property (String.ofList name) negated, name.length + 3)

/-- The piece that starts with a character of which `used` characters were used, from what is
behind it: a dash makes a range. -/
def pieceFrom? (lo : Char) (used : Nat) : List Char → Option (Piece × Nat)
  | '-' :: c :: cs => do
    let (hi, used') ← setChar? c cs
    if lo ≤ hi then some (.span lo hi, used + 2 + used') else none
  | _ => some (.single lo, used)

def piece? (c : Char) (cs : List Char) : Option (Piece × Nat) :=
  match c, cs with
  | '\\', 'p' :: '\x7b' :: cs => property? false cs
  | '\\', 'P' :: '\x7b' :: cs => property? true cs
  | c, cs => do
    let (lo, used) ← setChar? c cs
    pieceFrom? lo used (cs.drop used)

def pieces? : Nat → List Char → Option (List Piece × Nat)
  | _, [] => none
  | skip + 1, _ :: cs => (pieces? skip cs).map fun (ps, n) => (ps, n + 1)
  | 0, c :: cs =>
    if c = ']' then some ([], 1)
    else do
      let (p, used) ← piece? c cs
      let (ps, n) ← pieces? used cs
      return (p :: ps, n + 1)

def somePieces? (cs : List Char) : Option (List Piece × Nat) :=
  (pieces? 0 cs).filter fun (ps, _) => !ps.isEmpty

def set? : List Char → Option (CharSet × Nat)
  | '^' :: cs => (somePieces? cs).map fun (ps, n) => (⟨true, ps⟩, n + 1)
  | cs => (somePieces? cs).map fun (ps, n) => (⟨false, ps⟩, n)

theorem hexDigits?_append (n : Nat) (ds es : List Char) :
    hexDigits? n (ds ++ es) = (hexDigits? n ds).bind fun m => hexDigits? m es := by
  induction ds generalizing n with
  | nil => rfl
  | cons d ds ih => cases hd : hexDigit? d <;> simp [hexDigits?, hd, ih]

theorem hexDigit?_digitChar : ∀ d < 16, hexDigit? (Nat.digitChar d).toUpper = some d := by decide

/-- The digits of a number, in capital letters, are read as the number. -/
theorem hexDigits?_toDigits (n : Nat) :
    hexDigits? 0 ((Nat.toDigits 16 n).map Char.toUpper) = some n := by
  induction n using Nat.strongRecOn with
  | ind n ih =>
    by_cases hsmall : n < 16
    · simp [Nat.toDigits_of_lt_base hsmall, hexDigits?, hexDigit?_digitChar n hsmall]
    · have hdigit := hexDigit?_digitChar (n % 16) (Nat.mod_lt n (by omega))
      have hsum : 16 * (n / 16) + n % 16 = n := Nat.div_add_mod n 16
      rw [Nat.toDigits_of_base_le (by omega) (by omega), List.map_append, hexDigits?_append,
        ih (n / 16) (by omega)]
      simp [hexDigits?, hdigit, hsum]

theorem hexDigit?_of_mem {n m : Nat} {ds : List Char} (h : hexDigits? n ds = some m) :
    ∀ d ∈ ds, (hexDigit? d).isSome := by
  induction ds generalizing n with
  | nil => simp
  | cons d ds ih =>
    obtain ⟨k, hk, hrest⟩ := Option.bind_eq_some_iff.mp h
    intro e he
    rcases List.mem_cons.mp he with rfl | he
    · simp [hk]
    · exact ih hrest e he

theorem charOfNumber?_toNat (c : Char) : charOfNumber? c.toNat = some c := by
  have hvalid : c.toNat.isValidChar := c.valid
  rw [charOfNumber?, dif_pos hvalid]
  congr 1

theorem braced?_append {inside rest : List Char} (h : '\x7d' ∉ inside) :
    braced? (inside ++ '\x7d' :: rest) = some inside := by
  induction inside with
  | nil => simp [braced?, splitAt?]
  | cons c cs ih =>
    have hne : ¬ '\x7d' = c := fun hc => h (hc ▸ List.mem_cons_self)
    have hrest := ih fun hmem => h (List.mem_cons_of_mem _ hmem)
    obtain ⟨split, hsplit, hfirst⟩ := Option.map_eq_some_iff.mp hrest
    simp [braced?, splitAt?, hne, hsplit, hfirst]

/-- What a character of a set can be written with first: itself, or the start of a code. -/
def StartsChar (c : Char) (cs : List Char) : Prop :=
  isSetSign c = false ∨ (c = '\\' ∧ cs.head? = some 'x')

theorem isSetSign_of_alphanumeric {c : Char} (h : isAlphanumeric c || c == '_') :
    isSetSign c = false := by
  have hsigns : ['\\', '[', ']', '^', '-', '&', '~'].all
      (fun d => !(isAlphanumeric d || d == '_')) := by decide
  by_contra hsign
  rw [Bool.not_eq_false, isSetSign, List.contains_iff_mem] at hsign
  have hc := List.all_eq_true.mp hsigns c hsign
  rw [h] at hc
  cases hc

theorem setChar?_renderChar (c : Char) : ∃ d ds, (Piece.renderChar c).toList = d :: ds ∧
    StartsChar d ds ∧ ∀ rest, setChar? d (ds ++ rest) = some (c, ds.length) := by
  by_cases hself : isAlphanumeric c || c == '_'
  · have hsign := isSetSign_of_alphanumeric hself
    refine ⟨c, [], by simp [Piece.renderChar, hself], Or.inl hsign, ?_⟩
    intro rest
    have hne : c ≠ '\\' := by
      rintro rfl
      cases hsign
    rw [List.nil_append, setChar?]
    · simp [hsign]
    · intro cs hc _
      exact hne hc
  · let digits := (Nat.toDigits 16 c.toNat).map Char.toUpper
    have hdigits : hexDigits? 0 digits = some c.toNat := hexDigits?_toDigits c.toNat
    have hbrace : '\x7d' ∉ digits := fun hmem => by
      have := hexDigit?_of_mem hdigits _ hmem
      cases this
    have hne : digits ≠ [] := by simp [digits]
    refine ⟨'\\', 'x' :: '\x7b' :: (digits ++ ['\x7d']), ?_, Or.inr ⟨rfl, rfl⟩, ?_⟩
    · simp [Piece.renderChar, hself, digits, String.toUpper]
    · intro rest
      simp [setChar?, braced?_append hbrace, hne, hdigits, charOfNumber?_toNat]

def PieceWritten : Piece → Prop
  | .single _ => True
  | .span lo hi => lo ≤ hi
  | .property name _ => '\x7d' ∉ name.toList

theorem StartsChar.append_cons {c d : Char} {cs ds rest : List Char} (h : StartsChar c cs)
    (hc : c = '\\') (hcs : cs ++ rest = d :: ds) : d = 'x' := by
  subst hc
  rcases h with hsign | ⟨-, hhead⟩
  · cases hsign
  · cases cs with
    | nil => cases hhead
    | cons e es =>
      cases hhead
      exact (List.cons.inj hcs).1.symm

theorem piece?_of_startsChar {d lo : Char} {ds rest : List Char} (hstart : StartsChar d ds)
    (hchar : setChar? d (ds ++ rest) = some (lo, ds.length)) :
    piece? d (ds ++ rest) = pieceFrom? lo ds.length rest := by
  rw [piece?]
  · simp [hchar]
  · intro cs hd hcs
    cases hstart.append_cons hd hcs
  · intro cs hd hcs
    cases hstart.append_cons hd hcs

theorem piece?_render {p : Piece} (h : PieceWritten p) : ∃ d ds, p.render.toList = d :: ds ∧
    d ≠ ']' ∧ d ≠ '-' ∧ d ≠ '^' ∧
    ∀ rest, rest.head? ≠ some '-' → piece? d (ds ++ rest) = some (p, ds.length) := by
  have hfirst {d : Char} {ds : List Char} (hstart : StartsChar d ds) :
      d ≠ ']' ∧ d ≠ '-' ∧ d ≠ '^' := by
    refine ⟨?_, ?_, ?_⟩
    all_goals
      rintro rfl
      rcases hstart with hsign | ⟨hback, -⟩
      · cases hsign
      · cases hback
  cases p with
  | single c =>
    obtain ⟨d, ds, hrender, hstart, hchar⟩ := setChar?_renderChar c
    obtain ⟨hclose, hdash, hnot⟩ := hfirst hstart
    refine ⟨d, ds, hrender, hclose, hdash, hnot, ?_⟩
    intro rest hrest
    rw [piece?_of_startsChar hstart (hchar rest), pieceFrom?]
    rintro e es rfl
    exact hrest rfl
  | span lo hi =>
    obtain ⟨d, ds, hrender, hstart, hchar⟩ := setChar?_renderChar lo
    obtain ⟨e, es, hrender', -, hchar'⟩ := setChar?_renderChar hi
    obtain ⟨hclose, hdash, hnot⟩ := hfirst hstart
    refine ⟨d, ds ++ '-' :: e :: es, ?_, hclose, hdash, hnot, ?_⟩
    · simp [Piece.render, hrender, hrender']
    · intro rest hrest
      have hle : lo ≤ hi := h
      rw [List.append_assoc, piece?_of_startsChar hstart (hchar _)]
      simp [pieceFrom?, hchar', hle]
      omega
  | property name negated =>
    cases negated with
    | false =>
      refine ⟨'\\', 'p' :: '\x7b' :: (name.toList ++ ['\x7d']), by simp [Piece.render], by decide,
        by decide, by decide, ?_⟩
      intro rest hrest
      simp [piece?, property?, braced?_append h]
    | true =>
      refine ⟨'\\', 'P' :: '\x7b' :: (name.toList ++ ['\x7d']), by simp [Piece.render], by decide,
        by decide, by decide, ?_⟩
      intro rest hrest
      simp [piece?, property?, braced?_append h]

theorem pieces?_skip (cs rest : List Char) :
    pieces? cs.length (cs ++ rest) = (pieces? 0 rest).map fun (ps, n) => (ps, n + cs.length) := by
  induction cs with
  | nil => simp
  | cons c cs ih =>
    rw [List.length_cons, List.cons_append, pieces?, ih, Option.map_map]
    rfl

theorem pieces?_render {ps : List Piece} (h : ∀ p ∈ ps, PieceWritten p) (rest : List Char) :
    pieces? 0 (ps.flatMap (·.render.toList) ++ ']' :: rest) =
      some (ps, (ps.flatMap (·.render.toList)).length + 1) := by
  induction ps with
  | nil => simp [pieces?]
  | cons p ps ih =>
    have hmore := fun q hq => h q (List.mem_cons_of_mem p hq)
    obtain ⟨d, ds, hrender, hclose, -, -, hpiece⟩ := piece?_render (h p List.mem_cons_self)
    have hrest : (ps.flatMap (·.render.toList) ++ ']' :: rest).head? ≠ some '-' := by
      cases ps with
      | nil => simp
      | cons q qs =>
        obtain ⟨e, es, hrender', -, hdash, -⟩ := piece?_render (hmore q List.mem_cons_self)
        simpa [hrender'] using hdash
    rw [List.flatMap_cons, hrender, List.append_assoc, List.cons_append, pieces?, if_neg hclose,
      hpiece _ hrest]
    simp only [Option.bind_eq_bind, Option.bind_some, pieces?_skip, ih hmore, Option.map_some]
    simp
    omega

structure SetWritten (s : CharSet) : Prop where
  pieces_ne : s.pieces ≠ []
  pieces : ∀ p ∈ s.pieces, PieceWritten p

theorem set?_render {s : CharSet} (h : SetWritten s) :
    ∃ cs, s.render.toList = '[' :: cs ∧ ∀ rest, set? (cs ++ rest) = some (s, cs.length) := by
  obtain ⟨negated, ps⟩ := s
  let inside := ps.flatMap (·.render.toList)
  have hread : ∀ rest, somePieces? (inside ++ ']' :: rest) = some (ps, inside.length + 1) := by
    intro rest
    have hne : ps ≠ [] := h.pieces_ne
    simp [somePieces?, inside, pieces?_render h.pieces, hne]
  cases negated with
  | true =>
    refine ⟨'^' :: (inside ++ [']']), ?_, ?_⟩
    · simp [CharSet.render, inside, List.flatMap_map]
    · intro rest
      simp [set?, hread]
  | false =>
    refine ⟨inside ++ [']'], ?_, ?_⟩
    · simp [CharSet.render, inside, List.flatMap_map]
    · intro rest
      rw [List.append_assoc, set?]
      · simp [hread]
      · intro cs hcs
        cases ps with
        | nil => exact h.pieces_ne rfl
        | cons p ps =>
          obtain ⟨d, ds, hrender, -, -, hnot, -⟩ := piece?_render (h.pieces p List.mem_cons_self)
          simp only [inside, List.flatMap_cons, hrender, List.cons_append] at hcs
          exact hnot (List.cons.inj hcs).1

end GrammarWorkbench.Pattern.Written
