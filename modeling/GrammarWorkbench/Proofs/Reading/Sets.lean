import GrammarWorkbench.Proofs.Reading.Escapes

/-!
# Character sets

A set is written as members one after another: characters, ranges between two characters, and
properties. A character can be written as itself, as an escape of one letter, or by its number. All
ways to write a set are decoded to the same members, in order. A dash at the end is a member of its
own. A range with its bounds in the wrong order is refused, whatever stands behind it.
-/

set_option autoImplicit false

namespace GrammarWorkbench.Declaration

def setStops : List Char := ['\\', '-', ']', '\n', '\r']

def setEscapes : List (Char × Char) :=
  letterEscapes ++ [(']', ']'), ('-', '-'), ('[', '['), ('^', '^')]

inductive CharWritten : List Char → Char → Prop
  | plain {c : Char} (hc : c ∉ setStops) : CharWritten [c] c
  | letter {l c : Char} (hl : (l, c) ∈ setEscapes) : CharWritten ['\\', l] c
  | four {ds : List Char} {c : Char} (hlength : ds.length = 4) (hds : Names ds c) :
    CharWritten ('\\' :: 'u' :: ds) c
  | braced {ds : List Char} {c : Char} (hne : ds ≠ []) (hlength : ds.length ≤ 6)
    (hds : Names ds c) : CharWritten ('\\' :: 'u' :: '\x7b' :: (ds ++ ['\x7d'])) c

theorem decodeSetEscape_letter {l c : Char} (hl : (l, c) ∈ setEscapes) (rest : List Char) :
    decodeSetEscape (l :: rest) = .ok (.char c, 1) := by
  rcases List.mem_append.mp hl with hl | hl
  · have hescape := decodeEscape_letter hl rest
    have hletter : ∀ pair ∈ letterEscapes,
        isSetEscape pair.1 = false ∧ pair.1 ≠ 'p' ∧ pair.1 ≠ 'P' := by decide
    simp [decodeSetEscape, hletter _ hl, hescape, Except.map]
  · simp only [List.mem_cons, Prod.mk.injEq, List.not_mem_nil, or_false] at hl
    rcases hl with ⟨rfl, rfl⟩ | ⟨rfl, rfl⟩ | ⟨rfl, rfl⟩ | ⟨rfl, rfl⟩ <;> rfl

theorem decodeSetEscape_code {cs : List Char} {c : Char} {used : Nat}
    (h : decodeCode cs = .ok (c, used)) :
    decodeSetEscape ('u' :: cs) = .ok (.char c, used + 1) := by
  simp [decodeSetEscape, isSetEscape, decodeEscape_code h, Except.map]

/-- A written character is decoded without what stands behind it. -/
theorem CharWritten.namesChar {part : List Char} {c : Char} (h : CharWritten part c) :
    NamesChar part c := by
  cases h with
  | plain hc =>
    have hslash : c ≠ '\\' := by
      rintro rfl
      exact hc (by decide)
    have hdash : c ≠ '-' := by
      rintro rfl
      exact hc (by decide)
    exact ⟨c, [], rfl, hdash, fun rest => by simp [decodeClassAtom, hslash]⟩
  | @letter l _ hl => exact ⟨'\\', [l], rfl, by decide, decodeSetEscape_letter hl⟩
  | @four ds _ hlength hds =>
    refine ⟨'\\', 'u' :: ds, rfl, by decide, fun rest => ?_⟩
    have hcode : decodeCode (ds ++ rest) = .ok (c, ds.length) :=
      decodeCode_four hlength (.inl hds) rest
    exact decodeSetEscape_code hcode
  | @braced ds _ hne hlength hds =>
    refine ⟨'\\', 'u' :: '\x7b' :: (ds ++ ['\x7d']), rfl, by decide, fun rest => ?_⟩
    have hcode : decodeCode ('\x7b' :: (ds ++ ['\x7d']) ++ rest) = .ok (c, ds.length + 2) := by
      have htext : '\x7b' :: (ds ++ ['\x7d']) ++ rest = '\x7b' :: (ds ++ '\x7d' :: rest) := by simp
      rw [htext]
      exact decodeCode_braced hne hlength (.inl hds) rest
    have hescape := decodeSetEscape_code hcode
    simpa [decodeClassAtom] using hescape

/-- A member of a set as it is written. A character is a range from itself to itself, which may be
written as the character alone. -/
inductive MemberWritten : List Char → ClassItem → Prop
  | char {part : List Char} {c : Char} (h : CharWritten part c) : MemberWritten part (.range c c)
  | range {low high : List Char} {lo hi : Char} (hlow : CharWritten low lo)
    (hhigh : CharWritten high hi) : MemberWritten (low ++ '-' :: high) (.range lo hi)
  | property {name : String} (hne : name ≠ "") (hname : '\x7d' ∉ name.toList) (negated : Bool) :
    MemberWritten ('\\' :: (if negated then 'P' else 'p') :: '\x7b' :: (name.toList ++ ['\x7d']))
      (.property name negated)

def ClassItem.InOrder : ClassItem → Prop
  | .range lo hi => lo ≤ hi
  | .property _ _ => True

instance : DecidablePred ClassItem.InOrder
  | .range lo hi => inferInstanceAs (Decidable (lo ≤ hi))
  | .property _ _ => inferInstanceAs (Decidable True)

theorem NamesChar.head {part : List Char} {c : Char} (h : NamesChar part c) (rest : List Char) :
    (part ++ rest).head? ≠ some '-' := by
  obtain ⟨d, ds, rfl, hd, -⟩ := h
  simpa using hd

theorem MemberWritten.head {part : List Char} {item : ClassItem} (h : MemberWritten part item)
    (rest : List Char) : (part ++ rest).head? ≠ some '-' := by
  cases h with
  | char h => exact h.namesChar.head rest
  | range hlow _ =>
    rw [List.append_assoc]
    exact hlow.namesChar.head _
  | property _ _ _ => simp

theorem MemberWritten.decode {part : List Char} {item : ClassItem} (h : MemberWritten part item)
    (horder : item.InOrder) {rest : List Char} (hrest : ¬ StartsRange rest) :
    decodeClassItems 0 (part ++ rest) = (decodeClassItems 0 rest).map (item :: ·) := by
  cases h with
  | char h => exact decodeClassItems_char h.namesChar hrest
  | range hlow hhigh => exact decodeClassItems_range hlow.namesChar hhigh.namesChar horder rest
  | property hne hname negated =>
    have hdecode := decodeClassItems_property negated hname hne rest
    simpa [ClassItem.spelled] using hdecode

/-- A range with its bounds in the wrong order is refused, whatever stands behind it. -/
theorem decodeClassItems_reversed {low high : List Char} {lo hi : Char} (hlow : NamesChar low lo)
    (hhigh : NamesChar high hi) (h : hi < lo) (rest : List Char) :
    decodeClassItems 0 (low ++ '-' :: high ++ rest) = .error (.reversedRange lo hi) := by
  obtain ⟨d, ds, rfl, -, hatom⟩ := hlow
  obtain ⟨d', ds', rfl, -, hatom'⟩ := hhigh
  have htext : d :: ds ++ '-' :: d' :: ds' ++ rest = d :: (ds ++ '-' :: d' :: (ds' ++ rest)) := by
    simp
  rw [htext, decodeClassItems]
  simp [decodeClassItem, hatom, hatom', bind, Except.bind, h, throw, throwThe, MonadExceptOf.throw]

section Sets

variable {parts : List (List Char)} {items : List ClassItem}

theorem members_head (h : List.Forall₂ MemberWritten parts items) (hne : items ≠ [])
    (rest : List Char) : (parts.flatten ++ rest).head? ≠ some '-' := by
  cases h with
  | nil => exact absurd rfl hne
  | cons hpart _ =>
    rw [List.flatten_cons, List.append_assoc]
    exact hpart.head _

theorem decodeClassItems_members (h : List.Forall₂ MemberWritten parts items)
    (horder : ∀ item ∈ items, item.InOrder) {rest : List Char} (hrest : ¬ StartsRange rest) :
    decodeClassItems 0 (parts.flatten ++ rest) = (decodeClassItems 0 rest).map (items ++ ·) := by
  induction h with
  | nil => cases hmore : decodeClassItems 0 rest <;> simp [hmore, Except.map]
  | @cons part item parts items hpart hparts ih =>
    obtain ⟨hitem, hitems⟩ := List.forall_mem_cons.mp horder
    have hbehind : ¬ StartsRange (parts.flatten ++ rest) := by
      cases hparts with
      | nil => exact hrest
      | cons hnext hmore =>
        exact not_startsRange (members_head (.cons hnext hmore) (by simp) rest)
    rw [List.flatten_cons, List.append_assoc, hpart.decode hitem hbehind, ih hitems]
    cases decodeClassItems 0 rest <;> rfl

/-- The first written member that is not in order ends the decoding. -/
theorem decodeClassItems_disordered (h : List.Forall₂ MemberWritten parts items)
    (hdisorder : ∃ item ∈ items, ¬ item.InOrder) : ∃ lo hi, .range lo hi ∈ items ∧ hi < lo ∧
      ∀ rest, decodeClassItems 0 (parts.flatten ++ rest) = .error (.reversedRange lo hi) := by
  induction h with
  | nil => simp at hdisorder
  | @cons part item parts items hpart hparts ih =>
    by_cases hitem : item.InOrder
    · have hlater : ∃ item ∈ items, ¬ item.InOrder := by simpa [hitem] using hdisorder
      obtain ⟨lo, hi, hmem, hlt, hdecode⟩ := ih hlater
      refine ⟨lo, hi, List.mem_cons_of_mem _ hmem, hlt, fun rest => ?_⟩
      have hbehind := not_startsRange (members_head hparts (List.ne_nil_of_mem hmem) rest)
      rw [List.flatten_cons, List.append_assoc, hpart.decode hitem hbehind, hdecode]
      rfl
    · cases hpart with
      | char _ => exact absurd (Char.le_refl _) hitem
      | property _ _ _ => exact absurd trivial hitem
      | @range low high lo hi hlow hhigh =>
        have hlt : hi < lo := Char.not_le.mp hitem
        refine ⟨lo, hi, List.mem_cons_self, hlt, fun rest => ?_⟩
        rw [List.flatten_cons, List.append_assoc]
        exact decodeClassItems_reversed hlow.namesChar hhigh.namesChar hlt _

theorem decodeClass_of_items {cs : List Char} (h : decodeClassItems 0 cs = .ok items)
    (hne : items ≠ []) : decodeClass cs = .ok items := by
  have hempty : items.isEmpty = false := by simpa using hne
  simp [decodeClass, h, bind, Except.bind, hempty, pure, Except.pure]

/-- Members that are in order are decoded however they are written, and with a dash behind them the
dash is one more member. If a range is not in order the set is refused for it, whatever stands
behind the members. -/
theorem decodeClass_members (h : List.Forall₂ MemberWritten parts items) :
    (items ≠ [] → (∀ item ∈ items, item.InOrder) →
      decodeClass parts.flatten = .ok items ∧
      decodeClass (parts.flatten ++ ['-']) = .ok (items ++ [.range '-' '-'])) ∧
    ((∃ item ∈ items, ¬ item.InOrder) → ∃ lo hi, .range lo hi ∈ items ∧ hi < lo ∧
      ∀ rest, decodeClass (parts.flatten ++ rest) = .error (.reversedRange lo hi)) := by
  constructor
  · intro hne horder
    have hend : ¬ StartsRange [] := by rintro ⟨next, rest, hnil⟩; cases hnil
    have hdash : ¬ StartsRange ['-'] := by rintro ⟨next, rest, hone⟩; cases hone
    have hall := decodeClassItems_members h horder hend
    have hmore := decodeClassItems_members h horder hdash
    rw [List.append_nil] at hall
    refine ⟨decodeClass_of_items ?_ hne, decodeClass_of_items ?_ (by simp)⟩
    · rw [hall]
      simp [decodeClassItems, Except.map]
    · rw [hmore]
      rfl
  · intro hdisorder
    obtain ⟨lo, hi, hmem, hlt, hdecode⟩ := decodeClassItems_disordered h hdisorder
    refine ⟨lo, hi, hmem, hlt, fun rest => ?_⟩
    rw [decodeClass, hdecode]
    rfl

end Sets

def mixedParts : List (List Char) :=
  [['a'] ++ '-' :: '\\' :: 'u' :: '\x7b' :: (['7', 'A'] ++ ['\x7d']), ['_'],
    ['\\', '-'] ++ '-' :: '\\' :: 'u' :: ['0', '0', '2', 'D'], ['\\', ']'],
    '\\' :: 'P' :: '\x7b' :: ("L".toList ++ ['\x7d'])]

def mixedItems : List ClassItem :=
  [.range 'a' 'z', .range '_' '_', .range '-' '-', .range ']' ']', .property "L" true]

def backwardPart : List Char := ['z'] ++ '-' :: ['a']

theorem mixedParts_written : List.Forall₂ MemberWritten mixedParts mixedItems := by
  have hz : Names ['7', 'A'] 'z' := hexDigits?_bind.mp (by decide)
  have hdash : Names ['0', '0', '2', 'D'] '-' := hexDigits?_bind.mp (by decide)
  refine .cons (.range (.plain (by decide)) (.braced (by decide) (by decide) hz)) ?_
  refine .cons (.char (.plain (by decide))) ?_
  refine .cons (.range (.letter (by decide)) (.four rfl hdash)) ?_
  refine .cons (.char (.letter (by decide))) ?_
  exact .cons (.property (by decide) (by decide) true) .nil

/-- A set with every way to write a member, and one more range that is not in order. -/
theorem decodeClass_members_mixed :
    (decodeClass mixedParts.flatten = .ok mixedItems ∧
      decodeClass (mixedParts.flatten ++ ['-']) = .ok (mixedItems ++ [.range '-' '-'])) ∧
    ∃ lo hi, .range lo hi ∈ mixedItems ++ [.range 'z' 'a'] ∧ hi < lo ∧
      ∀ rest, decodeClass ((mixedParts ++ [backwardPart]).flatten ++ rest) =
        .error (.reversedRange lo hi) := by
  have hbackward : List.Forall₂ MemberWritten (mixedParts ++ [backwardPart])
      (mixedItems ++ [.range 'z' 'a']) :=
    List.rel_append mixedParts_written
      (.cons (.range (.plain (by decide)) (.plain (by decide))) .nil)
  exact ⟨(decodeClass_members mixedParts_written).1 (by decide) (by decide),
    (decodeClass_members hbackward).2 (by decide)⟩

end GrammarWorkbench.Declaration
