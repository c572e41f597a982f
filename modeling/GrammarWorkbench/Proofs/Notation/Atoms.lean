import GrammarWorkbench.Proofs.Notation.Spelling
import GrammarWorkbench.Proofs.Notation.Tokens

/-!
# Atoms read back

References, literals, ranges, sets, wildcards and negated sets are recognised in their words and
read as what they were written for. The order of the choices matters: a literal is a range only if
two dots follow it, and a set of its own is tried behind the groups.
-/

set_option autoImplicit false

namespace GrammarWorkbench.Declaration

open GrammarWorkbench.Text GrammarWorkbench.Recognizer GrammarWorkbench.Diagnostic
open GrammarWorkbench.Declaration.Phrase

def guard : Phrase → Option Char
  | .range | .stringLiteral => some '\''
  | .charSet | .argAction => some '['
  | .wildcard => some '.'
  | .notSet => some '~'
  | .group | .setGroup => some '('
  | .actionElement | .actionBlock => some '\x7b'
  | .elementOptions => some '<'
  | .alternativeLabel => some '#'
  | .lexerCommands => some '-'
  | .namedAction => some '@'
  | _ => none

section Guarded

variable {d : Nat} {w : Word} {ws vs : List Word} {r : Phrase} {g : Char}

theorem starts_guard (hg : guard r = some g) (first : Option Char) :
    misses 3 r = false ∧ starts 3 r first = (some g == first) := by
  cases r <;> cases hg <;> exact ⟨rfl, rfl⟩

/-- A phrase that starts with one character is refused at a word that starts with another. -/
theorem refuses_guard (hg : guard r = some g) (hws : firstChar ws ≠ some g) :
    Refuses d (.rule r) ws := by
  obtain ⟨hmiss, hstart⟩ := starts_guard hg (firstChar ws)
  refine .of_starts 3 ?_ hmiss
  rw [mayStart, hstart, beq_eq_false_iff_ne]
  exact hws.symm

theorem IsName.exists_cons (hw : IsName w) : ∃ c cs, w = c :: cs ∧ isNameStart c = true := by
  cases w with
  | nil => exact hw.elim
  | cons c cs => exact ⟨c, cs, rfl, hw.1⟩

theorem IsName.firstChar_ne (hw : IsName w) (hg : isNameStart g = false) :
    firstChar (w :: ws) ≠ some g := by
  obtain ⟨c, cs, rfl, hc⟩ := hw.exists_cons
  intro h
  cases h
  rw [hg] at hc
  cases hc

end Guarded

def atomStops : List String := ["..", "<", "+=", "=", "\x7b"]

def elementStops : List String := atomStops ++ ["?", "*", "+"]

def Avoids (stops : List String) (vs : List Word) : Prop :=
  ∃ w us, vs = w :: us ∧ ∀ s ∈ stops, ¬ s.toList <+: w

section Next

variable {d : Nat} {w : Word} {us vs : List Word} {stops : List String} {s : String}

theorem Avoids.refuses (h : Avoids stops vs) (hs : s ∈ stops)
    (hopens : s.toList.all opens = true) : Refuses d (Expr.lit s) vs := by
  obtain ⟨w, us, rfl, hstops⟩ := h
  exact .lit hopens (hstops s hs)

theorem Avoids.atom (h : Avoids elementStops vs) : Avoids atomStops vs := by
  obtain ⟨w, us, rfl, hstops⟩ := h
  exact ⟨w, us, rfl, fun s hs => hstops s (List.mem_append_left _ hs)⟩

theorem IsName.avoids (hw : IsName w) : Avoids elementStops (w :: us) := by
  obtain ⟨c, cs, rfl, hc⟩ := hw.exists_cons
  refine ⟨_, us, rfl, fun s hs hprefix => ?_⟩
  have hheads : ∀ s ∈ elementStops, s.toList ≠ [] ∧ s.toList.head?.any isNameStart = false := by
    decide
  obtain ⟨hne, hstart⟩ := hheads s hs
  obtain ⟨b, bs, hbs⟩ := List.exists_cons_of_ne_nil hne
  rw [hbs, List.cons_prefix_cons] at hprefix
  simp [hbs, hprefix.1, hc] at hstart

theorem literalWord_avoids (text : List Char) : Avoids elementStops (literalWord text :: us) :=
  ⟨_, us, rfl, by simp [elementStops, atomStops, literalWord]⟩

theorem setWord_avoids (items : List ClassItem) : Avoids elementStops (setWord items :: us) :=
  ⟨_, us, rfl, by simp [elementStops, atomStops, setWord]⟩

theorem suffix_avoids (suffix : Suffix) : Avoids atomStops (suffix.word :: us) := by
  obtain ⟨kind, greedy⟩ := suffix
  refine ⟨_, us, rfl, ?_⟩
  cases kind <;> cases greedy <;> decide

theorem Avoids.refuses_suffix (h : Avoids elementStops vs) : Refuses d (.rule .suffix) vs := by
  obtain ⟨w, us, rfl, hstops⟩ := h
  refine Refuses.token rfl fun p hp => fails_seq_left (fails_char fun c hc => ?_)
  obtain ⟨rest, hrest, ⟨b, bs, rfl, -⟩, -, -⟩ := hp.cons
  rw [hrest] at hc
  cases hc
  have hone : "?*+".toList.all (fun c => String.ofList [c] ∈ elementStops) = true := by decide
  rw [Bool.eq_false_iff, Ne, List.contains_iff_mem]
  intro hmem
  exact hstops _ (by simpa using List.all_eq_true.mp hone c hmem) (by simp)

end Next

def ReadAs {α : Type} (bare : α → α) (c : Checked (List α)) (xs : List α) : Prop :=
  c.defects = [] ∧ c.value.map bare = xs.map bare

def OneRead {α : Type} (bare : α → α) (r : Phrase → Prop)
    (f : List Char → PhraseNode → Checked (List α)) (x : α) (nodes : List PhraseNode) : Prop :=
  ∃ n, nodes = [n] ∧ r n.rule ∧ ∀ source, ReadAs bare (f source n) [x]

section Ranges

variable {d : Nat} {vs : List Word}

def literalNode (span : Span) (text : List Char) : PhraseNode :=
  .mk .stringLiteral span (literalWord text) []

theorem reads_range (lo hi : Char) (hd : 2 ≤ d) :
    Reads d (.rule .range) (rangeWords lo hi) vs (OfPhrase .range fun kids =>
      ∃ s t, kids = [literalNode s [lo], literalNode t [hi]]) := by
  have hparts : Reads (d - 1) (body .range) ([literalWord [lo]] ++ (["..".toList] ++
      [literalWord [hi]])) vs (Beside (OfToken .stringLiteral (literalWord [lo])) (Beside (· = [])
        (OfToken .stringLiteral (literalWord [hi])))) :=
    .seq (reads_literal _ (by omega)) (.seq (.lit "..") (reads_literal _ (by omega)))
  refine .plain rfl (by omega) (hparts.imp ?_)
  rintro nodes ⟨_, _, rfl, ⟨s, rfl⟩, _, _, rfl, rfl, t, rfl⟩
  exact ⟨s, t, rfl⟩

theorem refuses_range (text : List Char) (hd : 2 ≤ d) (hvs : Avoids atomStops vs) :
    Refuses d (.rule .range) (literalWord text :: vs) := by
  have hdots : Refuses (d - 1) (Expr.lit "..") vs := hvs.refuses (by decide) (by decide)
  exact .rule (by decide) (.seq_right (reads_literal text (by omega)) (.seq_left hdots))

theorem readRange_literals (source : List Char) {lo hi : Char} (h : lo ≤ hi) {s t span : Span}
    {text : List Char} :
    readRange source (.mk .range span text [literalNode s [lo], literalNode t [hi]]) =
      pure (some (lo, hi)) := by
  have hbound : ∀ (c : Char) (s : Span),
      readBound source (literalNode s [c]) = pure (some c) := by
    intro c s
    have hliteral : readLiteral source (literalNode s [c]) = pure (some [c]) :=
      readLiteral_literalWord source (List.cons_ne_nil _ _) rfl
    rw [readBound, hliteral]
    rfl
  simp only [readRange, Node.children_mk, hbound]
  exact if_pos h

end Ranges

section References

variable {d : Nat} {vs : List Word}

def nameNode (span : Span) (w : Word) : PhraseNode := .mk .identifier span w []

theorem reads_ref {w : Word} (hw : IsName w) (hd : 3 ≤ d) (hvs : Avoids atomStops vs) :
    Reads d (.rule .ruleRef) [w] vs (OfPhrase .ruleRef fun kids => ∃ s, kids = [nameNode s w]) := by
  have hoptions : Refuses (d - 1) (.rule .elementOptions) vs := by
    obtain ⟨v, us, rfl, hstops⟩ := hvs
    refine Refuses.token rfl fun p hp => fails_seq_left (fails_text fun hprefix => ?_)
    exact hstops "<" (by decide) (hp.starts_word (List.all_eq_true.mp (by decide)) hprefix)
  have hparts : Reads (d - 1) (body .ruleRef) ([w] ++ []) vs
      (Beside (OfToken .identifier w) (· = [])) :=
    .seq (reads_name hw (by omega)) (.optional_missing hoptions)
  refine .plain rfl (by omega) (hparts.imp ?_)
  rintro nodes ⟨_, _, rfl, ⟨s, rfl⟩, rfl⟩
  exact ⟨s, rfl⟩

theorem identsOf_nameNode (r : Phrase) (span : Span) (text : List Char) (s : Span)
    (ident : Ident) :
    identsOf (.mk r span text [nameNode s ident.word]) = [⟨ident.name, s⟩] := by
  simp [identsOf, nameNode, isName, identOf, Ident.word]

end References

def SetItemRead (item : SetItem) (nodes : List PhraseNode) : Prop :=
  ∃ n, nodes = [n] ∧ n.rule ≠ .setGroup ∧
    ∃ item', item'.bare = item.bare ∧ ∀ source, readSetItem source n = pure (some item')

section Negated

variable {d : Nat} {vs : List Word}

theorem SetItem.firstChar_ne {item : SetItem} (hproper : item.Proper) :
    firstChar (item.words ++ vs) ≠ some '(' := by
  cases item with
  | literal text _ => simp [SetItem.words, literalWord, firstChar]
  | range lo hi => simp [SetItem.words, rangeWords, literalWord, firstChar]
  | set items => simp [SetItem.words, setWord, firstChar]
  | ref ident => exact IsName.firstChar_ne hproper (by decide)

/-- A member of a negated set is read before anything that does not go on with it. -/
theorem reads_setItem {item : SetItem} (hproper : item.Proper) (hcomplete : item.Complete)
    (hd : 3 ≤ d) (hvs : Avoids atomStops vs) :
    Reads d (body .setItem) item.words vs (SetItemRead item) := by
  cases item with
  | literal text span =>
    refine .choice_right (refuses_range text (by omega) hvs) (.choice_left ?_)
    refine (reads_literal text (by omega)).imp ?_
    rintro nodes ⟨s, rfl⟩
    refine ⟨_, rfl, by simp, .literal text s, rfl, fun source => ?_⟩
    have hliteral := readLiteral_literalWord source hproper
      (rfl : (literalNode s text).text = literalWord text)
    rw [literalNode] at hliteral
    simp only [readSetItem, Node.rule_mk, hliteral]
    rfl
  | range lo hi =>
    refine .choice_left ((reads_range lo hi (by omega)).imp ?_)
    rintro nodes ⟨span, text, kids, rfl, s, t, rfl⟩
    refine ⟨_, rfl, by simp, .range lo hi, rfl, fun source => ?_⟩
    simp only [readSetItem, Node.rule_mk, readRange_literals source hproper]
    rfl
  | set items =>
    refine .choice_right (refuses_guard rfl (by simp [SetItem.words, setWord, firstChar]))
      (.choice_right (refuses_guard rfl (by simp [SetItem.words, setWord, firstChar]))
        (.choice_left ?_))
    refine (reads_set hproper (by omega)).imp ?_
    rintro nodes ⟨s, rfl⟩
    refine ⟨_, rfl, by simp, .set items, rfl, fun source => ?_⟩
    have hset := readCharSet_setWord source hproper hcomplete
      (rfl : (Node.mk Phrase.charSet s (setWord items) []).text = setWord items)
    simp only [readSetItem, Node.rule_mk, hset]
    rfl
  | ref ident =>
    refine .choice_right (refuses_guard rfl (IsName.firstChar_ne hproper (by decide)))
      (.choice_right (refuses_guard rfl (IsName.firstChar_ne hproper (by decide)))
        (.choice_right (refuses_guard rfl (IsName.firstChar_ne hproper (by decide))) ?_))
    refine (reads_ref hproper (by omega) hvs).imp ?_
    rintro nodes ⟨span, text, kids, rfl, s, rfl⟩
    refine ⟨_, rfl, by simp, .ref ⟨ident.name, s⟩, rfl, fun source => ?_⟩
    simp only [readSetItem, Node.rule_mk, identsOf_nameNode]
    rfl

theorem eachSome_readSetItem (source : List Char) {items : List SetItem}
    {nodes : List PhraseNode} (h : Each SetItemRead items nodes) :
    ReadAs SetItem.bare (Checked.eachSome (readSetItem source) nodes) items ∧
      ∀ n ∈ nodes, n.rule ≠ .setGroup := by
  induction items generalizing nodes with
  | nil =>
    obtain rfl : nodes = [] := h
    exact ⟨⟨rfl, rfl⟩, by simp⟩
  | cons item items ih =>
    obtain ⟨_, behind, rfl, ⟨n, rfl, hrule, item', hbare, hread⟩, hmore⟩ := h
    obtain ⟨⟨hdefects, hvalue⟩, hrules⟩ := ih hmore
    simp only [Checked.eachSome, Checked.defects_bind, Checked.defects_pure, List.append_nil]
      at hdefects
    rw [Checked.value_eachSome] at hvalue
    refine ⟨⟨?_, ?_⟩, by simpa [hrule] using hrules⟩
    · simp [Checked.eachSome, Checked.each, hread, hdefects]
    · rw [Checked.value_eachSome]
      simp [hread, hbare, hvalue]

theorem closing_avoids {s : String} (hs : s ∈ [";", ")", "|", "#", "->", ",", "(", "~", "."])
    (us : List Word) : Avoids elementStops (s.toList :: us) := by
  have hall : ∀ s ∈ [";", ")", "|", "#", "->", ",", "(", "~", "."], ∀ t ∈ elementStops,
      ¬ t.toList <+: s.toList := by
    decide
  exact ⟨_, us, rfl, hall s hs⟩

theorem reads_setGroup {items : List SetItem} (hproper : ∀ item ∈ items, item.Proper)
    (hcomplete : ∀ item ∈ items, item.Complete) (hne : items ≠ []) (hd : 5 ≤ d) :
    Reads d (.rule .setGroup)
      (["(".toList] ++ (joined "|" (items.map SetItem.words) ++ [")".toList])) vs
      (OfPhrase .setGroup (Each SetItemRead items)) := by
  have hitems : Reads (d - 1) (separated "|" (.rule .setItem))
      (joined "|" (items.map SetItem.words)) ([")".toList] ++ vs) (Each SetItemRead items) := by
    refine Reads.separated (F := Avoids atomStops) hne ?_ ?_ ?_ ?_
    · intro item hitem us hus
      exact .silent rfl (by omega)
        (reads_setItem (hproper item hitem) (hcomplete item hitem) (by omega) hus)
    · exact fun us => (closing_avoids (by decide) us).atom
    · exact (closing_avoids (by decide) vs).atom
    · exact .lit (by decide) (by decide)
  refine .plain rfl (by omega) ((Reads.seq (.lit "(") (.seq hitems (.lit ")"))).imp ?_)
  rintro nodes ⟨_, _, rfl, rfl, _, _, rfl, hnodes, rfl⟩
  simpa using hnodes

theorem reads_notSet {items : List SetItem} (hproper : ∀ item ∈ items, item.Proper)
    (hcomplete : ∀ item ∈ items, item.Complete) (hne : items ≠ []) (hd : 6 ≤ d)
    (hvs : Avoids atomStops vs) :
    Reads d (.rule .notSet) (notWords items) vs (OfPhrase .notSet fun kids =>
      ∃ nodes, Each SetItemRead items nodes ∧
        (kids = nodes ∨ ∃ span text, kids = [.mk .setGroup span text nodes])) := by
  refine .plain rfl (by omega) ?_
  have hgroup : Reads (d - 1) (body .notSet) (["~".toList] ++ (["(".toList] ++
      (joined "|" (items.map SetItem.words) ++ [")".toList]))) vs fun kids =>
      ∃ nodes, Each SetItemRead items nodes ∧
        (kids = nodes ∨ ∃ span text, kids = [.mk .setGroup span text nodes]) := by
    refine (Reads.seq (.lit "~") (.choice_left
      (reads_setGroup hproper hcomplete hne (by omega)))).imp ?_
    rintro nodes ⟨_, _, rfl, rfl, span, text, kids, rfl, hkids⟩
    exact ⟨kids, hkids, .inr ⟨span, text, rfl⟩⟩
  unfold notWords
  split
  · rename_i item
    have hitem := reads_setItem (d := d - 1) (hproper item List.mem_cons_self)
      (hcomplete item List.mem_cons_self) (by omega) hvs
    refine (Reads.seq (.lit "~") (.choice_right (refuses_guard rfl
      (SetItem.firstChar_ne (hproper item List.mem_cons_self))) hitem)).imp ?_
    rintro nodes ⟨_, behind, rfl, rfl, hread⟩
    exact ⟨behind, ⟨behind, [], by simp, hread, rfl⟩, .inl rfl⟩
  · have hwords : "~".toList :: "(".toList :: joined "|" (items.map SetItem.words) ++ [")".toList] =
        ["~".toList] ++ (["(".toList] ++
          (joined "|" (items.map SetItem.words) ++ [")".toList])) := by
      simp only [List.cons_append, List.nil_append]
    rw [hwords]
    exact hgroup

theorem flatMap_ungrouped {nodes : List PhraseNode} (h : ∀ n ∈ nodes, n.rule ≠ .setGroup) :
    (nodes.flatMap fun m => if m.rule == .setGroup then m.children else [m]) = nodes := by
  induction nodes with
  | nil => rfl
  | cons n nodes ih =>
    have hn : ¬ (n.rule == .setGroup) = true := by simpa using h n List.mem_cons_self
    rw [List.flatMap_cons, if_neg hn, ih fun m hm => h m (List.mem_cons_of_mem _ hm)]
    rfl

theorem readNotSet_read (source : List Char) {items : List SetItem} {nodes kids : List PhraseNode}
    (h : Each SetItemRead items nodes)
    (hkids : kids = nodes ∨ ∃ span text, kids = [.mk .setGroup span text nodes]) (span : Span)
    (text : List Char) :
    ReadAs SetItem.bare (readNotSet source (.mk .notSet span text kids)) items := by
  obtain ⟨hread, hrules⟩ := eachSome_readSetItem source h
  have hmembers :
      (kids.flatMap fun m => if m.rule == .setGroup then m.children else [m]) = nodes := by
    rcases hkids with rfl | ⟨_, _, rfl⟩
    · exact flatMap_ungrouped hrules
    · simp
  rw [readNotSet, Node.children_mk, hmembers]
  exact hread

end Negated

/-- A name with nothing behind it that would make a label of it, or no name at all. -/
def Unlabelled (ws : List Word) : Prop :=
  (∃ w us, ws = w :: us ∧ IsName w ∧ Avoids atomStops us) ∨
    ∀ c ∈ firstChar ws, isNameStart c = false

abbrev AtomRead (a : Atom) : List PhraseNode → Prop := OneRead Atom.bare (· ≠ .suffix) readAtom a

section Leaves

variable {d : Nat} {vs : List Word}

theorem firstChar_notWords (items : List SetItem) :
    firstChar (notWords items ++ vs) = some '~' := by
  unfold notWords
  split <;> rfl

theorem Atom.unlabelled {a : Atom} (hproper : a.Proper) (hvs : Avoids atomStops vs) :
    Unlabelled (a.words ++ vs) := by
  cases a with
  | ref ident => exact .inl ⟨_, vs, by rw [Atom.words]; rfl, hproper, hvs⟩
  | literal text => exact .inr (by simp [Atom.words, literalWord, firstChar]; decide)
  | range lo hi => exact .inr (by simp [Atom.words, rangeWords, literalWord, firstChar]; decide)
  | set items => exact .inr (by simp [Atom.words, setWord, firstChar]; decide)
  | wildcard => exact .inr (by simp [Atom.words, firstChar]; decide)
  | not items => exact .inr (by simp [Atom.words, firstChar_notWords]; decide)
  | group as => exact .inr (by simp [Atom.words, firstChar]; decide)

theorem Atom.avoids {a : Atom} (hproper : a.Proper) : Avoids elementStops (a.words ++ vs) := by
  cases a with
  | ref ident =>
    rw [Atom.words]
    exact IsName.avoids hproper
  | literal text =>
    rw [Atom.words]
    exact literalWord_avoids text
  | range lo hi =>
    rw [Atom.words]
    exact literalWord_avoids [lo]
  | set items =>
    rw [Atom.words]
    exact setWord_avoids items
  | wildcard =>
    rw [Atom.words]
    exact closing_avoids (by decide) _
  | not items =>
    rw [Atom.words]
    unfold notWords
    split
    · exact closing_avoids (by decide) _
    · exact closing_avoids (by decide) _
  | group as =>
    rw [Atom.words]
    exact closing_avoids (by decide) _

/-- An atom that is no group is read back. Each choice before its own is refused at its first
character, but for the range that a literal could start. -/
theorem reads_leaf {a : Atom} (hproper : a.Proper) (hcomplete : a.Complete)
    (hleaf : ∀ as, a ≠ .group as) (hd : 8 ≤ d) (hvs : Avoids atomStops vs) :
    Reads d (.rule .atom) a.words vs (AtomRead a) := by
  refine .silent rfl (by omega) ?_
  cases a with
  | ref ident =>
    have hother : ∀ {r : Phrase} {g : Char}, guard r = some g → isNameStart g = false →
        Refuses (d - 1) (.rule r) ([ident.word] ++ vs) :=
      fun hg hstart => refuses_guard hg (IsName.firstChar_ne hproper hstart)
    rw [Atom.words]
    refine .choice_right (hother rfl rfl) (.choice_right (hother rfl rfl) (.choice_right
      (hother rfl rfl) (.choice_right (hother rfl rfl) (.choice_right (hother rfl rfl)
        (.choice_right (hother rfl rfl) ((reads_ref hproper (by omega) hvs).imp ?_))))))
    rintro nodes ⟨span, text, kids, rfl, s, rfl⟩
    refine ⟨_, rfl, by simp, fun source => ?_⟩
    simp [readAtom, identsOf_nameNode, ReadAs, Atom.bare, Ident.bare]
  | literal text =>
    rw [Atom.words]
    have hother : Refuses (d - 1) (.rule .notSet) ([literalWord text] ++ vs) :=
      refuses_guard rfl (by simp [literalWord, firstChar])
    refine .choice_right (refuses_range text (by omega) hvs) (.choice_right hother
      (.choice_left ((reads_literal text (by omega)).imp ?_)))
    rintro nodes ⟨s, rfl⟩
    refine ⟨_, rfl, by simp, fun source => ?_⟩
    have hliteral := readLiteral_literalWord source hproper
      (rfl : (literalNode s text).text = literalWord text)
    rw [literalNode] at hliteral
    simp [readAtom, hliteral, ReadAs, Atom.bare]
  | range lo hi =>
    rw [Atom.words]
    refine .choice_left ((reads_range lo hi (by omega)).imp ?_)
    rintro nodes ⟨span, text, kids, rfl, s, t, rfl⟩
    refine ⟨_, rfl, by simp, fun source => ?_⟩
    simp [readAtom, readRange_literals source hproper, ReadAs, Atom.bare]
  | set items =>
    rw [Atom.words]
    have hother : ∀ {r : Phrase} {g : Char}, guard r = some g → g ≠ '[' →
        Refuses (d - 1) (.rule r) ([setWord items] ++ vs) := by
      intro r g hg hne
      exact refuses_guard hg (by simpa [setWord, firstChar] using Ne.symm hne)
    refine .choice_right (hother rfl (by decide)) (.choice_right (hother rfl (by decide))
      (.choice_right (hother rfl (by decide))
        (.choice_left ((reads_set hproper (by omega)).imp ?_))))
    rintro nodes ⟨s, rfl⟩
    refine ⟨_, rfl, by simp, fun source => ?_⟩
    have hset := readCharSet_setWord source hproper hcomplete
      (rfl : (Node.mk Phrase.charSet s (setWord items) []).text = setWord items)
    simp [readAtom, hset, ReadAs, Atom.bare]
  | wildcard =>
    rw [Atom.words]
    have hother : ∀ {r : Phrase} {g : Char}, guard r = some g → g ≠ '.' →
        Refuses (d - 1) (.rule r) ([".".toList] ++ vs) := by
      intro r g hg hne
      exact refuses_guard hg (by simpa [firstChar] using Ne.symm hne)
    refine .choice_right (hother rfl (by decide)) (.choice_right (hother rfl (by decide))
      (.choice_right (hother rfl (by decide)) (.choice_right (hother rfl (by decide))
        (.choice_left ((Reads.plain rfl (by omega) (.lit ".")).imp ?_)))))
    rintro nodes ⟨span, text, kids, rfl, -⟩
    refine ⟨_, rfl, by simp, fun source => ?_⟩
    simp [readAtom, ReadAs]
  | not items =>
    have hrange : Refuses (d - 1) (.rule .range) (notWords items ++ vs) :=
      refuses_guard rfl (by rw [firstChar_notWords]; decide)
    rw [Atom.words]
    refine .choice_right hrange (.choice_left
      ((reads_notSet hproper hcomplete.2 hcomplete.1 (by omega) hvs).imp ?_))
    rintro nodes ⟨span, text, kids, rfl, members, hmembers, hkids⟩
    refine ⟨_, rfl, by simp, fun source => ?_⟩
    obtain ⟨hdefects, hvalue⟩ := readNotSet_read source hmembers hkids span text
    simp [readAtom, ReadAs, Atom.bare, hdefects, hvalue]
  | group as => exact absurd rfl (hleaf as)

end Leaves

end GrammarWorkbench.Declaration
