import GrammarWorkbench.Proofs.Notation.Groups

/-!
# Words that no layout hides

Every word of a document starts with a character that is neither blank nor a slash, so that layout
ends where the word starts.
-/

set_option autoImplicit false

namespace GrammarWorkbench.Declaration

open GrammarWorkbench.Text GrammarWorkbench.Declaration.Phrase

theorem solid_iff {w : Word} : Solid w ↔ w.head?.any opens = true := by
  cases w <;> simp [Solid]

instance : DecidablePred Solid := fun _ => decidable_of_iff _ solid_iff.symm

def AllSolid (ws : List Word) : Prop := ∀ w ∈ ws, Solid w

instance : DecidablePred AllSolid := fun ws => inferInstanceAs (Decidable (∀ w ∈ ws, Solid w))

section Lists

variable {α : Type} {w : Word} {ws us : List Word}

@[simp] theorem allSolid_nil : AllSolid [] := by simp [AllSolid]

@[simp] theorem allSolid_cons : AllSolid (w :: ws) ↔ Solid w ∧ AllSolid ws :=
  List.forall_mem_cons

@[simp] theorem allSolid_append : AllSolid (ws ++ us) ↔ AllSolid ws ∧ AllSolid us :=
  List.forall_mem_append

theorem allSolid_flatMap {f : α → List Word} {xs : List α} (h : ∀ x ∈ xs, AllSolid (f x)) :
    AllSolid (xs.flatMap f) := by
  intro w hw
  obtain ⟨x, hx, hw⟩ := List.mem_flatMap.mp hw
  exact h x hx w hw

theorem allSolid_joined {sep : String} (hsep : Solid sep.toList) {f : α → List Word} {xs : List α}
    (h : ∀ x ∈ xs, AllSolid (f x)) : AllSolid (joined sep (xs.map f)) := by
  cases xs with
  | nil => exact allSolid_nil
  | cons x xs =>
    obtain ⟨hx, hxs⟩ := List.forall_mem_cons.mp h
    rw [joined_cons, allSolid_append]
    exact ⟨hx, allSolid_flatMap fun y hy => allSolid_cons.mpr ⟨hsep, hxs y hy⟩⟩

end Lists

section Tokens

variable {w : Word}

theorem IsName.solid (h : IsName w) : Solid w := by
  obtain ⟨c, cs, rfl, hc⟩ := h.exists_cons
  exact ⟨c, cs, rfl, opens_of_isNameChar (isNameChar_of_isNameStart hc)⟩

theorem IsNumber.solid (h : IsNumber w) : Solid w := by
  obtain ⟨hne, hdigits⟩ := h
  obtain ⟨c, cs, rfl⟩ := List.exists_cons_of_ne_nil hne
  have hc : isNameChar c = true := by simp [isNameChar, Char.isAlphanum, hdigits c]
  exact ⟨c, cs, rfl, opens_of_isNameChar hc⟩

@[simp] theorem solid_literalWord (text : List Char) : Solid (literalWord text) := ⟨_, _, rfl, rfl⟩

@[simp] theorem solid_setWord (items : List ClassItem) : Solid (setWord items) := ⟨_, _, rfl, rfl⟩

theorem Suffix.solid (suffix : Suffix) : Solid suffix.word := by
  obtain ⟨kind, greedy⟩ := suffix
  cases kind <;> exact ⟨_, _, rfl, rfl⟩

theorem solid_rangeWords (lo hi : Char) : AllSolid (rangeWords lo hi) := by
  have hdots : Solid "..".toList := by decide
  simp only [rangeWords, allSolid_cons, solid_literalWord, hdots, allSolid_nil, and_self]

end Tokens

section Alternatives

theorem SetItem.solid {item : SetItem} (h : item.Proper) : AllSolid item.words := by
  cases item with
  | literal text span => simp [SetItem.words]
  | range lo hi => exact solid_rangeWords lo hi
  | set items => simp [SetItem.words]
  | ref ident => exact allSolid_cons.mpr ⟨IsName.solid h, allSolid_nil⟩

theorem solid_notWords {items : List SetItem} (h : ∀ item ∈ items, item.Proper) :
    AllSolid (notWords items) := by
  have hmark : Solid "~".toList := by decide
  have hitems : AllSolid (joined "|" (items.map SetItem.words)) :=
    allSolid_joined (by decide) fun item hitem => SetItem.solid (h item hitem)
  rw [notWords.eq_def]
  split
  · exact allSolid_cons.mpr ⟨hmark, SetItem.solid (h _ List.mem_cons_self)⟩
  · exact allSolid_cons.mpr ⟨hmark, allSolid_cons.mpr ⟨by decide,
      allSolid_append.mpr ⟨hitems, by decide⟩⟩⟩

theorem Command.solid {command : Command} (h : command.Proper) : AllSolid command.words := by
  obtain ⟨name, argument⟩ := command
  obtain ⟨hname, hargument⟩ := h
  refine allSolid_cons.mpr ⟨hname.solid, ?_⟩
  cases argument with
  | none => exact allSolid_nil
  | some argument =>
    have hword : Solid argument.word := (hargument _ rfl).elim IsName.solid IsNumber.solid
    exact allSolid_cons.mpr ⟨by decide, allSolid_cons.mpr ⟨hword, by decide⟩⟩

theorem solid_commandWords {commands : List Command} (h : ∀ command ∈ commands, command.Proper) :
    AllSolid (commandWords commands) := by
  have hwords : AllSolid (joined "," (commands.map Command.words)) :=
    allSolid_joined (by decide) fun command hcommand => Command.solid (h command hcommand)
  cases commands with
  | nil => exact allSolid_nil
  | cons command commands => exact allSolid_cons.mpr ⟨by decide, hwords⟩

theorem solid_labelWords {label : Option Ident} (h : ∀ name ∈ label, IsName name.word) :
    AllSolid (labelWords label) := by
  cases label with
  | none => exact allSolid_nil
  | some name =>
    exact allSolid_cons.mpr ⟨by decide, allSolid_cons.mpr ⟨(h name rfl).solid, allSolid_nil⟩⟩

theorem ElementOf.solid {e : ElementDecl} (h : AllSolid e.atom.words) : AllSolid e.words := by
  refine allSolid_append.mpr ⟨h, ?_⟩
  cases e.suffix with
  | none => exact allSolid_nil
  | some suffix => exact allSolid_cons.mpr ⟨suffix.solid, allSolid_nil⟩

theorem AltOf.solid {a : AltDecl} (h : a.Proper)
    (hatoms : ∀ e ∈ a.elements, AllSolid e.atom.words) : AllSolid a.words := by
  have hassoc : AllSolid (assocWords a.rightAssoc) := by
    cases a.rightAssoc <;> decide
  have helements : AllSolid (a.elements.flatMap ElementOf.words) :=
    allSolid_flatMap fun e he => ElementOf.solid (hatoms e he)
  simp only [AltOf.words, framed, allSolid_append]
  exact ⟨hassoc, helements, solid_labelWords h.1, solid_commandWords h.2⟩

theorem Atom.solid (a : Atom) (h : ∀ b ∈ a.inside, b.Proper) : AllSolid a.words := by
  induction a using Atom.induct with
  | hleaf a hleaf =>
    have hproper := h a a.mem_inside
    cases a with
    | ref ident => exact allSolid_cons.mpr ⟨IsName.solid hproper, allSolid_nil⟩
    | literal text => simp [Atom.words]
    | range lo hi => exact solid_rangeWords lo hi
    | set items => simp [Atom.words]
    | wildcard => decide
    | not items => exact solid_notWords hproper
    | group as => exact absurd rfl (hleaf as)
  | hgroup as ih =>
    have hproper : ∀ a ∈ as, a.Proper := h _ (Atom.mem_inside _)
    have halternative : ∀ a ∈ as, AllSolid a.words := by
      intro a ha
      refine AltOf.solid (hproper a ha) fun e he => ih a ha e he fun b hb => h b ?_
      rw [Atom.inside]
      exact List.mem_cons_of_mem _ (mem_insideAlternatives ha he hb)
    rw [Atom.words, wordsOfAlternatives_eq]
    exact allSolid_cons.mpr ⟨by decide, allSolid_append.mpr
      ⟨allSolid_joined (by decide) halternative, by decide⟩⟩

end Alternatives

section Documents

theorem solid_statement {keyword : String} (hkeyword : Solid keyword.toList) {w : Word}
    (hw : IsName w) : AllSolid [keyword.toList, w, ";".toList] :=
  allSolid_cons.mpr ⟨hkeyword, allSolid_cons.mpr ⟨hw.solid, by decide⟩⟩

theorem Header.solid {header : Header} (h : IsName header.name.word) : AllSolid header.words := by
  obtain ⟨kind, name⟩ := header
  have hrest : AllSolid ["grammar".toList, name.word, ";".toList] :=
    solid_statement (by decide) h
  cases kind with
  | combined => exact hrest
  | lexer => exact allSolid_cons.mpr ⟨by decide, hrest⟩
  | parser => exact allSolid_cons.mpr ⟨by decide, hrest⟩

theorem solid_blockWords {keyword : String} (hkeyword : Solid keyword.toList) {names : List Ident}
    (h : ∀ name ∈ names, IsName name.word) : AllSolid (blockWords keyword names) := by
  have hwords : AllSolid (joined "," (names.map fun name => [name.word])) :=
    allSolid_joined (by decide) fun name hname =>
      allSolid_cons.mpr ⟨(h name hname).solid, allSolid_nil⟩
  cases names with
  | nil => exact allSolid_nil
  | cons name names =>
    exact allSolid_cons.mpr ⟨hkeyword, allSolid_cons.mpr ⟨by decide,
      allSolid_append.mpr ⟨hwords, by decide⟩⟩⟩

theorem Item.solid {item : Item} (h : item.Proper) : AllSolid item.words := by
  cases item with
  | mode name => exact solid_statement (by decide) h
  | rule r =>
    obtain ⟨hname, -, halternatives, hatoms⟩ := h
    have hfragment : AllSolid (if r.fragment.isSome then ["fragment".toList] else []) := by
      split <;> decide
    have halternative : ∀ a ∈ r.alternatives, AllSolid a.words := by
      intro a ha
      exact AltOf.solid (halternatives a ha) fun e he => e.atom.solid fun b hb =>
        hatoms b (mem_insideAlternatives ha he hb)
    exact allSolid_append.mpr ⟨hfragment, allSolid_cons.mpr ⟨hname.solid,
      allSolid_cons.mpr ⟨by decide, allSolid_append.mpr
        ⟨allSolid_joined (by decide) halternative, by decide⟩⟩⟩⟩

theorem Draft.solid {d : Draft} (h : d.Proper) : AllSolid d.words := by
  obtain ⟨hheader, hnames, hitems⟩ := h
  simp only [List.forall_mem_append] at hnames
  have hhead : AllSolid ((d.header.map Header.words).getD []) := by
    cases hd : d.header with
    | none => exact allSolid_nil
    | some header => exact Header.solid (hheader header hd)
  have himports : AllSolid
      (d.imports.flatMap fun name => ["import".toList, name.word, ";".toList]) :=
    allSolid_flatMap fun name hname => solid_statement (by decide) (hnames.1.1 name hname)
  have hbehind : AllSolid (d.items.flatMap Item.words) :=
    allSolid_flatMap fun item hitem => Item.solid (hitems item hitem)
  simp only [Draft.words, allSolid_append]
  exact ⟨hhead, himports, solid_blockWords (by decide) hnames.1.2,
    solid_blockWords (by decide) hnames.2, hbehind⟩

end Documents

end GrammarWorkbench.Declaration
