import GrammarWorkbench.Pattern.OfRule
import GrammarWorkbench.Proofs.Lexical.Declared
import GrammarWorkbench.Proofs.Reading.Filled

/-!
# Inlined rules keep their texts

In the pattern of a rule, names are replaced by the patterns of their rules. If no rule has a defect
of its own, every name has a rule, every member of a negated set has characters, and no rule refers
back to itself: the first rule of a way back would report it. So nothing is left out of a pattern,
and its language is that of the declared rule.
-/

set_option autoImplicit false

namespace GrammarWorkbench.Lexical

open GrammarWorkbench.Text GrammarWorkbench.Declaration GrammarWorkbench.Diagnostic
open GrammarWorkbench.Pattern
open GrammarWorkbench.Derivation (suffixed)
open scoped Computability

section Leaves

variable {lex : Lexicon} {own : Bool} {inline : Ident → Checked Pattern}

mutual

/-- The defects of an atom are among those of what it is part of. -/
theorem atomPattern_defects {leaf : Atom} :
    ∀ (span : Span) (a : Atom), leaf ∈ atomLeaves a → ∃ span',
      (atomPattern lex own inline span' leaf).defects ⊆ (atomPattern lex own inline span a).defects
  | span, .group alternatives, h => by
    rw [atomLeaves] at h
    obtain ⟨span', hspan'⟩ := alternativePatterns_defects alternatives h
    refine ⟨span', ?_⟩
    simpa [atomPattern] using hspan'
  | span, .ref _, h | span, .literal _, h | span, .range _ _, h | span, .set _, h
  | span, .wildcard, h | span, .not _, h => by
    rw [atomLeaves] at h
    obtain rfl := List.mem_singleton.mp h
    exact ⟨span, List.Subset.refl _⟩

theorem elementPatterns_defects {leaf : Atom} :
    ∀ es : List ElementDecl, leaf ∈ elementsLeaves es → ∃ span,
      (atomPattern lex own inline span leaf).defects ⊆ (elementPatterns lex own inline es).defects
  | [], h => by
    rw [elementsLeaves] at h
    cases h
  | ⟨atom, suffix, span⟩ :: es, h => by
    have hone : (elementPattern lex own inline ⟨atom, suffix, span⟩).defects =
        (atomPattern lex own inline span atom).defects := by
      cases suffix <;> simp [elementPattern]
    rw [elementsLeaves] at h
    rcases List.mem_append.mp h with h | h
    · obtain ⟨span', hspan'⟩ := atomPattern_defects span atom h
      refine ⟨span', fun d hd => ?_⟩
      simp [elementPatterns, hone, hspan' hd]
    · obtain ⟨span', hspan'⟩ := elementPatterns_defects es h
      refine ⟨span', fun d hd => ?_⟩
      simp [elementPatterns, hspan' hd]

theorem alternativePatterns_defects {leaf : Atom} :
    ∀ as : List AltDecl, leaf ∈ alternativesLeaves as → ∃ span,
      (atomPattern lex own inline span leaf).defects ⊆
        (alternativePatterns lex own inline as).defects
  | [], h => by
    rw [alternativesLeaves] at h
    cases h
  | ⟨elements, _, _, _, _⟩ :: as, h => by
    rw [alternativesLeaves] at h
    rcases List.mem_append.mp h with h | h
    · obtain ⟨span, hspan⟩ := elementPatterns_defects elements h
      refine ⟨span, fun d hd => ?_⟩
      simp [alternativePatterns, hspan hd]
    · obtain ⟨span, hspan⟩ := alternativePatterns_defects as h
      refine ⟨span, fun d hd => ?_⟩
      simp [alternativePatterns, hspan hd]

end

variable {call : String → Language Char}

theorem alternativePatterns_ne_nil {as : List AltDecl} (h : as ≠ []) :
    (alternativePatterns lex own inline as).value ≠ [] := by
  cases as with
  | nil => exact absurd rfl h
  | cons a as => simp [alternativePatterns]

mutual

/-- If the leaves of an atom keep their texts, so does the atom. -/
theorem atomPattern_words (span : Span) : ∀ a : Atom, AtomFilled a →
    (∀ leaf ∈ atomLeaves a, ∀ span,
      (atomPattern lex own inline span leaf).value.words = atomWords lex.rules call leaf) →
    (atomPattern lex own inline span a).value.words = atomWords lex.rules call a
  | .group alternatives, hfilled, h => by
    rw [AtomFilled] at hfilled
    rw [atomLeaves] at h
    rw [atomWords, ← alternativePatterns_words alternatives hfilled.1 hfilled.2 h]
    simp [atomPattern, words]
  | .ref _, _, h | .literal _, _, h | .range _ _, _, h | .set _, _, h | .wildcard, _, h
  | .not _, _, h => by
    rw [atomLeaves] at h
    exact h _ (List.mem_singleton_self _) span

theorem elementPatterns_words : ∀ es : List ElementDecl, ElementsFilled es →
    (∀ leaf ∈ elementsLeaves es, ∀ span,
      (atomPattern lex own inline span leaf).value.words = atomWords lex.rules call leaf) →
    (sequence (elementPatterns lex own inline es).value).words = elementsWords lex.rules call es
  | [], _, _ => by simp [elementPatterns, elementsWords]
  | ⟨atom, suffix, span⟩ :: es, hfilled, h => by
    rw [ElementsFilled] at hfilled
    rw [elementsLeaves] at h
    have hatom := atomPattern_words span atom hfilled.1
      fun leaf hleaf => h leaf (List.mem_append_left _ hleaf)
    have hrest := elementPatterns_words es hfilled.2
      fun leaf hleaf => h leaf (List.mem_append_right _ hleaf)
    have hone : (elementPattern lex own inline ⟨atom, suffix, span⟩).value.words =
        suffixed (atomWords lex.rules call atom) suffix := by
      rw [← hatom]
      cases suffix <;> simp [elementPattern, suffixed, words]
    rw [elementsWords, ← hone, ← hrest]
    simp [elementPatterns]

theorem alternativePatterns_words : ∀ as : List AltDecl, as ≠ [] → AlternativesFilled as →
    (∀ leaf ∈ alternativesLeaves as, ∀ span,
      (atomPattern lex own inline span leaf).value.words = atomWords lex.rules call leaf) →
    (choice (alternativePatterns lex own inline as).value).words =
      alternativesWords lex.rules call as
  | [], hne, _, _ => absurd rfl hne
  | ⟨elements, label, commands, right, span⟩ :: as, _, hfilled, h => by
    rw [AlternativesFilled] at hfilled
    rw [alternativesLeaves] at h
    have hone := elementPatterns_words elements hfilled.1
      fun leaf hleaf => h leaf (List.mem_append_left _ hleaf)
    rw [alternativesWords, ← hone]
    by_cases hlast : as = []
    · subst hlast
      simp [alternativePatterns, alternativesWords, choice]
    · have hrest := alternativePatterns_words as hlast hfilled.2
        fun leaf hleaf => h leaf (List.mem_append_right _ hleaf)
      rw [← hrest, ← words_choice_cons (alternativePatterns_ne_nil hlast)]
      simp [alternativePatterns]

end

end Leaves

section Sets

theorem members_pieceOf (item : ClassItem) : (pieceOf item).members = itemMembers item := by
  cases item with
  | property name negated => rfl
  | range lo hi =>
    by_cases heq : lo = hi
    · subst heq
      ext c
      simp only [pieceOf, if_true, Piece.members, itemMembers, between, Set.mem_singleton_iff,
        Set.mem_ofPred_eq]
      constructor
      · rintro rfl
        exact ⟨Char.le_refl _, Char.le_refl _⟩
      · rintro ⟨hle, hge⟩
        exact Char.le_antisymm hge hle
    · rw [pieceOf, if_neg heq]
      rfl

def piecesMembers (ps : List Piece) : Set Char := {c | ∃ p ∈ ps, c ∈ p.members}

theorem piecesMembers_map (items : List ClassItem) :
    piecesMembers (items.map pieceOf) = itemsMembers items := by
  ext c
  simp [piecesMembers, itemsMembers, members_pieceOf]

theorem piecesMembers_singleton (p : Piece) : piecesMembers [p] = p.members := by
  ext c
  simp [piecesMembers]

theorem atomPieces?_members {a : Atom} {ps : List Piece} (h : atomPieces? a = some ps) :
    piecesMembers ps = atomMembers a := by
  unfold atomPieces? at h
  split at h
  · cases h
    exact piecesMembers_map _
  · cases h
    exact piecesMembers_singleton _
  · cases h
    rw [piecesMembers_singleton]
    ext d
    simp [Piece.members, atomMembers, eq_comm]
  · cases h

theorem rulePieces?_eq (r : RuleDecl) : rulePieces? r = (soleAtom? r).bind atomPieces? := by
  unfold rulePieces? soleAtom?
  split <;> simp_all

variable {lex : Lexicon}

theorem isRule_of_rule? {name : String} {r : RuleDecl} (h : lex.rule? name = some r) :
    IsRule lex.rules name r := by
  have hr := List.find?_some h
  rw [Bool.and_eq_true, beq_iff_eq] at hr
  exact ⟨List.mem_of_find?_eq_some h, hr.1, hr.2⟩

theorem rule?_eq_some (hnames : (lex.rules.map (·.name.name)).Nodup) {name : String}
    {r : RuleDecl} : lex.rule? name = some r ↔ IsRule lex.rules name r := by
  constructor
  · exact isRule_of_rule?
  · intro hr
    have hsome : (lex.rule? name).isSome :=
      List.find?_isSome.mpr ⟨r, hr.mem, by simp [hr.isLexerRule, hr.name_eq]⟩
    obtain ⟨s, hs⟩ := Option.isSome_iff_exists.mp hsome
    rw [hs, isRule_unique hnames hr (isRule_of_rule? hs)]

theorem setItemPieces_value (own : Bool) (item : SetItem) :
    (setItemPieces lex own item).value = (setItemPieces lex true item).value := by
  unfold setItemPieces
  split <;> try rfl
  split <;> rfl

/-- The pieces of a member of a negated set without defects have its characters. -/
theorem setItemPieces_members (hnames : (lex.rules.map (·.name.name)).Nodup) {item : SetItem}
    (h : (setItemPieces lex true item).defects = []) (own : Bool) :
    piecesMembers (setItemPieces lex own item).value = setItemMembers lex.rules item := by
  rw [setItemPieces_value]
  unfold setItemPieces at h ⊢
  split at h
  · exact piecesMembers_singleton _
  · exact piecesMembers_map _
  · rw [Checked.value_pure, piecesMembers_singleton]
    ext d
    simp [Piece.members, setItemMembers, eq_comm]
  · cases h
  · rename_i ident
    cases hpieces : (lex.rule? ident.name).bind rulePieces? with
    | none =>
      simp only [hpieces] at h
      cases h
    | some pieces =>
      obtain ⟨r, hr, hrule⟩ := Option.bind_eq_some_iff.mp hpieces
      rw [rulePieces?_eq] at hrule
      obtain ⟨a, ha, hatom⟩ := Option.bind_eq_some_iff.mp hrule
      rw [rule?_eq_some hnames] at hr
      simp only [Checked.value_pure]
      rw [atomPieces?_members hatom]
      ext c
      constructor
      · intro hc
        exact ⟨r, hr, a, ha, hc⟩
      · rintro ⟨r', hr', a', ha', hc⟩
        obtain rfl := isRule_unique hnames hr hr'
        cases ha.symm.trans ha'
        exact hc

theorem defects_each {α β : Type} (f : α → Checked β) (as : List α) :
    (Checked.each f as).defects = as.flatMap fun a => (f a).defects := by
  induction as with
  | nil => rfl
  | cons a as ih => simp [Checked.each, ih]

theorem negatedPattern_value (own : Bool) (items : List SetItem) (span : Span) :
    (negatedPattern lex own items span).value =
      let pieces := (items.map fun item => (setItemPieces lex true item).value).flatten
      if pieces.isEmpty then .nothing else .one ⟨true, pieces⟩ := by
  have hpieces : (Checked.each (setItemPieces lex own) items).value =
      items.map fun item => (setItemPieces lex true item).value := by
    rw [Checked.value_each]
    exact List.map_congr_left fun item _ => setItemPieces_value own item
  simp only [negatedPattern, Checked.value_bind, hpieces]
  split <;> rfl

/-- A negated set without defects takes any one character outside all its members. -/
theorem negatedPattern_words (hnames : (lex.rules.map (·.name.name)).Nodup)
    {items : List SetItem} {span : Span} (h : (negatedPattern lex true items span).defects = [])
    (own : Bool) (span' : Span) :
    (negatedPattern lex own items span').value.words =
      letters {c | ∀ item ∈ items, c ∉ setItemMembers lex.rules item} := by
  simp only [negatedPattern, Checked.defects_bind, List.append_eq_nil_iff, defects_each,
    List.flatMap_eq_nil_iff, Checked.value_each] at h
  rw [negatedPattern_value]
  dsimp only
  split
  · rename_i hempty
    simp only [hempty, if_true] at h
    cases h.2
  · rw [words]
    congr 1
    ext c
    simp only [CharSet.members, if_true, Set.mem_ofPred_eq, List.mem_flatten, List.mem_map]
    constructor
    · intro hc item hitem hmem
      rw [← setItemPieces_members hnames (h.1 item hitem) true] at hmem
      obtain ⟨p, hp, hcp⟩ := hmem
      exact hc p ⟨_, ⟨item, hitem, rfl⟩, hp⟩ hcp
    · rintro hc p ⟨_, ⟨item, hitem, rfl⟩, hp⟩ hcp
      apply hc item hitem
      rw [← setItemPieces_members hnames (h.1 item hitem) true]
      exact ⟨p, hp, hcp⟩

end Sets

/-- No lexer rule has a defect of its own, names stand for one rule each, and there are alternatives
in every rule and group. -/
structure Sound (lex : Lexicon) : Prop where
  names : (lex.rules.map (·.name.name)).Nodup
  filled : ∀ r ∈ lex.rules, r.alternatives ≠ [] ∧ AlternativesFilled r.alternatives
  own : ∀ r ∈ lex.rules, r.isLexerRule → (alternativePatterns lex true
    (inlineRule lex lex.rules.length [r.name.name]) r.alternatives).defects = []

/-- Rules that refer to one another, each only once: the names of all of them, and the last one. -/
inductive Chain (lex : Lexicon) : List String → RuleDecl → Prop
  | start {r : RuleDecl} (h : IsRule lex.rules r.name.name r) : Chain lex [r.name.name] r
  | step {stack : List String} {r s : RuleDecl} (h : Chain lex stack r)
      (href : RefersTo lex.rules r s) (hnew : s.name.name ∉ stack) :
      Chain lex (stack ++ [s.name.name]) s

section Chains

variable {lex : Lexicon} {stack : List String} {r s : RuleDecl}

theorem Chain.isRule (h : Chain lex stack r) : IsRule lex.rules r.name.name r := by
  cases h with
  | start h => exact h
  | step _ href _ =>
    obtain ⟨ident, -, hs⟩ := href
    exact ⟨hs.mem, hs.isLexerRule, rfl⟩

theorem Chain.nodup (h : Chain lex stack r) : stack.Nodup := by
  induction h with
  | start _ => simp
  | step _ _ hnew ih =>
    refine List.nodup_append.mpr ⟨ih, by simp, ?_⟩
    rintro name hname _ hlast rfl
    exact hnew (List.mem_singleton.mp hlast ▸ hname)

theorem Chain.subset (h : Chain lex stack r) : stack ⊆ lex.rules.map (·.name.name) := by
  induction h with
  | start h => simpa using ⟨_, h.mem, rfl⟩
  | @step _ _ s _ href _ ih =>
    obtain ⟨ident, -, hs⟩ := href
    apply List.append_subset.mpr ⟨ih, ?_⟩
    simpa using ⟨s, hs.mem, rfl⟩

theorem Chain.length_le (h : Chain lex stack r) : stack.length ≤ lex.rules.length := by
  have hle := (List.subperm_of_subset h.nodup h.subset).length_le
  rwa [List.length_map] at hle

theorem Chain.suffix (h : Chain lex stack r) {name : String} (hname : name ∈ stack) :
    ∃ more, name :: more ⊆ stack ∧ Chain lex (name :: more) r := by
  induction h with
  | start h =>
    obtain rfl := List.mem_singleton.mp hname
    exact ⟨[], by simp, .start h⟩
  | @step stack r s h href hnew ih =>
    rcases List.mem_append.mp hname with hold | hlast
    · obtain ⟨more, hsub, hchain⟩ := ih hold
      refine ⟨more ++ [s.name.name], ?_, ?_⟩
      · rw [← List.cons_append]
        exact List.append_subset.mpr ⟨List.subset_append_of_subset_left _ hsub,
          List.subset_append_right _ _⟩
      · rw [← List.cons_append]
        exact hchain.step href fun hmem => hnew (hsub hmem)
    · obtain rfl := List.mem_singleton.mp hlast
      exact ⟨[], List.subset_append_right _ _, .start (h.step href hnew).isRule⟩

/-- A defect of what a name stands for is one of the alternatives that use the name. -/
theorem inlineRule_defects {own : Bool} {inline : Ident → Checked Pattern} {as : List AltDecl}
    {ident : Ident} (href : .ref ident ∈ alternativesLeaves as) :
    (inline ident).defects ⊆ (alternativePatterns lex own inline as).defects := by
  have hleaf : ∃ span, (atomPattern lex own inline span (.ref ident)).defects ⊆
      (alternativePatterns lex own inline as).defects :=
    alternativePatterns_defects _ href
  obtain ⟨span, hspan⟩ := hleaf
  simpa [atomPattern] using hspan

theorem inlineRule_new {room : Nat} {ident : Ident} (hs : lex.rule? ident.name = some s)
    (hnew : ident.name ∉ stack) :
    inlineRule lex (room + 1) stack ident = do
      let ps ← alternativePatterns lex false
        (inlineRule lex room (stack ++ [ident.name])) s.alternatives
      return .group (.choice ps) := by
  rw [inlineRule]
  simp [hs, List.idxOf?_eq_none_iff.mpr hnew]

theorem inlineRule_first {room : Nat} {ident : Ident} (hs : lex.rule? ident.name = some s)
    (hfirst : stack.head? = some ident.name) : (inlineRule lex room stack ident).defects ≠ [] := by
  cases stack with
  | nil => cases hfirst
  | cons name names =>
    obtain rfl := Option.some.inj hfirst
    rw [inlineRule]
    simp [hs, List.idxOf?_cons, Checked.report]

/-- What is reported at the end of a chain is reported by its first rule. -/
theorem Chain.reports (h : Chain lex stack r) (hnames : (lex.rules.map (·.name.name)).Nodup)
    {ident : Ident} (hident : .ref ident ∈ alternativesLeaves r.alternatives)
    (hdefects : (inlineRule lex (lex.rules.length + 1 - stack.length) stack ident).defects ≠ []) :
    ∃ first ident, stack.head? = some first.name.name ∧ first ∈ lex.rules ∧ first.isLexerRule ∧
      .ref ident ∈ alternativesLeaves first.alternatives ∧
      (inlineRule lex lex.rules.length [first.name.name] ident).defects ≠ [] := by
  induction h generalizing ident with
  | @start r h => exact ⟨r, ident, rfl, h.mem, h.isLexerRule, hident, by simpa using hdefects⟩
  | @step stack r s h href hnew ih =>
    obtain ⟨name, hname, hs⟩ := href
    have hlength := (h.step ⟨name, hname, hs⟩ hnew).length_le
    rw [List.length_append, List.length_singleton] at hlength hdefects
    have hroom : lex.rules.length + 1 - stack.length =
        lex.rules.length + 1 - (stack.length + 1) + 1 := by omega
    have hprevious :
        (inlineRule lex (lex.rules.length + 1 - stack.length) stack name).defects ≠ [] := by
      rw [hs.name_eq] at hdefects hnew
      rw [hroom, inlineRule_new ((rule?_eq_some hnames).mpr hs) hnew]
      simp only [Checked.defects_bind, Checked.defects_pure, List.append_nil]
      exact fun hnil => hdefects (List.eq_nil_of_subset_nil (hnil ▸ inlineRule_defects hident))
    obtain ⟨first, ident', hhead, hfirst⟩ := ih hname hprevious
    refine ⟨first, ident', ?_, hfirst⟩
    rw [List.head?_append, hhead]
    rfl

theorem Chain.not_mem (hsound : Sound lex) (h : Chain lex stack r)
    (href : RefersTo lex.rules r s) : s.name.name ∉ stack := by
  intro hmem
  obtain ⟨ident, hident, hs⟩ := href
  obtain ⟨more, -, hchain⟩ := h.suffix hmem
  have hback : (inlineRule lex (lex.rules.length + 1 - (s.name.name :: more).length)
      (s.name.name :: more) ident).defects ≠ [] :=
    inlineRule_first ((rule?_eq_some hsound.names).mpr hs) (by simp [hs.name_eq])
  obtain ⟨first, ident', -, hfirst, hlexer, hident', hreported⟩ :=
    hchain.reports hsound.names hident hback
  apply hreported
  apply List.eq_nil_of_subset_nil
  rw [← hsound.own first hfirst hlexer]
  exact inlineRule_defects hident'

theorem Sound.resolves (hsound : Sound lex) (hr : IsRule lex.rules r.name.name r) {ident : Ident}
    (hident : .ref ident ∈ alternativesLeaves r.alternatives) :
    ∃ s, IsRule lex.rules ident.name s := by
  have hclean : (inlineRule lex lex.rules.length [r.name.name] ident).defects = [] := by
    apply List.eq_nil_of_subset_nil
    rw [← hsound.own r hr.mem hr.isLexerRule]
    exact inlineRule_defects hident
  cases hs : lex.rule? ident.name with
  | some s => exact ⟨s, (rule?_eq_some hsound.names).mp hs⟩
  | none =>
    rw [inlineRule] at hclean
    simp [hs, reportOwn, Checked.report] at hclean

/-- The leaves of a rule without defects keep their texts if the names in it do. -/
theorem Sound.leaf_words (hsound : Sound lex) (hr : IsRule lex.rules r.name.name r) {leaf : Atom}
    (hleaf : leaf ∈ alternativesLeaves r.alternatives) {own : Bool}
    {inline : Ident → Checked Pattern} {call : String → Language Char}
    (hcall : ∀ ident, leaf = .ref ident → (inline ident).value.words = call ident.name)
    (span : Span) :
    (atomPattern lex own inline span leaf).value.words = atomWords lex.rules call leaf := by
  cases leaf with
  | group as => exact absurd hleaf (alternativesLeaves_ne_group as _)
  | ref ident => simpa [atomPattern, atomWords] using hcall ident rfl
  | literal text => simp [atomPattern, atomWords, words]
  | range lo hi =>
    have hmembers : CharSet.members ⟨false, [.span lo hi]⟩ = between lo hi :=
      piecesMembers_singleton _
    simp [atomPattern, atomWords, words, hmembers]
  | set items =>
    have hmembers : CharSet.members ⟨false, items.map pieceOf⟩ = itemsMembers items :=
      piecesMembers_map items
    simp [atomPattern, atomWords, words, hmembers]
  | wildcard => simp [atomPattern, atomWords, words]
  | not items =>
    have hdefects : ∃ span, (atomPattern lex true (inlineRule lex lex.rules.length [r.name.name])
        span (.not items)).defects ⊆ [] := by
      rw [← hsound.own r hr.mem hr.isLexerRule]
      exact alternativePatterns_defects _ hleaf
    obtain ⟨span', hspan'⟩ := hdefects
    rw [atomPattern] at hspan' ⊢
    rw [atomWords]
    exact negatedPattern_words hsound.names (List.eq_nil_of_subset_nil hspan') own span

/-- What stands for a name has the texts of its rule. The chain of rules never comes back to one of
its rules, so there is always room for the next one. -/
theorem Sound.inlineRule_words (hsound : Sound lex) {room : Nat} {ident : Ident}
    (hchain : Chain lex stack r) (hident : .ref ident ∈ alternativesLeaves r.alternatives)
    (hroom : stack.length + room = lex.rules.length + 1) :
    (inlineRule lex room stack ident).value.words = ruleWords lex.rules ident.name := by
  induction room generalizing stack r ident with
  | zero =>
    have := hchain.length_le
    omega
  | succ room ih =>
    obtain ⟨s, hs⟩ := hsound.resolves hchain.isRule hident
    have href : RefersTo lex.rules r s := ⟨ident, hident, hs⟩
    have hnew := hchain.not_mem hsound href
    have hnext : Chain lex (stack ++ [ident.name]) s := by
      rw [← hs.name_eq]
      exact hchain.step href hnew
    obtain ⟨hne, hfilled⟩ := hsound.filled s hs.mem
    rw [hs.name_eq] at hnew
    rw [inlineRule_new ((rule?_eq_some hsound.names).mpr hs) hnew, ruleWords_eq hsound.names hs,
      ← alternativePatterns_words s.alternatives hne hfilled]
    · rfl
    · intro leaf hleaf span
      apply hsound.leaf_words hnext.isRule hleaf
      rintro ident' rfl
      apply ih hnext hleaf
      rw [List.length_append, List.length_singleton]
      omega

/-- The pattern of some alternatives of a rule without defects has the texts of the alternatives. -/
theorem Sound.ofAlternatives_words (hsound : Sound lex) (hr : IsRule lex.rules r.name.name r)
    {as : List AltDecl} (hne : as ≠ []) (hsub : as ⊆ r.alternatives) :
    (ofAlternatives lex r as).value.words =
      alternativesWords lex.rules (ruleWords lex.rules) as := by
  have hfilled : AlternativesFilled as := by
    have hall := alternativesFilled_iff.mp (hsound.filled r hr.mem).2
    exact alternativesFilled_iff.mpr fun a ha => hall a (hsub ha)
  rw [← alternativePatterns_words as hne hfilled]
  · rfl
  · intro leaf hleaf span
    have hleaf' := alternativesLeaves_subset hsub hleaf
    apply hsound.leaf_words hr hleaf'
    rintro ident rfl
    apply hsound.inlineRule_words (.start hr) hleaf'
    rw [List.length_singleton]
    omega

end Chains

end GrammarWorkbench.Lexical
