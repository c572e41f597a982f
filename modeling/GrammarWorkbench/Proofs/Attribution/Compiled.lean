import GrammarWorkbench.Compile.Grammar
import GrammarWorkbench.Proofs.Attribution.Declared
import Mathlib.Data.List.Infix

/-!
# Places of the defects of a document

Whatever the checks of a document report points at a declaration, and declarations are written in
the document. The few defects without a place are about the document as a whole.
-/

set_option autoImplicit false

namespace GrammarWorkbench.Compile

open GrammarWorkbench.Text GrammarWorkbench.Declaration GrammarWorkbench.Diagnostic
open GrammarWorkbench.Model GrammarWorkbench.Pattern

section Pattern

variable {lex : Lexicon} {own : Bool}

theorem reportOwn_places {kind : Kind} {span : Span} (hkind : kind.origin = .grammar)
    (hspan : span.PartOf lex.source) : (reportOwn lex own kind span).Places lex.source := by
  unfold reportOwn
  split
  · exact Checked.gives_report (Defect.inText_placedIn hkind hspan)
  · exact Checked.gives_pure trivial

theorem setItemPieces_places {item : SetItem} (h : ItemPlaced lex.source item) :
    (setItemPieces lex own item).Places lex.source := by
  unfold setItemPieces
  split
  · exact Checked.gives_pure trivial
  · exact Checked.gives_pure trivial
  · exact Checked.gives_pure trivial
  · exact (reportOwn_places rfl h).bind fun _ _ => Checked.gives_pure trivial
  · split
    · exact Checked.gives_pure trivial
    · exact (reportOwn_places rfl h).bind fun _ _ => Checked.gives_pure trivial

theorem negatedPattern_places {items : List SetItem} {span : Span}
    (hitems : ∀ item ∈ items, ItemPlaced lex.source item) (hspan : span.PartOf lex.source) :
    (negatedPattern lex own items span).Places lex.source := by
  refine (Checked.gives_each fun item hitem => setItemPieces_places (hitems item hitem)).bind
    fun pieces _ => ?_
  dsimp only
  split
  · exact (reportOwn_places rfl hspan).bind fun _ _ => Checked.gives_pure trivial
  · exact Checked.gives_pure trivial

section Inline

variable {inline : Ident → Checked Pattern}

mutual

theorem atomPattern_places
    (hinline : ∀ ident, ident.span.PartOf lex.source → (inline ident).Places lex.source)
    {span : Span} (hspan : span.PartOf lex.source) : ∀ a : Atom, AtomPlaced lex.source a →
      (atomPattern lex own inline span a).Places lex.source
  | .literal _, _ | .range _ _, _ | .set _, _ | .wildcard, _ => by
    rw [atomPattern]
    exact Checked.gives_pure trivial
  | .not items, h => by
    rw [AtomPlaced] at h
    rw [atomPattern]
    exact negatedPattern_places h hspan
  | .ref ident, h => by
    rw [AtomPlaced] at h
    rw [atomPattern]
    exact hinline ident h
  | .group alternatives, h => by
    rw [AtomPlaced] at h
    rw [atomPattern]
    exact (alternativePatterns_places hinline alternatives h).bind fun _ _ =>
      Checked.gives_pure trivial

theorem elementPatterns_places
    (hinline : ∀ ident, ident.span.PartOf lex.source → (inline ident).Places lex.source) :
    ∀ es : List ElementDecl, ElementsPlaced lex.source es →
      (elementPatterns lex own inline es).Places lex.source
  | [], _ => by
    rw [elementPatterns]
    exact Checked.gives_pure trivial
  | ⟨atom, none, span⟩ :: es, h => by
    rw [ElementsPlaced] at h
    rw [elementPatterns, elementPattern]
    exact (atomPattern_places hinline h.1.1 atom h.1.2).bind fun _ _ =>
      (elementPatterns_places hinline es h.2).bind fun _ _ => Checked.gives_pure trivial
  | ⟨atom, some suffix, span⟩ :: es, h => by
    rw [ElementsPlaced] at h
    rw [elementPatterns, elementPattern]
    refine Checked.Gives.bind (P := fun _ => True) ?_ fun _ _ =>
      (elementPatterns_places hinline es h.2).bind fun _ _ => Checked.gives_pure trivial
    exact (atomPattern_places hinline h.1.1 atom h.1.2).bind fun _ _ => Checked.gives_pure trivial

theorem alternativePatterns_places
    (hinline : ∀ ident, ident.span.PartOf lex.source → (inline ident).Places lex.source) :
    ∀ as : List AltDecl, AlternativesPlaced lex.source as →
      (alternativePatterns lex own inline as).Places lex.source
  | [], _ => by
    rw [alternativePatterns]
    exact Checked.gives_pure trivial
  | ⟨elements, _, _, _, _⟩ :: as, h => by
    rw [AlternativesPlaced] at h
    rw [alternativePatterns]
    exact (elementPatterns_places hinline elements h.1.2.1).bind fun _ _ =>
      (alternativePatterns_places hinline as h.2).bind fun _ _ => Checked.gives_pure trivial

end

end Inline

/-- A reference is followed into other rules of the document, where it can come back to its own. -/
theorem inlineRule_places (hrules : ∀ r ∈ lex.rules, RulePlaced lex.source r) (room : Nat)
    (stack : List String) (ident : Ident) (hident : ident.span.PartOf lex.source) :
    (inlineRule lex room stack ident).Places lex.source := by
  induction room generalizing stack ident with
  | zero =>
    unfold inlineRule
    split
    · refine (reportOwn_places ?_ hident).bind fun _ _ => Checked.gives_pure trivial
      split <;> rfl
    · split
      · exact (Checked.gives_report (Defect.inText_placedIn rfl hident)).bind fun _ _ =>
          Checked.gives_pure trivial
      · exact Checked.gives_pure trivial
      · exact Checked.gives_pure trivial
      · rename_i heq
        cases heq
  | succ room ih =>
    unfold inlineRule
    split
    · refine (reportOwn_places ?_ hident).bind fun _ _ => Checked.gives_pure trivial
      split <;> rfl
    · rename_i rule hrule
      split
      · exact (Checked.gives_report (Defect.inText_placedIn rfl hident)).bind fun _ _ =>
          Checked.gives_pure trivial
      · exact Checked.gives_pure trivial
      · rename_i heq
        cases heq
      · rename_i heq
        cases heq
        have hplaced := (hrules rule (List.mem_of_find?_eq_some hrule)).alternatives
        exact (alternativePatterns_places (fun ident hident => ih _ ident hident) _ hplaced).bind
          fun _ _ => Checked.gives_pure trivial

theorem ofAlternatives_places (hrules : ∀ r ∈ lex.rules, RulePlaced lex.source r) (rule : RuleDecl)
    {alternatives : List AltDecl} (h : AlternativesPlaced lex.source alternatives) :
    (ofAlternatives lex rule alternatives).Places lex.source :=
  (alternativePatterns_places (inlineRule_places hrules _ _) alternatives h).bind fun _ _ =>
    Checked.gives_pure trivial

end Pattern

section TokenRules

variable {lex : Lexicon} {s : CommandScope}

theorem refuse_places {kind : Kind} {span : Span} {action : TokenAction}
    (hkind : kind.origin = .grammar) (hspan : span.PartOf s.source) :
    (s.refuse kind span action).Places s.source :=
  (Checked.gives_report (Defect.inText_placedIn hkind hspan)).bind fun _ _ =>
    Checked.gives_pure trivial

theorem applyCommand_places {c : Command} (h : CommandPlaced s.source c) (action : TokenAction) :
    (applyCommand s action c).Places s.source := by
  unfold applyCommand
  dsimp only
  split
  · rename_i arg harg
    have hspan := h.argument arg harg
    split
    · exact refuse_places rfl hspan
    split
    · split
      · exact Checked.gives_pure trivial
      · exact refuse_places rfl hspan
    split
    · split
      · exact Checked.gives_pure trivial
      · exact refuse_places rfl hspan
    split
    · split
      · exact Checked.gives_pure trivial
      · exact refuse_places rfl hspan
    · exact refuse_places rfl h.name
  · split
    · exact Checked.gives_pure trivial
    split
    · exact Checked.gives_pure trivial
    split
    · exact Checked.gives_pure trivial
    split
    · exact refuse_places rfl h.name
    · exact refuse_places rfl h.name

theorem applyCommands_places {cs : List Command} (h : ∀ c ∈ cs, CommandPlaced s.source c)
    (action : TokenAction) : (applyCommands s action cs).Places s.source := by
  induction cs generalizing action with
  | nil => exact Checked.gives_pure trivial
  | cons c cs ih =>
    exact (applyCommand_places (h c (by simp)) action).bind fun action' _ =>
      ih (fun c' hc' => h c' (by simp [hc'])) action'

theorem tokenRuleOf_places {source : List Char} {rule : RuleDecl} {type : Nat} {isClean : Bool}
    {pattern : Pattern} {action : TokenAction} (h : rule.name.span.PartOf source) :
    (tokenRuleOf source rule type isClean pattern action).Places source := by
  unfold tokenRuleOf
  dsimp only
  split
  · split
    · exact Checked.gives_missing (Defect.inText_placedIn rfl h) trivial
    · exact Checked.gives_pure trivial
  · split
    · exact Checked.gives_missing (Defect.inText_placedIn rfl h) trivial
    · exact Checked.gives_pure trivial

variable (hsource : s.source = lex.source) (hrules : ∀ r ∈ lex.rules, RulePlaced lex.source r)

include hrules

theorem rulePatterns_places {rule : RuleDecl} (h : RulePlaced lex.source rule) (together : Bool) :
    (rulePatterns lex rule together).Places lex.source := by
  unfold rulePatterns
  split
  · exact (ofAlternatives_places hrules rule h.alternatives).bind fun _ _ =>
      Checked.gives_pure trivial
  · refine (Checked.gives_each (Q := fun _ => True) fun alt halt => ?_).places
    apply ofAlternatives_places hrules rule
    have halts := alternativesPlaced_iff.mp h.alternatives
    rw [alternativesPlaced_iff]
    intro a ha
    rw [List.mem_singleton.mp ha]
    exact halts alt halt

include hsource

theorem tokenRules_places {rule : RuleDecl} (h : RulePlaced lex.source rule) :
    (tokenRules lex s rule).Places lex.source := by
  have halts := alternativesPlaced_iff.mp h.alternatives
  have hactions : (Checked.each (actionOf s) rule.alternatives).Places lex.source := by
    refine (Checked.gives_each (Q := fun _ => True) fun alt halt => ?_).places
    rw [← hsource]
    exact applyCommands_places (hsource ▸ (halts alt halt).2.2) _
  refine hactions.bind fun actions _ => (rulePatterns_places hrules h _).bind fun patterns _ => ?_
  split
  · exact Checked.gives_pure trivial
  · exact (Checked.gives_eachSome (Q := fun _ => True) fun entry _ =>
      (tokenRuleOf_places h.name).mono fun _ _ _ _ => trivial).places

theorem rulesByMode_places {rules : List RuleDecl} (h : ∀ r ∈ rules, RulePlaced lex.source r) :
    (rulesByMode lex s rules).Places lex.source := by
  induction rules with
  | nil => exact Checked.gives_pure trivial
  | cons rule rules ih =>
    have hrule := h rule (by simp)
    have hrest := ih fun r hr => h r (by simp [hr])
    rw [rulesByMode]
    split
    · exact (ofAlternatives_places hrules rule hrule.alternatives).bind fun _ _ =>
        hrest.bind fun _ _ => Checked.gives_pure trivial
    · exact (tokenRules_places hsource hrules hrule).bind fun _ _ =>
        hrest.bind fun _ _ => Checked.gives_pure trivial

theorem lexerModes_places {implicit : List (List Char × Nat)} {rules : List RuleDecl}
    (h : ∀ r ∈ rules, RulePlaced lex.source r) :
    (lexerModes lex s implicit rules).Places lex.source := by
  have hliterals : (Checked.eachSome (literalRule s.vocabulary) implicit).Places lex.source := by
    refine (Checked.gives_eachSome (Q := fun _ => True) fun literal _ => ?_).places
    unfold literalRule
    dsimp only
    split
    · exact Checked.gives_missing (Defect.unplaced_placedIn _ rfl) (by simp)
    · exact Checked.gives_pure (by simp)
  refine hliterals.bind fun _ _ => ?_
  exact (rulesByMode_places hsource hrules h).bind fun _ _ => Checked.gives_pure trivial

end TokenRules

section Resolve

variable {s : ParserScope}

theorem token_places {ident : Ident} (h : ident.span.PartOf s.source) :
    (s.token ident).Places s.source := by
  unfold ParserScope.token
  split
  · exact Checked.gives_pure trivial
  · exact Checked.gives_missing (Defect.inText_placedIn rfl h) trivial

theorem literal_places {text : List Char} {span : Span} (h : span.PartOf s.source) :
    (s.literal text span).Places s.source := by
  unfold ParserScope.literal
  split
  · exact Checked.gives_pure trivial
  · exact Checked.gives_missing (Defect.inText_placedIn rfl h) trivial

theorem misplaced_places {α : Type} {construct : String} {span : Span} (h : span.PartOf s.source) :
    (s.misplaced construct span : Checked (Option α)).Places s.source :=
  Checked.gives_missing (Defect.inText_placedIn rfl h) trivial

theorem reference_places {ident : Ident} (h : ident.span.PartOf s.source) :
    (s.reference ident).Places s.source := by
  unfold ParserScope.reference
  split
  · exact (token_places h).bind fun _ _ => Checked.gives_pure trivial
  · split
    · exact Checked.gives_pure trivial
    · exact Checked.gives_missing (Defect.inText_placedIn rfl h) trivial

theorem excluded_places {span : Span} {item : SetItem} (hspan : span.PartOf s.source)
    (h : ItemPlaced s.source item) : (s.excluded span item).Places s.source := by
  cases item with
  | literal text place => exact literal_places h
  | ref ident => exact token_places h
  | range _ _ => exact misplaced_places hspan
  | set _ => exact misplaced_places hspan

theorem checkCommands_places {cs : List Command} (h : ∀ c ∈ cs, CommandPlaced s.source c) :
    (checkCommands s cs).Places s.source := by
  cases cs with
  | nil => exact Checked.gives_pure trivial
  | cons c cs => exact Checked.gives_report (Defect.inText_placedIn rfl (h c (by simp)).name)

mutual

theorem resolveAtom_places {span : Span} (hspan : span.PartOf s.source) :
    ∀ a : Atom, AtomPlaced s.source a → (resolveAtom s span a).Places s.source
  | .ref ident, h => by
    rw [AtomPlaced] at h
    rw [resolveAtom]
    exact reference_places h
  | .literal text, _ => by
    rw [resolveAtom]
    exact (literal_places hspan).bind fun _ _ => Checked.gives_pure trivial
  | .wildcard, _ => by
    rw [resolveAtom]
    exact Checked.gives_pure trivial
  | .range _ _, _ => by
    rw [resolveAtom]
    exact misplaced_places hspan
  | .set _, _ => by
    rw [resolveAtom]
    exact misplaced_places hspan
  | .not items, h => by
    rw [AtomPlaced] at h
    rw [resolveAtom]
    refine (Checked.gives_eachSome (Q := fun _ => True) fun item hitem => ?_).bind fun _ _ =>
      Checked.gives_pure trivial
    exact (excluded_places hspan (h item hitem)).mono fun _ _ _ _ => trivial
  | .group alternatives, h => by
    rw [AtomPlaced] at h
    rw [resolveAtom]
    exact (resolveAlternatives_places alternatives h).bind fun _ _ => Checked.gives_pure trivial

theorem resolveElements_places : ∀ es : List ElementDecl, ElementsPlaced s.source es →
    (resolveElements s es).Places s.source
  | [], _ => by
    rw [resolveElements]
    exact Checked.gives_pure trivial
  | ⟨atom, suffix, span⟩ :: es, h => by
    rw [ElementsPlaced] at h
    rw [resolveElements]
    exact (resolveAtom_places h.1.1 atom h.1.2).bind fun _ _ =>
      (resolveElements_places es h.2).bind fun _ _ => Checked.gives_pure trivial

theorem resolveAlternatives_places : ∀ as : List AltDecl, AlternativesPlaced s.source as →
    (resolveAlternatives s as).Places s.source
  | [], _ => by
    rw [resolveAlternatives]
    exact Checked.gives_pure trivial
  | ⟨elements, label, commands, right, span⟩ :: as, h => by
    rw [AlternativesPlaced] at h
    rw [resolveAlternatives]
    exact (checkCommands_places h.1.2.2).bind fun _ _ =>
      (resolveElements_places elements h.1.2.1).bind fun _ _ =>
        (resolveAlternatives_places as h.2).bind fun _ _ => Checked.gives_pure trivial

end

def AltPlaced (source : List Char) (alt : AltDecl) : Prop :=
  alt.span.PartOf source ∧ ElementsPlaced source alt.elements ∧
    ∀ c ∈ alt.commands, CommandPlaced source c

theorem resolvePart_places {alt : AltDecl} (h : AltPlaced s.source alt)
    {elements : List ElementDecl} (hsub : ∀ e ∈ elements, e ∈ alt.elements)
    (last : List (Element Unit)) : (resolvePart s alt elements last).Places s.source := by
  have helements : ElementsPlaced s.source elements := by
    rw [elementsPlaced_iff]
    intro e he
    exact elementsPlaced_iff.mp h.2.1 e (hsub e he)
  exact (checkCommands_places h.2.2).bind fun _ _ =>
    (resolveElements_places elements helements).bind fun _ _ => Checked.gives_pure trivial

theorem splitAlternative_places {alt : AltDecl} (h : AltPlaced s.source alt) (index level : Nat) :
    (splitAlternative s index level alt).Places s.source := by
  unfold splitAlternative
  split
  · exact (resolvePart_places h (fun _ => id) _).bind fun _ _ => Checked.gives_pure trivial
  · exact (resolvePart_places h (fun _ => List.mem_of_mem_dropLast) _).bind fun _ _ =>
      Checked.gives_pure trivial
  · split
    · exact Checked.gives_missing (Defect.inText_placedIn rfl h.1) trivial
    · exact (resolvePart_places h (fun _ => List.mem_of_mem_tail) _).bind fun _ _ =>
        Checked.gives_pure trivial
  · exact (resolvePart_places h
      (fun _ he => List.mem_of_mem_tail (List.mem_of_mem_dropLast he)) _).bind fun _ _ =>
        Checked.gives_pure trivial

theorem splitAlternatives_places {alts : List AltDecl} (h : ∀ alt ∈ alts, AltPlaced s.source alt)
    (index : Nat) : (splitAlternatives s index alts).Places s.source := by
  induction alts with
  | nil => exact Checked.gives_pure trivial
  | cons alt alts ih =>
    exact (splitAlternative_places (h alt (by simp)) index _).bind fun _ _ =>
      (ih fun a ha => h a (by simp [ha])).bind fun _ _ => Checked.gives_pure trivial

theorem parserRule_places {decl : RuleDecl} (h : RulePlaced s.source decl) (index : Nat) :
    (parserRule s index decl).Places s.source := by
  unfold parserRule
  split
  · refine (splitAlternatives_places (alternativesPlaced_iff.mp h.alternatives) index).bind
      fun parts _ => ?_
    dsimp only
    split
    · exact (Checked.gives_report (Defect.inText_placedIn rfl h.name)).bind fun _ _ =>
        Checked.gives_pure trivial
    · exact Checked.gives_pure trivial
  · exact (resolveAlternatives_places _ h.alternatives).bind fun _ _ => Checked.gives_pure trivial

end Resolve

section Grammar

variable {source : List Char}

theorem numberedRules_places {types : TokenTypes} {names : List String} {decls : List RuleDecl}
    (h : ∀ r ∈ decls, RulePlaced source r) (index : Nat) :
    (numberedRules source types names index decls).Places source := by
  induction decls generalizing index with
  | nil => exact Checked.gives_pure trivial
  | cons decl decls ih =>
    exact (parserRule_places (s := ⟨source, types, names, decl.name.name⟩) (h decl (by simp))
      index).bind fun _ _ => (ih (fun r hr => h r (by simp [hr])) _).bind fun _ _ =>
        Checked.gives_pure trivial

theorem cycleDefect_placedIn {decls : List RuleDecl} (h : ∀ r ∈ decls, RulePlaced source r)
    (cycle : List Nat) : (cycleDefect source decls cycle).PlacedIn source .grammar := by
  apply Defect.inText_placedIn rfl
  cases hspan : (cycle.head?.bind (decls[·]?)).map (·.name.span) with
  | none => exact (isBoundary_zero source).partOf_empty
  | some span =>
    obtain ⟨decl, hdecl, rfl⟩ := Option.map_eq_some_iff.mp hspan
    obtain ⟨i, -, hi⟩ := Option.bind_eq_some_iff.mp hdecl
    exact (h decl (List.mem_of_getElem? hi)).name

theorem parserRules_places {types : TokenTypes} {decls : List RuleDecl}
    (h : ∀ r ∈ decls, RulePlaced source r) : (parserRules source types decls).Places source := by
  refine (numberedRules_places h 0).bind fun rules _ => ?_
  exact (Checked.gives_each fun cycle _ =>
    Checked.gives_report (cycleDefect_placedIn h cycle)).bind fun _ _ => Checked.gives_pure trivial

theorem ruleDefects_placedIn {kind : GrammarKind} {rule : RuleDecl} (h : RulePlaced source rule) :
    ∀ d ∈ ruleDefects source kind rule, d.PlacedIn source .grammar := by
  intro d hd
  rcases List.mem_append.mp hd with hd | hd
  · split at hd
    · obtain rfl := List.mem_singleton.mp hd
      exact Defect.inText_placedIn rfl h.name
    · cases hd
  · split at hd
    · rename_i span hspan
      split at hd
      · cases hd
      · obtain rfl := List.mem_singleton.mp hd
        exact Defect.inText_placedIn rfl (h.fragment span hspan)
    · cases hd

theorem allRuleDefects_placedIn {kind : GrammarKind} {rules : List RuleDecl}
    (h : ∀ r ∈ rules, RulePlaced source r) (seen : List String) :
    ∀ d ∈ allRuleDefects source kind seen rules, d.PlacedIn source .grammar := by
  induction rules generalizing seen with
  | nil => simp [allRuleDefects]
  | cons r rules ih =>
    have hrest := ih fun r' hr' => h r' (by simp [hr'])
    intro d hd
    simp only [allRuleDefects] at hd
    split at hd
    · rcases List.mem_cons.mp hd with rfl | hd
      · exact Defect.inText_placedIn rfl (h r (by simp)).name
      · exact hrest _ d hd
    · rcases List.mem_append.mp hd with hd | hd
      · exact ruleDefects_placedIn (h r (by simp)) d hd
      · exact hrest _ d hd

theorem mem_of_mem_repeated {α : Type} {key : α → String} {seen : List String} {as : List α} {a : α}
    (h : a ∈ repeated key seen as) : a ∈ as := by
  induction as generalizing seen with
  | nil => cases h
  | cons b as ih =>
    unfold repeated at h
    split at h
    · rcases List.mem_cons.mp h with rfl | h
      · simp
      · exact List.mem_cons_of_mem _ (ih h)
    · exact List.mem_cons_of_mem _ (ih h)

theorem mem_of_mem_firstOfEach {α : Type} {key : α → String} {seen : List String} {as : List α}
    {a : α} (h : a ∈ firstOfEach key seen as) : a ∈ as := by
  induction as generalizing seen with
  | nil => cases h
  | cons b as ih =>
    unfold firstOfEach at h
    split at h
    · exact List.mem_cons_of_mem _ (ih h)
    · rcases List.mem_cons.mp h with rfl | h
      · simp
      · exact List.mem_cons_of_mem _ (ih h)

theorem grammarDefects_placedIn {g : GrammarDecl} (h : GrammarPlaced source g) :
    ∀ d ∈ grammarDefects source g, d.PlacedIn source .grammar := by
  intro d hd
  simp only [grammarDefects, List.mem_append] at hd
  rcases hd with (((hd | hd) | hd) | hd) | hd
  · split at hd
    · obtain rfl := List.mem_singleton.mp hd
      apply Defect.inText_placedIn rfl
      cases hheader : g.header with
      | none => exact (isBoundary_zero source).partOf_empty
      | some header => exact h.header header hheader
    · cases hd
  · obtain ⟨i, hi, rfl⟩ := List.mem_map.mp hd
    exact Defect.inText_placedIn rfl (h.imports i hi)
  · split at hd
    · obtain rfl := List.mem_singleton.mp hd
      exact Defect.unplaced_placedIn _ rfl
    · cases hd
  · obtain ⟨m, hm, rfl⟩ := List.mem_map.mp hd
    exact Defect.inText_placedIn rfl (h.modes m (mem_of_mem_repeated hm))
  · exact allRuleDefects_placedIn h.rules [] d hd

theorem startRule_places (names : List String) (start : Option String) :
    (startRule names start).Places source := by
  unfold startRule
  split
  · exact Checked.gives_pure trivial
  · split
    · exact Checked.gives_pure trivial
    · exact Checked.gives_missing (Defect.unplaced_placedIn _ rfl) trivial

theorem grammarOf_places {g : GrammarDecl} (h : GrammarPlaced source g) (start : Option String) :
    (grammarOf source start g).Places source := by
  have hfirst {p : RuleDecl → Bool} : ∀ r ∈ (firstOfEach (fun r : RuleDecl => r.name.name) []
      g.rules).filter p, RulePlaced source r :=
    fun r hr => h.rules r (mem_of_mem_firstOfEach (List.mem_filter.mp hr).1)
  unfold grammarOf
  refine (Checked.gives_each fun d hd =>
    Checked.gives_report (grammarDefects_placedIn h d hd)).bind fun _ _ => ?_
  refine Checked.Gives.bind (P := fun _ => True) (lexerModes_places rfl h.rules hfirst)
    fun _ _ => ?_
  exact (parserRules_places hfirst).bind fun _ _ =>
    (startRule_places _ _).bind fun _ _ => Checked.gives_pure trivial

end Grammar

/-- What is wrong with a document is there to be seen: at least one defect, and each of them with
a place in the document or about all of it. -/
theorem compile_error {text : List Char} {start : Option String} {ds : List Defect}
    (h : compile text start = .error ds) :
    ds ≠ [] ∧ ∀ d ∈ ds, d.PlacedIn text .grammar := by
  unfold compile at h
  split at h
  · rename_i d hd
    cases h
    exact ⟨by simp, by simpa using (read_gives text).2 d hd⟩
  · rename_i decl hd
    have hread := (read_gives text).1 decl hd
    dsimp only at h
    split at h
    · cases h
    · rename_i hdefects
      cases h
      have hperm := List.mergeSort_perm (decl >>= grammarOf text start).defects Defect.le
      refine ⟨?_, ?_⟩
      · intro hnil
        apply hdefects
        rw [Defect.sort] at hnil
        rw [hnil] at hperm
        exact List.isEmpty_iff.mpr hperm.symm.eq_nil
      · intro d hd
        have hall := hread.bind fun g hg => grammarOf_places hg start
        exact hall.defects d (hperm.mem_iff.mp hd)

end GrammarWorkbench.Compile
