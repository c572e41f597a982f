import GrammarWorkbench.Proofs.Lexing.Types

/-!
# Commands and their faults

A command is known by its name; some commands have a target, which must be declared, and the others
stand alone. Every command either resolves or has a fault. The fault of a command behind an
alternative of a token rule is always among the defects of the document.
-/

set_option autoImplicit false

namespace GrammarWorkbench.Lexical

open GrammarWorkbench.Text GrammarWorkbench.Declaration GrammarWorkbench.Diagnostic
open GrammarWorkbench.Model GrammarWorkbench.Compile GrammarWorkbench.Pattern
open GrammarWorkbench.Derivation (DeclaredGrammar)

def plainCommands : List String := ["skip", "more", "popMode"]

def targetCommands : List String := ["type", "channel", "mode", "pushMode"]

section Faults

variable (s : CommandScope)

def HasToken (name : String) : Prop := name ∈ s.vocabulary.names ∧ name ≠ "EOF"

def HasChannel (name : String) : Prop := (decimal64? name.toList).isSome ∨ name ∈ s.channels

def HasMode (name : String) : Prop := name = defaultMode ∨ name ∈ s.modes

def Resolves (c : Command) : Prop :=
  (c.argument = none ∧ c.name.name ∈ plainCommands) ∨
    ∃ target ∈ c.argument, (c.name.name = "type" ∧ HasToken s target.name) ∨
      (c.name.name = "channel" ∧ HasChannel s target.name) ∨
      ((c.name.name = "mode" ∨ c.name.name = "pushMode") ∧ HasMode s target.name)

instance (name : String) : Decidable (HasToken s name) := inferInstanceAs (Decidable (_ ∧ _))

instance (name : String) : Decidable (HasChannel s name) := inferInstanceAs (Decidable (_ ∨ _))

instance (name : String) : Decidable (HasMode s name) := inferInstanceAs (Decidable (_ ∨ _))

instance (c : Command) : Decidable (Resolves s c) := inferInstanceAs (Decidable (_ ∨ _))

/-- What is wrong with a command, and the place to point at: its name, or the argument that is too
many or has no such target. -/
inductive Fault (c : Command) : Kind → Span → Prop
  | unknown (hname : c.name.name ∉ plainCommands ++ targetCommands) :
      Fault c (.unknownCommand c.name.name) c.name.span
  | needless {arg : Ident} (harg : c.argument = some arg) (hname : c.name.name ∈ plainCommands) :
      Fault c (.commandArgument c.name.name "takes no argument") arg.span
  | lacking (harg : c.argument = none) (hname : c.name.name ∈ targetCommands) :
      Fault c (.commandArgument c.name.name "requires an argument") c.name.span
  | token {arg : Ident} (harg : c.argument = some arg) (hname : c.name.name = "type")
      (h : ¬ HasToken s arg.name) : Fault c (.undefinedToken arg.name) arg.span
  | channel {arg : Ident} (harg : c.argument = some arg) (hname : c.name.name = "channel")
      (h : ¬ HasChannel s arg.name) : Fault c (.undefinedChannel arg.name) arg.span
  | mode {arg : Ident} (harg : c.argument = some arg)
      (hname : c.name.name = "mode" ∨ c.name.name = "pushMode") (h : ¬ HasMode s arg.name) :
      Fault c (.undefinedMode arg.name) arg.span

theorem channel?_eq_none_iff {name : String} : s.channel? name = none ↔ ¬ HasChannel s name := by
  unfold CommandScope.channel? HasChannel
  cases decimal64? name.toList <;> simp [List.idxOf?_eq_none_iff]

theorem mode?_eq_none_iff {name : String} : s.mode? name = none ↔ ¬ HasMode s name := by
  unfold CommandScope.mode? HasMode
  split <;> simp_all [List.idxOf?_eq_none_iff]

variable {s}

theorem type?_eq_none_iff (h : StartsWithEnd s.vocabulary) {name : String} :
    s.type? name = none ↔ ¬ HasToken s name := by
  unfold CommandScope.type? HasToken
  cases htype : s.vocabulary.typeOf? name with
  | none =>
    have hmem : name ∉ s.vocabulary.names := by
      rw [← typeOf?_isSome, htype]
      simp
    simp [hmem]
  | some t =>
    have hmem : name ∈ s.vocabulary.names := by
      rw [← typeOf?_isSome, htype]
      rfl
    simp [hmem, h.typeOf?_eq_end htype]

theorem not_mem_commands {name : String}
    (hplain : ¬ (name = "skip" ∨ name = "more" ∨ name = "popMode"))
    (htarget : ¬ (name = "type" ∨ name = "channel" ∨ name = "mode" ∨ name = "pushMode")) :
    name ∉ plainCommands ++ targetCommands := by
  simp only [plainCommands, targetCommands, List.mem_append, List.mem_cons, List.not_mem_nil,
    or_false]
  exact fun hmem => hmem.elim hplain htarget

/-- A command with an argument is applied if it resolves, and else reported with its fault. -/
theorem applyCommand_target (h : StartsWithEnd s.vocabulary) (action : TokenAction) {c : Command}
    {arg : Ident} (harg : c.argument = some arg) :
    ((applyCommand s action c).defects = [] ∧ Resolves s c) ∨
      ∃ kind span, (applyCommand s action c).defects = [.inText s.source kind span] ∧
        Fault s c kind span := by
  simp only [applyCommand, harg]
  by_cases hplain : c.name.name = "skip" ∨ c.name.name = "more" ∨ c.name.name = "popMode"
  · have hname : c.name.name ∈ plainCommands := by simpa [plainCommands] using hplain
    rw [if_pos hplain]
    exact .inr ⟨_, _, rfl, .needless harg hname⟩
  rw [if_neg hplain]
  by_cases htype : c.name.name = "type"
  · rw [if_pos htype]
    cases ht : s.type? arg.name with
    | none => exact .inr ⟨_, _, rfl, .token harg htype ((type?_eq_none_iff h).mp ht)⟩
    | some t =>
      have htoken : HasToken s arg.name := not_not.mp (mt (type?_eq_none_iff h).mpr (by simp [ht]))
      exact .inl ⟨rfl, .inr ⟨arg, harg, .inl ⟨htype, htoken⟩⟩⟩
  rw [if_neg htype]
  by_cases hchannel : c.name.name = "channel"
  · rw [if_pos hchannel]
    cases hn : s.channel? arg.name with
    | none => exact .inr ⟨_, _, rfl, .channel harg hchannel ((channel?_eq_none_iff s).mp hn)⟩
    | some n =>
      have hchannels : HasChannel s arg.name :=
        not_not.mp (mt (channel?_eq_none_iff s).mpr (by simp [hn]))
      exact .inl ⟨rfl, .inr ⟨arg, harg, .inr (.inl ⟨hchannel, hchannels⟩)⟩⟩
  rw [if_neg hchannel]
  by_cases hmode : c.name.name = "mode" ∨ c.name.name = "pushMode"
  · rw [if_pos hmode]
    cases hm : s.mode? arg.name with
    | none => exact .inr ⟨_, _, rfl, .mode harg hmode ((mode?_eq_none_iff s).mp hm)⟩
    | some m =>
      have hmodes : HasMode s arg.name := not_not.mp (mt (mode?_eq_none_iff s).mpr (by simp [hm]))
      exact .inl ⟨rfl, .inr ⟨arg, harg, .inr (.inr ⟨hmode, hmodes⟩)⟩⟩
  · rw [if_neg hmode]
    have htarget : ¬ (c.name.name = "type" ∨ c.name.name = "channel" ∨ c.name.name = "mode" ∨
        c.name.name = "pushMode") := by
      rintro (heq | heq | heq)
      · exact htype heq
      · exact hchannel heq
      · exact hmode heq
    exact .inr ⟨_, _, rfl, .unknown (not_mem_commands hplain htarget)⟩

/-- A command that resolves is applied, and another one is reported with its fault. -/
theorem applyCommand_resolves (h : StartsWithEnd s.vocabulary) (action : TokenAction)
    (c : Command) :
    ((applyCommand s action c).defects = [] ∧ Resolves s c) ∨
      ∃ kind span, (applyCommand s action c).defects = [.inText s.source kind span] ∧
        Fault s c kind span := by
  cases harg : c.argument with
  | some arg => exact applyCommand_target h action harg
  | none =>
    simp only [applyCommand, harg]
    split_ifs with hskip hmore hpop htarget
    · exact .inl ⟨rfl, .inl ⟨harg, by simp [plainCommands, hskip]⟩⟩
    · exact .inl ⟨rfl, .inl ⟨harg, by simp [plainCommands, hmore]⟩⟩
    · exact .inl ⟨rfl, .inl ⟨harg, by simp [plainCommands, hpop]⟩⟩
    · have hname : c.name.name ∈ targetCommands := by simpa [targetCommands] using htarget
      exact .inr ⟨_, _, rfl, .lacking harg hname⟩
    · have hplain : ¬ (c.name.name = "skip" ∨ c.name.name = "more" ∨ c.name.name = "popMode") := by
        simp [hskip, hmore, hpop]
      exact .inr ⟨_, _, rfl, .unknown (not_mem_commands hplain htarget)⟩

/-- The commands of an alternative are checked one by one, whatever the ones before them did. -/
theorem applyCommands_fault (h : StartsWithEnd s.vocabulary) {cs : List Command} {c : Command}
    (hc : c ∈ cs) (hfaulty : ¬ Resolves s c) (action : TokenAction) :
    ∃ kind span, Fault s c kind span ∧
      .inText s.source kind span ∈ (applyCommands s action cs).defects := by
  induction cs generalizing action with
  | nil => cases hc
  | cons c' cs ih =>
    simp only [applyCommands, Checked.defects_bind, List.mem_append]
    rcases List.mem_cons.mp hc with rfl | hc
    · rcases applyCommand_resolves h action c with ⟨-, hresolves⟩ | ⟨kind, span, hdefects, hfault⟩
      · exact absurd hresolves hfaulty
      · exact ⟨kind, span, hfault, .inl (by simp [hdefects])⟩
    · obtain ⟨kind, span, hfault, hmem⟩ := ih hc (applyCommand s action c').value
      exact ⟨kind, span, hfault, .inr hmem⟩

end Faults

/-- The commands of a lexer rule that are looked at: those behind its alternatives, unless it is a
fragment. -/
def checkedCommands (r : RuleDecl) : List Command :=
  if r.fragment.isSome then [] else r.alternatives.flatMap (·.commands)

def firstRules (g : GrammarDecl) : List RuleDecl := firstOfEach (fun r => r.name.name) [] g.rules

/-- What the commands of a document can refer to. Of rules with one name the first one counts. -/
def documentScope (text : List Char) (g : GrammarDecl) : CommandScope :=
  commandScope text { g with rules := firstRules g }

theorem documentScope_startsWithEnd (text : List Char) (g : GrammarDecl) :
    StartsWithEnd (documentScope text g).vocabulary :=
  (declareTokens_startsWithEnd _ _ _).1

theorem grammarOf_fault {text : List Char} (start : Option String) {g : GrammarDecl}
    {r : RuleDecl} (hr : r ∈ firstRules g) (hlexer : r.isLexerRule) {c : Command}
    (hc : c ∈ checkedCommands r) (hfaulty : ¬ Resolves (documentScope text g) c) :
    ∃ kind span, Fault (documentScope text g) c kind span ∧
      .inText text kind span ∈ (grammarOf text start g).defects := by
  have hfragment : ¬ r.fragment.isSome := by
    intro hsome
    simp [checkedCommands, hsome] at hc
  rw [checkedCommands, if_neg hfragment] at hc
  obtain ⟨alt, halt, hc⟩ := List.mem_flatMap.mp hc
  obtain ⟨kind, span, hfault, hmem⟩ := applyCommands_fault
    (documentScope_startsWithEnd text g) hc hfaulty .plain
  refine ⟨kind, span, hfault, ?_⟩
  have hactions : .inText text kind span ∈
      (Checked.each (actionOf (documentScope text g)) r.alternatives).defects := by
    rw [defects_each]
    exact List.mem_flatMap.mpr ⟨alt, halt, hmem⟩
  have htokens : .inText text kind span ∈
      (tokenRules ⟨text, g.rules⟩ (documentScope text g) r).defects := by
    rw [tokenRules, Checked.defects_bind]
    exact List.mem_append_left _ hactions
  have hrules : .inText text kind span ∈ (rulesByMode ⟨text, g.rules⟩ (documentScope text g)
      ((firstRules g).filter (·.isLexerRule))).defects := by
    rw [rulesByMode_defects]
    refine List.mem_flatMap.mpr ⟨r, List.mem_filter.mpr ⟨hr, hlexer⟩, ?_⟩
    rwa [if_neg hfragment]
  have hmodes : .inText text kind span ∈ (lexerModes ⟨text, g.rules⟩ (documentScope text g)
      (DeclaredGrammar.ofDeclarations { g with rules := firstRules g }).types.implicit
      ((firstRules g).filter (·.isLexerRule))).defects := by
    simp only [lexerModes, Checked.defects_bind, List.mem_append]
    exact .inr (.inl hrules)
  simp only [documentScope, commandScope, firstRules, DeclaredGrammar.ofDeclarations] at hmodes
  simp only [grammarOf, Checked.defects_bind, List.mem_append]
  exact .inr (.inl hmodes)

/-- A document with a defect is refused, and the defect is given. -/
theorem compile_defect {text : List Char} {decl : Checked GrammarDecl}
    (hread : read text = .ok decl) {start : Option String} {d : Defect}
    (hd : d ∈ (grammarOf text start decl.value).defects) :
    ∃ ds, compile text start = .error ds ∧ d ∈ ds := by
  have hmem : d ∈ (decl >>= grammarOf text start).defects := by
    rw [Checked.defects_bind]
    exact List.mem_append_right _ hd
  have hcompile : compile text start = if (decl >>= grammarOf text start).defects.isEmpty then
      .ok (decl >>= grammarOf text start).value
      else .error (Defect.sort (decl >>= grammarOf text start).defects) := by
    unfold compile
    rw [hread]
  rw [hcompile]
  generalize decl >>= grammarOf text start = checked at hmem ⊢
  have hsome : ¬ checked.defects.isEmpty := by
    intro hempty
    rw [List.isEmpty_iff.mp hempty] at hmem
    cases hmem
  rw [if_neg hsome]
  exact ⟨Defect.sort checked.defects, rfl, List.mem_mergeSort.mpr hmem⟩

theorem compile_fault {text : List Char} {decl : Checked GrammarDecl} (hread : read text = .ok decl)
    (start : Option String) {r : RuleDecl} (hr : r ∈ firstRules decl.value)
    (hlexer : r.isLexerRule) {c : Command} (hc : c ∈ checkedCommands r)
    (hfaulty : ¬ Resolves (documentScope text decl.value) c) :
    ∃ kind span, Fault (documentScope text decl.value) c kind span ∧
      ∃ ds, compile text start = .error ds ∧ .inText text kind span ∈ ds := by
  obtain ⟨kind, span, hfault, hmem⟩ := grammarOf_fault start hr hlexer hc hfaulty
  exact ⟨kind, span, hfault, compile_defect hread hmem⟩

end GrammarWorkbench.Lexical
