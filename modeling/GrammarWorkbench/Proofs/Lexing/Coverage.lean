import GrammarWorkbench.Proofs.Lexing.Types

/-!
# What tokens cover of an input

The tokens of an input in which nothing is skipped and nothing is defective follow one another
without a gap. They cover the input up to the token that is begun at its end: the segments there
that are marked `more` make no token, and no defect tells of them.
-/

set_option autoImplicit false

namespace GrammarWorkbench.Compile

open GrammarWorkbench.Declaration GrammarWorkbench.Diagnostic GrammarWorkbench.Model

def LacksCommand (name : String) (decl : GrammarDecl) : Prop :=
  ∀ r ∈ decl.rules, ∀ alt ∈ r.alternatives, ∀ c ∈ alt.commands, c.name.name ≠ name

/-- An action skips a token or only begins one because a command says so. -/
theorem actionOf_flags (s : CommandScope) (alt : AltDecl) :
    ((actionOf s alt).value.skip → ∃ c ∈ alt.commands, c.name.name = "skip") ∧
      ((actionOf s alt).value.more → ∃ c ∈ alt.commands, c.name.name = "more") := by
  refine applyCommands_induction s (P := fun action =>
    (action.skip → ∃ c ∈ alt.commands, c.name.name = "skip") ∧
      (action.more → ∃ c ∈ alt.commands, c.name.name = "more")) ?_ ?_
  · rintro action c hc ⟨hskip, hmore⟩
    rcases applyCommand_cases s action c with
      heq | ⟨hname, heq⟩ | ⟨hname, heq⟩ | ⟨name, t, ht, heq⟩ | ⟨n, heq⟩ | ⟨change, heq⟩
    · rw [heq]
      exact ⟨hskip, hmore⟩
    · rw [heq]
      exact ⟨fun _ => ⟨c, hc, hname⟩, hmore⟩
    · rw [heq]
      exact ⟨hskip, fun _ => ⟨c, hc, hname⟩⟩
    · rw [heq]
      exact ⟨hskip, hmore⟩
    · rw [heq]
      exact ⟨hskip, hmore⟩
    · rw [heq]
      exact ⟨hskip, hmore⟩
  · simp [TokenAction.plain]

/-- Where a document has no command to skip tokens none of its token rules does, and likewise for
the command that only begins tokens. -/
theorem modes_lack {text : List Char} {start : Option String} {g : Grammar}
    {decl : Checked GrammarDecl} (h : compile text start = .ok g) (hread : read text = .ok decl)
    {mode : LexerMode} (hmode : mode ∈ g.modes) {rule : TokenRule} (hrule : rule ∈ mode.rules) :
    (LacksCommand "skip" decl.value → rule.action.skip = false) ∧
      (LacksCommand "more" decl.value → rule.action.more = false) := by
  rcases modes_origin h hread mode hmode rule hrule with hliteral | ⟨r, hof⟩
  · rw [hliteral.action]
    exact ⟨fun _ => rfl, fun _ => rfl⟩
  · obtain ⟨alt, halt, haction⟩ := hof.action
    obtain ⟨hskip, hmore⟩ := actionOf_flags (commandScope text decl.value) alt
    rw [haction]
    constructor
    · intro hlacks
      by_contra hflag
      obtain ⟨c, hc, hname⟩ := hskip (by simpa using hflag)
      exact hlacks r hof.mem alt halt c hc hname
    · intro hlacks
      by_contra hflag
      obtain ⟨c, hc, hname⟩ := hmore (by simpa using hflag)
      exact hlacks r hof.mem alt halt c hc hname

end GrammarWorkbench.Compile

namespace GrammarWorkbench.Run

open GrammarWorkbench.Text GrammarWorkbench.Declaration GrammarWorkbench.Diagnostic
open GrammarWorkbench.Model GrammarWorkbench.Compile

/-- Tokens that cover what lies between two offsets: the first starts at the one, each starts where
the token before it ends, and the last ends at the other. -/
def Cover : Nat → List Token → Nat → Prop
  | start, [], stop => start = stop
  | start, t :: ts, stop => t.span.start = start ∧ Cover t.span.stop ts stop

theorem Cover.concat {start : Nat} {ts : List Token} {t : Token}
    (h : Cover start ts t.span.start) : Cover start (ts ++ [t]) t.span.stop := by
  induction ts generalizing start with
  | nil =>
    obtain rfl : start = t.span.start := h
    exact ⟨rfl, rfl⟩
  | cons u ts ih => exact ⟨h.1, ih h.2⟩

/-- The tokens of segments that all have a rule, none of which skips tokens, cover all but the
segments that begin a token at the end. -/
theorem tokens_settled (v : Vocabulary) {segs : List Segment}
    (h : ∀ seg ∈ segs, ∃ rule ∈ seg.rule, rule.action.skip = false) :
    Cover 0 (lexedAt v (places [] segs)).tokens (byteLength (textOf (settled segs))) ∧
      (lexedAt v (places [] segs)).tokens.flatMap (·.text) = textOf (settled segs) := by
  induction segs using List.reverseRecOn with
  | nil => exact ⟨rfl, rfl⟩
  | append_singleton segs seg ih =>
    obtain ⟨hcover, htext⟩ := ih fun seg' hseg' => h seg' (List.mem_append_left _ hseg')
    obtain ⟨rule, hrule, hskip⟩ := h seg (by simp)
    rw [tokens_concat]
    by_cases hmore : seg.isMore
    · have hsettled : settled (segs ++ [seg]) = settled segs :=
        List.rdropWhile_concat_pos _ _ _ hmore
      have htoken : tokenAt v segs seg = none := by
        have hflag : rule.action.more := by
          simpa [Segment.isMore, Option.mem_def.mp hrule] using hmore
        simp [tokenAt, Option.mem_def.mp hrule, hflag]
      rw [htoken, hsettled]
      simpa using ⟨hcover, htext⟩
    · have hsettled : settled (segs ++ [seg]) = segs ++ [seg] :=
        List.rdropWhile_concat_neg _ _ _ hmore
      have hflag : rule.action.more = false := by
        simpa [Segment.isMore, Option.mem_def.mp hrule] using hmore
      have hwhole : textOf (segs ++ [seg]) =
          textOf (settled segs) ++ textOf (begun segs ++ [seg]) := by
        rw [← textOf_append, ← List.append_assoc, settled_append_begun]
      have htoken : ∃ t, tokenAt v segs seg = some t ∧ t.text = textOf (begun segs ++ [seg]) ∧
          t.span = ⟨byteLength (textOf (settled segs)), byteLength (textOf (segs ++ [seg]))⟩ := by
        rw [hwhole, tokenAt, Option.mem_def.mp hrule]
        simp only [hflag, hskip, Bool.or_self, Bool.false_eq_true, if_false]
        exact ⟨_, rfl, rfl, rfl⟩
      obtain ⟨t, ht, httext, hspan⟩ := htoken
      rw [ht, hsettled]
      constructor
      · have hlast : Cover 0 ((lexedAt v (places [] segs)).tokens ++ [t]) t.span.stop :=
          Cover.concat (by rw [hspan]; exact hcover)
        rw [hspan] at hlast
        exact hlast
      · rw [Option.toList_some, List.flatMap_append, htext, hwhole]
        simp [httext]

theorem rule_of_no_defects {v : Vocabulary} {segs : List Segment}
    (h : (lexedAt v (places [] segs)).defects = []) :
    ∀ seg ∈ segs, ∃ rule, seg.rule = some rule := by
  intro seg hseg
  obtain ⟨before, after, rfl⟩ := List.append_of_mem hseg
  have hplace : (before, seg) ∈ places [] (before ++ seg :: after) := by
    rw [places_append]
    simp [places]
  have hnone := List.flatMap_eq_nil_iff.mp h _ hplace
  cases hrule : seg.rule with
  | some rule => exact ⟨rule, rfl⟩
  | none => simp [defectsAt, hrule] at hnone

/-- In a document without a command to skip tokens, the tokens of an input without defects follow
one another from its start without a gap, and what they leave out is the text of the token that is
begun at its end. So they cover the whole input exactly when none is begun there, and always if no
command only begins a token. -/
theorem tokens_cover_iff {grammar : List Char} {start : Option String} {g : Grammar}
    {decl : Checked GrammarDecl} (h : compile grammar start = .ok g)
    (hread : read grammar = .ok decl) (hskip : LacksCommand "skip" decl.value)
    (input : List Char) :
    ∃ segs lexed, Divides g .initial input segs ∧ tokenize g input false = .ok lexed ∧
      (lexed.defects = [] →
        Cover 0 lexed.tokens (byteLength (textOf (settled segs))) ∧
        lexed.tokens.flatMap (·.text) ++ textOf (begun segs) = input ∧
        ((lexed.tokens.flatMap (·.text) = input ∧ Cover 0 lexed.tokens (byteLength input)) ↔
          begun segs = []) ∧
        (LacksCommand "more" decl.value → begun segs = [])) := by
  obtain ⟨segs, hsegs, hrun, -⟩ := tokenize_ok h input
  refine ⟨segs, _, hsegs, hrun, ?_⟩
  intro hclean
  have hrules : ∀ seg ∈ segs, ∃ rule ∈ seg.rule, ∃ mode ∈ g.modes, rule ∈ mode.rules := by
    intro seg hseg
    obtain ⟨rule, hrule⟩ := rule_of_no_defects hclean seg hseg
    exact ⟨rule, hrule, hsegs.rule_mem seg hseg rule hrule⟩
  have hkept : ∀ seg ∈ segs, ∃ rule ∈ seg.rule, rule.action.skip = false := by
    intro seg hseg
    obtain ⟨rule, hrule, mode, hmode, hmem⟩ := hrules seg hseg
    exact ⟨rule, hrule, (modes_lack h hread hmode hmem).1 hskip⟩
  obtain ⟨hcover, htext⟩ := tokens_settled g.vocabulary hkept
  have hinput : textOf (settled segs) ++ textOf (begun segs) = input := by
    rw [← textOf_append, settled_append_begun, hsegs.textOf_eq]
  refine ⟨hcover, by rw [htext, hinput], ⟨?_, ?_⟩, ?_⟩
  · rintro ⟨hall, -⟩
    rw [htext] at hall
    have hnil : textOf (begun segs) = [] := by
      rw [← hinput] at hall
      exact List.self_eq_append_right.mp hall
    -- A segment is never empty, so text that is nowhere has no segments.
    rw [List.eq_nil_iff_forall_not_mem]
    intro seg hseg
    have hmem : seg ∈ segs := by
      rw [← settled_append_begun segs]
      exact List.mem_append_right _ hseg
    exact hsegs.ne_nil seg hmem (List.flatMap_eq_nil_iff.mp hnil seg hseg)
  · intro hnone
    have hwhole : textOf (settled segs) = input := by
      simpa [hnone, textOf] using hinput
    rw [hwhole] at htext hcover
    exact ⟨htext, hcover⟩
  · intro hmore
    rw [begun, List.rtakeWhile_eq_nil_iff]
    intro hne
    obtain ⟨rule, hrule, mode, hmode, hmem⟩ := hrules _ (List.getLast_mem hne)
    have hflag := (modes_lack h hread hmode hmem).2 hmore
    simp [Segment.isMore, Option.mem_def.mp hrule, hflag]

def stringGrammar : List Char :=
  "Q:'\"'->more,pushMode(S);W:' ';mode S;E:'\"'->popMode;C:'a'->more;".toList

def openString : List Char := "\"a\" \"a".toList

theorem stringGrammar_read : ∃ g ∈ (compile stringGrammar none).toOption,
    ∃ decl ∈ (read stringGrammar).toOption, ∃ lexed ∈ (tokenize g openString false).toOption,
      (∀ r ∈ decl.value.rules, ∀ alt ∈ r.alternatives, ∀ c ∈ alt.commands, c.name.name ≠ "skip") ∧
      lexed.defects = [] ∧ lexed.tokens.flatMap (·.text) = "\"a\" ".toList := by
  decide +kernel

theorem tokens_cover_iff_strings : ∃ g decl segs lexed, compile stringGrammar none = .ok g ∧
    read stringGrammar = .ok decl ∧ LacksCommand "skip" decl.value ∧
    Divides g .initial openString segs ∧
    tokenize g openString false = .ok lexed ∧ lexed.defects = [] ∧
    lexed.tokens.flatMap (·.text) = "\"a\" ".toList ∧ textOf (begun segs) = "\"a".toList := by
  obtain ⟨g, hg, decl, hdecl, lexed, hlexed, hskip, hclean, htexts⟩ := stringGrammar_read
  have hcompile := Derivation.toOption_eq_some.mp hg
  have hread := Derivation.toOption_eq_some.mp hdecl
  have hrun := Derivation.toOption_eq_some.mp hlexed
  obtain ⟨segs, lexed', hsegs, hrun', hcover⟩ :=
    tokens_cover_iff hcompile hread hskip openString
  obtain rfl : lexed = lexed' := Except.ok.inj (hrun.symm.trans hrun')
  obtain ⟨-, hrest, -, -⟩ := hcover hclean
  rw [htexts] at hrest
  exact ⟨g, decl, segs, lexed, hcompile, hread, hskip, hsegs, hrun, hclean, htexts,
    List.append_cancel_left (hrest.trans rfl)⟩

/-- A token that is begun at the end of an input is lost, and nothing tells of it. -/
theorem tokens_cover_lost_end : ∃ g ∈ (compile "A : 'a' -> more ;".toList none).toOption,
    ∃ decl ∈ (read "A : 'a' -> more ;".toList).toOption,
      (∀ r ∈ decl.value.rules, ∀ alt ∈ r.alternatives, ∀ c ∈ alt.commands, c.name.name ≠ "skip") ∧
      ∃ lexed ∈ (tokenize g ['a'] false).toOption,
        lexed.defects = [] ∧ lexed.tokens.flatMap (·.text) ≠ ['a'] := by
  decide +kernel

end GrammarWorkbench.Run
