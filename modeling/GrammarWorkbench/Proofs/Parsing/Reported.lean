import GrammarWorkbench.Proofs.Parsing.Sound

/-!
# Reports and error nodes

Whatever a parse recovers from, it reports a defect and leaves an error node at the same place, in
the same order. Only one report leaves no node: that no alternative fits where no token is left.
-/

set_option autoImplicit false

namespace GrammarWorkbench.Run

open GrammarWorkbench.Text GrammarWorkbench.Diagnostic GrammarWorkbench.Model
open GrammarWorkbench.Derivation GrammarWorkbench.Compile

theorem Tree.allErrorNodes_append (ss ts : List Tree) :
    Tree.allErrorNodes (ss ++ ts) = Tree.allErrorNodes ss ++ Tree.allErrorNodes ts := by
  induction ss with
  | nil => rfl
  | cons s ss ih => simp [Tree.allErrorNodes, ih]

structure ParseReport where
  defect : Defect
  rest : List Token

namespace ParseReport

def place (input : List Char) (r : ParseReport) : Span :=
  match r.rest with
  | [] => .empty (byteLength input)
  | t :: _ => t.span

def isDeadEnd (r : ParseReport) : Bool :=
  match r.defect.kind, r.rest with
  | .noViableAlternative _, [] => true
  | _, _ => false

def isMissing (r : ParseReport) : Bool :=
  match r.defect.kind with
  | .missingToken _ _ => true
  | _ => false

/-- A report leaves an error node at the place it points at. If a token is missing, the node takes
no room; otherwise it has the text of the token that was not expected. -/
def Leaves (r : ParseReport) (node : List Char × Span) : Prop :=
  r.defect.span = some node.2 ∧
    if r.isMissing then node.2.length = 0 else ∃ t, r.rest.head? = some t ∧ node.1 = t.text

end ParseReport

/-- Some reports are made on the way from `ts` to `rest`, and leave some nodes. Behind a report
the token it points at has been read. -/
structure Recovers (input : List Char) (ts : List Token) (reports : List ParseReport)
    (nodes : List (List Char × Span)) (rest : List Token) : Prop where
  rest_suffix : rest <:+ ts
  placed : ∀ r ∈ reports, r.rest <:+ ts ∧ rest <:+ r.rest.tail ∧
    r.defect.span = some (r.place input)
  ordered : reports.Pairwise fun a b => b.rest <:+ a.rest.tail
  leaves : List.Forall₂ ParseReport.Leaves (reports.filter (!·.isDeadEnd)) nodes

namespace Recovers

variable {input : List Char} {ts rest : List Token} {reports : List ParseReport}
variable {nodes : List (List Char × Span)}

theorem refl (input : List Char) (ts : List Token) : Recovers input ts [] [] ts where
  rest_suffix := List.suffix_rfl
  placed := by simp
  ordered := .nil
  leaves := .nil

theorem trans {mid : List Token} {more : List ParseReport} {moreNodes : List (List Char × Span)}
    (h : Recovers input ts reports nodes mid) (h' : Recovers input mid more moreNodes rest) :
    Recovers input ts (reports ++ more) (nodes ++ moreNodes) rest where
  rest_suffix := h'.rest_suffix.trans h.rest_suffix
  placed := by
    intro r hr
    rcases List.mem_append.mp hr with hr | hr
    · obtain ⟨hts, hmid, hspan⟩ := h.placed r hr
      exact ⟨hts, h'.rest_suffix.trans hmid, hspan⟩
    · obtain ⟨hmid, hrest, hspan⟩ := h'.placed r hr
      exact ⟨hmid.trans h.rest_suffix, hrest, hspan⟩
  ordered := by
    refine List.pairwise_append.mpr ⟨h.ordered, h'.ordered, ?_⟩
    intro a ha b hb
    exact (h'.placed b hb).1.trans (h.placed a ha).2.1
  leaves := by
    rw [List.filter_append]
    exact List.rel_append h.leaves h'.leaves

/-- A step that reads a token or the end of the input reports nothing. -/
theorem read (input : List Char) (ts : List Token) : Recovers input ts [] [] ts.tail where
  rest_suffix := List.tail_suffix ts
  placed := by simp
  ordered := .nil
  leaves := .nil

theorem one {r : ParseReport} {node : List Char × Span} (hrest : r.rest = ts)
    (hplace : r.defect.span = some (r.place input)) (hleaves : r.Leaves node)
    (hend : r.isDeadEnd = false) : Recovers input ts [r] [node] ts.tail where
  rest_suffix := List.tail_suffix ts
  placed := by
    intro r' hr'
    obtain rfl := List.mem_singleton.mp hr'
    exact ⟨by simp [hrest], by simp [hrest], hplace⟩
  ordered := List.pairwise_singleton _ _
  leaves := by
    rw [List.filter_cons_of_pos (by simp [hend]), List.filter_nil]
    exact .cons hleaves .nil

theorem deadEnd {r : ParseReport} (hplace : r.defect.span = some (r.place input))
    (hrest : r.rest = []) (hend : r.isDeadEnd = true) : Recovers input [] [r] [] [] where
  rest_suffix := List.suffix_rfl
  placed := by
    intro r' hr'
    obtain rfl := List.mem_singleton.mp hr'
    exact ⟨by simp [hrest], by simp [hrest], hplace⟩
  ordered := List.pairwise_singleton _ _
  leaves := by simp [hend]

end Recovers

def RecoversIn (p : ParserConfig) (ts : List Token) (r : Parsed (List Tree)) : Prop :=
  ∃ reports : List ParseReport, reports.map (·.defect) = r.defects ∧
    Recovers p.input ts reports (Tree.allErrorNodes r.value) r.rest

section Steps

variable {p : ParserConfig}

theorem RecoversIn.andThen {ts : List Token} {r s : Parsed (List Tree)} (hr : RecoversIn p ts r)
    (hs : RecoversIn p r.rest s) :
    RecoversIn p ts ⟨r.value ++ s.value, r.defects ++ s.defects, s.rest⟩ := by
  obtain ⟨reports, hdefects, hrec⟩ := hr
  obtain ⟨more, hmore, hrec'⟩ := hs
  refine ⟨reports ++ more, by simp [hdefects, hmore], ?_⟩
  rw [Tree.allErrorNodes_append]
  exact hrec.trans hrec'

theorem RecoversIn.mem_of_mem_rest {ts : List Token} {r : Parsed (List Tree)}
    (h : RecoversIn p ts r) {t : Token} (ht : t ∈ r.rest) : t ∈ ts := by
  obtain ⟨reports, -, hrec⟩ := h
  exact hrec.rest_suffix.subset ht

theorem recovers_token (t : Token) (ts : List Token) {kind : Kind}
    (hkind : ParseReport.isMissing ⟨defectAt p kind (t :: ts), t :: ts⟩ = false) :
    Recovers p.input (t :: ts) [⟨defectAt p kind (t :: ts), t :: ts⟩] [(t.text, t.span)] ts := by
  refine .one rfl rfl ⟨rfl, ?_⟩ (by simp [ParseReport.isDeadEnd])
  rw [hkind]
  exact ⟨t, rfl, rfl⟩

/-- Reading a terminal leaves a node for its report, if it makes one: at the end of the input that
of a missing token, and else that of the token in its place. -/
theorem parseTerminal_recovers (hend : p.endToken = .atEnd p.input) {m : TokenMatch}
    {ts : List Token} (hts : ∀ t ∈ ts, ¬ t.isEnd) {r : Parsed (List Tree)}
    (h : parseTerminal p m ts = .ok r) : RecoversIn p ts r := by
  unfold parseTerminal at h
  by_cases hm : m.accepts (nextType ts)
  · rw [if_pos hm] at h
    obtain rfl := Except.ok.inj h
    exact ⟨[], rfl, .read p.input ts⟩
  · rw [if_neg hm] at h
    dsimp only at h
    cases ts with
    | nil =>
      have hcurrent : currentToken p [] = .atEnd p.input := hend
      rw [if_pos (by rw [hcurrent]; rfl)] at h
      obtain rfl := Except.ok.inj h
      refine ⟨[⟨defectAt p (.missingToken _ _) [], []⟩], rfl, .one rfl ?_ ?_ rfl⟩
      · simp [defectAt, Defect.inText, hcurrent, ParseReport.place, Token.atEnd]
      · simp [ParseReport.Leaves, ParseReport.isMissing, defectAt, Defect.inText, hcurrent,
          Token.atEnd, Span.empty, Span.length]
    | cons t ts =>
      rw [if_neg (show ¬ (currentToken p (t :: ts)).isEnd from hts t List.mem_cons_self)] at h
      split at h
      · obtain rfl := Except.ok.inj h
        have hextra : ParseReport.isMissing ⟨defectAt p
            (.extraneousInput t.display (expectation p m)) (t :: ts), t :: ts⟩ = false := rfl
        have hskip := recovers_token t ts hextra
        exact ⟨_, rfl, hskip.trans (.read p.input ts)⟩
      · obtain rfl := Except.ok.inj h
        exact ⟨_, rfl, recovers_token (p := p) t ts rfl⟩

theorem parseNothing_recovers (hend : p.endToken = .atEnd p.input) {ts : List Token}
    (hts : ∀ t ∈ ts, ¬ t.isEnd) {r : Parsed (List Tree)} (h : parseNothing p ts = .ok r) :
    RecoversIn p ts r := by
  unfold parseNothing at h
  dsimp only at h
  cases ts with
  | nil =>
    have hcurrent : currentToken p [] = .atEnd p.input := hend
    rw [if_pos (by rw [hcurrent]; rfl)] at h
    obtain rfl := Except.ok.inj h
    refine ⟨[⟨defectAt p (.noViableAlternative _) [], []⟩], rfl, .deadEnd ?_ rfl rfl⟩
    simp [defectAt, Defect.inText, hcurrent, ParseReport.place, Token.atEnd]
  | cons t ts =>
    rw [if_neg (show ¬ (currentToken p (t :: ts)).isEnd from hts t List.mem_cons_self)] at h
    obtain rfl := Except.ok.inj h
    exact ⟨_, rfl, recovers_token (p := p) t ts rfl⟩

def recoveredRun (p : ParserConfig) (hend : p.endToken = .atEnd p.input) : RunInvariant p where
  holds _ ts r := (∀ t ∈ ts, ¬ t.isEnd) → RecoversIn p ts r
  mono _ h := h
  done ts _ := ⟨[], rfl, .refl p.input ts⟩
  andThen := by
    intro l m ts r s hr hs hts
    have hfirst := hr hts
    exact hfirst.andThen (hs fun t ht => hts t (hfirst.mem_of_mem_rest ht))
  terminal hr hts := parseTerminal_recovers hend hts hr
  nothing hr hts := parseNothing_recovers hend hts hr

theorem callRule_recovers (hend : p.endToken = .atEnd p.input) (room : Nat) :
    (recoveredRun p hend).Calls (callRule p room) fun _ _ => 0 := by
  apply RunInvariant.callRule_holds
  · intro i rule q ts c hrule hc hts
    simpa [RecoversIn, Tree.allErrorNodes, Tree.errorNodes] using hc hts
  · -- the operand so far becomes the first child, so its error nodes stay in front
    intro i rule q start left ds ts c hrule hleft hc hts
    have hoperand := hleft hts
    have hboth := hoperand.andThen (hc fun t ht => hts t (hoperand.mem_of_mem_rest ht))
    simpa [RecoversIn, Tree.allErrorNodes, Tree.errorNodes] using hboth

end Steps

/-- The reports of a parse, in order, leave the error nodes of its tree, in order, each but the
dead ends one. Every report points at the next token, which is then read, or at the end of the
input. -/
theorem parse_reports_leave_nodes {g : Grammar} {input : List Char} {tokens : List Token}
    {limit start : Nat} {cancelled : Bool} {tree : Tree} {ds : List Defect}
    (htokens : ∀ t ∈ visibleTokens tokens, ¬ t.isEnd)
    (hparse : parse g input tokens limit cancelled start = .ok (tree, ds)) :
    ∃ reports : List ParseReport, reports.map (·.defect) = ds ∧
      (∀ r ∈ reports, r.rest <:+ visibleTokens tokens ∧ r.defect.span = some (r.place input)) ∧
      (reports.Pairwise fun a b => b.rest <:+ a.rest.tail) ∧
      List.Forall₂ ParseReport.Leaves (reports.filter (!·.isDeadEnd)) tree.errorNodes := by
  obtain ⟨r, hr, rfl, rfl⟩ := parse_ok.mp hparse
  obtain ⟨reports, hdefects, hrec⟩ := callRule_recovers
    (p := ⟨g, input, .atEnd input, limit, cancelled⟩) rfl limit start 0 _ r hr htokens
  refine ⟨reports, hdefects, ?_, hrec.ordered, ?_⟩
  · intro report hreport
    obtain ⟨hrest, -, hspan⟩ := hrec.placed report hreport
    exact ⟨hrest, hspan⟩
  · simpa [Tree.allErrorNodes] using hrec.leaves

def faultyTokens : List Token :=
  [⟨"'c'", 3, ['c'], ⟨0, 1⟩, ⟨1, 1⟩, 0⟩, ⟨"'b'", 2, ['b'], ⟨1, 2⟩, ⟨1, 2⟩, 0⟩,
    ⟨"'a'", 1, ['a'], ⟨2, 3⟩, ⟨1, 3⟩, 0⟩, ⟨"'c'", 3, ['c'], ⟨3, 4⟩, ⟨1, 4⟩, 0⟩]

theorem faultyTokens_parsed : ∃ g tree ds,
    compile "s:t'a''b't'a';t:'a'|'b';u:'c';".toList none = .ok g ∧
      parse g "cbac".toList faultyTokens 2 false 0 = .ok (tree, ds) ∧
      ds.map (·.kind.suffix) = ["no_viable_alternative", "extraneous_input", "mismatched_input",
        "no_viable_alternative", "missing_token"] ∧
      tree.errorNodes.map (·.2) = [⟨0, 1⟩, ⟨1, 2⟩, ⟨3, 4⟩, ⟨4, 4⟩] := by
  have h : ∃ g ∈ (compile "s:t'a''b't'a';t:'a'|'b';u:'c';".toList none).toOption,
      ∃ r ∈ (parse g "cbac".toList faultyTokens 2 false 0).toOption,
        r.2.map (·.kind.suffix) = ["no_viable_alternative", "extraneous_input",
          "mismatched_input", "no_viable_alternative", "missing_token"] ∧
        r.1.errorNodes.map (·.2) = [⟨0, 1⟩, ⟨1, 2⟩, ⟨3, 4⟩, ⟨4, 4⟩] := by decide +kernel
  obtain ⟨g, hg, ⟨tree, ds⟩, hr, hkinds, hspans⟩ := h
  exact ⟨g, tree, ds, toOption_eq_some.mp hg, toOption_eq_some.mp hr, hkinds, hspans⟩

theorem parse_reports_leave_nodes_faulty : ∃ g tree ds,
    compile "s:t'a''b't'a';t:'a'|'b';u:'c';".toList none = .ok g ∧
      parse g "cbac".toList faultyTokens 2 false 0 = .ok (tree, ds) ∧
      ds.map (·.kind.suffix) = ["no_viable_alternative", "extraneous_input", "mismatched_input",
        "no_viable_alternative", "missing_token"] ∧
      tree.errorNodes.map (·.2) = [⟨0, 1⟩, ⟨1, 2⟩, ⟨3, 4⟩, ⟨4, 4⟩] ∧
      ∃ reports : List ParseReport, reports.map (·.defect) = ds ∧
        (∀ r ∈ reports, r.rest <:+ visibleTokens faultyTokens ∧
          r.defect.span = some (r.place "cbac".toList)) ∧
        (reports.Pairwise fun a b => b.rest <:+ a.rest.tail) ∧
        List.Forall₂ ParseReport.Leaves (reports.filter (!·.isDeadEnd)) tree.errorNodes := by
  obtain ⟨g, tree, ds, hg, hparse, hkinds, hspans⟩ := faultyTokens_parsed
  exact ⟨g, tree, ds, hg, hparse, hkinds, hspans, parse_reports_leave_nodes (by decide) hparse⟩

end GrammarWorkbench.Run
