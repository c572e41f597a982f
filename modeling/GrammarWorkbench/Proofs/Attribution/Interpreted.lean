import GrammarWorkbench.Proofs.Attribution.Compiled
import GrammarWorkbench.Proofs.Closed.Run
import GrammarWorkbench.Proofs.Lexing.Munch

/-!
# What an interpretation results in

An interpretation is refused for the defects of its grammar document, or it analyses the input and
reports the defects of the input, or it is stopped. Every message belongs to the document it is
about and points at a part of it.
-/

set_option autoImplicit false

namespace GrammarWorkbench.Diagnostic

open GrammarWorkbench.Text

/-- A message about a document: if it has a span, this is a part of the document that starts and
ends between characters, and the line and the column are those of its start. -/
structure Message.PlacedIn (m : Message) (text : List Char) (origin : Origin) : Prop where
  origin_eq : m.origin = origin
  unplaced : m.span = none → m.line = -1 ∧ m.column = -1
  bounds : ∀ span ∈ m.span, span.start ≤ span.stop ∧ span.stop ≤ byteLength text
  boundaries : ∀ span ∈ m.span,
    (dropBytes? text span.start).isSome ∧ (dropBytes? text span.stop).isSome
  signed_eq : ∀ span ∈ m.span, m.line = signed (position text span.start).line ∧
    m.column = signed (position text span.start).column
  position_eq : ∀ span ∈ m.span, byteLength text < 2 ^ 63 - 1 →
    m.line = (position text span.start).line ∧ m.column = (position text span.start).column

theorem positionFrom_le (text : List Char) (offset : Nat) (p : Position) :
    (positionFrom p text offset).line ≤ p.line + text.length ∧
      (positionFrom p text offset).column ≤ max p.column 1 + text.length := by
  induction text generalizing offset p with
  | nil =>
    simp only [positionFrom, List.length_nil]
    omega
  | cons c cs ih =>
    rw [positionFrom]
    split
    · have hnext := ih (offset - c.utf8Size) (p.after c)
      have hafter : (p.after c).line ≤ p.line + 1 ∧ (p.after c).column ≤ p.column + 1 := by
        unfold Position.after
        split
        · exact ⟨Nat.le_refl _, Nat.le_add_left _ _⟩
        · exact ⟨Nat.le_succ _, Nat.le_refl _⟩
      simp only [List.length_cons]
      omega
    · simp only [List.length_cons]
      omega

theorem signed_of_lt {n : Nat} (h : n < 2 ^ 63) : Message.signed n = n := by
  unfold Message.signed
  rw [Int.bmod_def]
  split <;> omega

theorem Message.ofDefect_unplaced (kind : Kind) : Message.ofDefect (.unplaced kind) =
    ⟨-1, -1, kind.message, kind.origin, kind.code, none⟩ := by
  unfold Message.ofDefect Defect.unplaced
  dsimp only
  cases kind.origin <;> rfl

theorem Message.ofDefect_inText (text : List Char) {kind : Kind} (span : Span)
    (h : kind.origin ≠ .unknown) : Message.ofDefect (.inText text kind span) =
      ⟨signed (Text.position text span.start).line, signed (Text.position text span.start).column,
        kind.message, kind.origin, kind.code, some span⟩ := by
  unfold Message.ofDefect Defect.inText
  dsimp only
  cases horigin : kind.origin with
  | unknown => exact absurd horigin h
  | grammar => rfl
  | text => rfl

/-- The message for a defect of a document is about the document. -/
theorem Defect.PlacedIn.message {d : Defect} {text : List Char} {origin : Origin}
    (h : d.PlacedIn text origin) (horigin : origin ≠ .unknown) :
    (Message.ofDefect d).PlacedIn text origin := by
  have hkind := h.origin_eq
  rcases h.place with hplace | ⟨span, hspan, hplace⟩
  · rw [hplace, Message.ofDefect_unplaced]
    exact ⟨hkind, fun _ => ⟨rfl, rfl⟩, by simp, by simp, by simp, by simp⟩
  · rw [hplace, Message.ofDefect_inText text span (by rwa [hkind])]
    have hle := positionFrom_le text span.start .first
    have hbytes := length_le_byteLength text
    have hfirst : Position.first.line = 1 ∧ Position.first.column = 1 := ⟨rfl, rfl⟩
    refine ⟨hkind, by simp, ?_, ?_, ?_, ?_⟩
    · intro span' hspan'
      obtain rfl := Option.some.inj hspan'
      exact ⟨hspan.start_le_stop, hspan.stop_boundary.le_length⟩
    · intro span' hspan'
      obtain rfl := Option.some.inj hspan'
      exact ⟨hspan.start_boundary.dropBytes_isSome, hspan.stop_boundary.dropBytes_isSome⟩
    · intro span' hspan'
      obtain rfl := Option.some.inj hspan'
      dsimp only
      exact ⟨rfl, rfl⟩
    · intro span' hspan' hlength
      obtain rfl := Option.some.inj hspan'
      dsimp only
      refine ⟨signed_of_lt ?_, signed_of_lt ?_⟩
      · rw [Text.position]
        omega
      · rw [Text.position]
        omega

end GrammarWorkbench.Diagnostic

namespace GrammarWorkbench.Run

open GrammarWorkbench.Text GrammarWorkbench.Diagnostic GrammarWorkbench.Model
open GrammarWorkbench.Compile

theorem defectBehind_placedIn {before text after : List Char} {kind : String → Kind}
    (hkind : ∀ s, (kind s).origin = .text) :
    (defectBehind before text kind).PlacedIn (before ++ text ++ after) .text := by
  rw [← inText_eq_defectBehind (List.append_assoc before text after)]
  exact Defect.inText_placedIn (hkind _) ⟨before, text, after, rfl, rfl⟩

theorem defectsAt_placedIn {before after : List Segment} {seg : Segment} :
    ∀ d ∈ defectsAt before seg, d.PlacedIn (textOf (before ++ seg :: after)) .text := by
  intro d hd
  have hparts : textOf (before ++ seg :: after) = textOf before ++ seg.text ++ textOf after := by
    simp [textOf]
  have hsettled : textOf (before ++ seg :: after) =
      textOf (settled before) ++ textOf (begun before ++ [seg]) ++ textOf after := by
    conv_lhs => rw [← settled_append_begun before]
    simp [textOf]
  rcases List.mem_append.mp hd with hd | hd
  · rw [List.eq_of_mem_replicate hd, hparts]
    exact defectBehind_placedIn fun _ => rfl
  · split at hd
    · cases hd
    · rw [List.mem_singleton.mp hd, hsettled]
      exact defectBehind_placedIn fun _ => rfl

/-- The defects of the lexer lie in the input, and so do its tokens. -/
theorem lexFrom_placed {grammar : List Char} {start : Option String} {g : Grammar}
    (h : compile grammar start = .ok g) (input : List Char) :
    (∀ d ∈ (lexFrom g input 0 .initial 0 input).defects, d.PlacedIn input .text) ∧
      ∀ t ∈ (lexFrom g input 0 .initial 0 input).tokens, t.span.PartOf input := by
  obtain ⟨segs, hsegs⟩ := exists_divides h .initial input
  have hrun : lexFrom g input 0 (stateBehind []) (byteLength (textOf [])) input =
      lexedAt g.vocabulary (places [] segs) := lexFrom_divides hsegs rfl
  change (∀ d ∈ (lexFrom g input 0 (stateBehind []) (byteLength (textOf [])) input).defects, _) ∧
    ∀ t ∈ (lexFrom g input 0 (stateBehind []) (byteLength (textOf [])) input).tokens, _
  rw [hrun]
  constructor
  · intro d hd
    obtain ⟨p, hp, hd⟩ := List.mem_flatMap.mp hd
    obtain ⟨after, hafter⟩ := eq_append_of_mem_places hp
    rw [← hsegs.textOf_eq, ← List.nil_append segs, hafter]
    exact defectsAt_placedIn d hd
  · intro t ht
    obtain ⟨p, hp, htoken⟩ := List.mem_filterMap.mp ht
    obtain ⟨after, hafter⟩ := eq_append_of_mem_places hp
    rw [List.nil_append] at hafter
    have hne : p.2.text ≠ [] := hsegs.ne_nil p.2 (by simp [hafter])
    have hstands : t.StandsIn (textOf (p.1 ++ p.2 :: after)) := tokenAt_standsIn htoken hne
    obtain ⟨before, behind, htext, hspan, -⟩ := hstands.placed
    rw [← hsegs.textOf_eq, hafter]
    exact ⟨before, t.text, behind, htext, by rw [hspan, byteLength_append]⟩

section Parse

variable {p : ParserConfig}

def TokensPlaced (p : ParserConfig) (ts : List Token) : Prop :=
  ∀ t ∈ ts, t.span.PartOf p.input

theorem TokensPlaced.tail {ts : List Token} (h : TokensPlaced p ts) : TokensPlaced p ts.tail :=
  fun t ht => h t (List.mem_of_mem_tail ht)

theorem defectAt_placedIn (hend : p.endToken.span.PartOf p.input) {ts : List Token}
    (hts : TokensPlaced p ts) {kind : Kind} (hkind : kind.origin = .text) :
    (defectAt p kind ts).PlacedIn p.input .text := by
  apply Defect.inText_placedIn hkind
  cases ts with
  | nil => exact hend
  | cons t ts => exact hts t (by simp)

/-- What a step reports and what it leaves lies in the input. What the words are does not
matter. -/
def placedRun (p : ParserConfig) (hend : p.endToken.span.PartOf p.input) : RunInvariant p where
  holds _ ts r := TokensPlaced p ts →
    TokensPlaced p r.rest ∧ ∀ d ∈ r.defects, d.PlacedIn p.input .text
  mono _ h := h
  done ts hts := ⟨hts, by simp⟩
  andThen := by
    intro l m ts r s hr hs hts
    obtain ⟨hrest, hfirst⟩ := hr hts
    obtain ⟨hrest', hsecond⟩ := hs hrest
    refine ⟨hrest', ?_⟩
    intro d hd
    exact (List.mem_append.mp hd).elim (hfirst d) (hsecond d)
  terminal := by
    intro m ts r hr hts
    have hdefect {kind : Kind} (hkind : kind.origin = .text) :
        ∀ d ∈ [defectAt p kind ts], d.PlacedIn p.input .text := by
      intro d hd
      rw [List.mem_singleton.mp hd]
      exact defectAt_placedIn hend hts hkind
    simp only [parseTerminal] at hr
    split_ifs at hr
    · cases hr
      exact ⟨hts.tail, by simp⟩
    · cases hr
      exact ⟨hts, hdefect rfl⟩
    · cases hr
      exact ⟨hts.tail.tail, hdefect rfl⟩
    · cases hr
      exact ⟨hts.tail, hdefect rfl⟩
  nothing := by
    intro l ts r hr hts
    have hdefect : ∀ d ∈ [defectAt p (.noViableAlternative (currentToken p ts).display) ts],
        d.PlacedIn p.input .text := by
      intro d hd
      rw [List.mem_singleton.mp hd]
      exact defectAt_placedIn hend hts rfl
    simp only [parseNothing] at hr
    split_ifs at hr
    · cases hr
      exact ⟨hts, hdefect⟩
    · cases hr
      exact ⟨hts.tail, hdefect⟩

theorem callRule_placed (hend : p.endToken.span.PartOf p.input) (room : Nat) :
    (placedRun p hend).Calls (callRule p room) fun _ _ => 0 := by
  apply RunInvariant.callRule_holds
  · intro i rule q ts c _ hc
    exact hc
  · intro i rule q start left ds ts c _ hleft hc hts
    obtain ⟨hrest, hfirst⟩ := hleft hts
    obtain ⟨hrest', hsecond⟩ := hc hrest
    refine ⟨hrest', ?_⟩
    intro d hd
    exact (List.mem_append.mp hd).elim (hfirst d) (hsecond d)

theorem extendOperand_root {index precedence : Nat} {operators : Operators Lookahead}
    {run : Nat → Parse (List Tree)} (n : Nat) (kids : List Tree) {ts : List Token}
    {r : Parsed Tree}
    (h : extendOperand index operators precedence run n (.rule index kids) ts = .ok r) :
    ∃ kids', r.value = .rule index kids' := by
  induction n generalizing kids ts r with
  | zero =>
    obtain rfl := Parse.pure_ok.mp h
    exact ⟨kids, rfl⟩
  | succ n ih =>
    simp only [extendOperand] at h
    split at h
    · obtain rfl := Parse.pure_ok.mp h
      exact ⟨kids, rfl⟩
    · obtain ⟨a, b, -, hb, rfl⟩ := Parse.bind_ok.mp h
      split at hb
      · exact ih (r := b) _ hb
      · obtain rfl := Parse.pure_ok.mp hb
        exact ⟨_, rfl⟩

theorem callRule_root {room i q : Nat} {ts : List Token} {r : Parsed Tree}
    (h : callRule p room i q ts = .ok r) : ∃ kids, r.value = .rule i kids := by
  cases room with
  | zero => cases h
  | succ room =>
    obtain ⟨rule, c, -, -, ⟨-, rfl⟩ | ⟨o, b, -, hextend, rfl⟩⟩ := callRule_ok h
    · exact ⟨c.value, rfl⟩
    · exact extendOperand_root (r := b) _ _ hextend

theorem parse_placed {g : Grammar} {input : List Char} {tokens : List Token} {limit start : Nat}
    {tree : Tree} {ds : List Defect} (htokens : ∀ t ∈ tokens, t.span.PartOf input)
    (h : parse g input tokens limit false start = .ok (tree, ds)) :
    (∃ kids, tree = .rule start kids) ∧ ∀ d ∈ ds, d.PlacedIn input .text := by
  unfold parse at h
  dsimp only at h
  split at h
  · cases h
  · rename_i r hr
    cases h
    have hend : (Token.atEnd input).span.PartOf input := ⟨input, [], [], by simp, rfl⟩
    have hvisible : TokensPlaced ⟨g, input, .atEnd input, limit, false⟩ (visibleTokens tokens) :=
      fun t ht => htokens t (List.mem_filter.mp ht).1
    exact ⟨callRule_root hr,
      (callRule_placed (p := ⟨g, input, .atEnd input, limit, false⟩) hend limit start 0 _ r hr
        hvisible).2⟩

end Parse

/-- What a run finds out: the tokens if the grammar has no parser rules, and else a tree of its
start rule. -/
def Analysis.Fits (g : Grammar) : Analysis → Prop
  | .tokens _ => g.parserRules = []
  | .tree t => g.parserRules ≠ [] ∧ ∃ start kids, g.startRule = some start ∧ t = .rule start kids

theorem runGrammar_ok {grammar : List Char} {start : Option String} {g : Grammar}
    (h : compile grammar start = .ok g) {input : List Char} {maxDepth : Nat} {analysis : Analysis}
    {ds : List Defect} (hrun : runGrammar g input maxDepth false = .ok (analysis, ds)) :
    analysis.Fits g ∧ ∀ d ∈ ds, d.PlacedIn input .text := by
  obtain ⟨hdefects, htokens⟩ := lexFrom_placed h input
  simp only [runGrammar, tokenize, Bool.false_and, Bool.false_eq_true, if_false] at hrun
  split at hrun
  · rename_i hlexer
    cases hrun
    exact ⟨List.isEmpty_iff.mp hlexer, hdefects⟩
  · rename_i hparser
    split at hrun
    · cases hrun
    · rename_i first hfirst
      split at hrun
      · cases hrun
      · rename_i tree ds' hparse
        cases hrun
        obtain ⟨⟨kids, rfl⟩, hparsed⟩ := parse_placed htokens hparse
        refine ⟨⟨fun hnil => hparser (List.isEmpty_iff.mpr hnil), first, kids, hfirst, rfl⟩, ?_⟩
        intro d hd
        have hmem := (List.mergeSort_perm _ _).mem_iff.mp hd
        exact (List.mem_append.mp hmem).elim (hdefects d) (hparsed d)

section Results

variable (grammarText input : List Char) (start : Option String) (r : Interpretation)

/-- The grammar document is defective: there is neither a grammar nor an analysis, and all
messages are about the document. -/
structure Refused : Prop where
  grammar : r.grammar = none
  analysis : r.analysis = none
  some_message : r.messages ≠ []
  messages : ∀ m ∈ r.messages, m.PlacedIn grammarText .grammar

/-- The input is analysed by the grammar, and all messages are about the input. -/
structure Analysed : Prop where
  grammar : ∃ g analysis, compile grammarText start = .ok g ∧ r.grammar = some g ∧
    r.analysis = some analysis ∧ analysis.Fits g
  messages : ∀ m ∈ r.messages, m.PlacedIn input .text

/-- The analysis is stopped, which one message says that belongs to neither document. -/
structure Stopped : Prop where
  grammar : ∃ g, compile grammarText start = .ok g ∧ r.grammar = some g
  analysis : r.analysis = none
  messages : ∃ m, r.messages = [m] ∧ m.origin = .unknown ∧ m.line = -1 ∧ m.column = -1 ∧
    m.span = none

end Results

section Exclusive

variable {grammarText input : List Char} {start : Option String} {r : Interpretation}

theorem Refused.not_analysed (h : Refused grammarText r) :
    ¬ Analysed grammarText input start r := by
  rintro ⟨⟨g, analysis, -, hsome, -⟩, -⟩
  rw [h.grammar] at hsome
  cases hsome

theorem Refused.not_stopped (h : Refused grammarText r) : ¬ Stopped grammarText start r := by
  rintro ⟨⟨g, -, hsome⟩, -, -⟩
  rw [h.grammar] at hsome
  cases hsome

theorem Analysed.not_stopped (h : Analysed grammarText input start r) :
    ¬ Stopped grammarText start r := by
  intro hstopped
  obtain ⟨g, analysis, -, -, hsome, -⟩ := h.grammar
  rw [hstopped.analysis] at hsome
  cases hsome

end Exclusive

theorem interpret_cases (settings : Settings) (grammarText input : List Char) :
    Refused grammarText (interpret settings grammarText input false) ∨
      Analysed grammarText input settings.start (interpret settings grammarText input false) ∨
      Stopped grammarText settings.start (interpret settings grammarText input false) := by
  unfold interpret
  cases hcompile : compile grammarText settings.start with
  | error ds =>
    obtain ⟨hne, hplaced⟩ := compile_error hcompile
    refine .inl ⟨rfl, rfl, by simpa using hne, ?_⟩
    intro m hm
    obtain ⟨d, hd, rfl⟩ := List.mem_map.mp hm
    exact (hplaced d hd).message (by decide)
  | ok g =>
    dsimp only
    unfold interpretBy
    cases hrun : runGrammar g input settings.maxDepth false with
    | error d =>
      have hlimit : d = .unplaced (.recursionLimit settings.maxDepth) := by
        rcases runGrammar_ends (compile_closed hcompile) hrun with hlimit | ⟨hcancelled, -⟩
        · exact hlimit
        · cases hcancelled
      refine .inr (.inr ⟨⟨g, hcompile, rfl⟩, rfl, .ofDefect d, rfl, ?_⟩)
      rw [hlimit, Message.ofDefect_unplaced]
      exact ⟨rfl, rfl, rfl, rfl⟩
    | ok result =>
      obtain ⟨analysis, ds⟩ := result
      obtain ⟨hfits, hplaced⟩ := runGrammar_ok hcompile hrun
      refine .inr (.inl ⟨⟨g, analysis, hcompile, rfl, rfl, hfits⟩, ?_⟩)
      intro m hm
      obtain ⟨d, hd, rfl⟩ := List.mem_map.mp hm
      exact (hplaced d hd).message (by decide)

/-- Every interpretation is refused, analysed or stopped, and only one of these. -/
theorem interpret_refused_or_analysed_or_stopped (settings : Settings)
    (grammarText input : List Char) :
    let r := interpret settings grammarText input false
    (Refused grammarText r ∧ ¬ Analysed grammarText input settings.start r ∧
      ¬ Stopped grammarText settings.start r) ∨
    (¬ Refused grammarText r ∧ Analysed grammarText input settings.start r ∧
      ¬ Stopped grammarText settings.start r) ∨
    (¬ Refused grammarText r ∧ ¬ Analysed grammarText input settings.start r ∧
      Stopped grammarText settings.start r) := by
  dsimp only
  rcases interpret_cases settings grammarText input with hrefused | hanalysed | hstopped
  · exact .inl ⟨hrefused, hrefused.not_analysed, hrefused.not_stopped⟩
  · exact .inr (.inl ⟨fun h => h.not_analysed hanalysed, hanalysed, hanalysed.not_stopped⟩)
  · refine .inr (.inr ⟨?_, ?_, hstopped⟩)
    · intro hrefused
      exact hrefused.not_stopped hstopped
    · intro hanalysed
      exact hanalysed.not_stopped hstopped

end GrammarWorkbench.Run
