import GrammarWorkbench.Proofs.Notation.Items
import GrammarWorkbench.Proofs.Notation.Solid
import GrammarWorkbench.Proofs.Reading.Parts

/-!
# Documents read back

A document that is written in the words of a draft is read as what the draft declares, whatever
layout stands between the words. The parts of the document are read one behind the other, and each
leaves nodes from which its own declarations are taken and no others.
-/

set_option autoImplicit false

namespace GrammarWorkbench.Declaration

open GrammarWorkbench.Text GrammarWorkbench.Recognizer GrammarWorkbench.Diagnostic
open GrammarWorkbench.Declaration.Phrase

def openingBlock (block : List Ident → Opening) : List Ident → List Opening
  | [] => []
  | names => [block names]

def Draft.openings (d : Draft) : List Opening :=
  d.imports.map .imported ++ (openingBlock .tokens d.tokens ++ openingBlock .channels d.channels)

def Draft.headerWords (d : Draft) : List Word := (d.header.map Header.words).getD []

theorem Draft.words_eq (d : Draft) : d.words =
    d.headerWords ++ (d.openings.flatMap Opening.words ++ d.items.flatMap Item.words) := by
  have hblock : ∀ (block : List Ident → Opening) (keyword : String) (names : List Ident),
      (block names).words = blockWords keyword names →
      (openingBlock block names).flatMap Opening.words = blockWords keyword names := by
    intro block keyword names hwords
    cases names with
    | nil => rfl
    | cons name names => simpa [openingBlock] using hwords
  have himports : (d.imports.map Opening.imported).flatMap Opening.words =
      d.imports.flatMap fun name => ["import".toList, name.word, ";".toList] := by
    rw [List.flatMap_map]
    rfl
  simp only [Draft.words, Draft.headerWords, Draft.openings, List.flatMap_append, himports,
    hblock .tokens "tokens" d.tokens rfl, hblock .channels "channels" d.channels rfl,
    List.append_assoc]

theorem mem_openingBlock {block : List Ident → Opening} {names : List Ident} {o : Opening}
    (h : o ∈ openingBlock block names) : names ≠ [] ∧ o = block names := by
  cases names with
  | nil => cases h
  | cons name names => exact ⟨List.cons_ne_nil _ _, List.mem_singleton.mp h⟩

theorem Draft.Proper.openings {d : Draft} (h : d.Proper) {o : Opening} (ho : o ∈ d.openings) :
    o.names ≠ [] ∧ ∀ name ∈ o.names, IsName name.word := by
  have hnames := h.2.1
  simp only [List.forall_mem_append] at hnames
  simp only [Draft.openings, List.mem_append, List.mem_map] at ho
  rcases ho with ⟨name, hname, rfl⟩ | ho | ho
  · exact ⟨List.cons_ne_nil _ _, by simpa [Opening.names] using hnames.1.1 name hname⟩
  · obtain ⟨hne, rfl⟩ := mem_openingBlock ho
    exact ⟨hne, hnames.1.2⟩
  · obtain ⟨hne, rfl⟩ := mem_openingBlock ho
    exact ⟨hne, hnames.2⟩

theorem Opening.leads {o : Opening} (hne : o.names ≠ []) (vs : List Word) :
    Leads ["lexer", "parser", "grammar"] (o.words ++ vs) := by
  obtain ⟨s, us, hwords, hs⟩ := o.words_eq hne
  have hname : ∀ s ∈ ["tokens", "channels", "import"],
      IsName s.toList ∧ ∀ t ∈ ["lexer", "parser", "grammar"], s.toList ≠ t.toList := by decide
  exact ⟨s.toList, us ++ vs, by simp [hwords], (hname s hs).1, .inl (hname s hs).2⟩

theorem Leads.mono {reserved fewer : List String} {ws : List Word} (h : Leads reserved ws)
    (hsub : fewer ⊆ reserved) : Leads fewer ws := by
  obtain ⟨w, us, rfl, hw, hnext⟩ := h
  exact ⟨w, us, rfl, hw, hnext.imp_left fun hne s hs => hne s (hsub hs)⟩

def HeadersRead : Option Header → List PhraseNode → Prop
  | none => (· = [])
  | some h => HeaderRead h

abbrev OpeningsRead : List Opening → List PhraseNode → Prop :=
  Each fun o => NamesRead o.phrase o.names

section Parts

variable {d : Draft} {n : Nat}

theorem Item.words_ne_nil (item : Item) : item.words ≠ [] := by
  cases item with
  | mode name => exact List.cons_ne_nil _ _
  | rule r => exact List.append_ne_nil_of_right_ne_nil _ (List.cons_ne_nil _ _)

theorem reads_headers (hproper : d.Proper) (hn : 4 ≤ n) :
    Reads n (.optional (.rule .header)) d.headerWords
      (d.openings.flatMap Opening.words ++ d.items.flatMap Item.words ++ [])
      (HeadersRead d.header) := by
  have hitems : Refuses n (.rule .header) (d.items.flatMap Item.words ++ []) :=
    follows_flatMap (fun item hitem us => refuses_header hn
      ((Item.leads (hproper.2.2 item hitem)).mono (by decide))) (.of_starts 4 rfl rfl)
  have hopenings : Refuses n (.rule .header)
      (d.openings.flatMap Opening.words ++ (d.items.flatMap Item.words ++ [])) :=
    follows_flatMap (fun o ho us => refuses_header hn (Opening.leads (hproper.openings ho).1 us))
      hitems
  rw [Draft.headerWords, List.append_assoc]
  cases hheader : d.header with
  | none => exact .optional_missing hopenings
  | some h => exact .optional (reads_header (hproper.1 h hheader) hn)

theorem reads_openings (hproper : d.Proper) (hn : 4 ≤ n) :
    Reads n (.many (.rule .prequel)) (d.openings.flatMap Opening.words)
      (d.items.flatMap Item.words ++ []) (OpeningsRead d.openings) := by
  have hstop : Refuses n (.rule .prequel) (d.items.flatMap Item.words ++ []) :=
    follows_flatMap (fun item hitem us => refuses_prequel hn
      ((Item.leads (hproper.2.2 item hitem)).mono (by decide))) (.of_starts 4 rfl rfl)
  have hne : ∀ o ∈ d.openings, o.words ≠ [] := by
    intro o ho
    obtain ⟨s, us, hwords, -⟩ := o.words_eq (hproper.openings ho).1
    simp [hwords]
  refine .many_each (F := fun _ => True) (fun o ho us _ => ?_) hne (fun _ _ _ => trivial) trivial
    hstop
  obtain ⟨hnames, hproperNames⟩ := hproper.openings ho
  exact reads_opening hnames hproperNames hn

theorem reads_items (hproper : d.Proper) (hcomplete : d.Complete)
    (hn : ∀ item ∈ d.items, 5 * item.words.length + 12 ≤ n) :
    Reads n (.many (.choice (.rule .modeSpec) (.rule .ruleSpec))) (d.items.flatMap Item.words) []
      (Each ItemRead d.items) :=
  .many_each (F := fun _ => True)
    (fun item hitem _ _ => reads_item (hproper.2.2 item hitem) (hcomplete item hitem)
      (hn item hitem))
    (fun item _ => item.words_ne_nil) (fun _ _ _ => trivial) trivial (.of_starts 5 rfl rfl)

theorem reads_end (hn : 1 ≤ n) :
    Reads n (.rule .documentEnd) [] [] (OfPhrase .documentEnd (· = [])) :=
  .plain rfl hn .finish

def PartsRead (d : Draft) : List PhraseNode → Prop :=
  Beside (HeadersRead d.header) (Beside (OpeningsRead d.openings)
    (Beside (Each ItemRead d.items) (OfPhrase .documentEnd (· = []))))

/-- The parts of a document are read back, when rules may call one another deep enough for the
longest item. -/
theorem reads_parts (hproper : d.Proper) (hcomplete : d.Complete)
    (hn : 5 * d.words.length + 12 ≤ n) :
    Reads n (.seq (.optional (.rule .header)) (.seq (.many (.rule .prequel))
      (.seq (.many (.choice (.rule .modeSpec) (.rule .ruleSpec))) (.rule .documentEnd))))
      d.words [] (PartsRead d) := by
  have hitem : ∀ item ∈ d.items, 5 * item.words.length + 12 ≤ n := by
    intro item hitem
    have hlength := List.Sublist.length_le (List.sublist_flatten_of_mem
      (List.mem_map_of_mem (f := Item.words) hitem))
    rw [← List.flatMap_def] at hlength
    rw [Draft.words_eq, List.length_append, List.length_append] at hn
    omega
  have hitems := Reads.seq (reads_items hproper hcomplete hitem) (reads_end (by omega))
  rw [List.append_nil] at hitems
  have hopenings := Reads.seq (reads_openings (n := n) hproper (by omega)) hitems
  rw [Draft.words_eq]
  exact .seq (reads_headers hproper (by omega)) hopenings

theorem recognize_written (hproper : d.Proper) (hcomplete : d.Complete) {text : List Char}
    (h : Written d.words text) : ∃ node, PartsRead d (Node.children node) ∧
      recognize rules inOrder.length .document text = .ok node := by
  obtain ⟨lead, spread, hlead, hspread, htext⟩ := h
  have hnear : ∀ offset, Near d.words ⟨text, offset⟩ :=
    fun offset => ⟨lead, spread, htext, hlead, hspread, Draft.solid hproper⟩
  have hlength : d.words.length ≤ text.length := (hnear 0).length_le
  -- The bound allows for a call of every rule at each character of the text.
  have hdepth : ∃ n, inOrder.length * (text.length + 1) = n + 1 ∧ 5 * d.words.length + 12 ≤ n := by
    rw [show inOrder.length = 54 from rfl]
    exact ⟨54 * text.length + 53, by omega, by omega⟩
  obtain ⟨n, hn, hdeep⟩ := hdepth
  obtain ⟨kids, q, hyields, -, hkids⟩ := reads_parts hproper hcomplete hdeep _
    ((List.append_nil d.words).symm ▸ (hnear 0).skipLayout)
  have hnode : Yields (runRule rules (n + 1) false .document) ⟨text, 0⟩
      [.mk .document ⟨0, q.offset⟩ (takeBytes text q.offset) kids] q :=
    yields_node (by decide) (yields_seq (yields_text rfl) hyields)
  rw [← hn] at hnode
  exact ⟨.mk .document _ _ kids, hkids, recognize_eq_ok hnode⟩

end Parts

section Declarations

variable {nodes : List PhraseNode}

theorem HeadersRead.rule {h : Option Header} (hread : HeadersRead h nodes) :
    ∀ n ∈ nodes, n.rule ∈ [Phrase.header] := by
  cases h with
  | none =>
    obtain rfl : nodes = [] := hread
    simp
  | some h =>
    obtain ⟨n, rfl, hrule, -⟩ := hread
    simp [hrule]

theorem HeadersRead.read {h : Option Header} (hread : HeadersRead h nodes) :
    (nodes.head?.bind readHeader).map Header.bare = h.map Header.bare := by
  cases h with
  | none =>
    obtain rfl : nodes = [] := hread
    rfl
  | some h =>
    obtain ⟨n, rfl, -, h', hheader, hbare⟩ := hread
    simp [hheader, hbare]

def openingPhrases : List Phrase := [.importSpec, .tokensSpec, .channelsSpec]

theorem OpeningsRead.rule {os : List Opening} (h : OpeningsRead os nodes) :
    ∀ n ∈ nodes, n.rule ∈ openingPhrases := by
  refine h.forall_mem ?_
  rintro o _ ⟨n, rfl, hrule, -⟩
  cases o <;> simp [hrule, Opening.phrase, openingPhrases]

theorem ItemsRead.rule {items : List Item} (h : Each ItemRead items nodes) :
    ∀ n ∈ nodes, n.rule ∈ [Phrase.modeSpec, .ruleSpec] := by
  refine h.forall_mem ?_
  rintro (name | r) _ ⟨n, rfl, hrule, -⟩
  · simp [hrule]
  · simp [hrule]

theorem filter_rule_none {rs : List Phrase} (h : ∀ n ∈ nodes, n.rule ∈ rs) {r : Phrase}
    (hr : r ∉ rs) : nodes.filter (·.rule == r) = [] := by
  simp only [List.filter_eq_nil_iff, beq_iff_eq]
  rintro n hn rfl
  exact hr (h n hn)

theorem OpeningsRead.names {os : List Opening} (h : OpeningsRead os nodes) (r : Phrase)
    {f : List Ident → List Ident}
    (hf : ∀ names, (f names).map Ident.bare = f (names.map Ident.bare)) :
    ((nodes.filter (·.rule == r)).flatMap fun n => f (identsOf n)).map Ident.bare =
      ((os.filter (·.phrase == r)).flatMap fun o => f o.names).map Ident.bare := by
  induction os generalizing nodes with
  | nil =>
    obtain rfl : nodes = [] := h
    rfl
  | cons o os ih =>
    obtain ⟨_, behind, rfl, ⟨n, rfl, hrule, hnames⟩, hmore⟩ := h
    simp only [List.singleton_append, List.filter_cons, hrule]
    split
    · simp only [List.flatMap_cons, List.map_append, hf, hnames, ih hmore]
    · exact ih hmore

theorem ItemsRead.modes {items : List Item} (h : Each ItemRead items nodes) :
    ((nodes.filter (·.rule == .modeSpec)).flatMap fun n => (identsOf n).take 1).map Ident.bare =
      (items.filterMap Item.mode?).map Ident.bare := by
  induction items generalizing nodes with
  | nil =>
    obtain rfl : nodes = [] := h
    rfl
  | cons item items ih =>
    cases item with
    | mode name =>
      obtain ⟨_, behind, rfl, ⟨n, rfl, hrule, hnames⟩, hmore⟩ := h
      simp [hrule, Item.mode?, List.map_take, hnames, ih hmore]
    | rule r =>
      obtain ⟨_, behind, rfl, ⟨n, rfl, hrule, -⟩, hmore⟩ := h
      rw [List.filterMap_cons_none rfl]
      simp [hrule, ih hmore]

theorem ruleless {rs : List Phrase} (h : ∀ n ∈ nodes, n.rule ∈ rs)
    (hrs : Phrase.modeSpec ∉ rs ∧ Phrase.ruleSpec ∉ rs) :
    ∀ n ∈ nodes, n.rule ≠ .modeSpec ∧ n.rule ≠ .ruleSpec := by
  intro n hn
  have hrule := h n hn
  exact ⟨fun heq => hrs.1 (heq ▸ hrule), fun heq => hrs.2 (heq ▸ hrule)⟩

/-- What is neither a mode nor a rule adds no rule and changes no mode. -/
theorem readRules_skip (source : List Char) (mode : Nat) {others : List PhraseNode}
    (h : ∀ n ∈ others, n.rule ≠ .modeSpec ∧ n.rule ≠ .ruleSpec) (behind : List PhraseNode) :
    readRules source mode (others ++ behind) = readRules source mode behind := by
  induction others with
  | nil => rfl
  | cons n others ih =>
    obtain ⟨⟨hmode, hrule⟩, hmore⟩ := List.forall_mem_cons.mp h
    simp [readRules, hmode, hrule, ih hmore]

/-- The rules of some items are read, each in the mode of the declarations before it. -/
theorem ItemsRead.rules {items : List Item} (h : Each ItemRead items nodes) (source : List Char)
    (mode : Nat) {others : List PhraseNode}
    (hothers : ∀ n ∈ others, n.rule ≠ .modeSpec ∧ n.rule ≠ .ruleSpec) :
    ReadAs RuleDecl.bare (readRules source mode (nodes ++ others)) (numbered mode items) := by
  induction items generalizing nodes mode with
  | nil =>
    obtain rfl : nodes = [] := h
    have hnone := readRules_skip source mode hothers []
    rw [List.append_nil] at hnone
    rw [List.nil_append, hnone]
    exact ⟨rfl, rfl⟩
  | cons item items ih =>
    cases item with
    | mode name =>
      obtain ⟨_, behind, rfl, ⟨n, rfl, hrule, -⟩, hmore⟩ := h
      simpa [readRules, hrule, numbered] using ih hmore (mode + 1)
    | rule r =>
      obtain ⟨_, behind, rfl, ⟨n, rfl, hrule, hread⟩, hmore⟩ := h
      obtain ⟨hdefects, r', hvalue, hbare⟩ := hread source mode
      obtain ⟨hdefects', hvalue'⟩ := ih hmore mode
      refine ⟨?_, ?_⟩
      · simp [readRules, hrule, hdefects, hdefects']
      · simp [readRules, hrule, hvalue, hvalue', hbare, numbered]

end Declarations

section Reading

variable {d : Draft}

theorem filter_imported (names : List Ident) (r : Phrase) :
    (names.map Opening.imported).filter (·.phrase == r) =
      if Phrase.importSpec = r then names.map Opening.imported else [] := by
  split <;> simp_all [Opening.phrase]

theorem filter_openingBlock (block : List Ident → Opening) (names : List Ident) (r : Phrase) :
    (openingBlock block names).filter (·.phrase == r) =
      if (block names).phrase = r then openingBlock block names else [] := by
  cases names with
  | nil => simp [openingBlock]
  | cons name names => simp [openingBlock, List.filter_cons]

theorem names_openingBlock {block : List Ident → Opening} (h : ∀ names, (block names).names = names)
    (names : List Ident) : (openingBlock block names).flatMap Opening.names = names := by
  cases names with
  | nil => rfl
  | cons name names => simp [openingBlock, h]

theorem Draft.names_imports (d : Draft) : ((d.openings.filter (·.phrase == .importSpec)).flatMap
    fun o => o.names.take 1) = d.imports := by
  simp only [Draft.openings, List.filter_append, filter_imported, filter_openingBlock]
  simp [Opening.phrase, List.flatMap_map, Opening.names]

theorem Draft.names_tokens (d : Draft) :
    (d.openings.filter (·.phrase == .tokensSpec)).flatMap Opening.names = d.tokens := by
  simp only [Draft.openings, List.filter_append, filter_imported, filter_openingBlock]
  simpa [Opening.phrase] using names_openingBlock (fun _ => rfl) d.tokens

theorem Draft.names_channels (d : Draft) :
    (d.openings.filter (·.phrase == .channelsSpec)).flatMap Opening.names = d.channels := by
  simp only [Draft.openings, List.filter_append, filter_imported, filter_openingBlock]
  simpa [Opening.phrase] using names_openingBlock (fun _ => rfl) d.channels

theorem PartsRead.below {node : PhraseNode} (h : PartsRead d node.children) :
    ∃ openings items, OpeningsRead d.openings openings ∧ Each ItemRead d.items items ∧
      HeadersRead d.header (below .header node) ∧
      (∀ r ∈ openingPhrases, below r node = openings.filter (·.rule == r)) ∧
      below .modeSpec node = items.filter (·.rule == .modeSpec) ∧
      ∀ source, ReadAs RuleDecl.bare (readRules source 0 node.children) d.declarations.rules := by
  obtain ⟨headers, _, hkids, hheaders, openings, _, rfl, hopenings, items, last, rfl, hitems,
    hlast⟩ := h
  have hend : ∀ n ∈ last, n.rule ∈ [Phrase.documentEnd] := by
    obtain ⟨span, text, kids, rfl, -⟩ := hlast
    simp
  have hbelow : ∀ r, Declaration.below r node = headers.filter (·.rule == r) ++
      (openings.filter (·.rule == r) ++ (items.filter (·.rule == r) ++
        last.filter (·.rule == r))) := by
    intro r
    rw [Declaration.below, hkids]
    simp only [List.filter_append]
  refine ⟨openings, items, hopenings, hitems, ?_, ?_, ?_, ?_⟩
  · have hself : headers.filter (·.rule == .header) = headers := by simpa using hheaders.rule
    rw [hbelow, hself, filter_rule_none hopenings.rule (by decide),
      filter_rule_none (ItemsRead.rule hitems) (by decide), filter_rule_none hend (by decide)]
    simpa using hheaders
  · intro r hr
    have hother : r ∉ [Phrase.header] ∧ r ∉ [Phrase.modeSpec, .ruleSpec] ∧
        r ∉ [Phrase.documentEnd] := by
      revert r
      decide
    rw [hbelow, filter_rule_none hheaders.rule hother.1,
      filter_rule_none (ItemsRead.rule hitems) hother.2.1, filter_rule_none hend hother.2.2]
    simp
  · rw [hbelow, filter_rule_none hheaders.rule (by decide),
      filter_rule_none hopenings.rule (by decide), filter_rule_none hend (by decide)]
    simp
  · intro source
    rw [hkids, readRules_skip source 0 (ruleless hheaders.rule (by decide)),
      readRules_skip source 0 (ruleless hopenings.rule (by decide))]
    exact ItemsRead.rules hitems source 0 (ruleless hend (by decide))

/-- What is taken from the nodes of a document is what the draft declares. -/
theorem readDocument_read {node : PhraseNode} (h : PartsRead d node.children) (source : List Char) :
    (readDocument source node).defects = [] ∧
      (readDocument source node).value.bare = d.declarations.bare := by
  obtain ⟨openings, items, hopenings, hitems, hheader, hbelow, hmode, hrules⟩ := h.below
  obtain ⟨hdefects, hvalue⟩ := hrules source
  refine ⟨by simp [readDocument, hdefects], ?_⟩
  have himports := hopenings.names .importSpec (f := List.take 1) fun _ => List.map_take
  have htokens := hopenings.names .tokensSpec (f := id) fun _ => rfl
  have hchannels := hopenings.names .channelsSpec (f := id) fun _ => rfl
  have hmodes := ItemsRead.modes hitems
  rw [d.names_imports, ← hbelow .importSpec (by decide)] at himports
  rw [← hbelow .tokensSpec (by decide)] at htokens
  rw [← hbelow .channelsSpec (by decide)] at hchannels
  rw [← hmode] at hmodes
  simp only [GrammarDecl.bare, readDocument, Checked.value_bind, Checked.value_pure,
    GrammarDecl.mk.injEq]
  exact ⟨hheader.read, htokens.trans (congrArg _ d.names_tokens),
    hchannels.trans (congrArg _ d.names_channels), himports, hmodes, hvalue⟩

/-- The declarations of a document are read back, up to spans and without a defect. -/
def ReadsBack (d : Draft) (text : List Char) : Prop :=
  ∃ c, read text = .ok c ∧ c.defects = [] ∧ c.value.bare = d.declarations.bare

/-- A document is read back from every text in which it is written, whatever layout stands between
its words, with each rule in the mode that is numbered by the declarations of modes before it. -/
theorem read_written (hproper : d.Proper) (hcomplete : d.Complete) {text : List Char}
    (h : Written d.words text) : ReadsBack d text := by
  obtain ⟨node, hparts, hrecognize⟩ := recognize_written hproper hcomplete h
  exact ⟨readDocument text node, read_eq_ok_iff.mpr ⟨node, hrecognize, rfl⟩,
    readDocument_read hparts text⟩

end Reading

section Sample

def unplaced (name : String) : Ident := ⟨name, .empty 0⟩

def bareElement (atom : Atom) (suffix : Option Suffix) : ElementDecl := ⟨atom, suffix, .empty 0⟩

def bareAlternative (elements : List ElementDecl) : AltDecl := ⟨elements, none, [], false, .empty 0⟩

def bareRule (name : String) (alternatives : List AltDecl) : RuleDecl :=
  ⟨unplaced name, none, 0, alternatives, .empty 0⟩

def sampleDraft : Draft where
  header := some ⟨.combined, unplaced "grammar"⟩
  imports := [unplaced "Base", unplaced "import"]
  tokens := [unplaced "T", unplaced "tokens"]
  channels := [unplaced "COMMENTS"]
  items := [
    .rule (bareRule "mode" [
      { bareAlternative [
          bareElement (.ref (unplaced "mode")) none, bareElement (.literal "^'".toList) none,
          bareElement (.ref (unplaced "mode")) none] with
        label := some (unplaced "Power"), rightAssoc := true },
      bareAlternative [
        bareElement (.group [
          bareAlternative [bareElement (.ref (unplaced "options")) (some ⟨.zeroOrMore, true⟩)],
          bareAlternative [],
          bareAlternative [bareElement (.group [bareAlternative [
            bareElement .wildcard (some ⟨.oneOrMore, false⟩)]]) (some ⟨.optional, false⟩)]])
          (some ⟨.oneOrMore, true⟩)]]),
    .mode (unplaced "mode"),
    .rule { bareRule "fragment" [
        bareAlternative [bareElement (.range '0' '9') (some ⟨.optional, true⟩)]] with
      fragment := some (.empty 0) },
    .mode (unplaced "INSIDE"),
    .rule (bareRule "ID" [
      { bareAlternative [
          bareElement (.set [.range 'a' 'z', .range ']' ']', .property "Lu" true]) none,
          bareElement (.not [.literal ['\n'] (.empty 0)]) (some ⟨.zeroOrMore, false⟩),
          bareElement (.not [.range 'a' 'f', .set [.range '-' '-'], .ref (unplaced "ID")]) none]
        with commands := [⟨unplaced "channel", some (unplaced "COMMENTS")⟩,
          ⟨unplaced "type", some (unplaced "7")⟩, ⟨unplaced "popMode", none⟩] }])]

def sampleGap : List Char := "\t/* * / */// */\n".toList

theorem layout_sampleGap : Layout sampleGap :=
  @Layout.blank '\t' "/* * / */// */\n".toList rfl (@Layout.block " * / ".toList "// */\n".toList
    (by decide) (@Layout.line " */".toList [] (by decide) .nil))

theorem read_written_sampleDraft :
    sampleDraft.Proper ∧ sampleDraft.Complete ∧
      Written sampleDraft.words (sampleGap ++ sampleDraft.words.flatMap (· ++ sampleGap)) ∧
      ReadsBack sampleDraft (sampleGap ++ sampleDraft.words.flatMap (· ++ sampleGap)) := by
  have hproper : sampleDraft.Proper := by decide
  have hcomplete : sampleDraft.Complete := by decide
  have hwritten : Written sampleDraft.words
      (sampleGap ++ sampleDraft.words.flatMap (· ++ sampleGap)) :=
    ⟨_, _, layout_sampleGap, spread_flatMap _ layout_sampleGap (by decide), rfl⟩
  exact ⟨hproper, hcomplete, hwritten, read_written hproper hcomplete hwritten⟩

end Sample

section Incomplete

def spaced (ws : List Word) : List Char := ws.flatMap (· ++ [' '])

theorem written_spaced (ws : List Word) : Written ws (spaced ws) :=
  ⟨[], spaced ws, .nil, spread_flatMap ws (.blank rfl .nil) (by decide), rfl⟩

/-- A document can be written but is not read back from the text. -/
def Lost (d : Draft) : Prop :=
  d.Proper ∧ Written d.words (spaced d.words) ∧ ¬ ReadsBack d (spaced d.words)

def GrammarDecl.branches (g : GrammarDecl) : List (List (List Nat)) :=
  g.rules.map fun r => r.alternatives.map fun a => a.elements.map fun e =>
    match e.atom with
    | .group as => as.length
    | _ => 0

theorem ReadsBack.branches {d : Draft} {text : List Char} (h : ReadsBack d text) :
    (read text).toOption.map (fun c => (c.defects.length, c.value.bare.branches)) =
      some (0, d.declarations.bare.branches) := by
  obtain ⟨c, hread, hdefects, hvalue⟩ := h
  simp [hread, Except.toOption, hdefects, hvalue]

def oneRule (as : List AltDecl) : Draft := ⟨none, [], [], [], [.rule (bareRule "A" as)]⟩

def oneAtom (atom : Atom) : Draft := oneRule [bareAlternative [bareElement atom none]]

theorem oneRule_lost {as : List AltDecl} (hproper : (oneRule as).Proper)
    (h : (read (spaced (oneRule as).words)).toOption.map
      (fun c => (c.defects.length, c.value.bare.branches)) ≠
        some (0, (oneRule as).declarations.bare.branches)) : Lost (oneRule as) :=
  ⟨hproper, written_spaced _, fun hback => h hback.branches⟩

/-- Nothing that must have a member can do without: a set without members, a property without a
name, a negated set without members, a group and a rule without alternatives. -/
theorem incomplete_lost :
    Lost (oneAtom (.not [.set [], .literal ['a'] (.empty 0)])) ∧
      Lost (oneAtom (.set [.property "" false])) ∧ Lost (oneAtom (.not [])) ∧
      Lost (oneAtom (.group [])) ∧ Lost (oneRule []) := by
  refine ⟨oneRule_lost (by decide) ?_, oneRule_lost (by decide) ?_, oneRule_lost (by decide) ?_,
    oneRule_lost (by decide) ?_, oneRule_lost (by decide) ?_⟩
  all_goals decide +kernel

end Incomplete

end GrammarWorkbench.Declaration
