import GrammarWorkbench.Proofs.Notation.Groups

/-!
# Headers, blocks of names, modes and rules read back

Each part of a document starts with a name, and most with one that could also be the name of a rule.
Such a name is taken for a rule's exactly where a colon follows it.
-/

set_option autoImplicit false

namespace GrammarWorkbench.Declaration

open GrammarWorkbench.Text GrammarWorkbench.Recognizer GrammarWorkbench.Diagnostic
open GrammarWorkbench.Declaration.Phrase

/-- The words of a part of a document: a name that is none of a few comes first, or one with a colon
behind it. -/
def Leads (reserved : List String) (ws : List Word) : Prop :=
  ∃ w us, ws = w :: us ∧ IsName w ∧ ((∀ s ∈ reserved, w ≠ s.toList) ∨ StartsWith [":"] us)

def NamesRead (r : Phrase) (names : List Ident) (nodes : List PhraseNode) : Prop :=
  ∃ n, nodes = [n] ∧ n.rule = r ∧ (identsOf n).map Ident.bare = names.map Ident.bare

section Names

variable {d : Nat} {vs : List Word}

abbrev NameNodes : List Ident → List PhraseNode → Prop :=
  Each fun name => OfToken .identifier name.word

theorem identsOf_names (r : Phrase) (span : Span) (text : List Char) {others : List PhraseNode}
    (hothers : ∀ n ∈ others, isName n = false) {names : List Ident} {nodes : List PhraseNode}
    (h : NameNodes names nodes) :
    (identsOf (.mk r span text (others ++ nodes))).map Ident.bare = names.map Ident.bare := by
  have hnone : others.filter isName = [] := by simpa using hothers
  simp only [identsOf, Node.children_mk, List.filter_append, hnone, List.nil_append]
  induction names generalizing nodes with
  | nil =>
    obtain rfl : nodes = [] := h
    rfl
  | cons name names ih =>
    obtain ⟨_, behind, rfl, ⟨s, rfl⟩, hmore⟩ := h
    have hname : isName (Node.mk Phrase.identifier s name.word []) = true := rfl
    simp only [List.singleton_append, List.filter_cons, hname, if_true, List.map_cons, ih hmore]
    simp [identOf, Ident.word, Ident.bare]

theorem reads_nameBlock {names : List Ident} (hne : names ≠ [])
    (hnames : ∀ name ∈ names, IsName name.word) (hd : 2 ≤ d) :
    Reads d nameBlock (["\x7b".toList] ++ (joined "," (names.map fun name => [name.word]) ++
      ["\x7d".toList])) vs (NameNodes names) := by
  obtain ⟨name, names, rfl⟩ := List.exists_cons_of_ne_nil hne
  have hmore : Reads d (.many (.seq (Expr.lit ",") (.rule .identifier)))
      (names.flatMap fun name => [",".toList, name.word]) (["\x7d".toList] ++ vs)
      (NameNodes names) :=
    Reads.many_separated (F := fun _ => True)
      (fun name hname _ _ => reads_name (hnames name (List.mem_cons_of_mem _ hname)) hd)
      (fun _ => trivial) trivial (.lit (by decide) (by decide))
  have hcomma : Refuses d (Expr.lit ",") (["\x7d".toList] ++ vs) := .lit (by decide) (by decide)
  have hend : Reads d (.seq (.many (.seq (Expr.lit ",") (.rule .identifier)))
      (.optional (Expr.lit ","))) (names.flatMap (fun name => [",".toList, name.word]) ++ [])
      (["\x7d".toList] ++ vs) (Beside (NameNodes names) (· = [])) :=
    .seq hmore (.optional_missing hcomma)
  rw [List.append_nil] at hend
  have hlist := Reads.seq (reads_name (hnames name List.mem_cons_self) hd) hend
  rw [joined_cons]
  refine (Reads.seq (.lit "\x7b") (.seq (.optional hlist) (.lit "\x7d"))).imp ?_
  rintro nodes ⟨_, _, rfl, rfl, _, _, rfl,
    ⟨first, _, rfl, hfirst, behind, _, rfl, hbehind, rfl⟩, rfl⟩
  exact ⟨first, behind, by simp, hfirst, hbehind⟩

theorem reads_block {r k : Phrase} {s : String} (hr : style r = .plain)
    (hbody : body r = .seq (.rule k) nameBlock) (hk : style k = .token)
    (hkeyword : body k = keyword s) (hkname : k ≠ .identifier ∧ k ≠ .integer) {names : List Ident}
    (hne : names ≠ []) (hnames : ∀ name ∈ names, IsName name.word) (hd : 3 ≤ d) :
    Reads d (.rule r) (blockWords s names) vs (NamesRead r names) := by
  have hwords : blockWords s names = [s.toList] ++ (["\x7b".toList] ++
      (joined "," (names.map fun name => [name.word]) ++ ["\x7d".toList])) := by
    cases names with
    | nil => exact absurd rfl hne
    | cons name names => simp only [blockWords, List.cons_append, List.nil_append]
  rw [hwords]
  refine (Reads.plain hr (by omega) (hbody ▸ Reads.seq (reads_keyword hk hkeyword (by omega))
    (reads_nameBlock hne hnames (by omega)))).imp ?_
  rintro nodes ⟨span, text, _, rfl, _, behind, rfl, ⟨t, rfl⟩, hbehind⟩
  refine ⟨_, rfl, rfl, identsOf_names r span text ?_ hbehind⟩
  simp [isName, hkname]

theorem reads_mode {name : Ident} (hname : IsName name.word) (hd : 3 ≤ d) :
    Reads d (.rule .modeSpec) ["mode".toList, name.word, ";".toList] vs
      (NamesRead .modeSpec [name]) := by
  refine (Reads.plain rfl (by omega) (Reads.seq (reads_keyword rfl rfl (by omega))
    (.seq (reads_name hname (by omega)) (.lit ";")))).imp ?_
  rintro nodes ⟨span, text, _, rfl, _, _, rfl, ⟨t, rfl⟩, first, _, rfl, hfirst, rfl⟩
  exact ⟨_, rfl, rfl, identsOf_names _ span text (by simp [isName]) ⟨first, [], rfl, hfirst, rfl⟩⟩

theorem reads_import {name : Ident} (hname : IsName name.word) (hd : 3 ≤ d) :
    Reads d (.rule .importSpec) ["import".toList, name.word, ";".toList] vs
      (NamesRead .importSpec [name]) := by
  have hequals : Refuses (d - 1) (Expr.lit "=") ([";".toList] ++ vs) := .lit (by decide) (by decide)
  have hrenamed : Reads (d - 1) renamed ([name.word] ++ []) ([";".toList] ++ vs)
      (Beside (OfToken .identifier name.word) (· = [])) :=
    .seq (reads_name hname (by omega)) (.optional_missing (.seq_left hequals))
  have hcomma : Refuses (d - 1) (Expr.lit ",") ([";".toList] ++ vs) := .lit (by decide) (by decide)
  have hlist : Reads (d - 1) (separated "," renamed) ([name.word] ++ [] ++ []) ([";".toList] ++ vs)
      (Beside (Beside (OfToken .identifier name.word) (· = [])) (· = [])) :=
    .seq hrenamed (.many_none (.seq_left hcomma))
  refine (Reads.plain rfl (by omega) (Reads.seq (reads_keyword rfl rfl (by omega))
    (.seq hlist (.lit ";")))).imp ?_
  rintro nodes ⟨span, text, _, rfl, _, _, rfl, ⟨t, rfl⟩, _, _, rfl,
    ⟨_, _, rfl, ⟨first, _, rfl, hfirst, rfl⟩, rfl⟩, rfl⟩
  exact ⟨_, rfl, rfl, identsOf_names _ span text (by simp [isName])
    ⟨first, [], by simp, hfirst, rfl⟩⟩

end Names

def KindRead : GrammarKind → List PhraseNode → Prop
  | .combined => (· = [])
  | .lexer => OfPhrase .headerKind (OfToken .kwLexer "lexer".toList)
  | .parser => OfPhrase .headerKind (OfToken .kwParser "parser".toList)

def kindWords : GrammarKind → List Word
  | .combined => []
  | .lexer => ["lexer".toList]
  | .parser => ["parser".toList]

def HeaderRead (h : Header) (nodes : List PhraseNode) : Prop :=
  ∃ n, nodes = [n] ∧ n.rule = .header ∧ ∃ h', readHeader n = some h' ∧ h'.bare = h.bare

section Headers

variable {d : Nat} {w : Word} {us vs : List Word}

theorem refuses_headerKind (hd : 3 ≤ d) (hw : IsName w)
    (hne : ∀ s ∈ ["lexer", "parser"], w ≠ s.toList) : Refuses d (.rule .headerKind) (w :: us) :=
  .rule (by decide) (.choice
    (refuses_keyword rfl rfl (by decide) (by omega) hw (hne _ (by decide)))
    (refuses_keyword rfl rfl (by decide) (by omega) hw (hne _ (by decide))))

theorem reads_lexerKind (hd : 2 ≤ d) :
    Reads d (.rule .headerKind) ["lexer".toList] vs (KindRead .lexer) :=
  .plain rfl (by omega) (.choice_left (reads_keyword rfl rfl (by omega)))

theorem reads_parserKind (hd : 3 ≤ d) :
    Reads d (.rule .headerKind) ["parser".toList] vs (KindRead .parser) := by
  have hlexer : Refuses (d - 1) (.rule .kwLexer) (["parser".toList] ++ vs) :=
    refuses_keyword rfl rfl (by decide) (by omega) (by decide) (by decide)
  exact .plain rfl (by omega) (.choice_right hlexer (reads_keyword rfl rfl (by omega)))

theorem reads_headerKind (kind : GrammarKind) (hd : 3 ≤ d) :
    Reads d (.optional (.rule .headerKind)) (kindWords kind) ("grammar".toList :: us)
      (KindRead kind) := by
  cases kind with
  | combined => exact .optional_missing (refuses_headerKind hd (by decide) (by decide))
  | lexer => exact .optional (reads_lexerKind (by omega))
  | parser => exact .optional (reads_parserKind hd)

theorem reads_header {h : Header} (hname : IsName h.name.word) (hd : 4 ≤ d) :
    Reads d (.rule .header) h.words vs (HeaderRead h) := by
  obtain ⟨kind, name⟩ := h
  have hwords : (Header.mk kind name).words =
      kindWords kind ++ (["grammar".toList] ++ ([name.word] ++ [";".toList])) := by
    cases kind <;> rfl
  rw [hwords]
  refine (Reads.plain rfl (by omega) (Reads.seq (reads_headerKind kind (by omega))
    (.seq (reads_keyword rfl rfl (by omega))
      (.seq (reads_name hname (by omega)) (.lit ";"))))).imp ?_
  rintro nodes ⟨span, text, _, rfl, kinds, _, rfl, hkinds, _, _, rfl, ⟨s, rfl⟩, _, _, rfl,
    ⟨t, rfl⟩, rfl⟩
  refine ⟨_, rfl, rfl, ⟨kind, ⟨name.name, t⟩⟩, ?_, rfl⟩
  cases kind with
  | combined =>
    obtain rfl : kinds = [] := hkinds
    simp [readHeader, identOf, Ident.word]
  | lexer =>
    obtain ⟨_, _, _, rfl, _, rfl⟩ := hkinds
    simp [readHeader, identOf, Ident.word]
  | parser =>
    obtain ⟨_, _, _, rfl, _, rfl⟩ := hkinds
    simp [readHeader, identOf, Ident.word]

/-- A colon starts nothing that could stand behind a first word. -/
theorem refuses_colon {r : Phrase} (hr : starts 4 r (some ':') = false) (hmiss : misses 4 r = false)
    (h : StartsWith [":"] us) : Refuses d (.rule r) us := by
  obtain ⟨s, hs, vs, rfl⟩ := h
  obtain rfl := List.mem_singleton.mp hs
  exact .of_starts 4 hr hmiss

/-- The header may be missing before any other part of a document. -/
theorem refuses_header (hd : 4 ≤ d) (h : Leads ["lexer", "parser", "grammar"] us) :
    Refuses d (.rule .header) us := by
  obtain ⟨w, us, rfl, hw, hnext⟩ := h
  have hcolon : ∀ s ∈ ["lexer", "parser", "grammar"], w = s.toList → StartsWith [":"] us :=
    fun s hs heq => hnext.resolve_left fun hne => hne s hs heq
  refine .rule (by decide) ?_
  by_cases hlexer : w = "lexer".toList
  · have hgrammar : Refuses (d - 1) (.rule .kwGrammar) us :=
      refuses_colon rfl rfl (hcolon _ (by decide) hlexer)
    rw [hlexer]
    exact .seq_right (.optional (reads_lexerKind (by omega))) (.seq_left hgrammar)
  · by_cases hparser : w = "parser".toList
    · have hgrammar : Refuses (d - 1) (.rule .kwGrammar) us :=
        refuses_colon rfl rfl (hcolon _ (by decide) hparser)
      rw [hparser]
      exact .seq_right (.optional (reads_parserKind (by omega))) (.seq_left hgrammar)
    · have hkind : Refuses (d - 1) (.rule .headerKind) (w :: us) :=
        refuses_headerKind (by omega) hw (by simpa using ⟨hlexer, hparser⟩)
      refine .seq_right (.optional_missing hkind) ?_
      exact refuses_seq_keyword rfl rfl (by decide) (by omega) hw fun heq =>
        .seq_left (refuses_colon rfl rfl (hcolon _ (by decide) heq))

end Headers

def FragmentRead : Option Span → List PhraseNode → Prop
  | none => (· = [])
  | some _ => OfPhrase .fragmentModifier (OfToken .kwFragment "fragment".toList)

def RuleRead (r : RuleDecl) (nodes : List PhraseNode) : Prop :=
  ∃ n, nodes = [n] ∧ n.rule = .ruleSpec ∧ ∀ source mode, (readRule source mode n).defects = [] ∧
    ∃ r', (readRule source mode n).value = some r' ∧ r'.bare = { r with mode := mode }.bare

section Rules

variable {d : Nat} {us vs : List Word}

theorem reads_fragment {fragment : Option Span} {name : Word} (hname : IsName name)
    (hne : fragment.isNone → name ≠ "fragment".toList) (hd : 3 ≤ d) :
    Reads d (.optional (.rule .fragmentModifier))
      (if fragment.isSome then ["fragment".toList] else []) (name :: us)
      (FragmentRead fragment) := by
  cases fragment with
  | none =>
    exact .optional_missing (.rule (by decide)
      (refuses_keyword rfl rfl (by decide) (by omega) hname (hne rfl)))
  | some span => exact .optional (.plain rfl (by omega) (reads_keyword rfl rfl (by omega)))

theorem reads_rulePrequel (hd : 1 ≤ d) :
    Reads d (.rule .rulePrequel) [] (":".toList :: us) (· = []) := by
  refine .silent rfl hd ?_
  have hnone : ∀ {e : Expr Phrase}, mayStart (misses 4) (starts 4) e (some ':') = false →
      mayMiss (misses 4) e = false → Refuses (d - 1) e (":".toList :: us) :=
    fun hstart hmiss => .of_starts 4 hstart hmiss
  refine (Reads.seq (.optional_missing (hnone rfl rfl)) (.seq (.optional_missing (hnone rfl rfl))
    (.seq (.optional_missing (hnone rfl rfl)) (.many_none (hnone rfl rfl))))).imp ?_
  rintro nodes ⟨_, _, rfl, rfl, _, _, rfl, rfl, _, _, rfl, rfl, rfl⟩
  rfl

theorem readRule_read {r : RuleDecl} {fragments kids : List PhraseNode}
    (hfragments : FragmentRead r.fragment fragments) (hkids : Each AltRead r.alternatives kids)
    (s altSpan span : Span) (altText text : List Char) :
    RuleRead r [.mk .ruleSpec span text
      (fragments ++ [nameNode s r.name.word, .mk .alternatives altSpan altText kids])] := by
  refine ⟨_, rfl, rfl, fun source mode => ?_⟩
  obtain ⟨hdefects, hvalue⟩ := readGroup_read hkids source altSpan altText []
  have hparts : ∃ modifier : Option Span, (modifier.map fun _ => Span.empty 0) =
      (r.fragment.map fun _ => Span.empty 0) ∧ readRule source mode (.mk .ruleSpec span text
        (fragments ++ [nameNode s r.name.word, .mk .alternatives altSpan altText kids])) = do
          let alternatives ← readGroup source [.mk .alternatives altSpan altText kids]
          return some ⟨⟨r.name.name, s⟩, modifier, mode, alternatives, span⟩ := by
    cases hfragment : r.fragment with
    | none =>
      rw [hfragment] at hfragments
      obtain rfl : fragments = [] := hfragments
      exact ⟨none, rfl, by simp [readRule, readGroup, nameNode, identOf, Ident.word]⟩
    | some t =>
      rw [hfragment] at hfragments
      obtain ⟨t', _, _, rfl, _, rfl⟩ := hfragments
      exact ⟨some t', rfl, by simp [readRule, readGroup, nameNode, identOf, Ident.word]⟩
  obtain ⟨modifier, hmodifier, hread⟩ := hparts
  rw [hread]
  refine ⟨by simp [hdefects], _, rfl, ?_⟩
  simp [RuleDecl.bare, hmodifier, hvalue, Ident.bare]

theorem reads_rule {r : RuleDecl} (hproper : (Item.rule r).Proper)
    (hcomplete : (Item.rule r).Complete) (hd : 5 * r.words.length + 12 ≤ d) :
    Reads d (.rule .ruleSpec) r.words vs (RuleRead r) := by
  obtain ⟨hname, hfragment, halternatives, hatoms⟩ := hproper
  obtain ⟨hne, hcompletes⟩ := hcomplete
  have hwords : r.words = (if r.fragment.isSome then ["fragment".toList] else []) ++
      ([r.name.word] ++ ([] ++ ([":".toList] ++
        (joined "|" (r.alternatives.map AltOf.words) ++ [";".toList])))) := by
    simp only [RuleDecl.words, List.cons_append, List.nil_append]
  rw [hwords] at hd ⊢
  simp only [List.length_append, List.length_cons, List.length_nil] at hd
  have hinside : ∀ a ∈ r.alternatives, ∀ e ∈ a.elements, e.atom.Proper ∧ AtomReads e.atom := by
    intro a ha e he
    have hall : ∀ b ∈ e.atom.inside, b.Proper ∧ b.Complete := by
      intro b hb
      have hmem := mem_insideAlternatives ha he hb
      exact ⟨hatoms b hmem, hcompletes b hmem⟩
    exact ⟨(hall _ e.atom.mem_inside).1, atom_reads e.atom hall⟩
  have hmodifier : r.fragment.isNone → r.name.word ≠ "fragment".toList := by
    intro hnone heq
    exact hfragment hnone (String.toList_inj.mp heq)
  have hchoice : Reads (d - 1) (.rule .alternatives) (joined "|" (r.alternatives.map AltOf.words))
      ([";".toList] ++ vs) (OfPhrase .alternatives (Each AltRead r.alternatives)) :=
    reads_choice (by simpa using hne) halternatives hinside (by omega) ⟨";", by decide, vs, rfl⟩
  refine (Reads.plain rfl (by omega) (Reads.seq (reads_fragment hname hmodifier (by omega))
    (.seq (reads_name hname (by omega)) (.seq (reads_rulePrequel (by omega)) (.seq (.lit ":")
      (.seq hchoice (.lit ";"))))))).imp ?_
  rintro nodes ⟨span, text, _, rfl, fragments, _, rfl, hfragments, _, _, rfl, ⟨s, rfl⟩, _, _, rfl,
    rfl, _, _, rfl, rfl, _, _, rfl, ⟨altSpan, altText, kids, rfl, hkids⟩, rfl⟩
  exact readRule_read hfragments hkids s altSpan span altText text

def ItemRead : Item → List PhraseNode → Prop
  | .mode name => NamesRead .modeSpec [name]
  | .rule r => RuleRead r

/-- A rule is not taken for the declaration of a mode, not even one named like it. -/
theorem refuses_modeSpec {r : RuleDecl} (hname : IsName r.name.word) (hd : 3 ≤ d) :
    Refuses d (.rule .modeSpec) (r.words ++ vs) := by
  refine .rule (by decide) ?_
  rw [RuleDecl.words]
  cases r.fragment with
  | some span =>
    exact refuses_seq_keyword rfl rfl (by decide) (by omega) (by decide)
      fun heq => absurd heq (by decide)
  | none =>
    exact refuses_seq_keyword rfl rfl (by decide) (by omega) hname
      fun _ => .seq_left (refuses_colon rfl rfl ⟨":", by decide, _, rfl⟩)

theorem reads_item {item : Item} (hproper : item.Proper) (hcomplete : item.Complete)
    (hd : 5 * item.words.length + 12 ≤ d) :
    Reads d (.choice (.rule .modeSpec) (.rule .ruleSpec)) item.words vs (ItemRead item) := by
  cases item with
  | mode name => exact .choice_left (reads_mode hproper (by omega))
  | rule r =>
    exact .choice_right (refuses_modeSpec hproper.1 (by omega)) (reads_rule hproper hcomplete hd)

def openingNames : List String := ["options", "tokens", "channels", "import"]

theorem Item.leads {item : Item} (hproper : item.Proper) :
    Leads (["lexer", "parser", "grammar"] ++ openingNames) (item.words ++ vs) := by
  cases item with
  | mode name => exact ⟨_, _, rfl, by decide, .inl (by decide)⟩
  | rule r =>
    rw [Item.words, RuleDecl.words]
    cases r.fragment with
    | some span => exact ⟨_, _, rfl, by decide, .inl (by decide)⟩
    | none => exact ⟨_, _, rfl, hproper.1, .inr ⟨":", by decide, _, rfl⟩⟩

end Rules

inductive Opening where
  | imported (name : Ident)
  | tokens (names : List Ident)
  | channels (names : List Ident)

def Opening.words : Opening → List Word
  | .imported name => ["import".toList, name.word, ";".toList]
  | .tokens names => blockWords "tokens" names
  | .channels names => blockWords "channels" names

def Opening.names : Opening → List Ident
  | .imported name => [name]
  | .tokens names => names
  | .channels names => names

def Opening.phrase : Opening → Phrase
  | .imported _ => .importSpec
  | .tokens _ => .tokensSpec
  | .channels _ => .channelsSpec

section Openings

variable {d : Nat} {us vs : List Word}

theorem blockWords_eq (s : String) {names : List Ident} (hne : names ≠ []) :
    ∃ us, blockWords s names = s.toList :: "\x7b".toList :: us := by
  obtain ⟨name, names, rfl⟩ := List.exists_cons_of_ne_nil hne
  exact ⟨_, rfl⟩

theorem Opening.words_eq {o : Opening} (hne : o.names ≠ []) :
    ∃ s us, o.words = s.toList :: us ∧ s ∈ ["tokens", "channels", "import"] := by
  cases o with
  | imported name => exact ⟨"import", _, rfl, by decide⟩
  | tokens names =>
    obtain ⟨us, hus⟩ := blockWords_eq "tokens" hne
    exact ⟨"tokens", _, hus, by decide⟩
  | channels names =>
    obtain ⟨us, hus⟩ := blockWords_eq "channels" hne
    exact ⟨"channels", _, hus, by decide⟩

theorem refuses_other {r k : Phrase} {s t : String} {e : Expr Phrase} (hr : style r = .plain)
    (hbody : body r = .seq (.rule k) e) (hk : style k = .token) (hkeyword : body k = keyword s)
    (hs : s.toList.all isNameChar = true) (ht : IsName t.toList) (hne : t ≠ s) (hd : 3 ≤ d) :
    Refuses d (.rule r) (t.toList :: us) := by
  refine .rule (by simp [hr]) ?_
  rw [hbody]
  exact .seq_left (refuses_keyword hk hkeyword hs (by omega) ht
    fun heq => hne (String.toList_inj.mp heq))

theorem reads_opening {o : Opening} (hne : o.names ≠ [])
    (hnames : ∀ name ∈ o.names, IsName name.word) (hd : 4 ≤ d) :
    Reads d (.rule .prequel) o.words vs (NamesRead o.phrase o.names) := by
  refine .silent rfl (by omega) ?_
  cases o with
  | imported name =>
    have hname := hnames name List.mem_cons_self
    refine .choice_right ?_ (.choice_right ?_ (.choice_right ?_ (.choice_left
      (reads_import hname (by omega)))))
    · exact refuses_other rfl rfl rfl rfl (by decide) (by decide) (by decide) (by omega)
    · exact refuses_other rfl rfl rfl rfl (by decide) (by decide) (by decide) (by omega)
    · exact refuses_other rfl rfl rfl rfl (by decide) (by decide) (by decide) (by omega)
  | tokens names =>
    obtain ⟨us, hus⟩ : ∃ us,
        blockWords "tokens" names = "tokens".toList :: "\x7b".toList :: us :=
      blockWords_eq "tokens" hne
    refine .choice_right ?_ (.choice_left
      (reads_block rfl rfl rfl rfl (by decide) hne hnames (by omega)))
    rw [Opening.words, hus]
    exact refuses_other rfl rfl rfl rfl (by decide) (by decide) (by decide) (by omega)
  | channels names =>
    obtain ⟨us, hus⟩ : ∃ us,
        blockWords "channels" names = "channels".toList :: "\x7b".toList :: us :=
      blockWords_eq "channels" hne
    refine .choice_right ?_ (.choice_right ?_ (.choice_left
      (reads_block rfl rfl rfl rfl (by decide) hne hnames (by omega))))
    · rw [Opening.words, hus]
      exact refuses_other rfl rfl rfl rfl (by decide) (by decide) (by decide) (by omega)
    · rw [Opening.words, hus]
      exact refuses_other rfl rfl rfl rfl (by decide) (by decide) (by decide) (by omega)

theorem refuses_prequel (hd : 4 ≤ d) (h : Leads openingNames us) :
    Refuses d (.rule .prequel) us := by
  obtain ⟨w, us, rfl, hw, hnext⟩ := h
  have hcolon : ∀ s ∈ openingNames, w = s.toList → StartsWith [":"] us :=
    fun s hs heq => hnext.resolve_left fun hne => hne s hs heq
  have hbrace : StartsWith [":"] us → Refuses (d - 2) (Expr.lit "\x7b") us := by
    rintro ⟨s, hs, vs, rfl⟩
    obtain rfl := List.mem_singleton.mp hs
    exact .lit (by decide) (by decide)
  have hled : ∀ {r k : Phrase} {s : String} {e : Expr Phrase}, style r = .plain →
      body r = .seq (.rule k) e → style k = .token → body k = keyword s →
      s.toList.all isNameChar = true → s ∈ openingNames →
      (StartsWith [":"] us → Refuses (d - 2) e us) → Refuses (d - 1) (.rule r) (w :: us) := by
    intro r k s e hr hbody hk hkeyword hs hmem hnext
    refine .rule (by simp [hr]) ?_
    rw [hbody]
    exact refuses_seq_keyword hk hkeyword hs (by omega) hw fun heq => hnext (hcolon s hmem heq)
  refine .rule (by decide) (.choice ?_ (.choice ?_ (.choice ?_ (.choice ?_ ?_))))
  · exact hled rfl rfl rfl rfl (by decide) (by decide) fun hus => .seq_left (hbrace hus)
  · exact hled rfl rfl rfl rfl (by decide) (by decide) fun hus => .seq_left (hbrace hus)
  · exact hled rfl rfl rfl rfl (by decide) (by decide) fun hus => .seq_left (hbrace hus)
  · exact hled rfl rfl rfl rfl (by decide) (by decide)
      fun hus => .seq_left (.seq_left (.seq_left (refuses_colon rfl rfl hus)))
  · exact refuses_guard rfl (hw.firstChar_ne (by decide))

end Openings

end GrammarWorkbench.Declaration
