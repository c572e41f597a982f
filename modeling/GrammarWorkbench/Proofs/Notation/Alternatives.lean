import GrammarWorkbench.Proofs.Notation.Atoms

/-!
# Alternatives read back

Elements, labels, commands and options are read in their places, and the elements of a group to any
depth. The depth to which rules must call one another is bounded by the number of words: a group has
two words more than what is in it, and an element of it is five calls deeper.
-/

set_option autoImplicit false

namespace GrammarWorkbench.Declaration

open GrammarWorkbench.Text GrammarWorkbench.Recognizer GrammarWorkbench.Diagnostic
open GrammarWorkbench.Declaration.Phrase

section Lists

variable (source : List Char)

theorem readElements_eq (ns : List PhraseNode) : readElements source ns =
    ⟨ns.flatMap fun n => (readElement source n).value,
      ns.flatMap fun n => (readElement source n).defects⟩ := by
  induction ns with
  | nil => rw [readElements]; rfl
  | cons n ns ih => rw [readElements, ih]; simp [bind, Checked.andThen, pure, Checked.clean]

theorem readAtoms_eq (ns : List PhraseNode) : readAtoms source ns =
    ⟨ns.flatMap fun n => (readAtom source n).value,
      ns.flatMap fun n => (readAtom source n).defects⟩ := by
  induction ns with
  | nil => rw [readAtoms]; rfl
  | cons n ns ih => rw [readAtoms, ih]; simp [bind, Checked.andThen, pure, Checked.clean]

theorem readAlternatives_eq (ns : List PhraseNode) : readAlternatives source ns =
    ⟨ns.flatMap fun n => (readAlternative source n).value,
      ns.flatMap fun n => (readAlternative source n).defects⟩ := by
  induction ns with
  | nil => rw [readAlternatives]; rfl
  | cons n ns ih => rw [readAlternatives, ih]; simp [bind, Checked.andThen, pure, Checked.clean]

end Lists

/-- Nodes that are each read as a member are together read as the list. -/
theorem Each.readAs {α : Type} {bare : α → α} {r : Phrase → Prop}
    {f : List Char → PhraseNode → Checked (List α)} {xs : List α} {nodes : List PhraseNode}
    (h : Each (OneRead bare r f) xs nodes) (source : List Char) :
    ReadAs bare ⟨nodes.flatMap fun n => (f source n).value,
      nodes.flatMap fun n => (f source n).defects⟩ xs := by
  induction xs generalizing nodes with
  | nil =>
    obtain rfl : nodes = [] := h
    exact ⟨rfl, rfl⟩
  | cons x xs ih =>
    obtain ⟨_, behind, rfl, ⟨n, rfl, -, hread⟩, hmore⟩ := h
    obtain ⟨hdefects, hvalue⟩ := hread source
    obtain ⟨hdefects', hvalue'⟩ := ih hmore
    refine ⟨?_, ?_⟩
    · simp only [List.singleton_append, List.flatMap_cons, hdefects, List.nil_append]
      exact hdefects'
    · simp only [List.singleton_append, List.flatMap_cons, List.map_append, hvalue]
      exact congrArg _ hvalue'

theorem Each.rule {α : Type} {bare : α → α} {r : Phrase}
    {f : List Char → PhraseNode → Checked (List α)} {xs : List α} {nodes : List PhraseNode}
    (h : Each (OneRead bare (· = r) f) xs nodes) : ∀ n ∈ nodes, n.rule = r := by
  refine h.forall_mem ?_
  rintro x _ ⟨n, rfl, hrule, -⟩
  simpa using hrule

abbrev ElementRead (e : ElementDecl) : List PhraseNode → Prop :=
  OneRead ElementOf.bare (· = .element) readElement e

section Elements

variable {d : Nat} {ws vs : List Word}

theorem Avoids.firstChar_ne {stops : List String} {c : Char} (h : Avoids stops vs)
    (hc : String.ofList [c] ∈ stops) : firstChar vs ≠ some c := by
  obtain ⟨w, us, rfl, hstops⟩ := h
  intro hfirst
  obtain ⟨cs, rfl⟩ := List.head?_eq_some_iff.mp (show w.head? = some c from hfirst)
  exact hstops _ hc (by simp)

theorem refuses_elementLabel (h : Unlabelled ws) (hd : 3 ≤ d) :
    Refuses d (.rule .elementLabel) ws := by
  rcases h with ⟨w, us, rfl, hw, hus⟩ | h
  · have hsign : Refuses (d - 1) (.choice (Expr.lit "+=") (Expr.lit "=")) us :=
      .choice (hus.refuses (by decide) (by decide)) (hus.refuses (by decide) (by decide))
    exact .rule (by decide) (.seq_right (reads_name hw (by omega)) hsign)
  · refine .of_starts 2 ?_ rfl
    change (firstChar ws).any isNameStart = false
    cases hfirst : firstChar ws with
    | none => rfl
    | some c => exact h c hfirst

def SuffixRead : Option Suffix → List PhraseNode → Prop
  | none => (· = [])
  | some operator => OfToken .suffix operator.word

theorem reads_suffix? (suffix : Option Suffix) (hd : 1 ≤ d) (hvs : Avoids elementStops vs) :
    Reads d (.optional (.rule .suffix)) (suffix.map Suffix.word).toList vs (SuffixRead suffix) := by
  cases suffix with
  | none => exact .optional_missing hvs.refuses_suffix
  | some suffix => exact .optional (reads_suffix suffix hd)

theorem suffix?_avoids (suffix : Option Suffix) (hvs : Avoids elementStops vs) :
    Avoids atomStops ((suffix.map Suffix.word).toList ++ vs) := by
  cases suffix with
  | none => exact hvs.atom
  | some suffix => exact suffix_avoids suffix

theorem suffixOf_word (suffix : Suffix) : suffixOf suffix.word = suffix := by
  obtain ⟨kind, greedy⟩ := suffix
  cases kind <;> cases greedy <;> rfl

theorem readElement_read {atom : Atom} {suffix : Option Suffix} {atoms suffixes : List PhraseNode}
    (hatoms : AtomRead atom atoms) (hsuffixes : SuffixRead suffix suffixes) (source : List Char)
    (span : Span) (text : List Char) (elementSpan : Span) :
    ReadAs ElementOf.bare (readElement source (.mk .element span text (atoms ++ suffixes)))
      [⟨atom, suffix, elementSpan⟩] := by
  obtain ⟨n, rfl, hrule, hread⟩ := hatoms
  obtain ⟨hdefects, hvalue⟩ := hread source
  obtain ⟨atom', hatom'⟩ : ∃ atom', (readAtom source n).value = [atom'] :=
    List.length_eq_one_iff.mp (by simpa using congrArg List.length hvalue)
  have hbare : atom'.bare = atom.bare := by simpa [hatom'] using hvalue
  have hsuffix : readSuffix ([n] ++ suffixes) = suffix := by
    have hn : (n.rule == Phrase.suffix) = false := by simpa using hrule
    cases suffix with
    | none =>
      obtain rfl : suffixes = [] := hsuffixes
      simp [readSuffix, hn]
    | some suffix =>
      obtain ⟨s, rfl⟩ := hsuffixes
      simp [readSuffix, hn, suffixOf_word]
  have hmore : ∀ m ∈ suffixes, readAtom source m = pure [] := by
    cases suffix with
    | none =>
      obtain rfl : suffixes = [] := hsuffixes
      simp
    | some suffix =>
      obtain ⟨s, rfl⟩ := hsuffixes
      simp [readAtom]
  have hdefects' : (suffixes.flatMap fun m => (readAtom source m).defects) = [] := by
    rw [List.flatMap_eq_nil_iff]
    intro m hm
    rw [hmore m hm]
    rfl
  have hvalue' : (suffixes.flatMap fun m => (readAtom source m).value) = [] := by
    rw [List.flatMap_eq_nil_iff]
    intro m hm
    rw [hmore m hm]
    rfl
  constructor
  · simp [readElement, readAtoms_eq, hdefects, hdefects']
  · simpa [readElement, readAtoms_eq, hatom', hvalue', ElementOf.bare, hbare] using hsuffix

/-- An element is read back, if its atom is before anything that does not go on with it. -/
theorem reads_element {e : ElementDecl} (hproper : e.atom.Proper) (hd : 4 ≤ d)
    (hvs : Avoids elementStops vs)
    (hatom : ∀ us, Avoids atomStops us →
      Reads (d - 1) (.rule .atom) e.atom.words us (AtomRead e.atom)) :
    Reads d (.rule .element) e.words vs (ElementRead e) := by
  obtain ⟨atom, suffix, span⟩ := e
  have hnext := suffix?_avoids suffix hvs
  have haction : Refuses (d - 1) (.rule .actionElement)
      (atom.words ++ (suffix.map Suffix.word).toList ++ vs) := by
    refine refuses_guard rfl ?_
    rw [List.append_assoc]
    exact (Atom.avoids hproper).firstChar_ne (by decide)
  have hlabel : Refuses (d - 1) (.rule .elementLabel)
      (atom.words ++ (suffix.map Suffix.word).toList ++ vs) := by
    refine refuses_elementLabel ?_ (by omega)
    rw [List.append_assoc]
    exact Atom.unlabelled hproper hnext
  have hparts := Reads.seq (.optional_missing hlabel)
    (Reads.seq (hatom _ hnext) (reads_suffix? suffix (by omega) hvs))
  refine (Reads.plain rfl (by omega) (.choice_right haction hparts)).imp ?_
  rintro nodes ⟨nodeSpan, text, _, rfl, _, _, rfl, rfl, atoms, suffixes, rfl, hatoms, hsuffixes⟩
  exact ⟨_, rfl, rfl, fun source => readElement_read hatoms hsuffixes source nodeSpan text span⟩

end Elements

def StartsWith (ss : List String) (ws : List Word) : Prop :=
  ∃ s ∈ ss, ∃ us, ws = s.toList :: us

def closings : List String := [";", ")", "|"]

section Frames

variable {d : Nat} {ws vs : List Word}

theorem StartsWith.mono {ss ts : List String} (h : StartsWith ss ws) (hsub : ss ⊆ ts) :
    StartsWith ts ws := by
  obtain ⟨s, hs, us, rfl⟩ := h
  exact ⟨s, hsub hs, us, rfl⟩

theorem StartsWith.firstChar_ne {ss : List String} {c : Char} (h : StartsWith ss ws)
    (hc : ∀ s ∈ ss, s.toList.head? ≠ some c) : firstChar ws ≠ some c := by
  obtain ⟨s, hs, us, rfl⟩ := h
  exact hc s hs

theorem StartsWith.avoids (h : StartsWith ("#" :: "->" :: closings) ws) :
    Avoids elementStops ws := by
  obtain ⟨s, hs, us, rfl⟩ := h
  have hsub : "#" :: "->" :: closings ⊆ [";", ")", "|", "#", "->", ",", "(", "~", "."] := by decide
  exact closing_avoids (hsub hs) us

/-- No element starts with what can stand behind the elements of an alternative. -/
theorem StartsWith.refuses_element (h : StartsWith ("#" :: "->" :: closings) ws) :
    Refuses d (.rule .element) ws := by
  obtain ⟨s, hs, us, rfl⟩ := h
  have hall : ∀ s ∈ "#" :: "->" :: closings, starts 6 .element s.toList.head? = false := by decide
  exact .of_starts 6 (hall s hs) rfl

def AssocRead : Bool → List PhraseNode → Prop
  | true => OfToken .elementOptions "<assoc=right>".toList
  | false => (· = [])

theorem reads_assoc? (rightAssoc : Bool) (hd : 1 ≤ d) (hvs : firstChar vs ≠ some '<') :
    Reads d (.optional (.rule .elementOptions)) (assocWords rightAssoc) vs
      (AssocRead rightAssoc) := by
  cases rightAssoc with
  | true => exact .optional (reads_assoc hd)
  | false => exact .optional_missing (refuses_guard rfl hvs)

def LabelRead : Option Ident → List PhraseNode → Prop
  | none => (· = [])
  | some name => OfPhrase .alternativeLabel fun kids => ∃ s, kids = [nameNode s name.word]

theorem reads_label? {label : Option Ident} (hproper : ∀ name ∈ label, IsName name.word)
    (hd : 3 ≤ d) (hvs : firstChar vs ≠ some '#') :
    Reads d (.optional (.rule .alternativeLabel)) (labelWords label) vs (LabelRead label) := by
  cases label with
  | none => exact .optional_missing (refuses_guard rfl hvs)
  | some name =>
    have hparts : Reads (d - 1) (body .alternativeLabel) (["#".toList] ++ [name.word]) vs
        (Beside (· = []) (OfToken .identifier name.word)) :=
      .seq (.lit "#") (reads_name (hproper name rfl) (by omega))
    refine .optional (.plain rfl (by omega) (hparts.imp ?_))
    rintro nodes ⟨_, _, rfl, rfl, s, rfl⟩
    exact ⟨s, rfl⟩

def CommandRead (command : Command) (nodes : List PhraseNode) : Prop :=
  ∃ n, nodes = [n] ∧ ∃ command', readCommand n = some command' ∧ command'.bare = command.bare

theorem isNameStart_of_isDigit {c : Char} (h : c.isDigit = true) : isNameStart c = false := by
  have hdigit : c.val.toNat ≤ 57 :=
    UInt32.le_iff_toNat_le.mp (of_decide_eq_true (Bool.and_eq_true_iff.mp h).2)
  rw [Bool.eq_false_iff]
  intro hstart
  rcases Bool.or_eq_true_iff.mp hstart with halpha | hunderscore
  · rcases Bool.or_eq_true_iff.mp halpha with hupper | hlower
    · have hfirst : 65 ≤ c.val.toNat :=
        UInt32.le_iff_toNat_le.mp (of_decide_eq_true hupper).1
      omega
    · have hfirst : 97 ≤ c.val.toNat :=
        UInt32.le_iff_toNat_le.mp (of_decide_eq_true (Bool.and_eq_true_iff.mp hlower).1)
      omega
  · obtain rfl := eq_of_beq hunderscore
    exact absurd hdigit (by decide)

theorem reads_argument {w : Word} (h : IsName w ∨ IsNumber w) (hd : 2 ≤ d) :
    Reads d (.choice (.rule .identifier) (.rule .integer)) [w] vs
      fun nodes => ∃ r s, nodes = [.mk r s w []] := by
  by_cases hname : IsName w
  · refine (Reads.choice_left (reads_name hname hd)).imp ?_
    rintro nodes ⟨s, rfl⟩
    exact ⟨_, s, rfl⟩
  · have hnumber := h.resolve_left hname
    obtain ⟨c, cs, rfl⟩ := List.exists_cons_of_ne_nil hnumber.1
    have hrefuses : Refuses d (.rule .identifier) ([c :: cs] ++ vs) :=
      .of_starts 2 (isNameStart_of_isDigit (hnumber.2 c List.mem_cons_self)) rfl
    refine (Reads.choice_right hrefuses (reads_number hnumber (by omega))).imp ?_
    rintro nodes ⟨s, rfl⟩
    exact ⟨_, s, rfl⟩

theorem reads_command {command : Command} (hproper : command.Proper) (hd : 4 ≤ d)
    (hvs : firstChar vs ≠ some '(') :
    Reads d (.rule .lexerCommand) command.words vs (CommandRead command) := by
  obtain ⟨name, argument⟩ := command
  obtain ⟨hname, hargument⟩ := hproper
  cases argument with
  | none =>
    have hopening : Refuses (d - 1) (Expr.lit "(") vs :=
      .of_starts 0 (by simpa [mayStart, Expr.lit] using Ne.symm hvs) rfl
    have hparts : Reads (d - 1) (body .lexerCommand) ([name.word] ++ []) vs
        (Beside (OfToken .identifier name.word) (· = [])) :=
      .seq (reads_name hname (by omega)) (.optional_missing (.seq_left hopening))
    refine (Reads.plain rfl (by omega) hparts).imp ?_
    rintro nodes ⟨span, text, _, rfl, _, _, rfl, ⟨s, rfl⟩, rfl⟩
    refine ⟨_, rfl, ⟨⟨name.name, s⟩, none⟩, ?_, rfl⟩
    simp [readCommand, identOf, Ident.word]
  | some argument =>
    have hparts : Reads (d - 1) (body .lexerCommand)
        ([name.word] ++ (["(".toList] ++ ([argument.word] ++ [")".toList]))) vs
        (Beside (OfToken .identifier name.word) (Beside (· = []) (Beside
          (fun nodes => ∃ r s, nodes = [.mk r s argument.word []]) (· = [])))) :=
      .seq (reads_name hname (by omega)) (.optional (.seq (.lit "(")
        (.seq (reads_argument (hargument argument rfl) (by omega)) (.lit ")"))))
    refine (Reads.plain rfl (by omega) hparts).imp ?_
    rintro nodes ⟨span, text, _, rfl, _, _, rfl, ⟨s, rfl⟩, _, _, rfl, rfl, _, _, rfl,
      ⟨r, t, rfl⟩, rfl⟩
    refine ⟨_, rfl, ⟨⟨name.name, s⟩, some ⟨argument.name, t⟩⟩, ?_, rfl⟩
    simp [readCommand, identOf, Ident.word]

def CommandsRead : List Command → List PhraseNode → Prop
  | [] => (· = [])
  | commands => OfPhrase .lexerCommands (Each CommandRead commands)

theorem reads_commands {commands : List Command} (hproper : ∀ c ∈ commands, c.Proper)
    (hd : 6 ≤ d) (hvs : StartsWith closings vs) :
    Reads d (.optional (.rule .lexerCommands)) (commandWords commands) vs
      (CommandsRead commands) := by
  cases commands with
  | nil => exact .optional_missing (refuses_guard rfl (hvs.firstChar_ne (by decide)))
  | cons c cs =>
    have hlist : Reads (d - 1) (separated "," (.rule .lexerCommand))
        (joined "," ((c :: cs).map Command.words)) vs (Each CommandRead (c :: cs)) := by
      refine Reads.separated (F := fun us => firstChar us ≠ some '(') (List.cons_ne_nil c cs)
        ?_ ?_ ?_ ?_
      · exact fun command hcommand us hus => reads_command (hproper command hcommand) (by omega) hus
      · exact fun us => by simp [firstChar]
      · exact hvs.firstChar_ne (by decide)
      · refine .of_starts 0 ?_ rfl
        obtain ⟨s, hs, us, rfl⟩ := hvs
        have hall : ∀ s ∈ closings, (some ',' == s.toList.head?) = false := by decide
        exact hall s hs
    refine .optional (.plain rfl (by omega) ((Reads.seq (.lit "->") hlist).imp ?_))
    rintro nodes ⟨_, _, rfl, rfl, hnodes⟩
    exact hnodes

theorem filterMap_readCommand {commands : List Command} {nodes : List PhraseNode}
    (h : Each CommandRead commands nodes) :
    (nodes.filterMap readCommand).map Command.bare = commands.map Command.bare := by
  induction commands generalizing nodes with
  | nil =>
    obtain rfl : nodes = [] := h
    rfl
  | cons c cs ih =>
    obtain ⟨_, behind, rfl, ⟨n, rfl, c', hread, hbare⟩, hmore⟩ := h
    simp [hread, hbare, ih hmore]

end Frames

abbrev AltRead (a : AltDecl) : List PhraseNode → Prop :=
  OneRead AltOf.bare (· = .alternative) readAlternative a

section Alternatives

variable {d : Nat} {vs : List Word}

theorem readElement_other (source : List Char) {n : PhraseNode} (h : n.rule ≠ .element) :
    readElement source n = pure [] := by
  obtain ⟨rule, span, text, kids⟩ := n
  have hrule : ¬ (rule == Phrase.element) = true := by simpa using h
  rw [readElement, if_neg hrule]

/-- The first node of a phrase is among those where nodes of the phrase are. -/
theorem find?_among {before ns behind : List PhraseNode} {r : Phrase}
    (hbefore : ∀ n ∈ before, n.rule ≠ r) (hbehind : ∀ n ∈ behind, n.rule ≠ r) :
    (before ++ (ns ++ behind)).find? (·.rule == r) = ns.find? (·.rule == r) := by
  have hother : ∀ ms : List PhraseNode, (∀ m ∈ ms, m.rule ≠ r) → ms.find? (·.rule == r) = none :=
    fun ms hms => by simpa using hms
  rw [List.find?_append, List.find?_append, hother before hbefore, hother behind hbehind]
  simp

theorem AssocRead.rule {rightAssoc : Bool} {ns : List PhraseNode} (h : AssocRead rightAssoc ns) :
    ∀ n ∈ ns, n.rule = .elementOptions := by
  cases rightAssoc with
  | true =>
    obtain ⟨s, rfl⟩ := h
    simp
  | false =>
    obtain rfl : ns = [] := h
    simp

theorem AssocRead.read {rightAssoc : Bool} {ns : List PhraseNode} (h : AssocRead rightAssoc ns) :
    (ns.any fun n => n.rule == .elementOptions && isRightAssoc n.text) = rightAssoc := by
  cases rightAssoc with
  | true =>
    obtain ⟨s, rfl⟩ := h
    have hright : isRightAssoc "<assoc=right>".toList = true := by decide +kernel
    simpa using hright
  | false =>
    obtain rfl : ns = [] := h
    rfl

theorem LabelRead.rule {label : Option Ident} {ns : List PhraseNode} (h : LabelRead label ns) :
    ∀ n ∈ ns, n.rule = .alternativeLabel := by
  cases label with
  | none =>
    obtain rfl : ns = [] := h
    simp
  | some name =>
    obtain ⟨_, _, _, rfl, -⟩ := h
    simp

theorem LabelRead.read {label : Option Ident} {ns : List PhraseNode} (h : LabelRead label ns) :
    ((ns.find? (·.rule == .alternativeLabel)).bind fun n => (identsOf n).head?).map Ident.bare =
      label.map Ident.bare := by
  cases label with
  | none =>
    obtain rfl : ns = [] := h
    rfl
  | some name =>
    obtain ⟨_, _, _, rfl, s, rfl⟩ := h
    simp [identsOf_nameNode, Ident.bare]

theorem CommandsRead.rule {commands : List Command} {ns : List PhraseNode}
    (h : CommandsRead commands ns) : ∀ n ∈ ns, n.rule = .lexerCommands := by
  cases commands with
  | nil =>
    obtain rfl : ns = [] := h
    simp
  | cons c cs =>
    obtain ⟨_, _, _, rfl, -⟩ := h
    simp

theorem CommandsRead.read {commands : List Command} {ns : List PhraseNode}
    (h : CommandsRead commands ns) (span : Span) (elements : List ElementDecl) :
    (readAltFrame span ns elements).commands.map Command.bare = commands.map Command.bare := by
  cases commands with
  | nil =>
    obtain rfl : ns = [] := h
    rfl
  | cons c cs =>
    obtain ⟨_, _, _, rfl, hkids⟩ := h
    simpa [readAltFrame] using filterMap_readCommand hkids

theorem readElements_append (source : List Char) {before ns behind : List PhraseNode}
    (hbefore : ∀ n ∈ before, n.rule ≠ .element) (hbehind : ∀ n ∈ behind, n.rule ≠ .element) :
    readElements source (before ++ (ns ++ behind)) = readElements source ns := by
  have hnone : ∀ ms : List PhraseNode, (∀ m ∈ ms, m.rule ≠ .element) →
      (ms.flatMap fun m => (readElement source m).value) = [] ∧
        (ms.flatMap fun m => (readElement source m).defects) = [] := by
    intro ms hms
    simp only [List.flatMap_eq_nil_iff]
    exact ⟨fun m hm => by rw [readElement_other source (hms m hm)]; rfl,
      fun m hm => by rw [readElement_other source (hms m hm)]; rfl⟩
  simp [readElements_eq, hnone before hbefore, hnone behind hbehind]

/-- The parts of an alternative are told apart by their phrases. -/
theorem readAlternative_read {a : AltDecl} {options elements labels commands : List PhraseNode}
    (hoptions : AssocRead a.rightAssoc options) (helements : Each ElementRead a.elements elements)
    (hlabels : LabelRead a.label labels) (hcommands : CommandsRead a.commands commands)
    (source : List Char) (span : Span) (text : List Char) :
    ReadAs AltOf.bare (readAlternative source
      (.mk .alternative span text (options ++ (elements ++ (labels ++ commands))))) [a] := by
  have hbehind : ∀ n ∈ labels ++ commands, n.rule ≠ .element := by
    intro n hn
    rcases List.mem_append.mp hn with hn | hn
    · simp [hlabels.rule n hn]
    · simp [hcommands.rule n hn]
  have hread : readElements source (options ++ (elements ++ (labels ++ commands))) =
      readElements source elements :=
    readElements_append source (fun n hn => by simp [hoptions.rule n hn]) hbehind
  obtain ⟨hdefects, hvalue⟩ := helements.readAs source
  rw [← readElements_eq] at hdefects hvalue
  -- Among all parts, the reader of each finds those of its own phrase.
  have hlabel : (options ++ (elements ++ (labels ++ commands))).find?
      (·.rule == .alternativeLabel) = labels.find? (·.rule == .alternativeLabel) := by
    rw [← List.append_assoc options elements]
    refine find?_among (fun n hn => ?_) (fun n hn => by simp [hcommands.rule n hn])
    rcases List.mem_append.mp hn with hn | hn
    · simp [hoptions.rule n hn]
    · simp [helements.rule n hn]
  have hcommand : (options ++ (elements ++ (labels ++ commands))).find?
      (·.rule == .lexerCommands) = commands.find? (·.rule == .lexerCommands) := by
    have hlast : options ++ (elements ++ (labels ++ commands)) =
        (options ++ (elements ++ labels)) ++ (commands ++ []) := by simp
    rw [hlast]
    refine find?_among (fun n hn => ?_) (by simp)
    simp only [List.mem_append] at hn
    rcases hn with hn | hn | hn
    · simp [hoptions.rule n hn]
    · simp [helements.rule n hn]
    · simp [hlabels.rule n hn]
  have hassoc : ((options ++ (elements ++ (labels ++ commands))).any fun n =>
      n.rule == .elementOptions && isRightAssoc n.text) = a.rightAssoc := by
    rw [List.any_append, hoptions.read, Bool.or_eq_left_iff_imp]
    intro hany
    obtain ⟨n, hn, hrule⟩ := List.any_eq_true.mp hany
    simp only [Bool.and_eq_true, beq_iff_eq] at hrule
    simp only [List.mem_append] at hn
    rcases hn with hn | hn | hn
    · simp [helements.rule n hn] at hrule
    · simp [hlabels.rule n hn] at hrule
    · simp [hcommands.rule n hn] at hrule
  have hcommands' := hcommands.read span []
  simp only [readAltFrame] at hcommands'
  constructor
  · simp [readAlternative, hread, hdefects]
  · simp only [readAlternative, beq_self_eq_true, if_true, Checked.value_bind, Checked.value_pure,
      hread, List.map_cons, List.map_nil, AltOf.bare, readAltFrame, hvalue, hlabel, hcommand,
      hassoc, hlabels.read, hcommands']

theorem ElementOf.avoids {e : ElementDecl} (hproper : e.atom.Proper) (us : List Word) :
    Avoids elementStops (e.words ++ us) := by
  rw [ElementOf.words, List.append_assoc]
  exact Atom.avoids hproper

theorem ElementOf.words_ne_nil {e : ElementDecl} (hproper : e.atom.Proper) : e.words ≠ [] := by
  obtain ⟨w, us, hwords, -⟩ := ElementOf.avoids hproper []
  rw [List.append_nil] at hwords
  simp [hwords]

theorem startsWith_frame (label : Option Ident) (commands : List Command)
    (hvs : StartsWith closings vs) :
    StartsWith ("->" :: closings) (commandWords commands ++ vs) ∧
      StartsWith ("#" :: "->" :: closings) (labelWords label ++ (commandWords commands ++ vs)) := by
  have hcommands : StartsWith ("->" :: closings) (commandWords commands ++ vs) := by
    cases commands with
    | nil => exact hvs.mono (by simp)
    | cons c cs => exact ⟨"->", by simp, _, rfl⟩
  refine ⟨hcommands, ?_⟩
  cases label with
  | none => exact hcommands.mono (by simp)
  | some name => exact ⟨"#", by simp, _, rfl⟩

theorem reads_alternative {a : AltDecl} (hproper : a.Proper)
    (hatoms : ∀ e ∈ a.elements, e.atom.Proper) (hd : 7 ≤ d) (hvs : StartsWith closings vs)
    (helement : ∀ e ∈ a.elements, ∀ us, Avoids elementStops us →
      Reads (d - 1) (.rule .element) e.words us (ElementRead e)) :
    Reads d (.rule .alternative) a.words vs (AltRead a) := by
  obtain ⟨hcommands, hlabel⟩ := startsWith_frame a.label a.commands hvs
  have hnext : Avoids elementStops
      (a.elements.flatMap ElementOf.words ++
        (labelWords a.label ++ (commandWords a.commands ++ vs))) :=
    follows_flatMap (fun e he us => ElementOf.avoids (hatoms e he) us) hlabel.avoids
  have helements : Reads (d - 1) (.many (.rule .element)) (a.elements.flatMap ElementOf.words)
      (labelWords a.label ++ (commandWords a.commands ++ vs)) (Each ElementRead a.elements) :=
    .many_each helement (fun e he => ElementOf.words_ne_nil (hatoms e he))
      (fun e he us => ElementOf.avoids (hatoms e he) us) hlabel.avoids hlabel.refuses_element
  have hlabels : Reads (d - 1) (.optional (.rule .alternativeLabel)) (labelWords a.label)
      (commandWords a.commands ++ vs) (LabelRead a.label) :=
    reads_label? hproper.1 (by omega) (hcommands.firstChar_ne (by decide))
  have hoptions : Reads (d - 1) (.optional (.rule .elementOptions)) (assocWords a.rightAssoc)
      (a.elements.flatMap ElementOf.words ++ (labelWords a.label ++ commandWords a.commands) ++ vs)
      (AssocRead a.rightAssoc) := by
    refine reads_assoc? _ (by omega) ?_
    rw [List.append_assoc, List.append_assoc]
    exact hnext.firstChar_ne (by decide)
  have htail := Reads.seq hlabels (reads_commands hproper.2 (by omega) hvs)
  rw [← List.append_assoc] at helements
  refine (Reads.plain rfl (by omega) (Reads.seq hoptions (Reads.seq helements htail))).imp ?_
  rintro nodes ⟨span, text, _, rfl, options, _, rfl, hopts, elements, _, rfl, helems, labels,
    commands, rfl, hlabs, hcomms⟩
  exact ⟨_, rfl, rfl, fun source =>
    readAlternative_read hopts helems hlabs hcomms source span text⟩

/-- Alternatives with bars between them are read back, if each of them is. -/
theorem reads_alternatives {as : List AltDecl} (hne : as ≠ []) (hd : 1 ≤ d)
    (hvs : StartsWith [";", ")"] vs)
    (halternative : ∀ a ∈ as, ∀ us, StartsWith closings us →
      Reads (d - 1) (.rule .alternative) a.words us (AltRead a)) :
    Reads d (.rule .alternatives) (joined "|" (as.map AltOf.words)) vs
      (OfPhrase .alternatives (Each AltRead as)) := by
  refine .plain rfl hd (Reads.separated hne halternative ?_ ?_ ?_)
  · exact fun us => ⟨"|", by decide, us, rfl⟩
  · exact hvs.mono (by decide)
  · obtain ⟨s, hs, us, rfl⟩ := hvs
    have hbar : ∀ s ∈ [";", ")"], ¬ "|".toList <+: s.toList := by decide
    exact .lit (by decide) (hbar s hs)

theorem ElementOf.unlabelled {e : ElementDecl} (hproper : e.atom.Proper)
    (hvs : Avoids elementStops vs) : Unlabelled (e.words ++ vs) := by
  rw [ElementOf.words, List.append_assoc]
  exact Atom.unlabelled hproper (suffix?_avoids e.suffix hvs)

theorem StartsWith.unlabelled {ws : List Word} (h : StartsWith ("#" :: "->" :: closings) ws) :
    Unlabelled ws := by
  obtain ⟨s, hs, us, rfl⟩ := h
  have hall : ∀ s ∈ "#" :: "->" :: closings, s.toList.head?.any isNameStart = false := by
    decide
  refine .inr fun c hc => ?_
  have hfirst : s.toList.head? = some c := hc
  simpa [hfirst] using hall s hs

theorem AltOf.unlabelled {a : AltDecl} (hatoms : ∀ e ∈ a.elements, e.atom.Proper)
    (hvs : StartsWith closings vs) : Unlabelled (a.words ++ vs) := by
  obtain ⟨-, hlabel⟩ := startsWith_frame a.label a.commands hvs
  obtain ⟨elements, label, commands, rightAssoc, span⟩ := a
  cases rightAssoc with
  | true => exact .inr (by simp [AltOf.words, framed, assocWords, firstChar]; decide)
  | false =>
    simp only [AltOf.words, framed, assocWords, List.append_assoc]
    cases elements with
    | nil => exact hlabel.unlabelled
    | cons e es =>
      have hnext : Avoids elementStops
          (es.flatMap ElementOf.words ++ (labelWords label ++ (commandWords commands ++ vs))) :=
        follows_flatMap
          (fun e he us => ElementOf.avoids (hatoms e (List.mem_cons_of_mem _ he)) us) hlabel.avoids
      have hfirst := ElementOf.unlabelled (hatoms e List.mem_cons_self) hnext
      simpa using hfirst

end Alternatives

end GrammarWorkbench.Declaration
