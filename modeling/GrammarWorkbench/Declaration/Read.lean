import GrammarWorkbench.Declaration.Escape
import GrammarWorkbench.Declaration.Phrase
import GrammarWorkbench.Diagnostic.Checked
import GrammarWorkbench.Text.Property

/-!
# Reading a grammar document

A document is recognised first. A text that is no grammar gives one syntax error, which names what
was expected at the furthest point reached. The nodes of a recognised text become declarations;
literals and sets that cannot be decoded are reported and left out.
-/

set_option autoImplicit false

namespace GrammarWorkbench.Declaration

open GrammarWorkbench.Text GrammarWorkbench.Recognizer GrammarWorkbench.Diagnostic

abbrev PhraseNode := Node Phrase

def enumerate : List String → String
  | [] => ""
  | [a] => a
  | [a, b] => s!"{a} or {b}"
  | names => ", ".intercalate names.dropLast ++ ", or " ++ names.getLast?.getD ""

/-- The error for a text that is no grammar: each phrase that was tried at the furthest offset is
named once, in the order of the notation. -/
def syntaxDefect (text : List Char) (a : Attempts Phrase) : Defect :=
  let expected := Phrase.inOrder.filter fun p => a.expected.contains p
  .inText text (.grammarSyntax ("expected " ++ enumerate (expected.map Phrase.describe)))
    (.empty a.furthest)

def identOf (n : PhraseNode) : Ident := ⟨String.ofList n.text, n.span⟩

def isName (n : PhraseNode) : Bool := n.rule == .identifier || n.rule == .integer

def identsOf (n : PhraseNode) : List Ident := (n.children.filter isName).map identOf

def inner (text : List Char) : List Char := (text.drop 1).dropLast

def trim (cs : List Char) : List Char :=
  ((cs.dropWhile isBlank).reverse.dropWhile isBlank).reverse

def isAssocRight (option : List Char) : Bool :=
  match splitAt? ['='] option with
  | some (key, value) => trim key == "assoc".toList && trim value == "right".toList
  | none => false

def isRightAssoc (options : List Char) : Bool :=
  let body := options.dropWhile (· == '<')
  let body := (body.reverse.dropWhile (· == '>')).reverse
  (cutAt ',' body).any isAssocRight

def suffixOf (text : List Char) : Suffix :=
  let kind : RepeatKind :=
    match text with
    | '*' :: _ => .zeroOrMore
    | '+' :: _ => .oneOrMore
    | _ => .optional
  ⟨kind, text.length == 1⟩

section Reading

variable (source : List Char)

def readLiteral (n : PhraseNode) : Checked (Option (List Char)) :=
  match decodeLiteral (inner n.text) with
  | .ok text => pure (some text)
  | .error fault =>
    .missing (.inText source (.invalidLiteral (String.ofList n.text) fault.message) n.span)

def readCharSet (n : PhraseNode) : Checked (Option (List ClassItem)) :=
  match decodeClass (inner n.text) with
  | .ok items => pure (some items)
  | .error fault =>
    .missing (.inText source (.invalidCharSet (String.ofList n.text) fault.message) n.span)

def readBound (n : PhraseNode) : Checked (Option Char) := do
  match ← readLiteral source n with
  | none => return none
  | some [c] => return some c
  | some _ =>
    .missing (.inText source
      (.invalidLiteral (String.ofList n.text) "range bounds must be single characters") n.span)

/-- The two bounds of a range. A faulty first bound leaves the second unread. -/
def readRange (n : PhraseNode) : Checked (Option (Char × Char)) := do
  match n.children with
  | [lower, upper] =>
    match ← readBound source lower with
    | none => return none
    | some lo =>
      match ← readBound source upper with
      | none => return none
      | some hi =>
        if lo ≤ hi then return some (lo, hi)
        else
          .missing (.inText source
            (.invalidCharSet (String.ofList n.text) "range bounds are reversed") n.span)
  | _ => return none

def readSetItem (n : PhraseNode) : Checked (Option SetItem) := do
  match n.rule with
  | .stringLiteral => return (← readLiteral source n).map (.literal · n.span)
  | .charSet => return (← readCharSet source n).map .set
  | .range => return (← readRange source n).map fun (lo, hi) => .range lo hi
  | .ruleRef => return (identsOf n).head?.map .ref
  | _ => return none

def readNotSet (n : PhraseNode) : Checked (List SetItem) :=
  .eachSome (readSetItem source)
    (n.children.flatMap fun m => if m.rule == .setGroup then m.children else [m])

def readCommand (n : PhraseNode) : Option Command :=
  match n.children with
  | name :: rest => some ⟨identOf name, rest.head?.map identOf⟩
  | [] => none

def readAltFrame (span : Span) (kids : List PhraseNode) (elements : List ElementDecl) :
    AltDecl where
  elements := elements
  label := (kids.find? (·.rule == .alternativeLabel)).bind fun n => (identsOf n).head?
  commands :=
    match kids.find? (·.rule == .lexerCommands) with
    | some n => n.children.filterMap readCommand
    | none => []
  rightAssoc := kids.any fun n => n.rule == .elementOptions && isRightAssoc n.text
  span := span

def readSuffix (kids : List PhraseNode) : Option Suffix :=
  (kids.find? (·.rule == .suffix)).map fun n => suffixOf n.text

mutual

def readAlternatives : List PhraseNode → Checked (List AltDecl)
  | [] => pure []
  | n :: ns => do
    let alts ← readAlternative n
    return alts ++ (← readAlternatives ns)

def readAlternative : PhraseNode → Checked (List AltDecl)
  | .mk rule span _ kids =>
    if rule == .alternative then do
      return [readAltFrame span kids (← readElements kids)]
    else pure []

/-- The elements among some nodes. Actions and faulty elements are left out. -/
def readElements : List PhraseNode → Checked (List ElementDecl)
  | [] => pure []
  | n :: ns => do
    let elements ← readElement n
    return elements ++ (← readElements ns)

def readElement : PhraseNode → Checked (List ElementDecl)
  | .mk rule span _ kids =>
    if rule == .element then do
      return (← readAtoms kids).map fun atom => ⟨atom, readSuffix kids, span⟩
    else pure []

def readAtoms : List PhraseNode → Checked (List Atom)
  | [] => pure []
  | n :: ns => do
    let atoms ← readAtom n
    return atoms ++ (← readAtoms ns)

def readAtom : PhraseNode → Checked (List Atom)
  | .mk .ruleRef span text kids =>
    pure ((identsOf (.mk .ruleRef span text kids)).head?.map Atom.ref).toList
  | .mk .stringLiteral span text kids => do
    return ((← readLiteral source (.mk .stringLiteral span text kids)).map Atom.literal).toList
  | .mk .charSet span text kids => do
    return ((← readCharSet source (.mk .charSet span text kids)).map Atom.set).toList
  | .mk .range span text kids => do
    let range ← readRange source (.mk .range span text kids)
    return (range.map fun (lo, hi) => Atom.range lo hi).toList
  | .mk .wildcard _ _ _ => pure [.wildcard]
  | .mk .notSet span text kids => do
    return [.not (← readNotSet source (.mk .notSet span text kids))]
  | .mk .group _ _ kids => do
    return [.group (← readGroup kids)]
  | _ => pure []

def readGroup : List PhraseNode → Checked (List AltDecl)
  | [] => pure []
  | .mk rule _ _ kids :: ns =>
    if rule == .alternatives then readAlternatives kids else readGroup ns

end

def readRule (mode : Nat) (n : PhraseNode) : Checked (Option RuleDecl) := do
  let alternatives ← readGroup source n.children
  match n.children.find? (·.rule == .identifier) with
  | none => return none
  | some name =>
    return some {
      name := identOf name
      fragment := (n.children.find? (·.rule == .fragmentModifier)).map Node.span
      mode := mode
      alternatives := alternatives
      span := n.span }

/-- The rules among some nodes, when `mode` modes were declared before them. -/
def readRules (mode : Nat) : List PhraseNode → Checked (List RuleDecl)
  | [] => pure []
  | n :: ns =>
    if n.rule == .modeSpec then readRules (mode + 1) ns
    else if n.rule == .ruleSpec then do
      let rule ← readRule source mode n
      return rule.toList ++ (← readRules mode ns)
    else readRules mode ns

end Reading

def readHeader (n : PhraseNode) : Option Header := do
  let name ← n.children.find? (·.rule == .identifier)
  let kind : GrammarKind :=
    match (n.children.find? (·.rule == .headerKind)).bind (·.children.head?) with
    | some k =>
      if k.rule == .kwLexer then .lexer
      else if k.rule == .kwParser then .parser
      else .combined
    | none => .combined
  return ⟨kind, identOf name⟩

def below (phrase : Phrase) (n : PhraseNode) : List PhraseNode :=
  n.children.filter (·.rule == phrase)

def readDocument (source : List Char) (n : PhraseNode) : Checked GrammarDecl := do
  let rules ← readRules source 0 n.children
  return {
    header := (below .header n).head?.bind readHeader
    tokens := (below .tokensSpec n).flatMap identsOf
    channels := (below .channelsSpec n).flatMap identsOf
    imports := (below .importSpec n).flatMap fun m => (identsOf m).take 1
    modes := (below .modeSpec n).flatMap fun m => (identsOf m).take 1
    rules := rules }

def read (text : List Char) : Except Defect (Checked GrammarDecl) :=
  match recognize Phrase.rules Phrase.inOrder.length .document text with
  | .error attempts => .error (syntaxDefect text attempts)
  | .ok node => .ok (readDocument text node)

end GrammarWorkbench.Declaration
