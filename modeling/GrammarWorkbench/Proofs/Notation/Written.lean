import GrammarWorkbench.Declaration.Basic
import GrammarWorkbench.Declaration.Phrase

/-!
# Written grammars

The words in which the declarations of a document are written, one after the other, and the texts
in which words can stand: with blanks and comments before the first, between any two, and behind
the last. A `Draft` holds what a document declares in the order in which it is written. Declarations
are compared without their spans.
-/

set_option autoImplicit false

namespace GrammarWorkbench.Declaration

open GrammarWorkbench.Text

abbrev Word := List Char

inductive Layout : List Char → Prop
  | nil : Layout []
  | blank {c : Char} {cs : List Char} (hc : Phrase.isLayoutBlank c = true) (hcs : Layout cs) :
      Layout (c :: cs)
  | block {body cs : List Char} (hbody : ¬ ['*', '/'] <:+: body) (hcs : Layout cs) :
      Layout ('/' :: '*' :: body ++ '*' :: '/' :: cs)
  | line {body cs : List Char} (hbody : '\n' ∉ body) (hcs : Layout cs) :
      Layout ('/' :: '/' :: body ++ '\n' :: cs)

/-- Words with layout behind each of them. Only behind the last it may be missing. -/
inductive Spread : List Word → List Char → Prop
  | nil : Spread [] []
  | cons {w : Word} {ws : List Word} {gap text : List Char} (hgap : Layout gap)
      (hapart : ws ≠ [] → gap ≠ []) (hws : Spread ws text) : Spread (w :: ws) (w ++ gap ++ text)

def Written (ws : List Word) (text : List Char) : Prop :=
  ∃ lead spread, Layout lead ∧ Spread ws spread ∧ text = lead ++ spread

theorem spread_flatMap (ws : List Word) {gap : List Char} (hgap : Layout gap) (hne : gap ≠ []) :
    Spread ws (ws.flatMap (· ++ gap)) := by
  induction ws with
  | nil => exact .nil
  | cons w ws ih => exact .cons hgap (fun _ => hne) ih

def literalChar : Char → List Char
  | '\n' => ['\\', 'n']
  | '\r' => ['\\', 'r']
  | '\'' => ['\\', '\'']
  | '\\' => ['\\', '\\']
  | c => [c]

def literalWord (text : List Char) : Word := '\'' :: text.flatMap literalChar ++ ['\'']

def setChar : Char → List Char
  | '\n' => ['\\', 'n']
  | '\r' => ['\\', 'r']
  | '\\' => ['\\', '\\']
  | ']' => ['\\', ']']
  | '-' => ['\\', '-']
  | c => [c]

/-- A member of a set. A range of one character is written as that character. -/
def ClassItem.spelled : ClassItem → List Char
  | .range lo hi => if lo = hi then setChar lo else setChar lo ++ '-' :: setChar hi
  | .property name negated =>
    '\\' :: (if negated then 'P' else 'p') :: '\x7b' :: name.toList ++ ['\x7d']

def setWord (items : List ClassItem) : Word := '[' :: items.flatMap ClassItem.spelled ++ [']']

def rangeWords (lo hi : Char) : List Word := [literalWord [lo], "..".toList, literalWord [hi]]

def Ident.word (ident : Ident) : Word := ident.name.toList

def SetItem.words : SetItem → List Word
  | .literal text _ => [literalWord text]
  | .range lo hi => rangeWords lo hi
  | .set items => [setWord items]
  | .ref ident => [ident.word]

def joined (separator : String) : List (List Word) → List Word
  | [] => []
  | part :: parts => part ++ parts.flatMap (separator.toList :: ·)

def notWords : List SetItem → List Word
  | [item] => "~".toList :: item.words
  | items => "~".toList :: "(".toList :: joined "|" (items.map SetItem.words) ++ [")".toList]

def suffixMark : RepeatKind → Char
  | .optional => '?'
  | .zeroOrMore => '*'
  | .oneOrMore => '+'

def Suffix.word (suffix : Suffix) : Word :=
  suffixMark suffix.kind :: if suffix.greedy then [] else ['?']

def assocWords (rightAssoc : Bool) : List Word :=
  if rightAssoc then ["<assoc=right>".toList] else []

def labelWords : Option Ident → List Word
  | none => []
  | some label => ["#".toList, label.word]

def Command.words (command : Command) : List Word :=
  command.name.word :: match command.argument with
    | none => []
    | some argument => ["(".toList, argument.word, ")".toList]

def commandWords : List Command → List Word
  | [] => []
  | commands => "->".toList :: joined "," (commands.map Command.words)

def framed (rightAssoc : Bool) (elements : List Word) (label : Option Ident)
    (commands : List Command) : List Word :=
  assocWords rightAssoc ++ (elements ++ (labelWords label ++ commandWords commands))

mutual

def Atom.words : Atom → List Word
  | .ref ident => [ident.word]
  | .literal text => [literalWord text]
  | .range lo hi => rangeWords lo hi
  | .set items => [setWord items]
  | .wildcard => [".".toList]
  | .not items => notWords items
  | .group alternatives =>
    "(".toList :: joined "|" (wordsOfAlternatives alternatives) ++ [")".toList]

def wordsOfElements : List ElementDecl → List Word
  | [] => []
  | ⟨atom, suffix, _⟩ :: rest =>
    (atom.words ++ (suffix.map Suffix.word).toList) ++ wordsOfElements rest

def wordsOfAlternatives : List AltDecl → List (List Word)
  | [] => []
  | ⟨elements, label, commands, rightAssoc, _⟩ :: rest =>
    framed rightAssoc (wordsOfElements elements) label commands :: wordsOfAlternatives rest

end

def ElementOf.words (e : ElementDecl) : List Word :=
  e.atom.words ++ (e.suffix.map Suffix.word).toList

def AltOf.words (a : AltDecl) : List Word :=
  framed a.rightAssoc (a.elements.flatMap ElementOf.words) a.label a.commands

theorem wordsOfElements_eq (es : List ElementDecl) :
    wordsOfElements es = es.flatMap ElementOf.words := by
  induction es with
  | nil => simp [wordsOfElements]
  | cons e es ih => simp [wordsOfElements, ElementOf.words, ih]

theorem wordsOfAlternatives_eq (as : List AltDecl) :
    wordsOfAlternatives as = as.map AltOf.words := by
  induction as with
  | nil => simp [wordsOfAlternatives]
  | cons a as ih => simp [wordsOfAlternatives, AltOf.words, wordsOfElements_eq, ih]

def RuleDecl.words (r : RuleDecl) : List Word :=
  (if r.fragment.isSome then ["fragment".toList] else []) ++ (r.name.word :: ":".toList ::
    joined "|" (r.alternatives.map AltOf.words) ++ [";".toList])

def Header.words (header : Header) : List Word :=
  (match header.kind with
    | .combined => []
    | .lexer => ["lexer".toList]
    | .parser => ["parser".toList]) ++ ["grammar".toList, header.name.word, ";".toList]

def blockWords (keyword : String) : List Ident → List Word
  | [] => []
  | names => keyword.toList :: "\x7b".toList :: joined "," (names.map fun name => [name.word]) ++
      ["\x7d".toList]

inductive Item where
  | mode (name : Ident)
  | rule (r : RuleDecl)

def Item.words : Item → List Word
  | .mode name => ["mode".toList, name.word, ";".toList]
  | .rule r => r.words

def Item.mode? : Item → Option Ident
  | .mode name => some name
  | .rule _ => none

/-- The rules of some items. Each is in the mode that as many declarations before it as its number
say, when `mode` of them were made before all items. -/
def numbered (mode : Nat) : List Item → List RuleDecl
  | [] => []
  | .mode _ :: items => numbered (mode + 1) items
  | .rule r :: items => { r with mode := mode } :: numbered mode items

/-- What a document declares, in the order in which it is written. The modes of its rules count for
nothing. -/
structure Draft where
  header : Option Header
  imports : List Ident
  tokens : List Ident
  channels : List Ident
  items : List Item

def Draft.words (d : Draft) : List Word :=
  (d.header.map Header.words).getD [] ++
    (d.imports.flatMap (fun name => ["import".toList, name.word, ";".toList]) ++
      (blockWords "tokens" d.tokens ++
        (blockWords "channels" d.channels ++ d.items.flatMap Item.words)))

def Draft.declarations (d : Draft) : GrammarDecl where
  header := d.header
  tokens := d.tokens
  channels := d.channels
  imports := d.imports
  modes := d.items.filterMap Item.mode?
  rules := numbered 0 d.items

def isNameChar (c : Char) : Bool := c.isAlphanum || c == '_'

def isNameStart (c : Char) : Bool := c.isAlpha || c == '_'

def IsName : Word → Prop
  | [] => False
  | c :: cs => isNameStart c = true ∧ ∀ d ∈ cs, isNameChar d = true

instance : DecidablePred IsName
  | [] => isFalse id
  | _ :: cs => @instDecidableAnd _ _ inferInstance (List.decidableBAll _ cs)

def IsNumber (w : Word) : Prop := w ≠ [] ∧ ∀ d ∈ w, d.isDigit = true

instance (w : Word) : Decidable (IsNumber w) :=
  @instDecidableAnd _ _ inferInstance (List.decidableBAll _ w)

def propertyStops : List Char := ['\x7d', ']', '\\', '\n', '\r']

def ClassItem.Proper : ClassItem → Prop
  | .range lo hi => lo ≤ hi
  | .property name _ => ∀ c ∈ name.toList, c ∉ propertyStops

instance : DecidablePred ClassItem.Proper
  | .range _ _ => inferInstanceAs (Decidable (_ ≤ _))
  | .property name _ => List.decidableBAll _ name.toList

def SetItem.Proper : SetItem → Prop
  | .literal text _ => text ≠ []
  | .range lo hi => lo ≤ hi
  | .set items => ∀ item ∈ items, item.Proper
  | .ref ident => IsName ident.word

instance : DecidablePred SetItem.Proper
  | .literal _ _ => inferInstanceAs (Decidable (_ ≠ _))
  | .range _ _ => inferInstanceAs (Decidable (_ ≤ _))
  | .set _ => inferInstanceAs (Decidable (∀ item ∈ _, _))
  | .ref _ => inferInstanceAs (Decidable (IsName _))

def Command.Proper (command : Command) : Prop :=
  IsName command.name.word ∧
    ∀ argument ∈ command.argument, IsName argument.word ∨ IsNumber argument.word

instance : DecidablePred Command.Proper := fun _ => inferInstanceAs (Decidable (_ ∧ _))

def AltOf.Proper (a : AltDecl) : Prop :=
  (∀ label ∈ a.label, IsName label.word) ∧ ∀ command ∈ a.commands, command.Proper

instance (a : AltDecl) : Decidable a.Proper := inferInstanceAs (Decidable (_ ∧ _))

def Atom.Proper : Atom → Prop
  | .ref ident => IsName ident.word
  | .literal text => text ≠ []
  | .range lo hi => lo ≤ hi
  | .set items => ∀ item ∈ items, item.Proper
  | .wildcard => True
  | .not items => ∀ item ∈ items, item.Proper
  | .group alternatives => ∀ a ∈ alternatives, a.Proper

instance : DecidablePred Atom.Proper
  | .ref _ => inferInstanceAs (Decidable (IsName _))
  | .literal _ => inferInstanceAs (Decidable (_ ≠ _))
  | .range _ _ => inferInstanceAs (Decidable (_ ≤ _))
  | .set _ => inferInstanceAs (Decidable (∀ item ∈ _, _))
  | .wildcard => inferInstanceAs (Decidable True)
  | .not _ => inferInstanceAs (Decidable (∀ item ∈ _, _))
  | .group _ => inferInstanceAs (Decidable (∀ a ∈ _, _))

def ItemsComplete (items : List ClassItem) : Prop :=
  items ≠ [] ∧ ∀ item ∈ items, ∀ negated, item ≠ .property "" negated

instance (items : List ClassItem) : Decidable (ItemsComplete items) :=
  inferInstanceAs (Decidable (_ ∧ _))

def SetItem.Complete : SetItem → Prop
  | .set items => ItemsComplete items
  | _ => True

instance : DecidablePred SetItem.Complete
  | .set _ => inferInstanceAs (Decidable (ItemsComplete _))
  | .literal _ _ => inferInstanceAs (Decidable True)
  | .range _ _ => inferInstanceAs (Decidable True)
  | .ref _ => inferInstanceAs (Decidable True)

def Atom.Complete : Atom → Prop
  | .set items => ItemsComplete items
  | .not items => items ≠ [] ∧ ∀ item ∈ items, item.Complete
  | .group alternatives => alternatives ≠ []
  | _ => True

instance : DecidablePred Atom.Complete
  | .set _ => inferInstanceAs (Decidable (ItemsComplete _))
  | .not _ => inferInstanceAs (Decidable (_ ∧ _))
  | .group [] => isFalse (· rfl)
  | .group (_ :: _) => isTrue (List.cons_ne_nil _ _)
  | .ref _ => inferInstanceAs (Decidable True)
  | .literal _ => inferInstanceAs (Decidable True)
  | .range _ _ => inferInstanceAs (Decidable True)
  | .wildcard => inferInstanceAs (Decidable True)

mutual

def Atom.inside : Atom → List Atom
  | .group alternatives => .group alternatives :: insideAlternatives alternatives
  | atom => [atom]

def insideElements : List ElementDecl → List Atom
  | [] => []
  | ⟨atom, _, _⟩ :: rest => atom.inside ++ insideElements rest

def insideAlternatives : List AltDecl → List Atom
  | [] => []
  | ⟨elements, _, _, _, _⟩ :: rest => insideElements elements ++ insideAlternatives rest

end

theorem insideElements_eq (es : List ElementDecl) :
    insideElements es = es.flatMap fun e => e.atom.inside := by
  induction es with
  | nil => simp [insideElements]
  | cons e es ih => simp [insideElements, ih]

theorem insideAlternatives_eq (as : List AltDecl) :
    insideAlternatives as = as.flatMap fun a => a.elements.flatMap fun e => e.atom.inside := by
  induction as with
  | nil => simp [insideAlternatives]
  | cons a as ih => simp [insideAlternatives, insideElements_eq, ih]

theorem mem_insideAlternatives {as : List AltDecl} {a : AltDecl} {e : ElementDecl} {b : Atom}
    (ha : a ∈ as) (he : e ∈ a.elements) (hb : b ∈ e.atom.inside) : b ∈ insideAlternatives as := by
  rw [insideAlternatives_eq]
  exact List.mem_flatMap.mpr ⟨a, ha, List.mem_flatMap.mpr ⟨e, he, hb⟩⟩

/-- The conditions on an item: names are names, and a rule that makes tokens or phrases is not named
like the modifier that keeps a rule from it. -/
def Item.Proper : Item → Prop
  | .mode name => IsName name.word
  | .rule r => IsName r.name.word ∧ (r.fragment.isNone → r.name.name ≠ "fragment") ∧
      (∀ a ∈ r.alternatives, a.Proper) ∧ ∀ atom ∈ insideAlternatives r.alternatives, atom.Proper

instance : DecidablePred Item.Proper
  | .mode _ => inferInstanceAs (Decidable (IsName _))
  | .rule _ => inferInstanceAs (Decidable (_ ∧ _))

def Draft.Proper (d : Draft) : Prop :=
  (∀ header ∈ d.header, IsName header.name.word) ∧
    (∀ name ∈ d.imports ++ d.tokens ++ d.channels, IsName name.word) ∧
    ∀ item ∈ d.items, item.Proper

instance : DecidablePred Draft.Proper := fun _ => inferInstanceAs (Decidable (_ ∧ _))

def Item.Complete : Item → Prop
  | .mode _ => True
  | .rule r => r.alternatives.length ≠ 0 ∧
      ∀ atom ∈ insideAlternatives r.alternatives, atom.Complete

instance : DecidablePred Item.Complete
  | .mode _ => inferInstanceAs (Decidable True)
  | .rule _ => inferInstanceAs (Decidable (_ ∧ _))

def Draft.Complete (d : Draft) : Prop := ∀ item ∈ d.items, item.Complete

instance : DecidablePred Draft.Complete := fun _ => inferInstanceAs (Decidable (∀ item ∈ _, _))

def Ident.bare (ident : Ident) : Ident := { ident with span := .empty 0 }

def SetItem.bare : SetItem → SetItem
  | .literal text _ => .literal text (.empty 0)
  | .ref ident => .ref ident.bare
  | item => item

def Command.bare (command : Command) : Command :=
  ⟨command.name.bare, command.argument.map Ident.bare⟩

mutual

def Atom.bare : Atom → Atom
  | .ref ident => .ref ident.bare
  | .not items => .not (items.map SetItem.bare)
  | .group alternatives => .group (bareAlternatives alternatives)
  | atom => atom

def bareElements : List ElementDecl → List ElementDecl
  | [] => []
  | ⟨atom, suffix, _⟩ :: rest => ⟨atom.bare, suffix, .empty 0⟩ :: bareElements rest

def bareAlternatives : List AltDecl → List AltDecl
  | [] => []
  | ⟨elements, label, commands, rightAssoc, _⟩ :: rest =>
    ⟨bareElements elements, label.map Ident.bare, commands.map Command.bare, rightAssoc, .empty 0⟩
      :: bareAlternatives rest

end

def ElementOf.bare (e : ElementDecl) : ElementDecl := ⟨e.atom.bare, e.suffix, .empty 0⟩

def AltOf.bare (a : AltDecl) : AltDecl :=
  ⟨a.elements.map ElementOf.bare, a.label.map Ident.bare, a.commands.map Command.bare,
    a.rightAssoc, .empty 0⟩

theorem bareElements_eq (es : List ElementDecl) : bareElements es = es.map ElementOf.bare := by
  induction es with
  | nil => simp [bareElements]
  | cons e es ih => simp [bareElements, ElementOf.bare, ih]

theorem bareAlternatives_eq (as : List AltDecl) : bareAlternatives as = as.map AltOf.bare := by
  induction as with
  | nil => simp [bareAlternatives]
  | cons a as ih => simp [bareAlternatives, AltOf.bare, bareElements_eq, ih]

def RuleDecl.bare (r : RuleDecl) : RuleDecl where
  name := r.name.bare
  fragment := r.fragment.map fun _ => .empty 0
  mode := r.mode
  alternatives := r.alternatives.map AltOf.bare
  span := .empty 0

def Header.bare (header : Header) : Header := { header with name := header.name.bare }

def GrammarDecl.bare (g : GrammarDecl) : GrammarDecl where
  header := g.header.map Header.bare
  tokens := g.tokens.map Ident.bare
  channels := g.channels.map Ident.bare
  imports := g.imports.map Ident.bare
  modes := g.modes.map Ident.bare
  rules := g.rules.map RuleDecl.bare

end GrammarWorkbench.Declaration
