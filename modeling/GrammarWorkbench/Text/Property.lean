import GrammarWorkbench.Text.Tables.Category
import GrammarWorkbench.Text.Tables.Script
import GrammarWorkbench.Text.Tables.Binary
import GrammarWorkbench.Text.Tables.Age
import GrammarWorkbench.Text.Tables.Boundary
import GrammarWorkbench.Text.Tables.Display
import GrammarWorkbench.Text.Scan

/-!
# Character properties by name

A property is written as a name (`Lu`, `Greek`, `White_Space`) or as a name and a value
(`Script=Greek`). Names are matched loosely: case, blanks, dashes and underscores do not count,
and a leading `is` is dropped.
-/

set_option autoImplicit false

namespace GrammarWorkbench.Text

namespace Property

def isSeparator (c : Char) : Bool :=
  c == ' ' || c == '_' || c == '-'

def squeeze (cs : List Char) : List Char :=
  (cs.filter fun c => !isSeparator c && c.toNat < 128).map Char.toLower

/-- The loose form of a name after a leading `is` is dropped. The short name `isc` keeps it. -/
def normalize (name : String) : String :=
  match name.toList with
  | a :: b :: rest =>
    if a.toLower == 'i' && b.toLower == 's' then
      let tail := squeeze rest
      if tail == ['c'] then "isc" else String.ofList tail
    else String.ofList (squeeze (a :: b :: rest))
  | cs => String.ofList (squeeze cs)

def category (name : String) : CodeRanges := (findTable categories name).getD .empty

def categoryGroups : List PropertyTable := [
  group ["l", "letter"] ["lu", "ll", "lt", "lm", "lo"],
  group ["lc", "casedletter"] ["lu", "ll", "lt"],
  group ["m", "mark", "combiningmark"] ["mn", "mc", "me"],
  group ["n", "number"] ["nd", "nl", "no"],
  group ["p", "punctuation", "punct"] ["pc", "pd", "ps", "pe", "pi", "pf", "po"],
  group ["s", "symbol"] ["sm", "sc", "sk", "so"],
  group ["z", "separator"] ["zs", "zl", "zp"],
  ⟨["c", "other"], .union (.surrogates :: ["cc", "cf", "co", "cn"].map category)⟩,
  ⟨["any"], .all⟩,
  ⟨["ascii"], ⟨[(0, 127)]⟩⟩,
  ⟨["assigned"], (category "cn").complement⟩]
where
  group (names parts : List String) : PropertyTable := ⟨names, .union (parts.map category)⟩

def anyCategory? (name : String) : Option CodeRanges :=
  (findTable categoryGroups name).or (findTable categories name)

def ageUpTo? (name : String) : Option CodeRanges :=
  (ages.findIdx? (·.names.contains name)).map fun i =>
    .union ((ages.take (i + 1)).map PropertyTable.members)

/-- A property given by one name. The short names `cf`, `sc` and `lc` are categories. -/
def byName? (name : String) : Option CodeRanges :=
  ((findTable binaryProperties name).or (anyCategory? name)).or (findTable scripts name)

def byValue? (name value : String) : Option CodeRanges :=
  if name == "gc" || name == "generalcategory" then anyCategory? value
  else if name == "sc" || name == "script" then findTable scripts value
  else if name == "scx" || name == "scriptextensions" then findTable scriptExtensions value
  else if name == "age" then ageUpTo? value
  else if name == "gcb" || name == "graphemeclusterbreak" then findTable clusterBreaks value
  else if name == "wb" || name == "wordbreak" then findTable wordBreaks value
  else if name == "sb" || name == "sentencebreak" then findTable sentenceBreaks value
  else none

structure Reference where
  members : CodeRanges
  negated : Bool

def reference? (written : String) : Option Reference :=
  let cs := written.toList
  let valued (l r : List Char) (negated : Bool) : Option Reference :=
    (byValue? (normalize (String.ofList l)) (normalize (String.ofList r))).map (⟨·, negated⟩)
  match splitAt? ['!', '='] cs with
  | some (l, r) => valued l r true
  | none =>
    match splitAt? [':'] cs with
    | some (l, r) => valued l r false
    | none =>
      match splitAt? ['='] cs with
      | some (l, r) => valued l r false
      | none => (byName? (normalize written)).map (⟨·, false⟩)

def find? (written : String) (negated : Bool) : Option CodeRanges :=
  (reference? written).map fun r =>
    if r.negated == negated then r.members else r.members.complement

end Property

def hasProperty (name : String) (c : Char) : Bool :=
  ((findTable binaryProperties name).getD .empty).contains c

def hasCategory (name : String) (c : Char) : Bool := (Property.category name).contains c

def isWordChar (c : Char) : Bool :=
  if c.toNat < 128 then c.isAlphanum || c == '_'
  else
    hasProperty "alpha" c || ["mn", "mc", "me", "nd", "pc"].any (hasCategory · c) ||
      hasProperty "joinc" c

def isBlank (c : Char) : Bool := hasProperty "wspace" c

def isAlphanumeric (c : Char) : Bool :=
  if c.toNat < 128 then c.isAlphanum else alphanumerics.contains c

def extendsCluster (c : Char) : Bool := joiningMarks.contains c

def isPrintable (c : Char) : Bool := !hiddenCharacters.contains c

end GrammarWorkbench.Text
