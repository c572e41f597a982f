import GrammarWorkbench.Run.Token

/-!
# Parse trees
-/

set_option autoImplicit false

namespace GrammarWorkbench.Run

open GrammarWorkbench.Text

inductive Tree where
  | rule (index : Nat) (children : List Tree)
  | token (token : Token)
  | error (text : List Char) (span : Span)
  deriving Repr

namespace Tree

def children : Tree → List Tree
  | rule _ cs => cs
  | _ => []

mutual

/-- The bytes a node covers, from the first to the last child that covers some. -/
def span? : Tree → Option Span
  | rule _ cs =>
    match firstSpan? cs, lastSpan? cs with
    | some a, some b => some ⟨a.start, b.stop⟩
    | _, _ => none
  | token t => some t.span
  | error _ s => some s

def firstSpan? : List Tree → Option Span
  | [] => none
  | t :: ts =>
    match span? t with
    | some s => some s
    | none => firstSpan? ts

def lastSpan? : List Tree → Option Span
  | [] => none
  | t :: ts =>
    match lastSpan? ts with
    | some s => some s
    | none => span? t

end

mutual

def leafTokens : Tree → List Token
  | rule _ cs => allLeafTokens cs
  | token t => [t]
  | error _ _ => []

def allLeafTokens : List Tree → List Token
  | [] => []
  | t :: ts => leafTokens t ++ allLeafTokens ts

end

mutual

def errorNodes : Tree → List (List Char × Span)
  | rule _ cs => allErrorNodes cs
  | token _ => []
  | error text s => [(text, s)]

def allErrorNodes : List Tree → List (List Char × Span)
  | [] => []
  | t :: ts => errorNodes t ++ allErrorNodes ts

end

def label (ruleNames : List String) : Tree → String
  | rule i _ => ruleNames[i]?.getD s!"<rule {i}>"
  | token t => if t.isEnd then "<EOF>" else String.ofList (visible t.text)
  | error text _ => String.ofList (visible text)

mutual

def lisp (ruleNames : List String) : Tree → String
  | rule i [] => label ruleNames (rule i [])
  | rule i (c :: cs) =>
    "(" ++ label ruleNames (rule i []) ++ " " ++ lisp ruleNames c ++ lispTail ruleNames cs ++ ")"
  | token t => label ruleNames (token t)
  | error text s => label ruleNames (error text s)

def lispTail (ruleNames : List String) : List Tree → String
  | [] => ""
  | t :: ts => " " ++ lisp ruleNames t ++ lispTail ruleNames ts

end

mutual

def outlineLines (ruleNames : List String) (depth : Nat) : Tree → List (Nat × String)
  | rule i cs => (depth, label ruleNames (rule i [])) :: allOutlineLines ruleNames (depth + 1) cs
  | token t => [(depth, t.typeName ++ " " ++ t.display)]
  | error text s => [(depth, "<error> " ++ label ruleNames (error text s))]

def allOutlineLines (ruleNames : List String) (depth : Nat) : List Tree → List (Nat × String)
  | [] => []
  | t :: ts => outlineLines ruleNames depth t ++ allOutlineLines ruleNames depth ts

end

def outline (ruleNames : List String) (t : Tree) : String :=
  String.join ((outlineLines ruleNames 0 t).map fun (depth, line) =>
    String.ofList (List.replicate (2 * depth) ' ') ++ line ++ "\n")

end Tree

end GrammarWorkbench.Run
