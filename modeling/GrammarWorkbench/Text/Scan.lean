/-!
# Finding a marker in a text
-/

set_option autoImplicit false

namespace GrammarWorkbench.Text

def splitAt? (marker : List Char) : List Char → Option (List Char × List Char)
  | [] => none
  | c :: cs =>
    if marker.isPrefixOf (c :: cs) then some ([], (c :: cs).drop marker.length)
    else (splitAt? marker cs).map fun (before, behind) => (c :: before, behind)

def cutAt (mark : Char) : List Char → List (List Char)
  | [] => [[]]
  | c :: cs =>
    if c = mark then [] :: cutAt mark cs
    else
      match cutAt mark cs with
      | [] => [[c]]
      | part :: parts => (c :: part) :: parts

end GrammarWorkbench.Text
