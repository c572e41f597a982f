import GrammarWorkbench.Render.Result
import GrammarWorkbench.Text.Number

/-!
# Arguments of the command line

Options are given by a letter (`-g FILE`, `-gFILE`, `-g=FILE`) or by a word (`--grammar FILE`,
`--grammar=FILE`). Letters without values can stand together. The value of an option that comes
as an argument of its own is looked at only when the next option or the end is reached.
-/

set_option autoImplicit false

namespace GrammarWorkbench.CommandLine

open GrammarWorkbench.Text GrammarWorkbench.Render GrammarWorkbench.Run

/-- Why arguments are not accepted. Asking for help or the version ends the program as well. -/
inductive ArgumentError where
  | unknownArgument
  | invalidValue
  | valueValidation
  | tooManyValues
  | argumentConflict
  | displayHelp
  | displayVersion
  deriving DecidableEq, Repr

namespace ArgumentError

def name : ArgumentError → String
  | unknownArgument => "UnknownArgument"
  | invalidValue => "InvalidValue"
  | valueValidation => "ValueValidation"
  | tooManyValues => "TooManyValues"
  | argumentConflict => "ArgumentConflict"
  | displayHelp => "DisplayHelp"
  | displayVersion => "DisplayVersion"

def exitCode : ArgumentError → Nat
  | displayHelp | displayVersion => 0
  | _ => 2

end ArgumentError

inductive Switch where
  | grammar
  | text
  | start
  | format
  | maxDepth
  | highlight
  | verbose
  | help
  | version
  deriving DecidableEq, Repr

namespace Switch

def ofLetter? : Char → Option Switch
  | 'g' => some grammar
  | 't' => some text
  | 's' => some start
  | 'f' => some format
  | 'v' => some verbose
  | 'h' => some help
  | 'V' => some version
  | _ => none

def ofWord? : String → Option Switch
  | "grammar" => some grammar
  | "text" => some text
  | "start" => some start
  | "format" => some format
  | "max-depth" => some maxDepth
  | "highlight" => some highlight
  | "verbose" => some verbose
  | "help" => some help
  | "version" => some version
  | _ => none

def takesValue : Switch → Bool
  | grammar | text | start | format | maxDepth => true
  | highlight | verbose | help | version => false

end Switch

structure Arguments where
  grammar : Option String
  text : Option String
  start : Option String
  format : Option Format
  maxDepth : Option Nat
  highlight : Bool
  verbose : Nat
  deriving DecidableEq, Repr

namespace Arguments

def none : Arguments := ⟨.none, .none, .none, .none, .none, false, 0⟩

def formatOrDefault (a : Arguments) : Format := a.format.getD .tree

def settings (a : Arguments) : Settings := ⟨a.start, a.maxDepth.getD defaultDepth⟩

def logLevel (a : Arguments) : String :=
  match a.verbose with
  | 0 => "WARN"
  | 1 => "INFO"
  | 2 => "DEBUG"
  | _ => "TRACE"

def fileName (value : String) : Except ArgumentError String :=
  if value.isEmpty then .error .invalidValue else .ok value

def has (a : Arguments) : Switch → Bool
  | .grammar => a.grammar.isSome
  | .text => a.text.isSome
  | .start => a.start.isSome
  | .format => a.format.isSome
  | .maxDepth => a.maxDepth.isSome
  | .highlight => a.highlight
  | .verbose | .help | .version => false

def setValue (a : Arguments) (s : Switch) (value : String) : Except ArgumentError Arguments :=
  match s with
  | .grammar => (fileName value).map fun v => { a with grammar := some v }
  | .text => (fileName value).map fun v => { a with text := some v }
  | .start => .ok { a with start := some value }
  | .format =>
    match Format.ofName? value with
    | some f => .ok { a with format := some f }
    | .none => .error .invalidValue
  | .maxDepth =>
    match decimal64? value.toList with
    | some n => .ok { a with maxDepth := some n }
    | .none => .error .valueValidation
  | .highlight | .verbose | .help | .version => .ok a

/-- Says a switch without a value. The count of `verbose` stops at 255. -/
def setFlag (a : Arguments) : Switch → Except ArgumentError Arguments
  | .highlight => if a.highlight then .error .argumentConflict else .ok { a with highlight := true }
  | .verbose => .ok { a with verbose := min (a.verbose + 1) 255 }
  | .help => .error .displayHelp
  | .version => .error .displayVersion
  | .grammar | .text | .start | .format | .maxDepth => .ok a

end Arguments

/-- The reader of arguments: what has been said, and the switch whose value has been waited for,
with the value once it has come. -/
structure Reader where
  said : Arguments
  pending : Option (Switch × Option String)

namespace Reader

def say (said : Arguments) (s : Switch) (value : Option String) :
    Except ArgumentError Arguments :=
  match value with
  | none => .error .invalidValue
  | some v => if said.has s then .error .argumentConflict else said.setValue s v

def settle (r : Reader) : Except ArgumentError Arguments :=
  match r.pending with
  | none => .ok r.said
  | some (s, value) => say r.said s value

def openSwitch (r : Reader) (s : Switch) (attached : Option String) :
    Except ArgumentError Reader := do
  let said ← r.settle
  match attached with
  | none => return ⟨said, some (s, none)⟩
  | some v => return ⟨← say said s (some v), none⟩

def flag (r : Reader) (s : Switch) : Except ArgumentError Reader := do
  return ⟨← (← r.settle).setFlag s, none⟩

def word (r : Reader) (cs : List Char) : Except ArgumentError Reader :=
  let (name, attached) : List Char × Option String :=
    match splitAt? ['='] cs with
    | some (name, value) => (name, some (String.ofList value))
    | none => (cs, none)
  match Switch.ofWord? (String.ofList name) with
  | none => .error .unknownArgument
  | some s =>
    if s.takesValue then r.openSwitch s attached
    else if attached.isSome then .error .tooManyValues
    else r.flag s

/-- Reads the letters of an argument of one dash. The first letter of a switch with a value has
what follows it as its value. -/
def letters (r : Reader) : List Char → Except ArgumentError Reader
  | [] => .ok r
  | c :: cs =>
    match Switch.ofLetter? c with
    | none => .error .unknownArgument
    | some s =>
      if s.takesValue then
        match cs with
        | [] => r.openSwitch s none
        | '=' :: value => r.openSwitch s (some (String.ofList value))
        | value => r.openSwitch s (some (String.ofList value))
      else
        match r.flag s with
        | .error e => .error e
        | .ok r' => letters r' cs

def plain (r : Reader) (arg : String) : Except ArgumentError Reader :=
  match r.pending with
  | some (s, none) => .ok { r with pending := some (s, some arg) }
  | _ => .error .unknownArgument

def argument (r : Reader) (arg : String) : Except ArgumentError Reader :=
  match arg.toList with
  | '-' :: '-' :: cs => r.word cs
  | '-' :: c :: cs => r.letters (c :: cs)
  | _ => r.plain arg

/-- Reads arguments in order. Nothing may follow two dashes alone. -/
def arguments (r : Reader) : List String → Except ArgumentError Arguments
  | [] => r.settle
  | "--" :: [] => r.settle
  | "--" :: _ :: _ => .error .unknownArgument
  | arg :: args => do (← r.argument arg).arguments args

end Reader

def readArguments (argv : List String) : Except ArgumentError Arguments :=
  Reader.arguments ⟨.none, none⟩ argv

end GrammarWorkbench.CommandLine
