import GrammarWorkbench.CommandLine.Arguments
import GrammarWorkbench.Render.Color

/-!
# The program

The program reads a grammar and an input, interprets the input and prints the result, or prints
the grammar with its highlights. Its exit status is 0 if all went well, 1 if the result has
messages, and 2 if a document could not be read or the arguments were wrong.
-/

set_option autoImplicit false

namespace GrammarWorkbench.CommandLine

open GrammarWorkbench.Render GrammarWorkbench.Run GrammarWorkbench.Diagnostic

structure Exit where
  status : Nat
  output : String
  reports : List Report

def versionLine : String := "headlights 0.1.0\n"

def helpText : String :=
  "Interpret an ANTLR-style grammar against sample input, without code generation.\n\n" ++
  "Usage: headlights [OPTIONS]\n\nOptions:\n" ++
  "  -g, --grammar <FILE>   Grammar file (.g4). An absent file means an empty grammar document\n" ++
  "  -t, --text <FILE>      Input text file. An absent file means an empty input document\n" ++
  "  -s, --start <RULE>     Parser rule to start from; defaults to the first parser rule\n" ++
  "  -f, --format <FORMAT>  How to print the result [default: tree]\n" ++
  "      --max-depth <N>    Maximum nesting of parser rule invocations [default: 1000]\n" ++
  "      --highlight        Print the grammar with syntax highlighting\n" ++
  "  -v, --verbose...       Raise the log level; repeat for more detail\n" ++
  "  -h, --help             Print help\n" ++
  "  -V, --version          Print version\n"

def refused : Exit := ⟨2, "", []⟩

def readDocument (read : String → Option (List Char)) : Option String → Option (List Char)
  | none => some []
  | some name => read name

/-- Does what the arguments ask for. The input is not read when only the grammar is printed. -/
def execute (a : Arguments) (read : String → Option (List Char)) (colors : Bool) : Exit :=
  match readDocument read a.grammar with
  | none => refused
  | some grammar =>
    if a.highlight then ⟨0, writeHighlighted colors grammar, []⟩
    else
      match readDocument read a.text with
      | none => refused
      | some input =>
        let result := interpret a.settings grammar input false
        ⟨if result.isSuccess then 0 else 1, renderResult result a.formatOrDefault,
          result.messages.map reportOf⟩

def runProgram (argv : List String) (read : String → Option (List Char)) (colors : Bool) : Exit :=
  match readArguments argv with
  | .ok a => execute a read colors
  | .error .displayVersion => ⟨0, versionLine, []⟩
  | .error .displayHelp => ⟨0, helpText, []⟩
  | .error e => ⟨e.exitCode, "", []⟩

end GrammarWorkbench.CommandLine
