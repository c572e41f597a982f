import GrammarWorkbench.CommandLine.Program

/-!
# Command line

Reads the documents, runs the program, and writes what it leaves behind: its output to the
standard output, its reports to the standard error.
-/

set_option autoImplicit false

namespace GrammarWorkbench.CommandLine

open GrammarWorkbench.Render

def fileContents? (name : String) : IO (Option (List Char)) := do
  try
    return some (← IO.FS.readFile name).toList
  catch _ => return none

def namedDocuments (argv : List String) : IO (List (String × List Char)) := do
  match readArguments argv with
  | .error _ => return []
  | .ok a =>
    let names := a.grammar.toList ++ a.text.toList
    names.filterMapM fun name => do
      return (← fileContents? name).map fun contents => (name, contents)

def reportLine (r : Report) : String := r.code ++ ": " ++ r.message

end GrammarWorkbench.CommandLine

open GrammarWorkbench.CommandLine

def main (argv : List String) : IO UInt32 := do
  let documents ← namedDocuments argv
  let terminal ← IO.getEnv "TERM"
  let colors := terminal.isSome && terminal != some "dumb"
  let exit := runProgram argv (fun name => List.lookup name documents) colors
  IO.print exit.output
  for report in exit.reports do
    IO.eprintln (reportLine report)
  return exit.status.toUInt32
