import GrammarWorkbench.Analysis.LeftRecursion
import GrammarWorkbench.Analysis.Lookahead
import GrammarWorkbench.CommandLine.Arguments
import GrammarWorkbench.CommandLine.Program
import GrammarWorkbench.Compile.Grammar
import GrammarWorkbench.Compile.Lexer
import GrammarWorkbench.Compile.Parser
import GrammarWorkbench.Compile.Tokens
import GrammarWorkbench.Declaration.Basic
import GrammarWorkbench.Declaration.Escape
import GrammarWorkbench.Declaration.Phrase
import GrammarWorkbench.Declaration.Read
import GrammarWorkbench.Diagnostic.Checked
import GrammarWorkbench.Diagnostic.Kind
import GrammarWorkbench.Diagnostic.Message
import GrammarWorkbench.Highlight.Document
import GrammarWorkbench.Highlight.Line
import GrammarWorkbench.Main
import GrammarWorkbench.Model.Block
import GrammarWorkbench.Model.Grammar
import GrammarWorkbench.Model.TokenSet
import GrammarWorkbench.Model.Vocabulary
import GrammarWorkbench.Pattern.Basic
import GrammarWorkbench.Pattern.Factored
import GrammarWorkbench.Pattern.Footprint
import GrammarWorkbench.Pattern.Limits
import GrammarWorkbench.Pattern.Longest
import GrammarWorkbench.Pattern.Match
import GrammarWorkbench.Pattern.OfRule
import GrammarWorkbench.Pattern.Preferred
import GrammarWorkbench.Proofs.Attribution.Compiled
import GrammarWorkbench.Proofs.Attribution.Declared
import GrammarWorkbench.Proofs.Attribution.Interpreted
import GrammarWorkbench.Proofs.Closed.Grammar
import GrammarWorkbench.Proofs.Closed.Lexer
import GrammarWorkbench.Proofs.Closed.Run
import GrammarWorkbench.Proofs.Derivation.Accepted
import GrammarWorkbench.Proofs.Derivation.Annotated
import GrammarWorkbench.Proofs.Derivation.Declared
import GrammarWorkbench.Proofs.Derivation.Filled
import GrammarWorkbench.Proofs.Derivation.Preserved
import GrammarWorkbench.Proofs.Derivation.Resolved
import GrammarWorkbench.Proofs.Derivation.Split
import GrammarWorkbench.Proofs.Derivation.Words
import GrammarWorkbench.Proofs.Highlight.Comments
import GrammarWorkbench.Proofs.Highlight.Edits
import GrammarWorkbench.Proofs.Highlight.Lines
import GrammarWorkbench.Proofs.Highlight.Marks
import GrammarWorkbench.Proofs.Highlight.Printed
import GrammarWorkbench.Proofs.Interpretation.Cache
import GrammarWorkbench.Proofs.Interpretation.Order
import GrammarWorkbench.Proofs.Interpretation.Spans
import GrammarWorkbench.Proofs.Lexical.Alternatives
import GrammarWorkbench.Proofs.Lexical.Commands
import GrammarWorkbench.Proofs.Lexical.Compiled
import GrammarWorkbench.Proofs.Lexical.Declared
import GrammarWorkbench.Proofs.Lexical.Inlined
import GrammarWorkbench.Proofs.Lexical.Unchecked
import GrammarWorkbench.Proofs.Lexical.Written
import GrammarWorkbench.Proofs.Lexing.Coverage
import GrammarWorkbench.Proofs.Lexing.Division
import GrammarWorkbench.Proofs.Lexing.Literals
import GrammarWorkbench.Proofs.Lexing.Munch
import GrammarWorkbench.Proofs.Lexing.Rules
import GrammarWorkbench.Proofs.Lexing.Types
import GrammarWorkbench.Proofs.Lookahead.Exact
import GrammarWorkbench.Proofs.Lookahead.Notes
import GrammarWorkbench.Proofs.Lookahead.Settled
import GrammarWorkbench.Proofs.Lookahead.Starts
import GrammarWorkbench.Proofs.Lookahead.Written
import GrammarWorkbench.Proofs.Naming.Identifiers
import GrammarWorkbench.Proofs.Naming.Quoted
import GrammarWorkbench.Proofs.Naming.Vocabulary
import GrammarWorkbench.Proofs.Notation.Alternatives
import GrammarWorkbench.Proofs.Notation.Atoms
import GrammarWorkbench.Proofs.Notation.Documents
import GrammarWorkbench.Proofs.Notation.Groups
import GrammarWorkbench.Proofs.Notation.Items
import GrammarWorkbench.Proofs.Notation.Layout
import GrammarWorkbench.Proofs.Notation.Matching
import GrammarWorkbench.Proofs.Notation.Phrases
import GrammarWorkbench.Proofs.Notation.Solid
import GrammarWorkbench.Proofs.Notation.Spelling
import GrammarWorkbench.Proofs.Notation.Tokens
import GrammarWorkbench.Proofs.Notation.Written
import GrammarWorkbench.Proofs.Parsing.Climbing
import GrammarWorkbench.Proofs.Parsing.Complete
import GrammarWorkbench.Proofs.Parsing.Depth
import GrammarWorkbench.Proofs.Parsing.Expressions
import GrammarWorkbench.Proofs.Parsing.Invariant
import GrammarWorkbench.Proofs.Parsing.Leaves
import GrammarWorkbench.Proofs.Parsing.Predictive
import GrammarWorkbench.Proofs.Parsing.Reads
import GrammarWorkbench.Proofs.Parsing.Recovered
import GrammarWorkbench.Proofs.Parsing.Reported
import GrammarWorkbench.Proofs.Parsing.Sound
import GrammarWorkbench.Proofs.Parsing.Spans
import GrammarWorkbench.Proofs.Pattern.Accepted
import GrammarWorkbench.Proofs.Pattern.Complement
import GrammarWorkbench.Proofs.Pattern.Factored
import GrammarWorkbench.Proofs.Pattern.Matched
import GrammarWorkbench.Proofs.Pattern.Preferred
import GrammarWorkbench.Proofs.Pattern.Progress
import GrammarWorkbench.Proofs.Pattern.Ranged
import GrammarWorkbench.Proofs.Pattern.Words
import GrammarWorkbench.Proofs.Pattern.Written
import GrammarWorkbench.Proofs.Pattern.WrittenSets
import GrammarWorkbench.Proofs.Reading.Escapes
import GrammarWorkbench.Proofs.Reading.Filled
import GrammarWorkbench.Proofs.Reading.Literals
import GrammarWorkbench.Proofs.Reading.Matches
import GrammarWorkbench.Proofs.Reading.Nodes
import GrammarWorkbench.Proofs.Reading.Parts
import GrammarWorkbench.Proofs.Reading.Places
import GrammarWorkbench.Proofs.Reading.Rules
import GrammarWorkbench.Proofs.Reading.Sets
import GrammarWorkbench.Proofs.Recursion.Cycles
import GrammarWorkbench.Proofs.Recursion.Inlining
import GrammarWorkbench.Proofs.Recursion.Reentry
import GrammarWorkbench.Proofs.Recursion.Search
import GrammarWorkbench.Proofs.Recursion.Trace
import GrammarWorkbench.Proofs.Recursion.Unread
import GrammarWorkbench.Proofs.Text.Positions
import GrammarWorkbench.Recognizer.Rules
import GrammarWorkbench.Recognizer.Run
import GrammarWorkbench.Render.Color
import GrammarWorkbench.Render.Json
import GrammarWorkbench.Render.Result
import GrammarWorkbench.Run.Cache
import GrammarWorkbench.Run.Interpret
import GrammarWorkbench.Run.Lexer
import GrammarWorkbench.Run.Parser
import GrammarWorkbench.Run.Token
import GrammarWorkbench.Run.Tree
import GrammarWorkbench.Text.ByteRanges
import GrammarWorkbench.Text.CodeRanges
import GrammarWorkbench.Text.LineTable
import GrammarWorkbench.Text.Number
import GrammarWorkbench.Text.Position
import GrammarWorkbench.Text.Property
import GrammarWorkbench.Text.Quoted
import GrammarWorkbench.Text.Scan
import GrammarWorkbench.Text.Tables.Age
import GrammarWorkbench.Text.Tables.Binary
import GrammarWorkbench.Text.Tables.Boundary
import GrammarWorkbench.Text.Tables.Category
import GrammarWorkbench.Text.Tables.Display
import GrammarWorkbench.Text.Tables.Script
