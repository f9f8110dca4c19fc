import MiniScheme.CommandLine
import MiniScheme.Error.Basic
import MiniScheme.Error.Fault
import MiniScheme.Error.Parse
import MiniScheme.Eval.Basic
import MiniScheme.Eval.Form
import MiniScheme.Eval.Machine
import MiniScheme.Files.Basic
import MiniScheme.Files.Path
import MiniScheme.Interpreter
import MiniScheme.Main
import MiniScheme.Numeral
import MiniScheme.Primitive.Arithmetic
import MiniScheme.Primitive.Basic
import MiniScheme.Primitive.Pair
import MiniScheme.Primitive.Pure
import MiniScheme.Reader.Basic
import MiniScheme.Reader.Expr
import MiniScheme.Reader.Gap
import MiniScheme.Reader.Stop
import MiniScheme.Reader.Token
import MiniScheme.Repl
import MiniScheme.Settings
import MiniScheme.Store.Basic
import MiniScheme.Store.Frame
import MiniScheme.Store.Listing
import MiniScheme.Text.Blank
import MiniScheme.Text.Digit
import MiniScheme.Text.Fields
import MiniScheme.Text.Letter
import MiniScheme.Text.LetterCase
import MiniScheme.Text.Printable
import MiniScheme.Text.Quoted
import MiniScheme.Text.Ranges
import MiniScheme.Text.StringLiteral
import MiniScheme.Value.Basic
import MiniScheme.Value.Equivalence
import MiniScheme.Value.Inspect
import MiniScheme.Value.Printer
import MiniScheme.Value.Rendering
import MiniScheme.Proofs.Reader.Grammar
import MiniScheme.Proofs.Reader.Token
import MiniScheme.Proofs.Reader.Expr
import MiniScheme.Proofs.Reader.WholeText
import MiniScheme.Proofs.Reader.RoundTrip
import MiniScheme.Proofs.Store.Change
import MiniScheme.Proofs.Eval.Evolution
import MiniScheme.Proofs.Eval.Locality
import MiniScheme.Proofs.Interpreter.Session
import MiniScheme.Proofs.Store.Origin
import MiniScheme.Proofs.Store.Tracking
import MiniScheme.Proofs.Reader.Syntax
import MiniScheme.Proofs.Eval.Logic
import MiniScheme.Proofs.Eval.Depth
import MiniScheme.Proofs.Store.Twins
import MiniScheme.Proofs.Eval.TwinRuns
import MiniScheme.Proofs.Interpreter.TextSession
import MiniScheme.Proofs.Interpreter.Confinement
import MiniScheme.Proofs.Reader.Sequence
import MiniScheme.Proofs.Eval.Oblivion
import MiniScheme.Proofs.Interpreter.Batch
import MiniScheme.Proofs.Repl.Loop
import MiniScheme.Proofs.Repl.Transcript
import MiniScheme.Proofs.Eval.Application
import MiniScheme.Proofs.Store.CallFrame
import MiniScheme.Proofs.CommandLine.FileMode
import MiniScheme.Proofs.Eval.Identity
import MiniScheme.Proofs.Eval.BigStep
import MiniScheme.Proofs.Eval.Carrying
import MiniScheme.Proofs.Interpreter.Identity
import MiniScheme.Proofs.Value.Equivalence
import MiniScheme.Proofs.Value.ConsTree
import MiniScheme.Proofs.Reader.Unfinished
import MiniScheme.Proofs.Reader.Rejection
import MiniScheme.Proofs.Reader.Location
import MiniScheme.Proofs.Primitive.Arithmetic
import MiniScheme.Proofs.Primitive.Division
import MiniScheme.Proofs.Eval.Assignment
import MiniScheme.Proofs.Eval.ProcedureDefinition
import MiniScheme.Proofs.Text.StringLiteral
import MiniScheme.Proofs.Store.Listing
import MiniScheme.Proofs.Interpreter.Listing
