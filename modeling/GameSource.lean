import GameSource.Main
import GameSource.Proofs.Asm.Bare
import GameSource.Proofs.Asm.Blocks
import GameSource.Proofs.Asm.Indented
import GameSource.Proofs.Asm.Lines
import GameSource.Proofs.Asm.Listing
import GameSource.Proofs.Command.Escape
import GameSource.Proofs.Command.Fault
import GameSource.Proofs.Command.OneName
import GameSource.Proofs.Command.Refusal
import GameSource.Proofs.Command.Unreadable
import GameSource.Proofs.Command.Work
import GameSource.Proofs.Define.Counted
import GameSource.Proofs.Define.Enumeration
import GameSource.Proofs.Define.Filtered
import GameSource.Proofs.Define.Located
import GameSource.Proofs.Define.Named
import GameSource.Proofs.Define.Printed
import GameSource.Proofs.Define.Reference
import GameSource.Proofs.Define.Spelling
import GameSource.Proofs.Define.Standing
import GameSource.Proofs.Expr.Arithmetic
import GameSource.Proofs.Expr.Lexeme
import GameSource.Proofs.Expr.Order
import GameSource.Proofs.Expr.Outcome
import GameSource.Proofs.Expr.Partnered
import GameSource.Proofs.Expr.Pasted
import GameSource.Proofs.Expr.Reading
import GameSource.Proofs.Expr.Token
import GameSource.Proofs.Expr.Transparent
import GameSource.Proofs.Expr.Tree
import GameSource.Proofs.Expr.Word
import GameSource.Proofs.Files.Encoded
import GameSource.Proofs.Files.Lines
import GameSource.Proofs.Files.Opened
import GameSource.Proofs.Initializer.Apart
import GameSource.Proofs.Initializer.Braces
import GameSource.Proofs.Initializer.Comments
import GameSource.Proofs.Initializer.Complete
import GameSource.Proofs.Initializer.Cursor
import GameSource.Proofs.Initializer.Grammar
import GameSource.Proofs.Initializer.Keyed
import GameSource.Proofs.Initializer.Layout
import GameSource.Proofs.Initializer.Lexeme
import GameSource.Proofs.Initializer.Members
import GameSource.Proofs.Initializer.Moved
import GameSource.Proofs.Initializer.Recovery
import GameSource.Proofs.Initializer.Relex
import GameSource.Proofs.Initializer.Spacing
import GameSource.Proofs.Initializer.Stripped
import GameSource.Proofs.Initializer.Taken
import GameSource.Proofs.Initializer.Tiling
import GameSource.Proofs.Initializer.Unclosed
import GameSource.Proofs.Members
import GameSource.Proofs.Number.Integer
import GameSource.Proofs.Number.Literal
import GameSource.Proofs.Pattern.Anchored
import GameSource.Proofs.Project.Extraction
import GameSource.Proofs.Script.BlockLabel
import GameSource.Proofs.Script.RawLabel
import GameSource.Proofs.Script.Visible
import GameSource.Proofs.Session.Call
import GameSource.Proofs.Session.Circular
import GameSource.Proofs.Session.Coherent
import GameSource.Proofs.Session.Confined
import GameSource.Proofs.Session.Copied
import GameSource.Proofs.Session.Drained
import GameSource.Proofs.Session.Expression
import GameSource.Proofs.Session.Gathered
import GameSource.Proofs.Session.Interrupted
import GameSource.Proofs.Session.Kept
import GameSource.Proofs.Session.Learned
import GameSource.Proofs.Session.Ordered
import GameSource.Proofs.Session.Overridden
import GameSource.Proofs.Session.Placed
import GameSource.Proofs.Session.Request
import GameSource.Proofs.Session.Requested
import GameSource.Proofs.Session.Served
import GameSource.Proofs.Session.Step
import GameSource.Proofs.Session.Stopped
import GameSource.Proofs.Session.Tokenized
import GameSource.Proofs.Session.Valued
import GameSource.Proofs.Table.Agreement
import GameSource.Proofs.Table.Arrays
import GameSource.Proofs.Table.Incbin
import GameSource.Proofs.Table.IncludedPaths
import GameSource.Proofs.Table.IndexedRows
import GameSource.Proofs.Table.Printed
import GameSource.Proofs.Text.Bare
import GameSource.Proofs.Text.Cleaned
import GameSource.Proofs.Text.Joined
import GameSource.Proofs.Text.LineEnds
import GameSource.Proofs.Text.Lines
import GameSource.Proofs.Text.Located
import GameSource.Proofs.Text.Passed
import GameSource.Proofs.Text.Places
import GameSource.Proofs.Text.Runs
import GameSource.Proofs.Text.Scanned
import GameSource.Proofs.Text.Segments
import GameSource.Proofs.Text.Whole
