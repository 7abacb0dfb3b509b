import SqlSplit.Text.Bytes
import SqlSplit.Text.Case
import SqlSplit.Unicode.Ranges
import SqlSplit.Unicode.WhiteSpace
import SqlSplit.Unicode.Alphanumeric
import SqlSplit.Keyword
import SqlSplit.Token
import SqlSplit.Lexeme
import SqlSplit.Cursor
import SqlSplit.Tokenizer
import SqlSplit.Statement
import SqlSplit.Script
import SqlSplit.Step
import SqlSplit.Error
import SqlSplit.Recognizer
import SqlSplit.Opener
import SqlSplit.Splitter
import SqlSplit.Parser
import SqlSplit.Trace
import SqlSplit.Json.Basic
import SqlSplit.Json.Codec
import SqlSplit.Audit
import SqlSplit.Sample
import SqlSplit.Proofs.Json.CompactText
import SqlSplit.Proofs.Json.RoundTrip
import SqlSplit.Proofs.Tokens.Tiling
import SqlSplit.Proofs.Tokens.Shapes
import SqlSplit.Proofs.Tokens.Pieces
import SqlSplit.Proofs.Tokens.Regions
import SqlSplit.Proofs.Tokens.Shift
import SqlSplit.Proofs.Tokens.Words
import SqlSplit.Proofs.Tokens.Enclosures
import SqlSplit.Proofs.Tokens.Inert
import SqlSplit.Proofs.Tokens.LetterCase
import SqlSplit.Proofs.Tokens.Spacing
import SqlSplit.Proofs.Tokens.Priority
import SqlSplit.Proofs.Tokens.OpenEnds
import SqlSplit.Proofs.Tokens.Quotations
import SqlSplit.Proofs.Statements.Stage
import SqlSplit.Proofs.Statements.Feeding
import SqlSplit.Proofs.Statements.Lockstep
import SqlSplit.Proofs.Statements.Refusals
import SqlSplit.Proofs.Statements.Positions
import SqlSplit.Proofs.Scripts.Outline
import SqlSplit.Proofs.Scripts.Derivation
import SqlSplit.Proofs.Scripts.Loop
import SqlSplit.Proofs.Scripts.Layout
import SqlSplit.Proofs.Scripts.Semicolons
import SqlSplit.Proofs.Scripts.FirstError
import SqlSplit.Proofs.Scripts.Faults
import SqlSplit.Proofs.Scripts.Revision
import SqlSplit.Proofs.Scripts.Concatenation
import SqlSplit.Proofs.Scripts.Excerpts
import SqlSplit.Proofs.Scripts.Auditing
import SqlSplit.Proofs.Scripts.Continuation
import SqlSplit.Proofs.Scripts.Modes
import SqlSplit.Proofs.Scripts.Recognition
import SqlSplit.Proofs.Scripts.Objects
import SqlSplit.Proofs.Scripts.Classification
import SqlSplit.Proofs.Scripts.Resuming
import SqlSplit.Proofs.Scripts.Contents
import SqlSplit.Proofs.Scripts.Samples
import SqlSplit.Proofs.Scripts.LetterCase
import SqlSplit.Proofs.Scripts.Awaiting
import SqlSplit.Proofs.Scripts.Spacing
import SqlSplit.Proofs.Scripts.Logging
import SqlSplit.Proofs.Scripts.Terminator
