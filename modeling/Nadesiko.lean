import Nadesiko.Decimal.Shortest
import Nadesiko.Decimal.Text
import Nadesiko.Document
import Nadesiko.Environment
import Nadesiko.Event
import Nadesiko.Highlight.Buffer
import Nadesiko.Highlight.Category
import Nadesiko.Highlight.Classification
import Nadesiko.Highlight.Delta
import Nadesiko.Highlight.Dump
import Nadesiko.Highlight.Legend
import Nadesiko.Highlight.Segment
import Nadesiko.Hover
import Nadesiko.Json
import Nadesiko.Lexeme.Basic
import Nadesiko.Lexeme.Reading
import Nadesiko.Lexeme.Word
import Nadesiko.Lexicon.Builtin
import Nadesiko.Lexicon.Character
import Nadesiko.Lexicon.Keyword
import Nadesiko.Lexicon.Operator
import Nadesiko.Lexicon.Particle
import Nadesiko.Logged
import Nadesiko.Overflow
import Nadesiko.Position
import Nadesiko.Registry
import Nadesiko.Server.Basic
import Nadesiko.Server.Call
import Nadesiko.Server.Reply
import Nadesiko.Server.Wire
import Nadesiko.Settings
import Nadesiko.Text.Alphanumeric
import Nadesiko.Text.CodePoints
import Nadesiko.Text.Cursor
import Nadesiko.Text.Lines
import Nadesiko.Text.Quoted
import Nadesiko.Text.Unprintable
import Nadesiko.Text.Utf16
import Nadesiko.Token.Basic
import Nadesiko.Token.Header
import Nadesiko.Token.Kind
import Nadesiko.Token.Lookup
import Nadesiko.Token.Stream
import Nadesiko.Proofs.Highlight.Delta
import Nadesiko.Proofs.Highlight.Representable
import Nadesiko.Proofs.Highlight.Segment
import Nadesiko.Proofs.Registry.History
import Nadesiko.Proofs.Registry.Tracking
import Nadesiko.Proofs.Lexeme.Scan
import Nadesiko.Proofs.Token.Stream
import Nadesiko.Proofs.Token.WellFormed
import Nadesiko.Proofs.Token.Lookup
import Nadesiko.Proofs.Highlight.Buffer
import Nadesiko.Proofs.Highlight.Lookup
import Nadesiko.Proofs.Text.Lines
import Nadesiko.Proofs.Highlight.Shown
import Nadesiko.Proofs.Highlight.Bounds
import Nadesiko.Proofs.Highlight.Names
import Nadesiko.Proofs.Lexeme.Sight
import Nadesiko.Proofs.Text.Returns
import Nadesiko.Proofs.Token.LineEndings
import Nadesiko.Proofs.Token.Transport
import Nadesiko.Proofs.Lexeme.Locality
import Nadesiko.Proofs.Token.Locality
import Nadesiko.Proofs.Token.Covering
import Nadesiko.Proofs.Highlight.Classified
import Nadesiko.Proofs.Server.ResultId
import Nadesiko.Proofs.Server.Settings
import Nadesiko.Proofs.Lexeme.Grammar
import Nadesiko.Proofs.Token.Grammar
import Nadesiko.Proofs.Lexeme.Words
import Nadesiko.Proofs.Token.Headers
import Nadesiko.Proofs.Token.Keywords
import Nadesiko.Proofs.Lexeme.KnownLength
import Nadesiko.Proofs.Lexeme.Alone
import Nadesiko.Proofs.Token.Stems
import Nadesiko.Proofs.Server.LastAccepted
import Nadesiko.Proofs.Text.Index
