import SqlWeave.Calendar
import SqlWeave.Cast
import SqlWeave.Compile
import SqlWeave.Connection
import SqlWeave.Conversion
import SqlWeave.DataSource
import SqlWeave.Effect
import SqlWeave.Fault
import SqlWeave.Literal
import SqlWeave.Numeral.Binary
import SqlWeave.Numeral.Decimal
import SqlWeave.Numeral.Integer
import SqlWeave.Numeral.Leading
import SqlWeave.Numeral.Shortest
import SqlWeave.Opening
import SqlWeave.Product
import SqlWeave.Proofs.Assignments
import SqlWeave.Proofs.Calls
import SqlWeave.Proofs.CheckedRequest
import SqlWeave.Proofs.ColumnPlaces
import SqlWeave.Proofs.Comments
import SqlWeave.Proofs.Connecting
import SqlWeave.Proofs.Credentials
import SqlWeave.Proofs.CurrentStatement
import SqlWeave.Proofs.CursorClosing
import SqlWeave.Proofs.Delivery
import SqlWeave.Proofs.Escaping
import SqlWeave.Proofs.Faults
import SqlWeave.Proofs.Fragments
import SqlWeave.Proofs.Insertions
import SqlWeave.Proofs.IntegerRoundTrip
import SqlWeave.Proofs.Journal
import SqlWeave.Proofs.Keeping
import SqlWeave.Proofs.KeyEquality
import SqlWeave.Proofs.KeyedRows
import SqlWeave.Proofs.Keywords
import SqlWeave.Proofs.LatestEntries
import SqlWeave.Proofs.ListReading
import SqlWeave.Proofs.LiteralReading
import SqlWeave.Proofs.LongestNumber
import SqlWeave.Proofs.NamedRows
import SqlWeave.Proofs.Numerals
import SqlWeave.Proofs.NumericArguments
import SqlWeave.Proofs.NumericForms
import SqlWeave.Proofs.OneByOne
import SqlWeave.Proofs.Pieces
import SqlWeave.Proofs.Places
import SqlWeave.Proofs.Reading
import SqlWeave.Proofs.Skeleton
import SqlWeave.Proofs.Splitting
import SqlWeave.Proofs.Warnings
import SqlWeave.Proofs.WholeNumbers
import SqlWeave.Raised
import SqlWeave.Row
import SqlWeave.Scripted
import SqlWeave.Session
import SqlWeave.Settings
import SqlWeave.Template
import SqlWeave.Template.Warning
import SqlWeave.Text.Blank
import SqlWeave.Text.Digit
import SqlWeave.Text.Letter
import SqlWeave.Text.Printable
import SqlWeave.Text.Quoted
import SqlWeave.Text.Ranges
import SqlWeave.Text.Utf8
import SqlWeave.Value.Basic
import SqlWeave.Value.Display
import SqlWeave.Value.Key
import SqlWeave.Value.Number
