import Columnar.Main
import Columnar.Proofs.Bytes
import Columnar.Proofs.Wire.Message
import Columnar.Proofs.Wire.Reading
import Columnar.Proofs.Wire.Schema
import Columnar.Proofs.Wire.Buffers
import Columnar.Proofs.Wire.Body
import Columnar.Proofs.Wire.Stream
import Columnar.Proofs.Snapshot.Layout
import Columnar.Proofs.Snapshot.Contents
import Columnar.Proofs.Snapshot.Load
import Columnar.Proofs.Directory
import Columnar.Proofs.Snapshot.Split
import Columnar.Proofs.Snapshot.RoundTrip
import Columnar.Proofs.Snapshot.Saving
import Columnar.Proofs.Snapshot.Session
import Columnar.Proofs.Filter.Grammar
import Columnar.Proofs.Filter.Parsing
import Columnar.Proofs.Number.Rounding
import Columnar.Proofs.Number.Shortest
import Columnar.Proofs.Number.Decimal
import Columnar.Proofs.Number.Rendering
import Columnar.Proofs.Filter.Lexemes
import Columnar.Proofs.Filter.Canonical
import Columnar.Proofs.Filter.Readability
import Columnar.Proofs.Filter.Places
import Columnar.Proofs.Filter.Selection
import Columnar.Proofs.Filter.Typing
import Columnar.Proofs.Filter.Kleene
import Columnar.Proofs.Snapshot.PrefixFree
import Columnar.Proofs.Snapshot.Drafts
import Columnar.Proofs.Snapshot.Totals
import Columnar.Proofs.Filter.Integers
import Columnar.Proofs.Rows
import Columnar.Proofs.Filter.Locality
import Columnar.Proofs.Filter.Composition
import Columnar.Proofs.Filter.Faults
import Columnar.Proofs.Filter.Patterns
import Columnar.Proofs.Snapshot.Partition
import Columnar.Proofs.Snapshot.Atomicity
import Columnar.Proofs.Snapshot.Tampering
import Columnar.Proofs.Wire.Length
import Columnar.Proofs.Wire.Growth
import Columnar.Proofs.Snapshot.RowLimit
import Columnar.Proofs.Filter.Membership
import Columnar.Proofs.Filter.Coverage
import Columnar.Proofs.Filter.Respelling
import Columnar.Proofs.Filter.Footprint
import Columnar.Proofs.Settings
import Columnar.Proofs.Command.Demo
import Columnar.Proofs.Filter.Nesting
import Columnar.Proofs.Snapshot.Turns
import Columnar.Proofs.Filter.Numbers
