import DreamDoc.Dump.Printer
import DreamDoc.Main
import DreamDoc.Path.Windows
import DreamDoc.Proofs.Streams
import DreamDoc.Proofs.Placement
import DreamDoc.Proofs.Indexing
import DreamDoc.Proofs.Scaffolding
import DreamDoc.Proofs.Runs
import DreamDoc.Proofs.ReadingOrder
import DreamDoc.Proofs.Layout
import DreamDoc.Proofs.Lines
import DreamDoc.Proofs.Nesting
import DreamDoc.Proofs.Braces
import DreamDoc.Proofs.Balance
import DreamDoc.Proofs.Contents
import DreamDoc.Proofs.ParentClauses
import DreamDoc.Proofs.Independence
import DreamDoc.Proofs.FileSystems
import DreamDoc.Proofs.Targets
import DreamDoc.Proofs.Emissions
import DreamDoc.Proofs.RoundTrip
import DreamDoc.Proofs.AbortedEmissions
import DreamDoc.Proofs.Containment
import DreamDoc.Proofs.JsonPrinting
import DreamDoc.Proofs.DumpRoundTrip
import DreamDoc.Proofs.Conformance
import DreamDoc.Proofs.JsonReading
import DreamDoc.Proofs.Validation
import DreamDoc.Proofs.Reordering
import DreamDoc.Proofs.Delays
import DreamDoc.Proofs.Stretches
import DreamDoc.Proofs.CommentScope
import DreamDoc.Proofs.Signatures
import DreamDoc.Proofs.ClassNames
import DreamDoc.Proofs.MemberTexts
import DreamDoc.Proofs.UnorderedStreams
import DreamDoc.Proofs.Collisions
import DreamDoc.Proofs.Spellings
import DreamDoc.Proofs.WorkingDirectories
import DreamDoc.Proofs.ForeignMembers
import DreamDoc.Proofs.Quoting
import DreamDoc.Proofs.OpenQuotations
import DreamDoc.Proofs.UnreportedFailures
import DreamDoc.Proofs.Histories
