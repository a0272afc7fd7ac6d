import EntryTree.Action.Registry
import EntryTree.Entry.ContentReader
import EntryTree.Expression.Arithmetic
import EntryTree.Query.Comparison
import EntryTree.Query.Glob.Matching
import EntryTree.Query.Glob.Reader
import EntryTree.Query.TimeTest
import EntryTree.Scope
import EntryTree.Query.Basic
import EntryTree.Entry.Operation
import EntryTree.Exec.Session
import EntryTree.Walk.Find
import EntryTree.Command.Launch
import EntryTree.Proofs.Entry.Calls
import EntryTree.Proofs.Walk.Itinerary
import EntryTree.Proofs.Walk.Limits
import EntryTree.Proofs.Walk.Cancellation
import EntryTree.Proofs.Expression.Recognition
import EntryTree.Proofs.Expression.Alternatives
import EntryTree.Proofs.Query.Composition
import EntryTree.Proofs.Query.Metadata
import EntryTree.Proofs.Walk.Metadata
import EntryTree.Proofs.Exec.Delivery
import EntryTree.Proofs.Predicate.ShortCircuit
import EntryTree.Proofs.Action.Resolution
import EntryTree.Proofs.Query.Reference
import EntryTree.Proofs.Query.Location
import EntryTree.Proofs.Entry.Layers
import EntryTree.Proofs.Walk.Descent
import EntryTree.Proofs.Exec.Settlement
import EntryTree.Proofs.Time.Exactness
import EntryTree.Proofs.Time.Concatenation
import EntryTree.Proofs.Query.Age
import EntryTree.Proofs.Query.Amount
import EntryTree.Proofs.Query.Precision
import EntryTree.Proofs.Query.Braces
import EntryTree.Proofs.Query.Classification
import EntryTree.Proofs.Query.Direction
import EntryTree.Proofs.Time.Agreement
import EntryTree.Proofs.Predicate.Flatness
import EntryTree.Proofs.Query.KeyPath
import EntryTree.Proofs.Query.Size
import EntryTree.Proofs.Query.Value
import EntryTree.Proofs.Expression.Nesting
import EntryTree.Proofs.Walk.Paths
import EntryTree.Proofs.Entry.Reading
import EntryTree.Proofs.Entry.Effects
import EntryTree.Proofs.Action.Registration
import EntryTree.Proofs.Entry.Attributes
import EntryTree.Proofs.Query.Escape
import EntryTree.Proofs.Expression.Completion
import EntryTree.Proofs.Command.Launch
import EntryTree.Proofs.Command.Arithmetic
import EntryTree.Proofs.Command.Pattern
import EntryTree.Proofs.Command.Pipes
import EntryTree.Proofs.Command.Lines
import EntryTree.Proofs.Command.Filters
import EntryTree.Proofs.Command.Processes
import EntryTree.Proofs.Command.Encoding
import EntryTree.Proofs.Command.Expanding
import EntryTree.Proofs.Command.Printing
import EntryTree.Proofs.Command.Running
import EntryTree.Proofs.Command.Scripts
import EntryTree.Proofs.Command.Starting
import EntryTree.Proofs.Command.Words
