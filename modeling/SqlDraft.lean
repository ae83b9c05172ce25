import SqlDraft.Parameters
import SqlDraft.Value.Conversion
import SqlDraft.Condition.Json
import SqlDraft.Json.Reader
import SqlDraft.Wire.Binding
import SqlDraft.Server.Connection
import SqlDraft.Proofs.Writing.Blindness
import SqlDraft.Proofs.Predicate.Meaning
import SqlDraft.Proofs.Predicate.Nesting
import SqlDraft.Proofs.Recovery.Draft
import SqlDraft.Proofs.Parameters.Sharing
import SqlDraft.Proofs.Drafting.Histories
import SqlDraft.Proofs.Description.Conditions
import SqlDraft.Proofs.Rows.Leniency
import SqlDraft.Proofs.Logging.Events
import SqlDraft.Proofs.Binding.RoundTrip
import SqlDraft.Proofs.Interchange.Integers
import SqlDraft.Proofs.Interchange.Readers
import SqlDraft.Proofs.Logging.Truncation
import SqlDraft.Proofs.Rows.Columns
import SqlDraft.Proofs.Rows.Histories
import SqlDraft.Proofs.Running.Sequences
import SqlDraft.Proofs.Running.Responses
import SqlDraft.Proofs.Terms.Histories
