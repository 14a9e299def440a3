import PathQuery.Options
import PathQuery.Proofs.Alias.Search
import PathQuery.Proofs.Alias.Words
import PathQuery.Proofs.Calendar.Readback
import PathQuery.Proofs.Filter.Address
import PathQuery.Proofs.Filter.Parameters
import PathQuery.Proofs.Filter.Pruning
import PathQuery.Proofs.Filter.Readback
import PathQuery.Proofs.Hop.Grammar
import PathQuery.Proofs.JoinGraph.Growth
import PathQuery.Proofs.JoinGraph.Numbering
import PathQuery.Proofs.JoinGraph.Scope
import PathQuery.Proofs.Json.Documents
import PathQuery.Proofs.Json.Numerals
import PathQuery.Proofs.Json.Reading
import PathQuery.Proofs.Projection.Chain
import PathQuery.Proofs.Projection.Columns
import PathQuery.Proofs.Projection.Events
import PathQuery.Proofs.Projection.JoinList
import PathQuery.Proofs.Projection.Reordering
import PathQuery.Proofs.Projection.Shadow
import PathQuery.Proofs.Session.Replies
import PathQuery.Proofs.Session.Selecting
import PathQuery.Proofs.Session.Values
import PathQuery.Proofs.Settings.Readback
import PathQuery.Proofs.Statement.Drafts
import PathQuery.Proofs.Statement.Readback
import PathQuery.Proofs.Text.Delimited
import PathQuery.Proofs.Text.Digits
import PathQuery.Proofs.Value.Readback
import PathQuery.Session
import PathQuery.Settings.Text
import PathQuery.Statement.Outline
import PathQuery.Value.Document
import PathQuery.Value.Text
