import EntityGraph.Json.Reading
import EntityGraph.Main
import EntityGraph.Value.Embedding
import EntityGraph.Proofs.Bolt.Fetching
import EntityGraph.Proofs.Bolt.Gathered
import EntityGraph.Proofs.Bolt.NativeTime
import EntityGraph.Proofs.Bolt.Sending
import EntityGraph.Proofs.CommandLine.Reaction
import EntityGraph.Proofs.Config.Credentials
import EntityGraph.Proofs.Social.Hydration
import EntityGraph.Proofs.Cypher.Comments
import EntityGraph.Proofs.Delta
import EntityGraph.Proofs.Entity.Counting
import EntityGraph.Proofs.Entity.EqualityFilter
import EntityGraph.Proofs.Entity.Isolation
import EntityGraph.Proofs.Entity.RoundTrip
import EntityGraph.Proofs.Entity.Storing
import EntityGraph.Proofs.Entity.Update
import EntityGraph.Proofs.Repository.Orderly
import EntityGraph.Proofs.Schema.Racing
import EntityGraph.Proofs.Schema.StoredName
import EntityGraph.Proofs.Statement.Closed
import EntityGraph.Proofs.Statement.Columns
import EntityGraph.Proofs.Statement.Outline
import EntityGraph.Proofs.Statement.OwnColumns
import EntityGraph.Proofs.Statement.SingleColumns
import EntityGraph.Proofs.Statement.Vocabulary
import EntityGraph.Proofs.Store.Deletion
import EntityGraph.Proofs.Time.Forms
import EntityGraph.Proofs.Value.Integers
import EntityGraph.Proofs.Value.Typing
