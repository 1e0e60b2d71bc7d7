import ItemStore.Http.Exchange
import ItemStore.Proofs.Calendar.Texts
import ItemStore.Proofs.Environment
import ItemStore.Proofs.Expression.Reserved
import ItemStore.Proofs.Expression.Search
import ItemStore.Proofs.Http.Reports
import ItemStore.Proofs.Http.Spellings
import ItemStore.Proofs.Message.RoundTrip
import ItemStore.Proofs.PlainPlaceholders
import ItemStore.Proofs.Read.Requests
import ItemStore.Proofs.Sending
import ItemStore.Proofs.Update.Clocks
import ItemStore.Proofs.Update.Closed
import ItemStore.Proofs.Update.ConditionText
import ItemStore.Proofs.Update.Interleaving
import ItemStore.Proofs.Update.KeyAttributes
import ItemStore.Proofs.Update.Overlap
import ItemStore.Proofs.Update.Revision
import ItemStore.Proofs.Update.Separable
import ItemStore.Proofs.Update.Timestamps
import ItemStore.Proofs.Value.Image
