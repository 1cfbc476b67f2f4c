import AffinityPool.Http.Remote
import AffinityPool.Http.Transport
import AffinityPool.Json.Writer
import AffinityPool.Session.Direct
import AffinityPool.Settings.File
import AffinityPool.Walkthrough.Sessions
import AffinityPool.Proofs.Ledger.Agreement
import AffinityPool.Proofs.Hub.Dispatch
import AffinityPool.Proofs.Hub.History
import AffinityPool.Proofs.Hub.Transition
import AffinityPool.Proofs.Hub.Frame
import AffinityPool.Proofs.Hub.Register
import AffinityPool.Proofs.Affinity.Consistent
import AffinityPool.Proofs.Hub.Index
import AffinityPool.Proofs.Hub.Load
import AffinityPool.Proofs.Affinity.Account
import AffinityPool.Proofs.Hub.Account
import AffinityPool.Proofs.Hub.Closing
import AffinityPool.Proofs.Hub.Confinement
import AffinityPool.Proofs.Hub.Drain
import AffinityPool.Proofs.Hub.Concert
import AffinityPool.Proofs.Hub.SharedClose
import AffinityPool.Proofs.Hub.Rest
import AffinityPool.Proofs.Hub.Separation
import AffinityPool.Proofs.Hub.Gate
import AffinityPool.Proofs.Message.Candid
import AffinityPool.Proofs.Hub.Traffic
import AffinityPool.Proofs.Hub.Stage
import AffinityPool.Proofs.Hub.Transparency
import AffinityPool.Proofs.Pool.Usage
import AffinityPool.Proofs.Pool.Growth
import AffinityPool.Proofs.Pool.Filling
import AffinityPool.Proofs.Hub.Spread
import AffinityPool.Proofs.Hub.Streaming
import AffinityPool.Proofs.Hub.Likeness
import AffinityPool.Proofs.Hub.Indifference
import AffinityPool.Proofs.Affinity.OrderIndependence
import AffinityPool.Proofs.Affinity.Refusal
import AffinityPool.Proofs.Session.Peeking
import AffinityPool.Proofs.Hub.Erasable
import AffinityPool.Proofs.KeyPath.NormalForm
import AffinityPool.Proofs.KeyPath.Composition
import AffinityPool.Proofs.Settings.Table
import AffinityPool.Proofs.Settings.Loading
import AffinityPool.Proofs.Settings.RoundTrip
import AffinityPool.Proofs.Rpc.Response
import AffinityPool.Proofs.Hub.Grace
import AffinityPool.Proofs.Session.Direct
import AffinityPool.Proofs.Http.Delivery
import AffinityPool.Proofs.Http.Streaming
