import Sealwire.Asks.HandBack
import Sealwire.Asks.Moves
import Sealwire.Asks.OwnTurns
import Sealwire.Attention.Announce
import Sealwire.Broker.Payload
import Sealwire.Broker.Presence
import Sealwire.Broker.PresenceRuns
import Sealwire.Broker.ProofMessages
import Sealwire.Broker.Publish
import Sealwire.Broker.Queues
import Sealwire.Broker.RelayProofs
import Sealwire.Broker.SeatSafety
import Sealwire.Broker.Seats
import Sealwire.Broker.State
import Sealwire.Control.FindCredential
import Sealwire.Control.Limits
import Sealwire.Control.RefreshTexts
import Sealwire.Control.Saves
import Sealwire.Control.Shared
import Sealwire.Control.SharedSeats
import Sealwire.Control.Tokens
import Sealwire.Core.Commit
import Sealwire.Core.Devices
import Sealwire.Core.Encode
import Sealwire.Core.RoundTrip
import Sealwire.Core.Rows
import Sealwire.Core.State
import Sealwire.Core.StateRows
import Sealwire.Devices.Limits
import Sealwire.Goals.Driver
import Sealwire.Hydration.Arrival
import Sealwire.Hydration.Bodies
import Sealwire.Hydration.CommandFeed
import Sealwire.Hydration.Deliveries
import Sealwire.Hydration.Invariant
import Sealwire.Hydration.Reconcile
import Sealwire.Hydration.Slots
import Sealwire.Hydration.State
import Sealwire.Hydration.Store
import Sealwire.Hydration.Streaming
import Sealwire.Hydration.TailPlaces
import Sealwire.Hydration.WindowOwners
import Sealwire.Hydration.WindowRuns
import Sealwire.Hydration.WindowSteps
import Sealwire.Hydration.Windows
import Sealwire.Hydration.Wire
import Sealwire.Hydration.Writers
import Sealwire.Lib.FieldScan
import Sealwire.Lib.Framing
import Sealwire.Lib.Json
import Sealwire.Lib.KeyRange
import Sealwire.Lib.ReplayWindow
import Sealwire.Lib.RowStore
import Sealwire.Lib.Runs
import Sealwire.Lib.Spacing
import Sealwire.Lib.Table
import Sealwire.Lib.Text
import Sealwire.Lib.Word
import Sealwire.Orchestration.Backend
import Sealwire.Orchestration.CommandGrammar
import Sealwire.Orchestration.Lenient
import Sealwire.Orchestration.Progress
import Sealwire.Orchestration.Token
import Sealwire.Patches.Truncated
import Sealwire.Release.Unlink
import Sealwire.Remote.Fitting
import Sealwire.Remote.OnceEndToEnd
import Sealwire.Remote.OneTrain
import Sealwire.Remote.RelayFrames
import Sealwire.Requests.Admission
import Sealwire.Requests.Answers
import Sealwire.Requests.AtMostOnce
import Sealwire.Requests.Book
import Sealwire.Requests.Calls
import Sealwire.Requests.Window
import Sealwire.Sessions.Bindings
import Sealwire.Sessions.Erasure
import Sealwire.Snapshot.Honest
import Sealwire.Tabs.Runs
import Sealwire.Team.Command
import Sealwire.Team.Idempotence
import Sealwire.Team.Journal
import Sealwire.Team.Lifecycle
import Sealwire.Team.Ownership
import Sealwire.Team.Reducer
import Sealwire.Team.ReducerSteps
import Sealwire.Team.Restart
import Sealwire.Team.Restore
import Sealwire.Team.Revision
import Sealwire.Team.Run
import Sealwire.Team.Settled
import Sealwire.Team.Standing
import Sealwire.Transcript.Commands
import Sealwire.Transcript.Gaps
import Sealwire.Transcript.Minting
import Sealwire.Transcript.OrderKeys
import Sealwire.Transcript.ReadNames
import Sealwire.Transcript.Record
import Sealwire.Transcript.RowText
import Sealwire.Transcript.Runtime
import Sealwire.Transcript.RuntimeRuns
import Sealwire.Transcript.SourceNames
import Sealwire.Transcript.Store
import Sealwire.Transcript.StoreInvariant
import Sealwire.Transcript.StoreNames
import Sealwire.Transcript.StoreRuns
import Sealwire.Transcript.WalkOnce
import Sealwire.Workspaces.Borrowing
import Sealwire.Writer.Delivery
