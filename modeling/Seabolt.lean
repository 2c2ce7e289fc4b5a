import Seabolt.Lib.ByteOrder
import Seabolt.Lib.Chunking
import Seabolt.Lib.Heap
import Seabolt.Lib.Leases
import Seabolt.Lib.Runs
import Seabolt.Lib.Loops
import Seabolt.Lib.Signals
import Seabolt.Lib.Locks
import Seabolt.Lib.Contention
import Seabolt.Error
import Seabolt.Memory
import Seabolt.Buffering
import Seabolt.Values
import Seabolt.PackStream.Load
import Seabolt.PackStream.Unload
import Seabolt.PackStream.Grammar
import Seabolt.PackStream.Encode
import Seabolt.PackStream.Decode
import Seabolt.PackStream.Extent
import Seabolt.PackStream.Acceptance
import Seabolt.PackStream.Emission
import Seabolt.PackStream.Truncation
import Seabolt.PackStream.Walk
import Seabolt.PackStream.Hostile
import Seabolt.PackStream.Decoded
import Seabolt.Communication
import Seabolt.Protocol
import Seabolt.Signatures
import Seabolt.PackStream.Headers
import Seabolt.ProtocolState
import Seabolt.Connection
import Seabolt.Receive
import Seabolt.Fetch
import Seabolt.Framing
import Seabolt.Messages
import Seabolt.Responses
import Seabolt.Correlation
import Seabolt.Violations
import Seabolt.EmptyMessages
import Seabolt.Isolation
import Seabolt.TopLevel
import Seabolt.Versions
import Seabolt.Requests
import Seabolt.Loading
import Seabolt.Builders
import Seabolt.Opening
import Seabolt.Effects
import Seabolt.Statuses
import Seabolt.Authentication
import Seabolt.Lives
import Seabolt.DirectPool
import Seabolt.Ownership
import Seabolt.Wakeups
import Seabolt.Recycling
import Seabolt.Failures
import Seabolt.Outbound
import Seabolt.Logging
import Seabolt.PoolCalls
import Seabolt.RoutingTable
import Seabolt.RoutingPool
import Seabolt.Discovery
import Seabolt.Procedure
import Seabolt.Fallback
import Seabolt.ServerIndex
import Seabolt.Forgetting
import Seabolt.Tenancy
import Seabolt.Callbacks
import Seabolt.Contention
import Seabolt.Leaders
import Seabolt.Refreshing
import Seabolt.NoPool
import Seabolt.Connector
import Seabolt.Acquisition
import Seabolt.Selection
import Seabolt.Initialisation
import Seabolt.Metadata
import Seabolt.ServerStrings
import Seabolt.ConnectionIds
import Seabolt.Partition
import Seabolt.Lib.Entries
import Seabolt.TxSettings
import Seabolt.StringBuilder
import Seabolt.Representations
import Seabolt.Addresses
import Seabolt.Schannel
import Seabolt.SchannelStream
import Seabolt.Lib.Pieces
import Seabolt.Summaries
import Seabolt.OpenSsl
import Seabolt.Lookup
import Seabolt.Appends
import Seabolt.Lib.Fifo
import Seabolt.ByteQueue
import Seabolt.AddressSets
import Seabolt.Lib.Blocks
import Seabolt.StoredValue
import Seabolt.ValueTrees
import Seabolt.ValueRuns
import Seabolt.Lib.Erasure
import Seabolt.Logged.Calls
import Seabolt.Logged.Requests
import Seabolt.Logged.Decoding
import Seabolt.Logged.Transfers
import Seabolt.Logged.Fetch
import Seabolt.Logged.Transparency
import Seabolt.Conversation
import Seabolt.FailureReports
import Seabolt.PackStream.Shortest
import Seabolt.ServerView
import Seabolt.Sockets
import Seabolt.PlainCommunication
import Seabolt.SocketRefinement
import Seabolt.SocketOpening
import Seabolt.SocketSignals
import Seabolt.SocketLives
import Seabolt.SecureLives
import Seabolt.Beginnings
import Seabolt.Commands
import Seabolt.Unread
import Seabolt.Defunct
import Seabolt.Resolution
