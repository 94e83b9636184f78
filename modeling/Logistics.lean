import Logistics.Lib.Prog
import Logistics.Lib.Table
import Logistics.Base.Json
import Logistics.Base.State
import Logistics.Store.Storage
import Logistics.Store.Inventory
import Logistics.Auth.Authenticator
import Logistics.Session.Manager
import Logistics.Session.Command
import Logistics.Session.Alert
import Logistics.Session.Message
import Logistics.Lib.Runs
import Logistics.Lib.Sections
import Logistics.Session.System
import Logistics.Session.Access
import Logistics.Session.Locks
import Logistics.Lib.Machine
import Logistics.Store.Coherence
import Logistics.Store.Refine
import Logistics.Store.Concurrent
import Logistics.Server.Descriptors
import Logistics.Server.Ownership
import Logistics.Server.OneShot
import Logistics.Server.Loop
import Logistics.Server.Arming
import Logistics.Auth.BruteForce
import Logistics.Session.ClientSession
import Logistics.Session.Output
import Logistics.Session.Framing
import Logistics.Session.Udp
import Logistics.Lib.Presence
import Logistics.Session.Registry
import Logistics.Session.Queues
import Logistics.Session.Lifecycle
import Logistics.Session.Broadcast
import Logistics.Lib.Mailbox
import Logistics.Session.Notify
import Logistics.Session.Restart
import Logistics.Session.Outcome
import Logistics.Session.Frame
import Logistics.Session.Rows
import Logistics.Server.Pool
import Logistics.Lib.Disk
import Logistics.Log.Rotation
import Logistics.Lib.Couple
import Logistics.Store.Slice
import Logistics.Session.Isolation
import Logistics.Session.LockCalls
import Logistics.Session.Handlers
import Logistics.Server.Ipc
import Logistics.Lib.JsonScan
import Logistics.Lib.JsonNumber
import Logistics.Base.JsonCodec
import Logistics.Client.Listener
import Logistics.Session.Schema
import Logistics.Client.Keepalive
import Logistics.Client.Input
import Logistics.Auth.Lockout
import Logistics.Session.Partition
import Logistics.Session.Quantity
import Logistics.Session.Delivery
import Logistics.Session.Routine
import Logistics.Session.ErrorCount
import Logistics.Session.Audit
import Logistics.Lib.NewestFirst
import Logistics.Session.History
import Logistics.Client.Login
import Logistics.Session.Unlock
import Logistics.Session.Closing
import Logistics.Lib.Backlog
import Logistics.Session.EventFifo
import Logistics.Base.JsonFields
import Logistics.Session.Redaction
import Logistics.Lib.Chunked
import Logistics.Log.Logger
import Logistics.Lib.Strtok
import Logistics.Client.Prompt
import Logistics.Client.Printers
import Logistics.Startup.Arguments
import Logistics.Lib.Bounded
import Logistics.Client.Queue
import Logistics.Client.UnlockLine
import Logistics.Lib.Trace
import Logistics.Server.Tasks
import Logistics.Session.Ledger
import Logistics.Session.Accounts
import Logistics.Startup.Settings
import Logistics.Lib.Handles
import Logistics.Startup.Sockets
import Logistics.Client.Lifetime
import Logistics.Client.Dashboard
import Logistics.Client.Terminal
import Logistics.Lib.JsonAscii
import Logistics.Lib.JsonCut
import Logistics.Session.Datagrams
import Logistics.Client.Panels
import Logistics.Client.Sensor
