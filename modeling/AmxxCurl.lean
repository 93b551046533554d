import AmxxCurl.Lib.Machine
import AmxxCurl.Lib.Heap
import AmxxCurl.Lib.Table
import AmxxCurl.Lib.Appends
import AmxxCurl.Lib.Pool
import AmxxCurl.Lib.Varargs
import AmxxCurl.Lib.Outcome
import AmxxCurl.Lib.Lease
import AmxxCurl.Asio.Kernel
import AmxxCurl.Asio.Socket
import AmxxCurl.Multi.Defs
import AmxxCurl.Multi.Step
import AmxxCurl.Multi.Cases
import AmxxCurl.Multi.Tracking
import AmxxCurl.Multi.Frames
import AmxxCurl.Multi.Coverage
import AmxxCurl.Multi.Sockets
import AmxxCurl.Multi.Reports
import AmxxCurl.Multi.Ownership
import AmxxCurl.Multi.Watchable
import AmxxCurl.Multi.Arming
import AmxxCurl.Multi.Maps
import AmxxCurl.Multi.Generations
import AmxxCurl.Multi.Fading
import AmxxCurl.Multi.Caught
import AmxxCurl.Amx.Host
import AmxxCurl.Amx.Defs
import AmxxCurl.Amx.Transfers
import AmxxCurl.Amx.InFlight
import AmxxCurl.Amx.Refinement
import AmxxCurl.Amx.Agreement
import AmxxCurl.Amx.Completion
import AmxxCurl.Amx.Teardown
import AmxxCurl.Amx.Step
import AmxxCurl.Amx.Cases
import AmxxCurl.Amx.Stack
import AmxxCurl.Amx.Frames
import AmxxCurl.Amx.Places
import AmxxCurl.Amx.Plugins
import AmxxCurl.Amx.Changes
import AmxxCurl.Amx.Objects
import AmxxCurl.Amx.Handles
import AmxxCurl.Amx.Body
import AmxxCurl.Amx.Arguments
import AmxxCurl.Amx.Options
import AmxxCurl.Amx.NativeCalls
import AmxxCurl.Amx.Exceptions
import AmxxCurl.Amx.Natives
import AmxxCurl.Amx.Callbacks
import AmxxCurl.World
import AmxxCurl.Amx.Bindings
import AmxxCurl.Amx.Setup
import AmxxCurl.Amx.Forwards
import AmxxCurl.Amx.Leases
import AmxxCurl.Amx.Forms
import AmxxCurl.Amx.Refusals
import AmxxCurl.Amx.Drain
import AmxxCurl.Multi.Timer
import AmxxCurl.Timeouts
import AmxxCurl.Lib.Custody
import AmxxCurl.Amx.Custody
import AmxxCurl.Amx.Stuck
import AmxxCurl.Amx.Buffers
import AmxxCurl.Lib.Bisimulation
import AmxxCurl.Amx.Visible
import AmxxCurl.Amx.Reset
import AmxxCurl.Amx.Nesting
import AmxxCurl.Amx.Order
import AmxxCurl.Amx.Fates
import AmxxCurl.Amx.Countdown
import AmxxCurl.Amx.Shutdown
import AmxxCurl.Lib.Protocol
import AmxxCurl.Lib.Progress
import AmxxCurl.Amx.Contract
import AmxxCurl.Amx.Lawful
import AmxxCurl.Lib.Tally
import AmxxCurl.Multi.Calls
import AmxxCurl.Multi.TimerAccount
import AmxxCurl.Multi.Disposal
import AmxxCurl.Amx.Dense
import AmxxCurl.Amx.Rest
import AmxxCurl.Amx.Stopped
import AmxxCurl.Amx.Alive
import AmxxCurl.Lib.Part
import AmxxCurl.Amx.Alone
