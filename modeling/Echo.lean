import Echo.Transition.Run
import Echo.Dictionary.Order
import Echo.Client.Platform
import Echo.Client.World
import Echo.Client.Reporting
import Echo.Client.Session
import Echo.Client.User
import Echo.Client.Configuration
import Echo.Client.Initialise
import Echo.Client.Step
import Echo.Transition.Footprint
import Echo.Contract.Terms
import Echo.Conduct.Action
import Echo.Conduct.Conforms
import Echo.Conduct.Reports
import Echo.Conduct.Sessions
import Echo.Conduct.Users
import Echo.Conduct.Steps
import Echo.Client.Frame
import Echo.Client.UserFrame
import Echo.Client.Delivery
import Echo.Protocol.Machine
import Echo.Protocol.Observe
import Echo.Protocol.Turns
import Echo.Protocol.Refinement
import Echo.Protocol.Launch
import Echo.Client.Reference
import Echo.Protocol.Agreement
import Echo.Protocol.Lifecycle
import Echo.Protocol.Ownership
import Echo.Protocol.Closed
import Echo.Protocol.CacheLock
import Echo.Client.Laws
import Echo.Protocol.Plays
import Echo.User.Events
import Echo.User.Account
import Echo.User.LatestUser
import Echo.User.TokenExpiry
import Echo.Client.App
import Echo.User.Postponed
import Echo.Isolation.Showing
import Echo.Isolation.Agreement
import Echo.Isolation.Sessions
import Echo.Client.Selection
import Echo.Protocol.Refusal
import Echo.Labels.Cleaning
import Echo.Labels.Delivered
import Echo.Playback.Positions
import Echo.Playback.Length
import Echo.Playback.Release
import Echo.Playback.Flags
import Echo.User.Schedule
import Echo.User.Timers
import Echo.Labels.Persistent
import Echo.Labels.Scoped
import Echo.Dictionary.Collisions
import Echo.Labels.Hashing
import Echo.Configuration.Precedence
import Echo.Configuration.Validity
import Echo.Configuration.Failure
import Echo.Contract.Calls
import Echo.Contract.Delegates
import Echo.Transition.Simulation
import Echo.Protocol.Simulation
import Echo.Transition.Erasure
import Echo.Separation.Pages
import Echo.Separation.Player
import Echo.Protocol.Brokers
import Echo.User.Trace
import Echo.Playback.Suppression
import Echo.Dictionary.Batches
import Echo.Labels.Batches
import Echo.User.Deferral
import Echo.Configuration.Collation
import Echo.Contract.Requests
import Echo.Protocol.Clones
