import ArcdpsHealing.Lib.Run
import ArcdpsHealing.Lib.Word
import ArcdpsHealing.Lib.Clock
import ArcdpsHealing.Lib.Codec
import ArcdpsHealing.Lib.Cursor
import ArcdpsHealing.Lib.Memory
import ArcdpsHealing.Lib.FromChars
import ArcdpsHealing.Lib.Tokens
import ArcdpsHealing.Lib.BitSet
import ArcdpsHealing.Lib.Group
import ArcdpsHealing.Lib.SortBy
import ArcdpsHealing.Lib.Chain
import ArcdpsHealing.Lib.Utf8
import ArcdpsHealing.Lib.Json
import ArcdpsHealing.Lib.Reconcile
import ArcdpsHealing.Lib.SharedMap
import ArcdpsHealing.Lib.SharedMutex
import ArcdpsHealing.Lib.Ownership
import ArcdpsHealing.Arcdps.Structs
import ArcdpsHealing.Arcdps.EventType
import ArcdpsHealing.Sequencer.State
import ArcdpsHealing.Sequencer.Sequential
import ArcdpsHealing.Sequencer.Drain
import ArcdpsHealing.Sequencer.Order
import ArcdpsHealing.Sequencer.Invariant
import ArcdpsHealing.Sequencer.InOrder
import ArcdpsHealing.Sequencer.Capacity
import ArcdpsHealing.Sequencer.Repeats
import ArcdpsHealing.Sequencer.Concurrent
import ArcdpsHealing.Sequencer.Phases
import ArcdpsHealing.Sequencer.Interleaving
import ArcdpsHealing.Sequencer.NoLostWakeup
import ArcdpsHealing.Networking.LocalEvent
import ArcdpsHealing.Networking.Messages
import ArcdpsHealing.Networking.Wire
import ArcdpsHealing.Networking.Server
import ArcdpsHealing.Networking.ServerRuns
import ArcdpsHealing.Networking.ServerInvariant
import ArcdpsHealing.Networking.Routing
import ArcdpsHealing.Networking.PeerRemoval
import ArcdpsHealing.Networking.Takeover
import ArcdpsHealing.Networking.ServerFrontend
import ArcdpsHealing.Networking.OutgoingQueue
import ArcdpsHealing.Networking.Client
import ArcdpsHealing.Networking.PeerSync
import ArcdpsHealing.Networking.Serve
import ArcdpsHealing.Networking.Conformance
import ArcdpsHealing.Networking.Network
import ArcdpsHealing.Networking.Acceptance
import ArcdpsHealing.Networking.Status
import ArcdpsHealing.Networking.Endpoint
import ArcdpsHealing.Networking.Socket
import ArcdpsHealing.Processor.AgentTable
import ArcdpsHealing.Processor.AgentHistory
import ArcdpsHealing.Processor.PlayerStats
import ArcdpsHealing.Processor.Sessions
import ArcdpsHealing.Processor.EventProcessor
import ArcdpsHealing.Processor.AreaAgents
import ArcdpsHealing.Processor.Calls
import ArcdpsHealing.Processor.Relay
import ArcdpsHealing.Processor.PeerCopy
import ArcdpsHealing.Processor.Recorded
import ArcdpsHealing.Processor.BudgetMode
import ArcdpsHealing.Processor.Attribution
import ArcdpsHealing.Processor.PeerReset
import ArcdpsHealing.Processor.ClockShift
import ArcdpsHealing.Processor.PeerStates
import ArcdpsHealing.Settings.State
import ArcdpsHealing.Settings.Fields
import ArcdpsHealing.Settings.Options
import ArcdpsHealing.Settings.RoundTrip
import ArcdpsHealing.Settings.Truncation
import ArcdpsHealing.Stats.SkillTable
import ArcdpsHealing.Stats.AggregatedStats
import ArcdpsHealing.Stats.IncludedSkills
import ArcdpsHealing.Stats.Conservation
import ArcdpsHealing.Stats.Details
import ArcdpsHealing.Stats.Snapshot
import ArcdpsHealing.Stats.BudgetMode
import ArcdpsHealing.Stats.ClockShift
import ArcdpsHealing.Stats.CombatEnd
import ArcdpsHealing.Stats.Sizes
import ArcdpsHealing.Stats.GroupTotals
import ArcdpsHealing.Stats.Partition
import ArcdpsHealing.Stats.Collection
import ArcdpsHealing.Stats.Sorted
import ArcdpsHealing.Stats.Results
import ArcdpsHealing.Stats.Queries
import ArcdpsHealing.Stats.LiveSkills
import ArcdpsHealing.Processor.VersionEvent
import ArcdpsHealing.Stats.SkillArrays
import ArcdpsHealing.Stats.Assertions
import ArcdpsHealing.Gui.Anchors
import ArcdpsHealing.Gui.Reposition
import ArcdpsHealing.Gui.ReplaceFormatted
import ArcdpsHealing.Gui.FormattedUtf8
import ArcdpsHealing.Gui.Utf8Substr
import ArcdpsHealing.Lib.Timer
import ArcdpsHealing.Offloaded.Aggregation
import ArcdpsHealing.Offloaded.Ownership
import ArcdpsHealing.Offloaded.Rounds
import ArcdpsHealing.Offloaded.Shutdown
import ArcdpsHealing.Offloaded.Windows
import ArcdpsHealing.Networking.FrontendDrain
import ArcdpsHealing.Networking.EndToEnd
import ArcdpsHealing.Exports.Release
import ArcdpsHealing.Processor.EvtcLog
import ArcdpsHealing.Processor.Sharing
import ArcdpsHealing.Settings.Storage
import ArcdpsHealing.Gui.Anonymous
