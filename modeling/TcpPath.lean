import TcpPath.Util.Cells
import TcpPath.Util.FirstMatch
import TcpPath.Frame
import TcpPath.Decoder
import TcpPath.Tables.Pointer
import TcpPath.Tables.MacPort
import TcpPath.Tables.MacPortCode
import TcpPath.Tables.Tcp
import TcpPath.Tables.TcpCode
import TcpPath.RoundTrip
import TcpPath.Ports
import TcpPath.Util.Runs
import TcpPath.Pipeline
import TcpPath.Calls
import TcpPath.SwitchRuns
import TcpPath.Learning
import TcpPath.Util.ClassOrder
import TcpPath.Lookups
import TcpPath.Neighbors
import TcpPath.Util.Walk
import TcpPath.OpenFlow.FlowMod
import TcpPath.OpenFlow.FlowTables
import TcpPath.OpenFlow.Termination
import TcpPath.Util.PointerTree
import TcpPath.Network
import TcpPath.Tree
import TcpPath.ArpPath
import TcpPath.ArpFlood
import TcpPath.ArpDelivery
import TcpPath.ValleyFree
import TcpPath.TcpFrame
import TcpPath.TcpStale
import TcpPath.TcpTree
import TcpPath.TcpSymmetry
import TcpPath.Util.VectorLoops
import TcpPath.Tfe.Packet
import TcpPath.Tfe.Switch
import TcpPath.Tfe.Flood
import TcpPath.Tfe.Invariants
import TcpPath.Tfe.Output
import TcpPath.Tfe.Expiry
import TcpPath.Tfe.Leases
import TcpPath.Util.KeyedLists
import TcpPath.Util.Worklist
import TcpPath.OpenFlow.RefTables
import TcpPath.OpenFlow.Datapath
import TcpPath.OpenFlow.Bookkeeping
import TcpPath.OpenFlow.Refinement
import TcpPath.OpenFlow.References
import TcpPath.Util.Acyclic
import TcpPath.Util.BigEndian
import TcpPath.OpenFlow.Wire
import TcpPath.OpenFlow.Messages
import TcpPath.OpenFlow.Accounting
import TcpPath.OpenFlow.Groups
import TcpPath.OpenFlow.GroupExecution
import TcpPath.OpenFlow.BackReferences
import TcpPath.OpenFlow.RefCounts
import TcpPath.OpenFlow.Buffers
import TcpPath.OpenFlow.PacketIn
import TcpPath.OpenFlow.DpPorts
import TcpPath.OpenFlow.Multipart
import TcpPath.OpenFlow.Control
import TcpPath.OpenFlow.Controllers
import TcpPath.OpenFlow.FeatureRequests
import TcpPath.OpenFlow.Checksum
import TcpPath.OpenFlow.Receive
import TcpPath.OpenFlow.FlowStats
import TcpPath.OpenFlow.Pack
import TcpPath.OpenFlow.OxmMatch
import TcpPath.OpenFlow.OxmRoundTrip
import TcpPath.Util.Ternary
import TcpPath.OpenFlow.MatchStd
import TcpPath.OpenFlow.PulledMatch
import TcpPath.OpenFlow.MatchRelations
import TcpPath.Util.Mixing
import TcpPath.Util.Grouping
import TcpPath.OpenFlow.TableFeatures
import TcpPath.OpenFlow.TableIds
import TcpPath.OpenFlow.Counters
import TcpPath.OpenFlow.SetField
import TcpPath.OpenFlow.FlowChanges
import TcpPath.Util.RoundRobin
import TcpPath.OpenFlow.GroupSelection
import TcpPath.Util.TokenBucket
import TcpPath.OpenFlow.Meters
import TcpPath.Util.RankedSet
import TcpPath.OpenFlow.PushPop
import TcpPath.OpenFlow.ActionSets
import TcpPath.OpenFlow.Queues
