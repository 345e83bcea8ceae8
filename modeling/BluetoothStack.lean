import BluetoothStack.Library.CyclicWindow
import BluetoothStack.Library.ByteStream
import BluetoothStack.Library.ReflectedCrc
import BluetoothStack.L2cap.FcrDefs
import BluetoothStack.L2cap.FcrTx
import BluetoothStack.L2cap.Fcs
import BluetoothStack.L2cap.FcrRx
import BluetoothStack.L2cap.ErtmWindow
import BluetoothStack.L2cap.ErtmSegmentation
import BluetoothStack.L2cap.LeCoc
import BluetoothStack.L2cap.LeCocSegmentation
import BluetoothStack.Library.Tlv
import BluetoothStack.L2cap.Signalling
import BluetoothStack.L2cap.ConfigParsing
import BluetoothStack.Library.Loops
import BluetoothStack.L2cap.Ecoc
import BluetoothStack.L2cap.EcocBookkeeping
import BluetoothStack.Types.UuidBytes
import BluetoothStack.Gatt.Defs
import BluetoothStack.Gatt.ServerState
import BluetoothStack.Gatt.Database
import BluetoothStack.Gatt.Server
import BluetoothStack.Gatt.ServerAnswers
import BluetoothStack.Library.FuelLoop
import BluetoothStack.Sdp.Defs
import BluetoothStack.Sdp.AttribSeq
import BluetoothStack.Sdp.RequestCodec
import BluetoothStack.Library.ArrayMoves
import BluetoothStack.Sdp.RecordStore
import BluetoothStack.Sdp.Server
import BluetoothStack.L2cap.ErtmReassembly
import BluetoothStack.Library.Parsed
import BluetoothStack.Library.Arena
import BluetoothStack.Sdp.Discovery
import BluetoothStack.Sdp.DiscoveryBounds
import BluetoothStack.L2cap.ErtmHoldQueue
import BluetoothStack.LeAudio.LtvMap
import BluetoothStack.Library.BitString
import BluetoothStack.Packet.BitInserter
import BluetoothStack.Library.StableQueue
import BluetoothStack.Library.Simulation
import BluetoothStack.Common.MultiPriorityQueue
import BluetoothStack.Hci.RoundRobinScheduler
import BluetoothStack.Hci.SchedulerCredits
import BluetoothStack.Library.ListMap
import BluetoothStack.Library.CNumerals
import BluetoothStack.Library.ListSearch
import BluetoothStack.Common.Strings
import BluetoothStack.Types.Address
import BluetoothStack.Storage.ConfigCache
import BluetoothStack.Storage.ConfigCacheInvariant
import BluetoothStack.Avdt.Msg
import BluetoothStack.Avdt.Fragmentation
import BluetoothStack.Avdt.Cfg
import BluetoothStack.Rfcomm.Frames
import BluetoothStack.Rfcomm.Mx
import BluetoothStack.Library.Words
import BluetoothStack.Smp.Multiprecision
import BluetoothStack.Smp.EccPp
import BluetoothStack.LeAudio.Pacs
import BluetoothStack.LeAudio.AseCtp
import BluetoothStack.Packet.PacketView
import BluetoothStack.Storage.LegacyConfigFile
import BluetoothStack.Common.ListMap
import BluetoothStack.Common.LruCache
import BluetoothStack.Common.MetricIdManager
import BluetoothStack.Common.MetricIdInvariant
import BluetoothStack.Osi.Ringbuffer
import BluetoothStack.Types.Uuid
import BluetoothStack.Library.OrderedSet
import BluetoothStack.Avrcp.ResponseBuilders
import BluetoothStack.Avrcp.Requests
import BluetoothStack.Gatt.ReadMultiple
import BluetoothStack.Gatt.Client
import BluetoothStack.Library.Cmac
import BluetoothStack.Crypto.AesCmac
import BluetoothStack.Crypto.Toolbox
import BluetoothStack.Crypto.PrivateAddress
import BluetoothStack.Advertising.DataParser
import BluetoothStack.Csis.SetIdentity
import BluetoothStack.Hfp.AgAt
import BluetoothStack.Hfp.ClientAt
import BluetoothStack.Library.AdjacentSwaps
import BluetoothStack.Sdp.Utils
import BluetoothStack.Storage.ConfigCacheRead
import BluetoothStack.Storage.ConfigCacheHelper
import BluetoothStack.Storage.ConfigCacheKeystore
