import Qatlib.Lib.System
import Qatlib.QatMgr.Messages
import Qatlib.QatMgr.Sections
import Qatlib.QatMgr.Daemon
import Qatlib.QatMgr.Idle
import Qatlib.QatMgr.ConfigLookup
import Qatlib.QatMgr.PfTable
import Qatlib.QatMgr.BuildFailure
import Qatlib.Compression.Datapath
import Qatlib.Compression.Pending
import Qatlib.Lib.CircularBuffer
import Qatlib.Transport.InFlight
import Qatlib.Transport.HeadWrites
import Qatlib.Transport.RingSize
import Qatlib.Vfio.Container
import Qatlib.Adf.Events
import Qatlib.Adf.DeviceTable
import Qatlib.Sal.Restart
import Qatlib.Sal.ServiceInit
import Qatlib.Lib.Bitmap
import Qatlib.Usdm.Iova
import Qatlib.Usdm.IovaSearch
import Qatlib.Usdm.IovaOwnership
import Qatlib.Usdm.PermittedRanges
import Qatlib.Usdm.SlabInvariant
import Qatlib.Usdm.SlabSearch
import Qatlib.Usdm.SlabFree
import Qatlib.Lib.DList
import Qatlib.Lib.RadixTree
import Qatlib.Usdm.Accounting
import Qatlib.Usdm.AllocatorCalls
import Qatlib.Usdm.AlignedBlocks
import Qatlib.Usdm.HashLookup
import Qatlib.Usdm.Mappings
import Qatlib.Usdm.RoundTrip
import Qatlib.Pfvf.BlockMessage
import Qatlib.Pfvf.Checksum
import Qatlib.Transport.HandleAccounting
import Qatlib.Crypto.GcmHistory
import Qatlib.Crypto.SymOrder
import Qatlib.Crypto.PkeUtils
import Qatlib.Crypto.PkeRoundTrip
import Qatlib.Crypto.PrimeChain
import Qatlib.Crypto.CcmData
import Qatlib.Crypto.TlsKey
import Qatlib.Crypto.AlgChain.Perform
import Qatlib.Crypto.AlgChain.Gcm
import Qatlib.Crypto.AlgChain.HashContext
import Qatlib.Utils.LockFreeStack
import Qatlib.Compression.Chain
import Qatlib.Compression.ChainPools
import Qatlib.Compression.CookiePool
import Qatlib.Compression.NoSession
import Qatlib.Compression.EnqueueBatch
import Qatlib.Compression.GzipStream
import Qatlib.Compression.StatefulPackets
import Qatlib.Compression.SessionUpdate
import Qatlib.Compression.SessionRemoval
import Qatlib.Compression.Crc
import Qatlib.Callbacks
