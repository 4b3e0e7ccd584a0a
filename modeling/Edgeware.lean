import Edgeware.Lib.OrdMap
import Edgeware.Lib.SortBy
import Edgeware.Lib.ListUpdate
import Edgeware.Lib.Machine
import Edgeware.Events
import Edgeware.Tracing.Types
import Edgeware.Tracing.CallList
import Edgeware.Tracing.CallTracer
import Edgeware.Spec.Transaction
import Edgeware.Spec.CallTree
import Edgeware.Verif.CallListTree
import Edgeware.Verif.CallTracerTree
import Edgeware.Tracing.TraceFilter
import Edgeware.Verif.CallListBlock
import Edgeware.Tracing.Raw
import Edgeware.Pallets.TreasuryReward
import Edgeware.Rpc.Trace
import Edgeware.Verif.TracePaging
import Edgeware.Rpc.TraceCache
import Edgeware.Spec.Frame
import Edgeware.Verif.RawFrames
import Edgeware.Spec.Minting
import Edgeware.Verif.TreasuryMinting
import Edgeware.Runtime.Precompiles
import Edgeware.Runtime.Proxy
import Edgeware.Lib.LittleEndian
import Edgeware.Runtime.Migrations
import Edgeware.Verif.Web3Credit
import Edgeware.Lib.Saturating
import Edgeware.Runtime.Fees
import Edgeware.Consensus.Aura
import Edgeware.Verif.AuraHeaders
import Edgeware.Consensus.AuraImport
import Edgeware.Verif.AuraImport
import Edgeware.Rpc.TxPool
import Edgeware.Verif.TxPool
import Edgeware.Runtime.DebugApi
import Edgeware.Lib.Radix
import Edgeware.Rpc.Debug
import Edgeware.Verif.Debug
import Edgeware.Lib.ExceptOption
import Edgeware.Verif.CacheBatches
