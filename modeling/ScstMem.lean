import ScstMem.Basic
import ScstMem.Clustering
import ScstMem.Fill
import ScstMem.Pool
import ScstMem.Reclaim
import ScstMem.Alloc
import ScstMem.System
import ScstMem.Accounting
import ScstMem.Reuse
import ScstMem.Counters
import ScstMem.Registry
import ScstMem.Lifecycle
import ScstMem.Invariant
import ScstMem.Success
import ScstMem.Ledger
import ScstMem.AllocPaths
import ScstMem.PoolAlloc
import ScstMem.Calls
import ScstMem.Quiescent
import ScstMem.PoolCounters
import ScstMem.Sections
import ScstMem.Purge
import ScstMem.Names
import ScstMem.ClusterCounts
import ScstMem.Shrink
import ScstMem.TransTable
import ScstMem.Whole
import ScstMem.Overflow
import ScstMem.Locks
import ScstMem.Layout
import ScstMem.Heap
import ScstMem.Stats
import ScstMem.ProcInfo
import ScstMem.Caches
