import ScstMem.System

/-! `sgv_pages_total` against the pages the objects and vectors hold.
`sgv_pool_free` charges an object with `sg_count = 0` nothing, and
`sgv_dtor_and_free` frees no pages for it, but `__sgv_purge_from_cache`
subtracts `1 << order_or_pages` for every cached object it unlinks. -/
namespace ScstMem
open sgv_clustering_types

/-- The pages held by live objects and by the vectors the callers hold. -/
def pagesHeld (s : SgvState) : Int :=
  ((List.range s.next_obj).map fun id => ((s.objs id).map SgvObj.heldPages).getD 0).sum +
    (s.vectors.map fun v => (v.2 : Int)).sum

/-- A one-page request on a cache miss with `SCST_POOL_NO_ALLOC_ON_CACHE_MISS |
SCST_POOL_RETURN_OBJ_ON_ALLOC_FAIL`, the returned object freed, the pool
flushed. -/
def pagelessRun : List Call :=
  [.alloc ⟨0, 4096, ⟨false, true, true⟩, 0, none, 0, 0⟩ ⟨true, true, true, true, []⟩,
   .free 0 0, .flush 0]

theorem pageless_object_purge_total_negative :
    Reachable x86Config
        (runCalls x86Config (SgvState.initial (fun _ => .sgv_no_clustering) (fun _ => 16))
          pagelessRun) ∧
      (runCalls x86Config (SgvState.initial (fun _ => .sgv_no_clustering) (fun _ => 16))
          pagelessRun).sgv_pages_total = -1 ∧
      pagesHeld (runCalls x86Config (SgvState.initial (fun _ => .sgv_no_clustering) (fun _ => 16))
          pagelessRun) = 0 :=
  ⟨reachable_runCalls x86Config pagelessRun (.init _ _) (by decide), by decide, by decide⟩

end ScstMem
