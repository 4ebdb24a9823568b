import ScstMem.Accounting

/-! An object handed back through `*sgv` after a failed fill keeps the
lengths of the entries filled before the failure: `out_no_mem` frees their
pages but leaves the entries, and the `*sgv` path of `sgv_pool_alloc` does
not call `sg_init_table` again. The next fill on it then walks the stale
lengths in its trans_tbl loop. -/
namespace ScstMem
open sgv_clustering_types

/-- Four pages on a fully clustered pool, the fourth page allocation failing,
with `SCST_POOL_RETURN_OBJ_ON_ALLOC_FAIL`. -/
def failedFill : Call :=
  .alloc ⟨0, 16384, ⟨false, false, true⟩, 0, none, 0, 0⟩
    ⟨true, true, true, true, [some 10, some 20, some 30, none]⟩

/-- The retry through `*sgv`, on four contiguous pages. -/
def refillArgs : AllocArgs := ⟨0, 16384, ⟨false, false, true⟩, 0, some 0, 0, 0⟩

def refillPages : List (Option Nat) := [some 100, some 101, some 102, some 103]

/-- After the failed fill the retry is a call the callers may make. Its fill
starts from four entries that each still have a page's length (the failed
`sgv_alloc_sys_pages` sets one too), returns `sg_count = 1`, and its
trans_tbl loop ends at `pg = 6`: the merges cleared the second entry, but the
third and fourth still count a page each, so it wrote `sg_num` at
`trans_tbl[4]` and `trans_tbl[5]`, past the four entries of the table. The
model drops those two writes and keeps where the loop ended. -/
theorem refill_trans_loop_overruns :
    Reachable x86Config
        (runCalls x86Config (SgvState.initial (fun _ => .sgv_full_clustering) (fun _ => 16))
          [failedFill]) ∧
      (Call.alloc refillArgs ⟨true, true, true, true, refillPages⟩).allowed x86Config
        (runCalls x86Config (SgvState.initial (fun _ => .sgv_full_clustering) (fun _ => 16))
          [failedFill]) = true ∧
      ((runCalls x86Config (SgvState.initial (fun _ => .sgv_full_clustering) (fun _ => 16))
          [failedFill]).obj 0).sg_entries.map SgEntry.length = [4096, 4096, 4096, 4096] ∧
      (sgv_alloc_sg_entries x86Config
          ((runCalls x86Config (SgvState.initial (fun _ => .sgv_full_clustering) (fun _ => 16))
            [failedFill]).obj 0).sg_entries 4 .sgv_full_clustering
          ((runCalls x86Config (SgvState.initial (fun _ => .sgv_full_clustering) (fun _ => 16))
            [failedFill]).obj 0).trans_tbl refillPages).sg_count = 1 ∧
      (sgv_alloc_sg_entries x86Config
          ((runCalls x86Config (SgvState.initial (fun _ => .sgv_full_clustering) (fun _ => 16))
            [failedFill]).obj 0).sg_entries 4 .sgv_full_clustering
          ((runCalls x86Config (SgvState.initial (fun _ => .sgv_full_clustering) (fun _ => 16))
            [failedFill]).obj 0).trans_tbl refillPages).transEnd = 6 :=
  ⟨reachable_runCalls x86Config [failedFill] (.init _ _) (by decide), by decide, by decide,
    by decide, by decide⟩

end ScstMem
