import ScstMem.Calls

/-! The allocator between calls. `Wf` holds after `scst_sgv_pools_init` and
after every call the callers may make, so in every reachable state: each
`scst_mem_lim` is charged exactly what the callers hold under it, every frame
`alloc_pages` gave is freed, skipped by a free, or held, every cached object keeps
the entries of its last fill, and a successful `sgv_pool_alloc` covers its
request exactly. The model keeps only the trans_tbl entries inside the table: a fill
whose loop runs past it, as `refill_trans_loop_overruns` shows one can,
writes memory these results do not cover (`transFrom_drops_overrun`). -/
namespace ScstMem
open sgv_clustering_types

section Quiescent
variable {cfg : Config}

/-- What holds between calls: the invariant, nothing pending on any
`scst_mem_lim`, and the page log conserved. -/
def Wf (cfg : Config) (s : SgvState) : Prop := Within cfg s none 0 0

theorem wf_initial (ct : Nat → sgv_clustering_types) (limits : Nat → Int) :
    Wf cfg (SgvState.initial ct limits) := by
  refine ⟨⟨fun _ _ => rfl, fun _ _ => ?_, fun _ _ mem => ?_, fun _ _ _ => ?_, fun _ mem => ?_,
    List.nodup_nil, fun _ _ get => ?_⟩, fun m => ?_, ?_⟩ <;>
    simp_all [SgvState.initial, SgvPool.empty, handedCharge, heldPfns]

theorem Wf.run {s : SgvState} {c : Call} (wf : Wf cfg s) (ok : c.allowed cfg s = true) :
    Wf cfg (c.run cfg s) := by
  cases c with
  | alloc a env => exact (Within.pool_alloc wf a env ok).1.retarget 0
  | free id m => exact Within.pool_free wf (by simpa [Call.allowed] using ok)
  | scstAlloc size no_fail count env => exact Within.alloc_vector wf size no_fail count env
  | scstFree k => exact Within.free_vector wf (by simpa [Call.allowed] using ok)
  | shrink nr => exact Within.reclaimed wf (sgv_shrink_call_reclaimed nr)
  | purge p => exact Within.reclaimed wf (sgv_purge_work_fn_reclaimed p)
  | flush p => exact Within.reclaimed wf (sgv_pool_flush_reclaimed p)
  | tick dt => exact Within.storeEq wf (by constructor <;> intros <;> rfl)

theorem wf_of_reachable {s : SgvState} (reach : Reachable cfg s) : Wf cfg s := by
  induction reach with
  | init ct limits => exact wf_initial ct limits
  | step _ ok ih => exact ih.run ok

/-- Two pages of a fully clustered pool on the frames 10 and 20, handed out
and freed back to the cache. -/
def cachedTwoPages : SgvState :=
  runCalls x86Config (SgvState.initial (fun _ => .sgv_full_clustering) (fun _ => 16))
    [.alloc ⟨0, 8192, ⟨false, false, false⟩, 0, none, 0, 0⟩ ⟨true, true, true, true, [some 10, some 20]⟩,
     .free 0 0]

/-- A 5000-byte request of the same order, which hits the cached object. -/
def hitArgs : AllocArgs := ⟨0, 5000, ⟨false, false, false⟩, 0, none, 0, 0⟩

def hitEnv : AllocEnv := ⟨true, true, true, true, []⟩

theorem cachedTwoPages_reachable : Reachable x86Config cachedTwoPages :=
  reachable_runCalls x86Config _ (.init _ _) (by decide)

/-- Each `scst_mem_lim` is charged, between calls, the pages of the objects
the callers hold under it: `1 << order_or_pages` for a bucketed object,
`-order_or_pages` for a big one, nothing for one with `sg_count = 0`. Trans_tbl
writes past the table are not modelled (`transFrom_drops_overrun`). -/
theorem alloced_pages_eq_handed {s : SgvState} (reach : Reachable cfg s) (m : Nat) :
    s.alloced_pages m = handedCharge s m := by
  simpa using (wf_of_reachable reach).charged m

/-- After the hit the caller holds the object and its two pages are charged. -/
theorem hit_alloced_eq_handed :
    (sgv_pool_alloc x86Config cachedTwoPages hitArgs hitEnv).1.alloced_pages 0 =
      handedCharge (sgv_pool_alloc x86Config cachedTwoPages hitArgs hitEnv).1 0 :=
  alloced_pages_eq_handed (.step cachedTwoPages_reachable (c := .alloc hitArgs hitEnv) (by decide)) 0

/-- An object on a pool's lists has the entries its last successful fill
left, all `1 << order_or_pages` of them: `sgv_pool_free` undid the cut of
every `sgv_pool_alloc` in between. -/
theorem cached_entries_as_filled {s : SgvState} (reach : Reachable cfg s) {p id : Nat}
    (listed : (∃ k, id ∈ (s.pools p).recycling_lists k) ∨ id ∈ (s.pools p).sorted_recycling_list)
    {f : List SgEntry} (filled : (s.obj id).filled = some f) :
    (s.obj id).sg_entries = f ∧ f.length = 2 ^ (s.obj id).order_or_pages.toNat := by
  have inv := (wf_of_reachable reach).inv
  have cached := inv.cached_of_listed listed
  obtain ⟨live, -, bucketed, -, -⟩ := inv.sorted_obj _ id cached
  obtain ⟨o, get⟩ := Option.isSome_iff_exists.1 live
  rw [SgvState.obj_of_get get] at filled bucketed ⊢
  have shape := inv.shape id o get (by simp)
  have used : o.sg_count ≠ 0 := fun empty => by simp [shape.unfilled empty] at filled
  obtain ⟨f', filled', kept⟩ := shape.filled used
  obtain rfl : f' = f := Option.some.inj (filled'.symm.trans filled)
  have entries := kept.cached_eq bucketed cached
  refine ⟨entries, ?_⟩
  rw [← entries, shape.length, SgvObj.pages, if_pos bucketed]
  exact_mod_cast Int.toNat_natCast (2 ^ _)

/-- `cachedTwoPages` after the 5000-byte hit and the free of its object. -/
def hitFreed : SgvState :=
  sgv_pool_free x86Config (sgv_pool_alloc x86Config cachedTwoPages hitArgs hitEnv).1 0 0

theorem hitFreed_reachable : Reachable x86Config hitFreed :=
  .step (.step cachedTwoPages_reachable (c := .alloc hitArgs hitEnv) (by decide)) (c := .free 0 0) (by decide)

/-- The hit cut the second entry to 904 bytes; the free gives it back its
4096, the length of its fill. -/
theorem hitFreed_as_filled :
    ((sgv_pool_alloc x86Config cachedTwoPages hitArgs hitEnv).1.obj 0).sg_entries =
        [⟨some 10, 4096⟩, ⟨some 20, 904⟩] ∧
      (hitFreed.obj 0).sg_entries = [⟨some 10, 4096⟩, ⟨some 20, 4096⟩] ∧
      [(⟨some 10, 4096⟩ : SgEntry), ⟨some 20, 4096⟩].length = 2 ^ (hitFreed.obj 0).order_or_pages.toNat :=
  ⟨by decide, cached_entries_as_filled hitFreed_reachable (p := 0) (.inr (by decide)) (by decide)⟩

/-- A successful `sgv_pool_alloc` from a reachable state hands out an object
through `*sgv` and returns a count within it and entries that cover the
request: every entry below the count is non-empty, all but the last are whole
pages, and their lengths add up to the size. Trans_tbl writes past the table
are not modelled (`transFrom_drops_overrun`). -/
theorem pool_alloc_round_trip {s : SgvState} (reach : Reachable cfg s) (a : AllocArgs)
    (env : AllocEnv) (ok : (Call.alloc a env).allowed cfg s = true) {sg : List SgEntry}
    (res : (sgv_pool_alloc cfg s a env).2.res = some sg) :
    ∃ id, (sgv_pool_alloc cfg s a env).2.sgv = some id ∧
      (sgv_pool_alloc cfg s a env).2.count ≤ ((sgv_pool_alloc cfg s a env).1.obj id).sg_count ∧
      RoundTrip cfg a.size (sgv_pool_alloc cfg s a env).2.count sg :=
  (Within.pool_alloc (wf_of_reachable reach) a env ok).2 sg res

/-- The hit cuts the second entry to the 904 bytes the request has past its
first page. -/
theorem hit_round_trip :
    ∃ id, (sgv_pool_alloc x86Config cachedTwoPages hitArgs hitEnv).2.sgv = some id ∧
      (sgv_pool_alloc x86Config cachedTwoPages hitArgs hitEnv).2.count ≤
        ((sgv_pool_alloc x86Config cachedTwoPages hitArgs hitEnv).1.obj id).sg_count ∧
      RoundTrip x86Config hitArgs.size (sgv_pool_alloc x86Config cachedTwoPages hitArgs hitEnv).2.count
        [⟨some 10, 4096⟩, ⟨some 20, 904⟩] :=
  pool_alloc_round_trip cachedTwoPages_reachable hitArgs hitEnv (by decide) (by decide)

end Quiescent

end ScstMem
