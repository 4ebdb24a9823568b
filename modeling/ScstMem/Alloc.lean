import ScstMem.Reclaim

/-! `sgv_pool_alloc`, `sgv_pool_free`, `scst_alloc` and `scst_free`. The exit
labels of `sgv_pool_alloc` are functions of the locals they read
(`AllocCtx`). `out_fail_free_sg_entries` frees only arrays, which the object
store does not model apart from the object, so it and `out_fail_free` are
one function. Allocations that can fail take their outcome from
`AllocEnv`; a new embedded trans_tbl, which the source leaves uncleared, is
taken as zeros (the fill rewrites it all). -/
namespace ScstMem
open sgv_clustering_types

structure AllocFlags where
  /-- `SCST_POOL_ALLOC_NO_CACHED` -/
  no_cached : Bool
  /-- `SCST_POOL_NO_ALLOC_ON_CACHE_MISS` -/
  no_alloc_on_cache_miss : Bool
  /-- `SCST_POOL_RETURN_OBJ_ON_ALLOC_FAIL` -/
  return_obj_on_alloc_fail : Bool
  deriving DecidableEq, Repr

/-- The outcomes of the allocations `sgv_pool_alloc` can see fail. -/
structure AllocEnv where
  cache_ok : Bool
  arrays_ok : Bool
  trans_ok : Bool
  big_ok : Bool
  pages : List (Option Nat)
  deriving DecidableEq, Repr

/-- The arguments of `sgv_pool_alloc`, `*count` and `*sgv` as they come in. -/
structure AllocArgs where
  pool : Nat
  size : Nat
  flags : AllocFlags
  count : Nat
  sgv : Option Nat
  mem_lim : Nat
  priv : Nat
  deriving DecidableEq, Repr

/-- The result, `*count` and `*sgv` as they go out. -/
structure AllocOut where
  res : Option (List SgEntry)
  count : Nat
  sgv : Option Nat
  deriving DecidableEq, Repr

/-- The locals the exit labels read. -/
structure AllocCtx where
  args : AllocArgs
  pages : Nat
  order : Nat
  pages_to_alloc : Nat
  cache : Bool
  allowed_mem_checked : Bool
  hiwmk_checked : Bool

/-- `sg[i].length = len` on a read entry. -/
def setLength (e : SgEntry) (len : Nat) : SgEntry := { e with length := len }

/-- `obj->sg_entries[obj->orig_sg].length = obj->orig_length`. -/
def SgvObj.restoreOrig (o : SgvObj) : SgvObj :=
  { o with sg_entries :=
      o.sg_entries.set o.orig_sg (setLength (o.sg_entries.getD o.orig_sg sg_clear) o.orig_length) }

section Alloc
variable (cfg : Config)

def SgvPool.bumpAcc (pool : SgvPool) (order : Nat) (f : CacheAcc → CacheAcc) : SgvPool :=
  { pool with cache_acc := Function.update pool.cache_acc order (f (pool.cache_acc order)) }

/-- The counters `success` bumps. -/
def successStats (c : AllocCtx) (pool : SgvPool) : SgvPool :=
  if c.cache then pool.bumpAcc c.order fun a => { a with total_alloc := a.total_alloc + 1 }
  else if c.args.flags.no_cached then { pool with other_alloc := pool.other_alloc + 1 }
  else { pool with big_alloc := pool.big_alloc + 1 }

/-- The counters a fill that merged `merged` pages bumps. -/
def fillStats (c : AllocCtx) (merged : Nat) (pool : SgvPool) : SgvPool :=
  if c.cache then pool.bumpAcc c.order fun a => { a with merged := a.merged + merged }
  else if c.args.flags.no_cached then
    { pool with other_pages := pool.other_pages + c.pages_to_alloc,
                other_merged := pool.other_merged + merged }
  else { pool with big_pages := pool.big_pages + c.pages_to_alloc,
                   big_merged := pool.big_merged + merged }

section Stats
variable (c : AllocCtx) (pool : SgvPool)

@[simp] theorem bumpAcc_recycling (order : Nat) (f : CacheAcc → CacheAcc) :
    (pool.bumpAcc order f).recycling_lists = pool.recycling_lists := rfl

@[simp] theorem bumpAcc_sorted (order : Nat) (f : CacheAcc → CacheAcc) :
    (pool.bumpAcc order f).sorted_recycling_list = pool.sorted_recycling_list := rfl

@[simp] theorem bumpAcc_clustering (order : Nat) (f : CacheAcc → CacheAcc) :
    (pool.bumpAcc order f).clustering_type = pool.clustering_type := rfl

@[simp] theorem successStats_recycling : (successStats c pool).recycling_lists = pool.recycling_lists := by
  unfold successStats; split <;> (try split) <;> rfl

@[simp] theorem successStats_sorted :
    (successStats c pool).sorted_recycling_list = pool.sorted_recycling_list := by
  unfold successStats; split <;> (try split) <;> rfl

@[simp] theorem successStats_clustering :
    (successStats c pool).clustering_type = pool.clustering_type := by
  unfold successStats; split <;> (try split) <;> rfl

@[simp] theorem fillStats_recycling (merged : Nat) :
    (fillStats c merged pool).recycling_lists = pool.recycling_lists := by
  unfold fillStats; split <;> (try split) <;> rfl

@[simp] theorem fillStats_sorted (merged : Nat) :
    (fillStats c merged pool).sorted_recycling_list = pool.sorted_recycling_list := by
  unfold fillStats; split <;> (try split) <;> rfl

@[simp] theorem fillStats_clustering (merged : Nat) :
    (fillStats c merged pool).clustering_type = pool.clustering_type := by
  unfold fillStats; split <;> (try split) <;> rfl

end Stats

def clustered (s : SgvState) (p : Nat) : Bool := (s.pools p).clustering_type ≠ .sgv_no_clustering

/-- `out_uncheck`: give back the watermark and quota charges taken. -/
def outUncheck (c : AllocCtx) (s : SgvState) : SgvState :=
  let s1 := if c.hiwmk_checked then sgv_hiwmk_uncheck s c.pages_to_alloc else s
  if c.allowed_mem_checked then sgv_uncheck_allowed_mem s1 c.args.mem_lim c.pages_to_alloc else s1

/-- `out_fail`: NULL, `*count = 0`, `*sgv = NULL`. -/
def outFail (c : AllocCtx) (s : SgvState) : SgvState × AllocOut :=
  (outUncheck c s, ⟨none, 0, none⟩)

/-- `out_fail_free_sg_entries` and `out_fail_free`: destroy the object, and
uncount it when it came from a cache. -/
def outFailFree (c : AllocCtx) (s : SgvState) (id : Nat) : SgvState × AllocOut :=
  let s1 := if c.cache then sgv_dec_cached_entries s c.args.pool c.pages_to_alloc else s
  outFail c (s1.setObj id none)

/-- `out_return2`: NULL with `*count = pages_to_alloc`; `*sgv` as it was. -/
def outReturn2 (c : AllocCtx) (s : SgvState) (sgv : Option Nat) : SgvState × AllocOut :=
  (outUncheck c s, ⟨none, c.pages_to_alloc, sgv⟩)

/-- `out_return1`: hand the object back through `*sgv`. -/
def outReturn1 (c : AllocCtx) (s : SgvState) (id : Nat) (o : SgvObj) : SgvState × AllocOut :=
  outReturn2 c (s.handOut id c.args.mem_lim o) (some id)

/-- `out_return`: set `allocator_priv` and `owner_pool` first. -/
def outReturn (c : AllocCtx) (s : SgvState) (id : Nat) (o : SgvObj) : SgvState × AllocOut :=
  outReturn1 c s id { o with allocator_priv := c.args.priv, owner_pool := c.args.pool }

/-- `success` on the object: on a cached object find the last entry the
request needs, remember its length and cut it to the request's pages; then cut
the last entry to the request's bytes. Returns `cnt` and the object. -/
def successObj (c : AllocCtx) (clust : Bool) (o : SgvObj) : Nat × SgvObj :=
  let cnt := if c.cache then
      (if clust then (transAt (o.trans_tbl.getD []) (c.pages - 1)).sg_num else c.pages)
    else o.sg_count
  let sg := cnt - 1
  let o1 := if c.cache then
      let o0 := { o with orig_sg := sg, orig_length := (o.sg_entries.getD sg sg_clear).length }
      if clust then
        { o0 with sg_entries := (o0.sg_entries.set sg (setLength (o0.sg_entries.getD sg sg_clear)
            ((c.pages - (transAt (o.trans_tbl.getD []) sg).pg_count) * cfg.PAGE_SIZE))) }
      else o0
    else o
  let o2 := if c.args.size % cfg.PAGE_SIZE ≠ 0 then
      { o1 with sg_entries := (o1.sg_entries.set (cnt - 1)
          (setLength (o1.sg_entries.getD (cnt - 1) sg_clear)
            ((o1.sg_entries.getD (cnt - 1) sg_clear).length -
              (cfg.PAGE_SIZE - c.args.size % cfg.PAGE_SIZE)))) }
    else o1
  (cnt, o2)

/-- `success`: count the allocation and hand the cut object out. -/
def allocSuccess (c : AllocCtx) (s : SgvState) (id : Nat) (o : SgvObj) : SgvState × AllocOut :=
  let p := c.args.pool
  let r := successObj cfg c (clustered s p) o
  let s1 := s.setPool p (successStats c)
  (s1.handOut id c.args.mem_lim r.2, ⟨some r.2.sg_entries, r.1, some id⟩)

/-- The fill and what follows it, common to the three paths. -/
def allocFill (c : AllocCtx) (env : AllocEnv) (s : SgvState) (id : Nat) (o : SgvObj) :
    SgvState × AllocOut :=
  let p := c.args.pool
  let r := sgv_alloc_sg_entries cfg o.sg_entries c.pages_to_alloc (s.pools p).clustering_type
    o.trans_tbl env.pages
  let s1 := { s with pages_allocated := s.pages_allocated ++ r.allocated,
                     pages_freed := s.pages_freed ++ r.freed,
                     pages_leaked := s.pages_leaked ++ r.leaked }
  let o1 := { o with sg_entries := r.sg, sg_count := r.sg_count, trans_tbl := r.trans_tbl }
  if r.sg_count = 0 then
    if c.args.flags.return_obj_on_alloc_fail ∧ c.cache then outReturn1 c s1 id o1
    else outFailFree c (s1.setObj id (some o1)) id
  else
    let s2 := s1.setPool p (fillStats c (c.pages_to_alloc - r.sg_count))
    allocSuccess cfg c s2 id { o1 with filled := some r.sg }

/-- The `*sgv != NULL` path: refill an object handed back earlier. -/
def allocSupplied (c : AllocCtx) (env : AllocEnv) (s : SgvState) (id : Nat) : SgvState × AllocOut :=
  let c := { c with pages_to_alloc := 2 ^ c.order, cache := true }
  let s := { s with handed := s.handed.filter (·.1 ≠ id) }
  let m := sgv_check_allowed_mem s c.args.mem_lim c.pages_to_alloc
  if !m.2 then outFailFree c m.1 id
  else
    let c := { c with allowed_mem_checked := true }
    let h := sgv_hiwmk_check cfg m.1 c.pages_to_alloc
    if !h.2 then outFailFree c h.1 id
    else allocFill cfg { c with hiwmk_checked := true } env h.1 id (h.1.obj id)

/-- The entries and trans_tbl of a cache miss: embedded up to
`sgv_max_local_order`, else from `sgv_alloc_arrays`, whose allocations can
fail. -/
def cachedArrays (c : AllocCtx) (env : AllocEnv) (clust : Bool) (o : SgvObj) : Option SgvObj :=
  let table := if clust then some (List.replicate c.pages_to_alloc ⟨0, 0⟩) else o.trans_tbl
  let o1 := { o with sg_entries := sg_init_table c.pages_to_alloc, trans_tbl := table }
  if (c.order : Int) ≤ cfg.sgv_max_local_order then some o1
  else if !env.arrays_ok then none
  else if clust ∧ cfg.sgv_max_trans_order < c.order ∧ !env.trans_ok then none
  else some o1

/-- The bucket path once `sgv_get_obj` gave object `id`: a hit hands it out, a
miss gives it arrays and fills it. -/
def allocCachedObj (c : AllocCtx) (env : AllocEnv) (s1 : SgvState) (id : Nat) : SgvState × AllocOut :=
  let p := c.args.pool
  let o := s1.obj id
  if o.sg_count ≠ 0 then
    let s2 := s1.setPool p fun pool =>
      pool.bumpAcc c.order fun a => { a with hit_alloc := a.hit_alloc + 1 }
    allocSuccess cfg c s2 id o
  else if c.args.flags.no_alloc_on_cache_miss ∧ ¬c.args.flags.return_obj_on_alloc_fail then
    outFailFree c s1 id
  else
    match cachedArrays cfg c env (clustered s1 p) o with
    | none => outFailFree c s1 id
    | some o1 =>
        if c.args.flags.no_alloc_on_cache_miss ∧ c.args.flags.return_obj_on_alloc_fail then
          outReturn c s1 id o1
        else
          let o2 := { o1 with allocator_priv := c.args.priv }
          let h := sgv_hiwmk_check cfg s1 c.pages_to_alloc
          if !h.2 then outFailFree c (h.1.setObj id (some o2)) id
          else allocFill cfg { c with hiwmk_checked := true } env h.1 id o2

/-- The bucket path. -/
def allocCached (c : AllocCtx) (env : AllocEnv) (s : SgvState) : SgvState × AllocOut :=
  let c := { c with pages_to_alloc := 2 ^ c.order, cache := true }
  let m := sgv_check_allowed_mem s c.args.mem_lim c.pages_to_alloc
  if !m.2 then outFail c m.1
  else
    let c := { c with allowed_mem_checked := true }
    match sgv_get_obj m.1 c.args.pool c.order env.cache_ok with
    | (s1, none) => outFail c s1
    | (s1, some id) => allocCachedObj cfg c env s1 id

/-- The big or no-cached path: an object of exactly `pages` pages. -/
def allocBig (c : AllocCtx) (env : AllocEnv) (s : SgvState) : SgvState × AllocOut :=
  let c := { c with pages_to_alloc := c.pages }
  let m := sgv_check_allowed_mem s c.args.mem_lim c.pages_to_alloc
  if !m.2 then outFail c m.1
  else
    let c := { c with allowed_mem_checked := true }
    if c.args.flags.no_alloc_on_cache_miss then outReturn2 c m.1 c.args.sgv
    else if !env.big_ok then outFail c m.1
    else
      let id := m.1.next_obj
      let o : SgvObj := { freshObj c.args.pool (-(c.pages_to_alloc : Int)) with
        allocator_priv := c.args.priv, sg_entries := sg_init_table c.pages }
      let s1 := m.1.newObj o
      let h := sgv_hiwmk_check cfg s1 c.pages_to_alloc
      if !h.2 then outFailFree c h.1 id
      else allocFill cfg { c with hiwmk_checked := true } env h.1 id o

/-- `sgv_pool_alloc(pool, size, gfp_mask, flags, count, sgv, mem_lim, priv)`
without `__GFP_NOFAIL`, which the source rejects with `sBUG_ON`. -/
def sgv_pool_alloc (s : SgvState) (a : AllocArgs) (env : AllocEnv) : SgvState × AllocOut :=
  if a.size = 0 then (s, ⟨none, a.count, a.sgv⟩)
  else
    let pages := (a.size + cfg.PAGE_SIZE - 1) / cfg.PAGE_SIZE
    let order := get_order cfg a.size
    let c : AllocCtx := ⟨a, pages, order, 0, false, false, false⟩
    match a.sgv with
    | some id => allocSupplied cfg c env s id
    | none =>
        if order < cfg.SGV_POOL_ELEMENTS ∧ ¬a.flags.no_cached then allocCached cfg c env s
        else allocBig cfg c env s

/-- `sgv_pool_free(obj, mem_lim)`: restore the cut entry and cache a bucketed
object; free a big one at once. -/
def sgv_pool_free (s : SgvState) (id m : Nat) : SgvState :=
  let o := s.obj id
  let s := { s with handed := s.handed.erase (id, m) }
  if 0 ≤ o.order_or_pages then
    let pages : Int := if o.sg_count ≠ 0 then 2 ^ o.order_or_pages.toNat else 0
    sgv_uncheck_allowed_mem (sgv_put_obj (s.setObj id (some o.restoreOrig)) id) m pages
  else
    let s1 := { s with pages_freed := s.pages_freed ++ sgv_free_sys_sg_entries cfg o.sg_entries o.sg_count,
                       pages_leaked := s.pages_leaked ++ sgLeaked cfg o.sg_entries o.sg_count }
    let pages : Int := if o.sg_count ≠ 0 then -o.order_or_pages else 0
    sgv_uncheck_allowed_mem (sgv_hiwmk_uncheck (s1.setObj id none) pages) m pages

/-- The outcomes `scst_alloc` can see fail. -/
structure ScstAllocEnv where
  kmalloc_ok : Bool
  pages : List (Option Nat)
  deriving DecidableEq, Repr

/-- `scst_alloc(size, gfp_mask, count)`: an unclustered vector outside any
pool. `no_fail` is `__GFP_NOFAIL`. Returns the vector and `*count`. -/
def scst_alloc (s : SgvState) (size : Nat) (no_fail : Bool) (count : Nat) (env : ScstAllocEnv) :
    SgvState × Option (List SgEntry) × Nat :=
  let pages := lenPages cfg size
  let s := { s with sgv_other_total_alloc := s.sgv_other_total_alloc + 1 }
  let h := sgv_hiwmk_check cfg s pages
  if !h.2 ∧ !no_fail then (h.1, none, count)
  else
    let s1 := if !h.2 then sgv_hiwmk_uncheck h.1 (-(pages : Int)) else h.1
    let uncheck (t : SgvState) := if !no_fail then sgv_hiwmk_uncheck t pages else t
    if !env.kmalloc_ok then (uncheck s1, none, count)
    else
      let r := sgv_alloc_sg_entries cfg (sg_init_table pages) pages .sgv_no_clustering none env.pages
      let s2 := { s1 with pages_allocated := s1.pages_allocated ++ r.allocated,
                          pages_freed := s1.pages_freed ++ r.freed,
                          pages_leaked := s1.pages_leaked ++ r.leaked }
      if r.sg_count = 0 then (uncheck s2, none, 0)
      else ({ s2 with vectors := s2.vectors ++ [(r.sg, r.sg_count)] }, some r.sg, r.sg_count)

/-- `scst_free(sg, count)` on the `k`-th vector the callers hold. -/
def scst_free (s : SgvState) (k : Nat) : SgvState :=
  let v := s.vectors.getD k ([], 0)
  let s1 := sgv_hiwmk_uncheck s v.2
  { s1 with pages_freed := s1.pages_freed ++ sgv_free_sys_sg_entries cfg v.1 v.2,
            pages_leaked := s1.pages_leaked ++ sgLeaked cfg v.1 v.2,
            vectors := s1.vectors.eraseIdx k }

end Alloc

end ScstMem
