import ScstMem.Fill

/-! The allocator's state and the sections scst_mem.c runs under
`sgv_pool_lock` and `sgv_pools_lock`. Objects live in a store indexed by
their address (`objs`); the intrusive lists hold those indices. A call that
takes an object off the lists holds it in a local until it hands it out or
destroys it. `sgv_pages_total`, the `scst_mem_lim` counters and the watermarks
are `int` in the source and `Int` here. The last four fields are not the
allocator's: they record what the page allocator handed out and took back and
which objects and vectors the callers hold. -/
namespace ScstMem
open sgv_clustering_types

/-- `struct sgv_pool_obj`, with the entries and trans_tbl it points at. -/
structure SgvObj where
  owner_pool : Nat
  order_or_pages : Int
  sg_count : Nat
  sg_entries : List SgEntry
  trans_tbl : Option (List TransEnt)
  orig_sg : Nat
  orig_length : Nat
  time_stamp : Nat
  allocator_priv : Nat
  /-- Auxiliary, never read by the allocator: the entries as the last
  successful fill left them. -/
  filled : Option (List SgEntry)
  deriving DecidableEq, Repr, Inhabited

/-- `struct sgv_pool_cache_acc`. -/
structure CacheAcc where
  total_alloc : Nat
  hit_alloc : Nat
  merged : Nat
  deriving DecidableEq, Repr

/-- `struct sgv_pool`. The slab caches, names, work item and allocator
functions are left out: every pool uses the default page allocator. -/
structure SgvPool where
  clustering_type : sgv_clustering_types
  recycling_lists : Nat → List Nat
  sorted_recycling_list : List Nat
  cached_entries : Int
  cached_pages : Int
  inactive_cached_pages : Int
  purge_work_scheduled : Bool
  cache_acc : Nat → CacheAcc
  big_alloc : Nat
  big_pages : Nat
  big_merged : Nat
  other_alloc : Nat
  other_pages : Nat
  other_merged : Nat

def SgvPool.empty (ct : sgv_clustering_types) : SgvPool :=
  ⟨ct, fun _ => [], [], 0, 0, 0, false, fun _ => ⟨0, 0, 0⟩, 0, 0, 0, 0, 0, 0⟩

structure SgvState where
  objs : Nat → Option SgvObj
  next_obj : Nat
  pools : Nat → SgvPool
  sgv_pages_total : Int
  sgv_active_pools_list : List Nat
  sgv_cur_purge_pool : Option Nat
  sgv_releases_on_hiwmk : Nat
  sgv_releases_on_hiwmk_failed : Nat
  sgv_other_total_alloc : Nat
  /-- `alloced_pages` of each `scst_mem_lim`. -/
  alloced_pages : Nat → Int
  /-- `max_allowed_pages` of each `scst_mem_lim`, never written here. -/
  max_allowed_pages : Nat → Int
  jiffies : Nat
  pages_allocated : List Nat
  pages_freed : List Nat
  /-- Auxiliary, never read by the allocator: the frames a free skipped. -/
  pages_leaked : List Nat
  /-- The objects the callers hold, with the `scst_mem_lim` they pass back. -/
  handed : List (Nat × Nat)
  /-- The vectors `scst_alloc` returned and the callers hold. -/
  vectors : List (List SgEntry × Nat)

/-- The state after `scst_sgv_pools_init`: pools of the given clustering
types, nothing cached, every limit at zero use. -/
def SgvState.initial (ct : Nat → sgv_clustering_types) (limits : Nat → Int) : SgvState :=
  ⟨fun _ => none, 0, fun p => SgvPool.empty (ct p), 0, [], none, 0, 0, 0, fun _ => 0, limits, 0,
    [], [], [], [], []⟩

namespace SgvState
variable (s : SgvState)

def setObj (id : Nat) (o : Option SgvObj) : SgvState := { s with objs := Function.update s.objs id o }

def setPool (p : Nat) (f : SgvPool → SgvPool) : SgvState :=
  { s with pools := Function.update s.pools p (f (s.pools p)) }

/-- A new object, at the next address not in use. -/
def newObj (o : SgvObj) : SgvState := { s.setObj s.next_obj (some o) with next_obj := s.next_obj + 1 }

/-- The object goes to a caller who charged `mem_lim` `m`. -/
def handOut (id m : Nat) (o : SgvObj) : SgvState :=
  { s.setObj id (some o) with handed := s.handed ++ [(id, m)] }

/-- The object at `id`, read through a pointer the code holds. -/
def obj (id : Nat) : SgvObj := (s.objs id).getD default

@[simp] theorem setObj_pools (id : Nat) (o : Option SgvObj) : (s.setObj id o).pools = s.pools := rfl

@[simp] theorem setObj_objs (id : Nat) (o : Option SgvObj) :
    (s.setObj id o).objs = Function.update s.objs id o := rfl

@[simp] theorem setObj_next_obj (id : Nat) (o : Option SgvObj) :
    (s.setObj id o).next_obj = s.next_obj := rfl

@[simp] theorem setObj_handed (id : Nat) (o : Option SgvObj) : (s.setObj id o).handed = s.handed := rfl

@[simp] theorem setPool_next_obj (p : Nat) (f : SgvPool → SgvPool) :
    (s.setPool p f).next_obj = s.next_obj := rfl

@[simp] theorem setPool_handed (p : Nat) (f : SgvPool → SgvPool) : (s.setPool p f).handed = s.handed := rfl

@[simp] theorem newObj_objs (o : SgvObj) :
    (s.newObj o).objs = Function.update s.objs s.next_obj (some o) := rfl

@[simp] theorem newObj_next_obj (o : SgvObj) : (s.newObj o).next_obj = s.next_obj + 1 := rfl

@[simp] theorem newObj_pools (o : SgvObj) : (s.newObj o).pools = s.pools := rfl

@[simp] theorem newObj_handed (o : SgvObj) : (s.newObj o).handed = s.handed := rfl

@[simp] theorem handOut_objs (id m : Nat) (o : SgvObj) :
    (s.handOut id m o).objs = Function.update s.objs id (some o) := rfl

@[simp] theorem handOut_next_obj (id m : Nat) (o : SgvObj) :
    (s.handOut id m o).next_obj = s.next_obj := rfl

@[simp] theorem handOut_pools (id m : Nat) (o : SgvObj) : (s.handOut id m o).pools = s.pools := rfl

@[simp] theorem handOut_handed (id m : Nat) (o : SgvObj) :
    (s.handOut id m o).handed = s.handed ++ [(id, m)] := rfl

@[simp] theorem setObj_vectors (id : Nat) (o : Option SgvObj) : (s.setObj id o).vectors = s.vectors :=
  rfl

@[simp] theorem setObj_alloced_pages (id : Nat) (o : Option SgvObj) :
    (s.setObj id o).alloced_pages = s.alloced_pages := rfl

@[simp] theorem newObj_vectors (o : SgvObj) : (s.newObj o).vectors = s.vectors := rfl

@[simp] theorem newObj_alloced_pages (o : SgvObj) : (s.newObj o).alloced_pages = s.alloced_pages :=
  rfl

@[simp] theorem handOut_vectors (id m : Nat) (o : SgvObj) : (s.handOut id m o).vectors = s.vectors :=
  rfl

@[simp] theorem handOut_alloced_pages (id m : Nat) (o : SgvObj) :
    (s.handOut id m o).alloced_pages = s.alloced_pages := rfl

@[simp] theorem setPool_objs (p : Nat) (f : SgvPool → SgvPool) : (s.setPool p f).objs = s.objs := rfl

theorem setPool_setObj_comm (p : Nat) (f : SgvPool → SgvPool) (id : Nat) (o : Option SgvObj) :
    (s.setPool p f).setObj id o = (s.setObj id o).setPool p f := rfl

@[simp] theorem setPool_pools (p : Nat) (f : SgvPool → SgvPool) :
    (s.setPool p f).pools = Function.update s.pools p (f (s.pools p)) := rfl

end SgvState

/-- The pages an object stands for: `1 << order_or_pages` when bucketed,
`-order_or_pages` when big. -/
def SgvObj.pages (o : SgvObj) : Int :=
  if 0 ≤ o.order_or_pages then 2 ^ o.order_or_pages.toNat else -o.order_or_pages

/-- What an object holds: its pages when it has any. -/
def SgvObj.heldPages (o : SgvObj) : Int := if o.sg_count ≠ 0 then o.pages else 0

/-- The entry after `p` on the active list, `none` when `p` is last. -/
def succOf (p : Nat) : List Nat → Option Nat
  | [] => none
  | x :: rest => if x = p then rest.head? else succOf p rest

section Locked
variable (cfg : Config)

/-- `sgv_del_from_active` on the active list and the cursor: unlink the pool
and, when the cursor is on it, move the cursor to the next pool, wrapping past
the list head, or to NULL. -/
def delFromActive (active : List Nat) (cur : Option Nat) (p : Nat) : List Nat × Option Nat :=
  let next := succOf p active
  let active' := active.erase p
  (active', if cur = some p then
      match next with
      | some q => some q
      | none => active'.head?
    else cur)

def sgv_del_from_active (s : SgvState) (p : Nat) : SgvState :=
  let r := delFromActive s.sgv_active_pools_list s.sgv_cur_purge_pool p
  { s with sgv_active_pools_list := r.1, sgv_cur_purge_pool := r.2 }

def sgv_dec_cached_entries (s : SgvState) (p : Nat) (pages : Int) : SgvState :=
  let s1 := s.setPool p fun pool =>
    { pool with cached_entries := pool.cached_entries - 1, cached_pages := pool.cached_pages - pages }
  if (s1.pools p).cached_entries = 0 then sgv_del_from_active s1 p else s1

/-- `__sgv_purge_from_cache(obj)`: unlink a cached object and subtract its
`1 << order_or_pages` pages. -/
def __sgv_purge_from_cache (s : SgvState) (id : Nat) : SgvState :=
  let o := s.obj id
  let pages : Int := 2 ^ o.order_or_pages.toNat
  let k := o.order_or_pages.toNat
  let s1 := s.setPool o.owner_pool fun pool =>
    { pool with
      sorted_recycling_list := pool.sorted_recycling_list.erase id
      recycling_lists := Function.update pool.recycling_lists k ((pool.recycling_lists k).erase id)
      inactive_cached_pages := pool.inactive_cached_pages - pages }
  let s2 := sgv_dec_cached_entries s1 o.owner_pool pages
  { s2 with sgv_pages_total := s2.sgv_pages_total - pages }

/-- `sgv_dtor_and_free(obj)`: give the pages back when there are any and free
the object. -/
def sgv_dtor_and_free (s : SgvState) (id : Nat) : SgvState :=
  let o := s.obj id
  let s1 := if o.sg_count ≠ 0 then
      { s with pages_freed := s.pages_freed ++ sgv_free_sys_sg_entries cfg o.sg_entries o.sg_count,
               pages_leaked := s.pages_leaked ++ sgLeaked cfg o.sg_entries o.sg_count }
    else s
  s1.setObj id none

/-- A zeroed object from `kmem_cache_alloc` and `memset`. -/
def freshObj (p : Nat) (order : Int) : SgvObj :=
  { (default : SgvObj) with owner_pool := p, order_or_pages := order }

/-- `sgv_get_obj(pool, order, gfp_mask)`: the head of `recycling_lists[order]`,
or a new object counted in `cached_entries`; `cache_ok` is whether
`kmem_cache_alloc` succeeds. -/
def sgv_get_obj (s : SgvState) (p order : Nat) (cache_ok : Bool) : SgvState × Option Nat :=
  let pages : Int := 2 ^ order
  match (s.pools p).recycling_lists order with
  | id :: rest =>
      (s.setPool p fun pool =>
        { pool with
          sorted_recycling_list := pool.sorted_recycling_list.erase id
          recycling_lists := Function.update pool.recycling_lists order rest
          inactive_cached_pages := pool.inactive_cached_pages - pages }, some id)
  | [] =>
      let s1 := if (s.pools p).cached_entries = 0 then
          { s with sgv_active_pools_list := s.sgv_active_pools_list ++ [p] }
        else s
      let s2 := s1.setPool p fun pool =>
        { pool with cached_entries := pool.cached_entries + 1, cached_pages := pool.cached_pages + pages }
      if cache_ok then
        (s2.newObj (freshObj p order), some s2.next_obj)
      else (sgv_dec_cached_entries s2 p pages, none)

/-- Insert before the first object whose `sg_count` is at least `count`. -/
def insertBySgCount (s : SgvState) (count id : Nat) : List Nat → List Nat
  | [] => [id]
  | x :: rest =>
      if count ≤ (s.obj x).sg_count then id :: x :: rest else x :: insertBySgCount s count id rest

/-- `sgv_put_obj(obj)`: onto `recycling_lists[order]` (ordered by `sg_count`
in a clustered pool, else at the head) and the tail of the
`sorted_recycling_list`, time-stamped, with the purge work scheduled. -/
def sgv_put_obj (s : SgvState) (id : Nat) : SgvState :=
  let o := s.obj id
  let p := o.owner_pool
  let k := o.order_or_pages.toNat
  let pages : Int := 2 ^ k
  let list := (s.pools p).recycling_lists k
  let list' := if (s.pools p).clustering_type ≠ .sgv_no_clustering then
      insertBySgCount s o.sg_count id list
    else id :: list
  (s.setObj id (some { o with time_stamp := s.jiffies })).setPool p fun pool =>
    { pool with
      recycling_lists := Function.update pool.recycling_lists k list'
      sorted_recycling_list := pool.sorted_recycling_list ++ [id]
      inactive_cached_pages := pool.inactive_cached_pages + pages
      purge_work_scheduled := true }

def sgv_hiwmk_uncheck (s : SgvState) (pages : Int) : SgvState :=
  { s with sgv_pages_total := s.sgv_pages_total - pages }

/-- `atomic_add_return(pages, &mem_lim->alloced_pages)` and the test against
`max_allowed_pages`: the new value and whether it stays within. -/
def chargeAdd (alloced max_allowed pages : Int) : Int × Bool :=
  (alloced + pages, !(alloced + pages > max_allowed))

/-- `sgv_check_allowed_mem`, both of its steps in one; the failing charge is
subtracted again. -/
def sgv_check_allowed_mem (s : SgvState) (m : Nat) (pages : Int) : SgvState × Bool :=
  let r := chargeAdd (s.alloced_pages m) (s.max_allowed_pages m) pages
  if r.2 then ({ s with alloced_pages := Function.update s.alloced_pages m r.1 }, true)
  else ({ s with alloced_pages := Function.update s.alloced_pages m (r.1 - pages) }, false)

def sgv_uncheck_allowed_mem (s : SgvState) (m : Nat) (pages : Int) : SgvState :=
  { s with alloced_pages := Function.update s.alloced_pages m (s.alloced_pages m - pages) }

end Locked

section Total
variable {cfg : Config} (s : SgvState)

@[simp] theorem sgv_dec_cached_entries_total (p : Nat) (pages : Int) :
    (sgv_dec_cached_entries s p pages).sgv_pages_total = s.sgv_pages_total := by
  unfold sgv_dec_cached_entries; dsimp only; split <;> rfl

theorem purge_from_cache_total (id : Nat) :
    (__sgv_purge_from_cache s id).sgv_pages_total =
      s.sgv_pages_total - 2 ^ (s.obj id).order_or_pages.toNat := by
  simp [__sgv_purge_from_cache, SgvState.setPool]

@[simp] theorem sgv_dec_cached_entries_recycling (p q : Nat) (pages : Int) :
    ((sgv_dec_cached_entries s q pages).pools p).recycling_lists = (s.pools p).recycling_lists := by
  unfold sgv_dec_cached_entries sgv_del_from_active SgvState.setPool
  dsimp only
  split <;> simp only [Function.update_apply] <;> split <;> simp_all

@[simp] theorem sgv_dec_cached_entries_sorted (p q : Nat) (pages : Int) :
    ((sgv_dec_cached_entries s q pages).pools p).sorted_recycling_list =
      (s.pools p).sorted_recycling_list := by
  unfold sgv_dec_cached_entries sgv_del_from_active SgvState.setPool
  dsimp only
  split <;> simp only [Function.update_apply] <;> split <;> simp_all

@[simp] theorem sgv_dec_cached_entries_objs (q : Nat) (pages : Int) :
    (sgv_dec_cached_entries s q pages).objs = s.objs := by
  unfold sgv_dec_cached_entries; dsimp only; split <;> rfl

@[simp] theorem sgv_dtor_and_free_total (id : Nat) :
    (sgv_dtor_and_free cfg s id).sgv_pages_total = s.sgv_pages_total := by
  unfold sgv_dtor_and_free; dsimp only; split <;> rfl

theorem sgv_dtor_and_free_eq (id : Nat) :
    sgv_dtor_and_free cfg s id =
      { s with objs := Function.update s.objs id none
               pages_freed := s.pages_freed ++ if (s.obj id).sg_count ≠ 0 then
                 sgv_free_sys_sg_entries cfg (s.obj id).sg_entries (s.obj id).sg_count else []
               pages_leaked := s.pages_leaked ++ if (s.obj id).sg_count ≠ 0 then
                 sgLeaked cfg (s.obj id).sg_entries (s.obj id).sg_count else [] } := by
  unfold sgv_dtor_and_free; dsimp only; split <;> simp [SgvState.setObj, *]

theorem purge_from_cache_eq (id : Nat) :
    ∃ pools active cur, __sgv_purge_from_cache s id =
      { s with pools := pools, sgv_active_pools_list := active, sgv_cur_purge_pool := cur,
               sgv_pages_total := s.sgv_pages_total - 2 ^ (s.obj id).order_or_pages.toNat } ∧
      ∀ q, (pools q).clustering_type = (s.pools q).clustering_type ∧
        (pools q).recycling_lists = (if q = (s.obj id).owner_pool then
          Function.update (s.pools q).recycling_lists (s.obj id).order_or_pages.toNat
            (((s.pools q).recycling_lists (s.obj id).order_or_pages.toNat).erase id)
          else (s.pools q).recycling_lists) ∧
        (pools q).sorted_recycling_list = (if q = (s.obj id).owner_pool then
          (s.pools q).sorted_recycling_list.erase id else (s.pools q).sorted_recycling_list) := by
  unfold __sgv_purge_from_cache sgv_dec_cached_entries sgv_del_from_active
  dsimp only
  split <;> refine ⟨_, _, _, rfl, fun q => ?_⟩ <;> by_cases same : q = (s.obj id).owner_pool <;>
    simp [Function.update_apply, same]

@[simp] theorem put_obj_next_obj (id : Nat) : (sgv_put_obj s id).next_obj = s.next_obj := rfl

@[simp] theorem put_obj_clustering (id q : Nat) :
    ((sgv_put_obj s id).pools q).clustering_type = (s.pools q).clustering_type := by
  by_cases own : q = (s.obj id).owner_pool <;> simp [sgv_put_obj, Function.update_apply, own]

end Total

end ScstMem
