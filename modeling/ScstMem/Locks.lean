import ScstMem.Basic

/-! The lock discipline of scst/src/scst_mem.c. Each function is read as the
sequence of lock operations it performs: `spin_lock_bh` and `spin_unlock_bh`
on `sgv_pools_lock` and on a pool's `sgv_pool_lock`, `mutex_lock` and
`mutex_unlock` on `sgv_pools_mutex`, and the calls that may sleep. The data
the functions compute is left out. Where the data chooses a branch or ends a
loop, the choice is an argument, so a statement over all arguments covers
every path.

`runLocks` checks a sequence from the locks a thread holds. It faults when a
lock is taken twice, or against the order the source keeps (`sgv_pools_mutex`,
then a pool's lock, then `sgv_pools_lock`, "inner lock for sgv_pool_lock!").
It also faults on the release of a lock not held, and on a sleep under a
spinlock.

Results:
- `entry_points_lock_clean`: every exported function and callback, on every
  path, is clean from no lock held.
- `entries_never_deadlock`: threads running these sequences cannot deadlock,
  in any interleaving, as long as no allocation enters the shrinker.
- `create_reclaim_relocks`: an allocation of `sgv_pool_create` made under
  `sgv_pools_mutex` may enter direct reclaim and run the shrinker there. When
  the shrinker drops a pool's last reference, `sgv_pool_deinit` takes the
  mutex again.
- `pools_init_error_relocks_mutex`: the error path of `scst_sgv_pools_init`
  calls `sgv_pool_deinit` with `sgv_pools_mutex` held, with the same
  outcome. -/
namespace ScstMem
namespace Locks

/-- The locks of scst_mem.c; `sgv_pool_lock p` is pool `p`'s. -/
inductive LockName where
  | sgv_pools_mutex
  | sgv_pool_lock (p : Nat)
  | sgv_pools_lock
  deriving DecidableEq, Repr

/-- The nesting order: a lock is taken only under locks of lower rank. -/
def LockName.rank : LockName → Nat
  | .sgv_pools_mutex => 0
  | .sgv_pool_lock _ => 1
  | .sgv_pools_lock => 2

/-- The spinlocks, under which nothing may sleep. -/
def LockName.spin : LockName → Bool
  | .sgv_pools_mutex => false
  | _ => true

theorem LockName.rank_lt_three (l : LockName) : l.rank < 3 := by
  cases l <;> simp [LockName.rank]

inductive LockOp where
  | lock (l : LockName)
  | unlock (l : LockName)
  /-- A call that may sleep: `kmem_cache_create`, `kmem_cache_destroy`,
  `cancel_delayed_work_sync`, `flush_scheduled_work`, the shrinker's
  (un)registration, and an allocation with the caller's `gfp_mask`. The
  shrinker an allocation may run in direct reclaim is added where it matters,
  in `sgv_pool_create_reclaiming`. -/
  | sleep
  deriving DecidableEq, Repr

inductive LockFault where
  /-- A lock taken by the thread that holds it: the thread waits for itself. -/
  | relock (l : LockName)
  /-- A lock taken under one of equal or higher rank. -/
  | order (l : LockName)
  /-- A lock released that is not held. -/
  | unheld (l : LockName)
  /-- A sleep under a spinlock. -/
  | atomic_sleep
  deriving DecidableEq, Repr

/-- One operation from the locks held. -/
def lockStep (held : List LockName) : LockOp → Except LockFault (List LockName)
  | .lock l =>
      if l ∈ held then .error (.relock l)
      else if held.any fun h => decide (l.rank ≤ h.rank) then .error (.order l)
      else .ok (l :: held)
  | .unlock l => if l ∈ held then .ok (held.erase l) else .error (.unheld l)
  | .sleep => if held.any LockName.spin then .error .atomic_sleep else .ok held

def runLocks (held : List LockName) : List LockOp → Except LockFault (List LockName)
  | [] => .ok held
  | op :: ops =>
      match lockStep held op with
      | .ok h => runLocks h ops
      | .error e => .error e

/-- `ops` runs without a fault and leaves the locks as it found them. -/
def Clean (held : List LockName) (ops : List LockOp) : Prop := runLocks held ops = .ok held

/-- `lock(l); body; unlock(l)`. -/
def locked (l : LockName) (body : List LockOp) : List LockOp := .lock l :: (body ++ [.unlock l])

/-- `unlock(l); body; lock(l)`, inside a section of `l`. -/
def unlocked (l : LockName) (body : List LockOp) : List LockOp := .unlock l :: (body ++ [.lock l])

/-- Only `sgv_pools_mutex` held: what the source's "No locks" allows, and
where a pool's lock may be taken. -/
def MutexOnly (held : List LockName) : Prop := ∀ h ∈ held, h = .sgv_pools_mutex

section Run
variable {held : List LockName}

theorem runLocks_append (held : List LockName) (xs ys : List LockOp) :
    runLocks held (xs ++ ys) = (runLocks held xs).bind fun h => runLocks h ys := by
  induction xs generalizing held with
  | nil => rfl
  | cons op ops ih =>
    simp only [List.cons_append, runLocks]
    cases lockStep held op with
    | ok h => exact ih h
    | error e => rfl

theorem runLocks_append_of_ok {xs : List LockOp} {after : List LockName}
    (first : runLocks held xs = .ok after) (ys : List LockOp) :
    runLocks held (xs ++ ys) = runLocks after ys := by
  rw [runLocks_append, first]; rfl

theorem runLocks_append_of_error {xs : List LockOp} {e : LockFault}
    (first : runLocks held xs = .error e) (ys : List LockOp) :
    runLocks held (xs ++ ys) = .error e := by
  rw [runLocks_append, first]; rfl

theorem clean_nil : Clean held [] := rfl

theorem Clean.append {xs ys : List LockOp} (first : Clean held xs) (second : Clean held ys) :
    Clean held (xs ++ ys) :=
  (runLocks_append_of_ok first ys).trans second

theorem clean_ite {c : Prop} [Decidable c] {xs ys : List LockOp} (yes : Clean held xs)
    (no : Clean held ys) : Clean held (if c then xs else ys) := by
  split
  · exact yes
  · exact no

theorem clean_flatMap {α : Type} (f : α → List LockOp) :
    ∀ l : List α, (∀ a ∈ l, Clean held (f a)) → Clean held (l.flatMap f)
  | [], _ => rfl
  | a :: l, each => by
    rw [List.flatMap_cons]
    exact (each a (.head _)).append (clean_flatMap f l fun b mem => each b (.tail _ mem))

theorem lockStep_lock_of_below {l : LockName} (below : ∀ h ∈ held, h.rank < l.rank) :
    lockStep held (.lock l) = .ok (l :: held) := by
  have fresh : l ∉ held := fun mem => Nat.lt_irrefl _ (below l mem)
  have ordered : (held.any fun h => decide (l.rank ≤ h.rank)) = false :=
    List.any_eq_false.2 fun h mem => by simpa using below h mem
  simp only [lockStep, fresh, if_false, ordered, Bool.false_eq_true]

theorem lockStep_unlock_head (l : LockName) : lockStep (l :: held) (.unlock l) = .ok held := by
  simp only [lockStep, List.mem_cons_self, if_true, List.erase_cons_head]

theorem locked_clean {l : LockName} {body : List LockOp} (below : ∀ h ∈ held, h.rank < l.rank)
    (inner : Clean (l :: held) body) : Clean held (locked l body) := by
  unfold Clean locked
  rw [runLocks, lockStep_lock_of_below below]
  simp only [runLocks_append_of_ok inner, runLocks, lockStep_unlock_head]

theorem unlocked_clean {l : LockName} {body : List LockOp} (below : ∀ h ∈ held, h.rank < l.rank)
    (inner : Clean held body) : Clean (l :: held) (unlocked l body) := by
  unfold Clean unlocked
  rw [runLocks, lockStep_unlock_head]
  simp only [runLocks_append_of_ok inner, runLocks, lockStep_lock_of_below below]

theorem sleeps_clean (calm : ∀ h ∈ held, h.spin = false) (n : Nat) :
    Clean held (List.replicate n .sleep) := by
  have awake : held.any LockName.spin = false := List.any_eq_false.2 fun h mem => by simp [calm h mem]
  induction n with
  | zero => rfl
  | succ n ih => simpa only [Clean, List.replicate_succ, runLocks, lockStep, awake] using ih

theorem MutexOnly.rank_lt (only : MutexOnly held) : ∀ h ∈ held, h.rank < 1 := fun h mem => by
  rw [only h mem]; decide

theorem MutexOnly.calm (only : MutexOnly held) : ∀ h ∈ held, h.spin = false := fun h mem => by
  rw [only h mem]; rfl

theorem MutexOnly.under_pool (only : MutexOnly held) (p : Nat) :
    ∀ h ∈ LockName.sgv_pool_lock p :: held, h.rank < 2 := by
  intro h mem
  rcases List.mem_cons.1 mem with rfl | mem
  · simp [LockName.rank]
  · have := only.rank_lt h mem; omega

theorem MutexOnly.below_pools (only : MutexOnly held) : ∀ h ∈ held, h.rank < 2 :=
  fun h mem => Nat.lt_trans (only.rank_lt h mem) (by decide)

theorem sleep_clean (calm : ∀ h ∈ held, h.spin = false) : Clean held [.sleep] := sleeps_clean calm 1

theorem nil_below (n : Nat) : ∀ h ∈ ([] : List LockName), h.rank < n := fun _ mem => nomatch mem

theorem mutexOnly_nil : MutexOnly [] := fun _ mem => nomatch mem

theorem mutexOnly_mutex : MutexOnly [.sgv_pools_mutex] := fun _ mem => List.mem_singleton.1 mem

end Run

/-! ### The functions, lock by lock -/

/-- `sgv_del_from_active`: the active list under `sgv_pools_lock`. -/
def sgv_del_from_active : List LockOp := locked .sgv_pools_lock []

/-- `sgv_dec_cached_entries`, under the pool's lock; `last` when the count
reaches 0 and the pool leaves the active list. -/
def sgv_dec_cached_entries (last : Bool) : List LockOp := if last then sgv_del_from_active else []

def __sgv_purge_from_cache (last : Bool) : List LockOp := sgv_dec_cached_entries last

/-- `sgv_purge_from_cache`: `__sgv_purge_from_cache` when the object is old
enough. -/
def sgv_purge_from_cache (purged last : Bool) : List LockOp :=
  if purged then __sgv_purge_from_cache last else []

/-- `sgv_dtor_and_free` ("Must be no locks"): `free_pages_fn`, `kfree` and
`kmem_cache_free`, none of which locks or sleeps. -/
def sgv_dtor_and_free : List LockOp := []

/-- One object a purge loop takes under pool `p`'s lock: out of the cache,
then destroyed with the lock dropped. -/
def purgeRound (p : Nat) (last : Bool) : List LockOp :=
  sgv_purge_from_cache true last ++ unlocked (.sgv_pool_lock p) sgv_dtor_and_free

/-- A purge loop under pool `p`'s lock: the objects it purges, each with
whether it was the pool's last cached entry. An object too young to purge
ends the loop with nothing more. -/
def lockedPurge (p : Nat) (purged : List Bool) : List LockOp :=
  locked (.sgv_pool_lock p) (purged.flatMap (purgeRound p))

def sgv_shrink_pool (p : Nat) (purged : List Bool) : List LockOp := lockedPurge p purged

def sgv_purge_work_fn (p : Nat) (purged : List Bool) : List LockOp := lockedPurge p purged

/-- `sgv_pool_flush`: one purge loop per bucket. -/
def sgv_pool_flush (p : Nat) (buckets : List (List Bool)) : List LockOp :=
  buckets.flatMap (lockedPurge p)

/-- `sgv_pool_deinit`: `cancel_delayed_work_sync`, `sgv_pool_flush`, the pool
off `sgv_pools_list` under `sgv_pools_mutex` and `sgv_pools_lock`, then
`kmem_cache_destroy` of each of its `caches` caches. -/
def sgv_pool_deinit (p : Nat) (buckets : List (List Bool)) (caches : Nat) : List LockOp :=
  [.sleep] ++ sgv_pool_flush p buckets ++ locked .sgv_pools_mutex (locked .sgv_pools_lock []) ++
    List.replicate caches .sleep

/-- `sgv_pool_destroy`: `sgv_pool_deinit`, then `kfree`. -/
def sgv_pool_destroy (p : Nat) (buckets : List (List Bool)) (caches : Nat) : List LockOp :=
  sgv_pool_deinit p buckets caches

/-- What an `sgv_pool_put` does: keep the pool, or destroy it when the count
reaches 0. -/
inductive PutCase where
  | kept
  | destroyed (buckets : List (List Bool)) (caches : Nat)
  deriving DecidableEq, Repr

def sgv_pool_put (p : Nat) : PutCase → List LockOp
  | .kept => []
  | .destroyed buckets caches => sgv_pool_destroy p buckets caches

def sgv_pool_del (p : Nat) (put : PutCase) : List LockOp := sgv_pool_put p put

/-- One round of `__sgv_shrink`'s loop: pick the pool under `sgv_pools_lock`
and take a reference, shrink it, drop the reference. -/
structure ShrinkRound where
  pool : Nat
  purged : List Bool
  put : PutCase
  deriving DecidableEq, Repr

/-- How `__sgv_shrink` leaves its loop: `nr` reached 0; `out_unlock` with no
active pool; `out_unlock_put` after a full circle without progress. -/
inductive ShrinkExit where
  | drained
  | empty
  | no_progress (p : Nat) (put : PutCase)
  deriving DecidableEq, Repr

def shrinkRound (r : ShrinkRound) : List LockOp :=
  locked .sgv_pools_lock [] ++ sgv_shrink_pool r.pool r.purged ++ sgv_pool_put r.pool r.put

def shrinkExit : ShrinkExit → List LockOp
  | .drained => []
  | .empty => locked .sgv_pools_lock []
  | .no_progress p put => locked .sgv_pools_lock [] ++ sgv_pool_put p put

def __sgv_shrink (rounds : List ShrinkRound) (exit : ShrinkExit) : List LockOp :=
  rounds.flatMap shrinkRound ++ shrinkExit exit

/-- `sgv_shrink`: a scan for `nr > 0`, else a count under `sgv_pools_lock`. -/
def sgv_shrink (nr : Int) (rounds : List ShrinkRound) (exit : ShrinkExit) : List LockOp :=
  if 0 < nr then __sgv_shrink rounds exit else locked .sgv_pools_lock []

/-- `sgv_hiwmk_check`: under `sgv_hi_wmk`, or over it with a shrink that
frees enough or not. -/
inductive WmkCase where
  | under
  | shrunk (rounds : List ShrinkRound) (exit : ShrinkExit) (freed : Bool)
  deriving DecidableEq, Repr

def WmkCase.ok : WmkCase → Bool
  | .under => true
  | .shrunk _ _ freed => freed

def sgv_hiwmk_check : WmkCase → List LockOp
  | .under => []
  | .shrunk rounds exit _ => __sgv_shrink rounds exit

/-- How `sgv_get_obj` finds its object. -/
inductive GetCase where
  /-- The head of `recycling_lists[order]`. -/
  | listed
  /-- A new object: `first` when the pool had no cached entries and joins the
  active list; `ok` when `kmem_cache_alloc` succeeds, else the count is taken
  back, `last` when that empties the pool again. -/
  | made (first ok last : Bool)
  deriving DecidableEq, Repr

def GetCase.failed : GetCase → Bool
  | .listed => false
  | .made _ ok _ => !ok

def sgv_get_obj (p : Nat) : GetCase → List LockOp
  | .listed => locked (.sgv_pool_lock p) []
  | .made first ok last =>
      locked (.sgv_pool_lock p) (if first then locked .sgv_pools_lock [] else []) ++ [.sleep] ++
        if ok then [] else locked (.sgv_pool_lock p) (sgv_dec_cached_entries last)

def sgv_put_obj (p : Nat) : List LockOp := locked (.sgv_pool_lock p) []

/-- The branches `sgv_pool_alloc` takes, as far as locks go. -/
structure AllocRun where
  pool : Nat
  /-- `size == 0` -/
  zero : Bool
  /-- `*sgv != NULL` -/
  supplied : Bool
  /-- `order < SGV_POOL_ELEMENTS && !no_cached` -/
  bucketed : Bool
  mem_ok : Bool
  get : GetCase
  /-- `obj->sg_count != 0` -/
  has_pages : Bool
  /-- `SCST_POOL_NO_ALLOC_ON_CACHE_MISS` -/
  no_alloc : Bool
  /-- `SCST_POOL_RETURN_OBJ_ON_ALLOC_FAIL` -/
  return_obj : Bool
  /-- `order <= sgv_max_local_order` -/
  embedded : Bool
  /-- `sgv_alloc_arrays` allocates `trans_tbl` outside the object -/
  table : Bool
  arrays_ok : Bool
  /-- the big object's `kmalloc` -/
  obj_ok : Bool
  wmk : WmkCase
  /-- the pages `sgv_alloc_sg_entries` asks for before it stops -/
  pages : Nat
  fill_ok : Bool
  /-- `out_fail_free` takes the pool's last cached entry -/
  last : Bool
  deriving Repr

/-- `out_fail_free`: an object from a cache is uncounted under its pool's lock. -/
def outFailFree (p : Nat) (cache last : Bool) : List LockOp :=
  if cache then locked (.sgv_pool_lock p) (sgv_dec_cached_entries last) else []

/-- `sgv_alloc_arrays`: `kmalloc` of the entries and, for a `trans_tbl`
outside the object, `kzalloc`. -/
def sgv_alloc_arrays (table : Bool) : List LockOp := [.sleep] ++ if table then [.sleep] else []

/-- `sgv_alloc_sg_entries`: one `alloc_pages` a page until one fails; the free
after a failure does not sleep. -/
def sgv_alloc_sg_entries (pages : Nat) : List LockOp := List.replicate pages .sleep

/-- From the fill on: a failed fill goes to `out_return1` or to
`out_fail_free_sg_entries`. -/
def allocFill (r : AllocRun) (cache : Bool) : List LockOp :=
  sgv_alloc_sg_entries r.pages ++
    if r.fill_ok || (r.return_obj && cache) then [] else outFailFree r.pool cache r.last

def sgv_pool_alloc (r : AllocRun) : List LockOp :=
  if r.zero then []
  else if r.supplied then
    if !r.mem_ok then outFailFree r.pool true r.last
    else sgv_hiwmk_check r.wmk ++ if !r.wmk.ok then outFailFree r.pool true r.last else allocFill r true
  else if r.bucketed then
    if !r.mem_ok then []
    else sgv_get_obj r.pool r.get ++
      if r.get.failed || r.has_pages then []
      else if r.no_alloc && !r.return_obj then outFailFree r.pool true r.last
      else (if r.embedded then [] else sgv_alloc_arrays r.table) ++
        if !r.embedded && !r.arrays_ok then outFailFree r.pool true r.last
        else if r.no_alloc && r.return_obj then []
        else sgv_hiwmk_check r.wmk ++
          if !r.wmk.ok then outFailFree r.pool true r.last else allocFill r true
  else if !r.mem_ok || r.no_alloc then []
  else [.sleep] ++
    if !r.obj_ok then [] else sgv_hiwmk_check r.wmk ++ if !r.wmk.ok then [] else allocFill r false

/-- `sgv_pool_free`: a bucketed object goes back to its pool's cache; a big
one is freed with no lock. -/
def sgv_pool_free (p : Nat) (bucketed : Bool) : List LockOp := if bucketed then sgv_put_obj p else []

/-- `scst_alloc`: a failed watermark check ends the call unless
`__GFP_NOFAIL`; then `kmalloc` and the fill. -/
def scst_alloc (wmk : WmkCase) (no_fail kmalloc_ok : Bool) (pages : Nat) : List LockOp :=
  sgv_hiwmk_check wmk ++
    if !wmk.ok && !no_fail then [] else [.sleep] ++ if kmalloc_ok then sgv_alloc_sg_entries pages else []

def scst_free : List LockOp := []

/-- How `sgv_pool_init`'s loop over the caches ends: all `caches` created, or
the `k`-th `kmem_cache_create` fails and the `k` before it are destroyed. -/
inductive InitCase where
  | ok (caches : Nat)
  | fails (k : Nat)
  deriving DecidableEq, Repr

/-- `sgv_pool_init` ("Must be called under sgv_pools_mutex"). -/
def sgv_pool_init : InitCase → List LockOp
  | .ok caches => List.replicate caches .sleep ++ locked .sgv_pools_lock []
  | .fails k => List.replicate (k + 1) .sleep ++ List.replicate k .sleep

/-- How `sgv_pool_create` goes: a pool of the name is found (shared, or an
error), or a new one is `kzalloc`ed and initialised. -/
inductive CreateCase where
  | found
  | fresh (kzalloc_ok : Bool) (init : InitCase)
  deriving DecidableEq, Repr

def sgv_pool_create : CreateCase → List LockOp
  | .found => locked .sgv_pools_mutex []
  | .fresh ok init => locked .sgv_pools_mutex ([.sleep] ++ if ok then sgv_pool_init init else [])

def sgv_norm_clust_pool : Nat := 0
def sgv_norm_pool : Nat := 1
def sgv_dma_pool : Nat := 2

/-- How `scst_sgv_pools_init` goes: all three pools initialised, or the
first, second or third `sgv_pool_init` fails at the `k`-th cache. -/
inductive PoolsInitCase where
  | ok (caches : Nat)
  | norm_fails (k : Nat)
  | clust_fails (caches k : Nat) (norm : List (List Bool))
  | dma_fails (caches k : Nat) (clust norm : List (List Bool))
  deriving DecidableEq, Repr

def scst_sgv_pools_init : PoolsInitCase → List LockOp
  | .ok caches =>
      locked .sgv_pools_mutex
        (sgv_pool_init (.ok caches) ++ sgv_pool_init (.ok caches) ++ sgv_pool_init (.ok caches)) ++
        [.sleep]
  | .norm_fails k => locked .sgv_pools_mutex (sgv_pool_init (.fails k))
  | .clust_fails caches k norm =>
      locked .sgv_pools_mutex
        (sgv_pool_init (.ok caches) ++ sgv_pool_init (.fails k) ++ sgv_pool_deinit sgv_norm_pool norm caches)
  | .dma_fails caches k clust norm =>
      locked .sgv_pools_mutex
        (sgv_pool_init (.ok caches) ++ sgv_pool_init (.ok caches) ++ sgv_pool_init (.fails k) ++
          sgv_pool_deinit sgv_norm_clust_pool clust caches ++ sgv_pool_deinit sgv_norm_pool norm caches)

/-- `scst_sgv_pools_deinit`: unregister the shrinker, deinit the three pools,
`flush_scheduled_work`. -/
def scst_sgv_pools_deinit (dma norm clust : List (List Bool)) (caches : Nat) : List LockOp :=
  [.sleep] ++ sgv_pool_deinit sgv_dma_pool dma caches ++ sgv_pool_deinit sgv_norm_pool norm caches ++
    sgv_pool_deinit sgv_norm_clust_pool clust caches ++ [.sleep]

/-- `sgv_procinfo_show`: the active pools counted under `sgv_pools_lock`, the
pools read under `sgv_pools_mutex`. -/
def sgv_procinfo_show : List LockOp := locked .sgv_pools_lock [] ++ locked .sgv_pools_mutex []

/-- The exported functions and the two callbacks, the shrinker and the purge
work item, each with the branches it takes. -/
inductive Entry where
  | alloc (r : AllocRun)
  | free (p : Nat) (bucketed : Bool)
  | scstAlloc (wmk : WmkCase) (no_fail kmalloc_ok : Bool) (pages : Nat)
  | scstFree
  | flush (p : Nat) (buckets : List (List Bool))
  | create (c : CreateCase)
  | del (p : Nat) (put : PutCase)
  | shrink (nr : Int) (rounds : List ShrinkRound) (exit : ShrinkExit)
  | purge (p : Nat) (purged : List Bool)
  | procinfo
  | poolsDeinit (dma norm clust : List (List Bool)) (caches : Nat)
  deriving Repr

def Entry.ops : Entry → List LockOp
  | .alloc r => sgv_pool_alloc r
  | .free p bucketed => sgv_pool_free p bucketed
  | .scstAlloc wmk no_fail ok pages => scst_alloc wmk no_fail ok pages
  | .scstFree => scst_free
  | .flush p buckets => sgv_pool_flush p buckets
  | .create c => sgv_pool_create c
  | .del p put => sgv_pool_del p put
  | .shrink nr rounds exit => sgv_shrink nr rounds exit
  | .purge p purged => sgv_purge_work_fn p purged
  | .procinfo => sgv_procinfo_show
  | .poolsDeinit dma norm clust caches => scst_sgv_pools_deinit dma norm clust caches

/-! ### Every function keeps the discipline -/

section Discipline
variable {held : List LockName}

theorem pools_section_clean (below : ∀ h ∈ held, h.rank < 2) : Clean held (locked .sgv_pools_lock []) :=
  locked_clean below clean_nil

theorem sgv_dec_cached_entries_clean (below : ∀ h ∈ held, h.rank < 2) (last : Bool) :
    Clean held (sgv_dec_cached_entries last) :=
  clean_ite (pools_section_clean below) clean_nil

theorem purgeRound_clean (only : MutexOnly held) (p : Nat) (last : Bool) :
    Clean (.sgv_pool_lock p :: held) (purgeRound p last) :=
  (clean_ite (sgv_dec_cached_entries_clean (only.under_pool p) last) clean_nil).append
    (unlocked_clean only.rank_lt clean_nil)

theorem lockedPurge_clean (only : MutexOnly held) (p : Nat) (purged : List Bool) :
    Clean held (lockedPurge p purged) :=
  locked_clean only.rank_lt (clean_flatMap _ purged fun last _ => purgeRound_clean only p last)

theorem sgv_pool_flush_clean (only : MutexOnly held) (p : Nat) (buckets : List (List Bool)) :
    Clean held (sgv_pool_flush p buckets) :=
  clean_flatMap _ buckets fun purged _ => lockedPurge_clean only p purged

theorem sgv_pool_deinit_clean (p : Nat) (buckets : List (List Bool)) (caches : Nat) :
    Clean [] (sgv_pool_deinit p buckets caches) :=
  (((sleep_clean mutexOnly_nil.calm).append (sgv_pool_flush_clean mutexOnly_nil p buckets)).append
    (locked_clean (nil_below _) (pools_section_clean mutexOnly_mutex.below_pools))).append
      (sleeps_clean mutexOnly_nil.calm caches)

theorem sgv_pool_put_clean (p : Nat) : ∀ put : PutCase, Clean [] (sgv_pool_put p put)
  | .kept => clean_nil
  | .destroyed buckets caches => sgv_pool_deinit_clean p buckets caches

theorem shrinkRound_clean (r : ShrinkRound) : Clean [] (shrinkRound r) :=
  ((pools_section_clean (nil_below _)).append (lockedPurge_clean mutexOnly_nil r.pool r.purged)).append
    (sgv_pool_put_clean r.pool r.put)

theorem shrinkExit_clean : ∀ exit : ShrinkExit, Clean [] (shrinkExit exit)
  | .drained => clean_nil
  | .empty => pools_section_clean (nil_below _)
  | .no_progress p put => (pools_section_clean (nil_below _)).append (sgv_pool_put_clean p put)

theorem __sgv_shrink_clean (rounds : List ShrinkRound) (exit : ShrinkExit) :
    Clean [] (__sgv_shrink rounds exit) :=
  (clean_flatMap _ rounds fun r _ => shrinkRound_clean r).append (shrinkExit_clean exit)

theorem sgv_hiwmk_check_clean : ∀ wmk : WmkCase, Clean [] (sgv_hiwmk_check wmk)
  | .under => clean_nil
  | .shrunk rounds exit _ => __sgv_shrink_clean rounds exit

theorem sgv_get_obj_clean (p : Nat) : ∀ get : GetCase, Clean [] (sgv_get_obj p get)
  | .listed => locked_clean (nil_below _) clean_nil
  | .made _ _ last =>
      ((locked_clean (nil_below _) (clean_ite (pools_section_clean (mutexOnly_nil.under_pool p)) clean_nil)).append
        (sleep_clean mutexOnly_nil.calm)).append <|
          clean_ite clean_nil (locked_clean (nil_below _)
            (sgv_dec_cached_entries_clean (mutexOnly_nil.under_pool p) last))

theorem outFailFree_clean (p : Nat) (cache last : Bool) : Clean [] (outFailFree p cache last) :=
  clean_ite (locked_clean (nil_below _) (sgv_dec_cached_entries_clean (mutexOnly_nil.under_pool p) last))
    clean_nil

theorem allocFill_clean (r : AllocRun) (cache : Bool) : Clean [] (allocFill r cache) :=
  (sleeps_clean mutexOnly_nil.calm r.pages).append (clean_ite clean_nil (outFailFree_clean _ _ _))

theorem sgv_pool_alloc_clean (r : AllocRun) : Clean [] (sgv_pool_alloc r) :=
  have sleep := sleep_clean mutexOnly_nil.calm
  have fail := outFailFree_clean r.pool true r.last
  have refill := (sgv_hiwmk_check_clean r.wmk).append (clean_ite fail (allocFill_clean r true))
  have arrays : Clean [] (sgv_alloc_arrays r.table) := sleep.append (clean_ite sleep clean_nil)
  clean_ite clean_nil <| clean_ite (clean_ite fail refill) <|
    clean_ite (clean_ite clean_nil <| (sgv_get_obj_clean r.pool r.get).append <|
        clean_ite clean_nil <| clean_ite fail <|
          (clean_ite clean_nil arrays).append (clean_ite fail (clean_ite clean_nil refill))) <|
      clean_ite clean_nil <| sleep.append <| clean_ite clean_nil <|
        (sgv_hiwmk_check_clean r.wmk).append (clean_ite clean_nil (allocFill_clean r false))

theorem sgv_pool_init_clean : ∀ init : InitCase, Clean [.sgv_pools_mutex] (sgv_pool_init init)
  | .ok caches => (sleeps_clean mutexOnly_mutex.calm caches).append (pools_section_clean mutexOnly_mutex.below_pools)
  | .fails k => (sleeps_clean mutexOnly_mutex.calm (k + 1)).append (sleeps_clean mutexOnly_mutex.calm k)

theorem sgv_pool_create_clean : ∀ c : CreateCase, Clean [] (sgv_pool_create c)
  | .found => locked_clean (nil_below _) clean_nil
  | .fresh _ init => locked_clean (nil_below _)
      ((sleep_clean mutexOnly_mutex.calm).append (clean_ite (sgv_pool_init_clean init) clean_nil))

theorem Entry.clean : ∀ e : Entry, Clean [] e.ops
  | .alloc r => sgv_pool_alloc_clean r
  | .free _ _ => clean_ite (locked_clean (nil_below _) clean_nil) clean_nil
  | .scstAlloc wmk _ _ pages => (sgv_hiwmk_check_clean wmk).append <| clean_ite clean_nil <|
      (sleep_clean mutexOnly_nil.calm).append (clean_ite (sleeps_clean mutexOnly_nil.calm pages) clean_nil)
  | .scstFree => clean_nil
  | .flush p buckets => sgv_pool_flush_clean mutexOnly_nil p buckets
  | .create c => sgv_pool_create_clean c
  | .del p put => sgv_pool_put_clean p put
  | .shrink _ rounds exit => clean_ite (__sgv_shrink_clean rounds exit) (pools_section_clean (nil_below _))
  | .purge p purged => lockedPurge_clean mutexOnly_nil p purged
  | .procinfo => (pools_section_clean (nil_below _)).append (locked_clean (nil_below _) clean_nil)
  | .poolsDeinit dma norm clust caches =>
      ((((sleep_clean mutexOnly_nil.calm).append (sgv_pool_deinit_clean _ dma caches)).append
        (sgv_pool_deinit_clean _ norm caches)).append (sgv_pool_deinit_clean _ clust caches)).append
          (sleep_clean mutexOnly_nil.calm)

/-- Every exported function of scst_mem.c and its two callbacks, on every
path: each lock is taken at most once and in the order `sgv_pools_mutex`, a
pool's `sgv_pool_lock`, `sgv_pools_lock`, never two pools' locks at once,
nothing sleeps under a spinlock, and no lock is held at the return. -/
theorem entry_points_lock_clean (e : Entry) : runLocks [] e.ops = .ok [] := e.clean

/-- `sgv_pool_deinit` under `sgv_pools_mutex` takes it again. -/
theorem deinit_relocks (p : Nat) (buckets : List (List Bool)) (caches : Nat) (rest : List LockOp) :
    runLocks [.sgv_pools_mutex] (sgv_pool_deinit p buckets caches ++ rest) =
      .error (.relock .sgv_pools_mutex) := by
  simp only [sgv_pool_deinit, List.append_assoc]
  rw [runLocks_append_of_ok (sleep_clean mutexOnly_mutex.calm),
    runLocks_append_of_ok (sgv_pool_flush_clean mutexOnly_mutex p buckets)]
  simp [locked, runLocks, lockStep]

/-- `scst_sgv_pools_init` is clean when the three pools initialise and when
the first fails. When the second or the third `sgv_pool_init` fails, the
error path calls `sgv_pool_deinit` with `sgv_pools_mutex` still held, and
`sgv_pool_deinit` locks it again: the thread waits for itself. -/
theorem pools_init_error_relocks_mutex (caches k : Nat) (clust norm : List (List Bool)) :
    runLocks [] (scst_sgv_pools_init (.ok caches)) = .ok [] ∧
      runLocks [] (scst_sgv_pools_init (.norm_fails k)) = .ok [] ∧
      runLocks [] (scst_sgv_pools_init (.clust_fails caches k norm)) = .error (.relock .sgv_pools_mutex) ∧
      runLocks [] (scst_sgv_pools_init (.dma_fails caches k clust norm)) =
        .error (.relock .sgv_pools_mutex) := by
  have inits := sgv_pool_init_clean
  refine ⟨(locked_clean (nil_below _) (((inits _).append (inits _)).append (inits _))).append
      (sleep_clean mutexOnly_nil.calm), locked_clean (nil_below _) (inits _), ?_, ?_⟩ <;>
    simp only [scst_sgv_pools_init, locked, runLocks, lockStep_lock_of_below (nil_below _),
      List.append_assoc]
  · rw [runLocks_append_of_ok (inits _), runLocks_append_of_ok (inits _), deinit_relocks]
  · rw [runLocks_append_of_ok (inits _), runLocks_append_of_ok (inits _),
      runLocks_append_of_ok (inits _), deinit_relocks]

end Discipline

/-! ### Direct reclaim

A `GFP_KERNEL` allocation may enter direct reclaim, which calls the
registered shrinkers, and `sgv_shrink` ignores its `gfp_t`. The thread then
runs `sgv_shrink` on one of its paths with the locks of the allocating code
still held. From no lock held that is clean (`entry_points_lock_clean`). Inside
`sgv_pool_create`, with `sgv_pools_mutex` held, a path whose `sgv_pool_put`
drops a pool's last reference reaches `sgv_pool_deinit`, which takes the mutex
again. -/

def PutCase.destroys : PutCase → Bool
  | .kept => false
  | .destroyed _ _ => true

def ShrinkExit.destroys : ShrinkExit → Bool
  | .no_progress _ put => put.destroys
  | _ => false

/-- Some `sgv_pool_put` on the path of `__sgv_shrink` destroys its pool. -/
def shrinkDestroys (rounds : List ShrinkRound) (exit : ShrinkExit) : Bool :=
  rounds.any (fun r => r.put.destroys) || exit.destroys

section Reclaim
variable (rest : List LockOp)

theorem sgv_pool_put_under_mutex (p : Nat) : ∀ put : PutCase,
    runLocks [.sgv_pools_mutex] (sgv_pool_put p put ++ rest) =
      if put.destroys then .error (.relock .sgv_pools_mutex) else runLocks [.sgv_pools_mutex] rest
  | .kept => rfl
  | .destroyed buckets caches => deinit_relocks p buckets caches rest

theorem shrinkRound_under_mutex (r : ShrinkRound) :
    runLocks [.sgv_pools_mutex] (shrinkRound r ++ rest) =
      if r.put.destroys then .error (.relock .sgv_pools_mutex) else runLocks [.sgv_pools_mutex] rest := by
  rw [shrinkRound, sgv_shrink_pool, List.append_assoc, List.append_assoc,
    runLocks_append_of_ok (pools_section_clean mutexOnly_mutex.below_pools),
    runLocks_append_of_ok (lockedPurge_clean mutexOnly_mutex r.pool r.purged)]
  exact sgv_pool_put_under_mutex rest r.pool r.put

theorem rounds_under_mutex : ∀ rounds : List ShrinkRound,
    runLocks [.sgv_pools_mutex] (rounds.flatMap shrinkRound ++ rest) =
      if rounds.any (fun r => r.put.destroys) then .error (.relock .sgv_pools_mutex)
      else runLocks [.sgv_pools_mutex] rest
  | [] => rfl
  | r :: rounds => by
    rw [List.flatMap_cons, List.append_assoc, shrinkRound_under_mutex, List.any_cons]
    cases r.put.destroys
    · exact rounds_under_mutex rounds
    · rfl

end Reclaim

theorem shrinkExit_under_mutex : ∀ exit : ShrinkExit,
    runLocks [.sgv_pools_mutex] (shrinkExit exit) =
      if exit.destroys then .error (.relock .sgv_pools_mutex) else .ok [.sgv_pools_mutex]
  | .drained => rfl
  | .empty => pools_section_clean mutexOnly_mutex.below_pools
  | .no_progress p put => by
    rw [shrinkExit, runLocks_append_of_ok (pools_section_clean mutexOnly_mutex.below_pools),
      ← List.append_nil (sgv_pool_put p put), sgv_pool_put_under_mutex]
    rfl

/-- The shrinker run with only `sgv_pools_mutex` held, as direct reclaim runs
it from an allocation under the mutex: it takes the mutex again exactly when it
scans and one of its `sgv_pool_put` calls drops a pool's last reference, and
is clean on every other path. -/
theorem shrink_under_mutex (nr : Int) (rounds : List ShrinkRound) (exit : ShrinkExit) :
    runLocks [.sgv_pools_mutex] (sgv_shrink nr rounds exit) =
      if 0 < nr ∧ shrinkDestroys rounds exit = true then .error (.relock .sgv_pools_mutex)
      else .ok [.sgv_pools_mutex] := by
  unfold sgv_shrink
  by_cases pos : 0 < nr
  · rw [if_pos pos, __sgv_shrink, rounds_under_mutex, shrinkExit_under_mutex, shrinkDestroys]
    cases rounds.any fun r => r.put.destroys <;> cases exit.destroys <;> simp [pos]
  · rw [if_neg pos, if_neg fun both => pos both.1]
    exact pools_section_clean mutexOnly_mutex.below_pools

/-- A section of `sgv_pools_mutex` that runs the shrinker between two clean
parts faults as the shrinker does. -/
theorem mutex_section_reclaim {ops pre shrink post : List LockOp} {c : Prop} [Decidable c]
    (parts : ops = pre ++ shrink ++ post) (before : Clean [.sgv_pools_mutex] pre)
    (after : Clean [.sgv_pools_mutex] post)
    (run : runLocks [.sgv_pools_mutex] shrink =
      if c then .error (.relock .sgv_pools_mutex) else .ok [.sgv_pools_mutex]) :
    runLocks [] (locked .sgv_pools_mutex ops) = if c then .error (.relock .sgv_pools_mutex) else .ok [] := by
  subst parts
  have unlock : runLocks [.sgv_pools_mutex] (post ++ [.unlock .sgv_pools_mutex]) = .ok [] := by
    rw [runLocks_append_of_ok after]; rfl
  unfold locked
  rw [runLocks, lockStep_lock_of_below (nil_below _)]
  dsimp only
  rw [List.append_assoc, List.append_assoc, runLocks_append_of_ok before, runLocks_append, run]
  split
  · rfl
  · exact unlock

/-- Where direct reclaim enters `sgv_pool_create` on a new name: in the
`kzalloc(GFP_KERNEL)` of the pool, which then succeeds or fails, or in the
`kmem_cache_create` of cache `i` in `sgv_pool_init`. -/
inductive ReclaimAt where
  | kzalloc (ok : Bool) (init : InitCase)
  | cache (i : Nat) (init : InitCase)
  deriving DecidableEq, Repr

/-- `sgv_pool_init` whose `kmem_cache_create` of cache `i` runs the shrinker's
`shrink` before it sleeps. -/
def sgv_pool_init_reclaiming (shrink : List LockOp) (i : Nat) : InitCase → List LockOp
  | .ok caches =>
      List.replicate i .sleep ++ shrink ++ List.replicate (caches - i) .sleep ++ locked .sgv_pools_lock []
  | .fails k => List.replicate i .sleep ++ shrink ++ List.replicate (k + 1 - i) .sleep ++ List.replicate k .sleep

/-- `sgv_pool_create` on a new name with direct reclaim at `site`: the
shrinker runs `shrink` with `sgv_pools_mutex` held. -/
def sgv_pool_create_reclaiming (shrink : List LockOp) : ReclaimAt → List LockOp
  | .kzalloc ok init =>
      locked .sgv_pools_mutex (shrink ++ [.sleep] ++ if ok then sgv_pool_init init else [])
  | .cache i init => locked .sgv_pools_mutex ([.sleep] ++ sgv_pool_init_reclaiming shrink i init)

/-- With nothing for the shrinker to do, reclaim in the `kzalloc` is
`sgv_pool_create` as the lock discipline reads it. -/
theorem sgv_pool_create_reclaiming_nil (ok : Bool) (init : InitCase) :
    sgv_pool_create_reclaiming [] (.kzalloc ok init) = sgv_pool_create (.fresh ok init) := rfl

theorem sgv_pool_init_reclaiming_nil {i caches : Nat} (made : i ≤ caches) :
    sgv_pool_init_reclaiming [] i (.ok caches) = sgv_pool_init (.ok caches) := by
  rw [sgv_pool_init_reclaiming, sgv_pool_init, List.append_nil, ← List.replicate_add,
    Nat.add_sub_cancel' made]

/-- Direct reclaim inside `sgv_pool_create` on a new name, in the `kzalloc`
of the pool or in any `kmem_cache_create` of `sgv_pool_init`: the shrinker
runs with `sgv_pools_mutex` held, and the thread locks the mutex again, waiting
for itself, exactly when the shrinker scans and one of its `sgv_pool_put`
calls drops a pool's last reference. Every other path is clean. -/
theorem create_reclaim_relocks (nr : Int) (rounds : List ShrinkRound) (exit : ShrinkExit) (site : ReclaimAt) :
    runLocks [] (sgv_pool_create_reclaiming (sgv_shrink nr rounds exit) site) =
      if 0 < nr ∧ shrinkDestroys rounds exit = true then .error (.relock .sgv_pools_mutex) else .ok [] := by
  have calm := mutexOnly_mutex.calm
  have run := shrink_under_mutex nr rounds exit
  cases site with
  | kzalloc ok init =>
    exact mutex_section_reclaim (by simp) clean_nil
      ((sleep_clean calm).append (clean_ite (c := ok = true) (sgv_pool_init_clean init) clean_nil)) run
  | cache i init =>
    cases init with
    | ok caches =>
      exact mutex_section_reclaim (by simp [sgv_pool_init_reclaiming, List.replicate_succ])
        (sleeps_clean calm (i + 1))
        ((sleeps_clean calm (caches - i)).append (pools_section_clean mutexOnly_mutex.below_pools)) run
    | fails k =>
      exact mutex_section_reclaim (by simp [sgv_pool_init_reclaiming, List.replicate_succ])
        (sleeps_clean calm (i + 1)) ((sleeps_clean calm (k + 1 - i)).append (sleeps_clean calm k)) run

/-- A pool created while the shrinker's one round takes the last reference
of pool 0, emptied by `sgv_pool_del` meanwhile. -/
theorem create_beside_dying_pool_relocks :
    runLocks [] (sgv_pool_create_reclaiming (sgv_shrink 1 [⟨0, [true], .destroyed [[]] 11⟩] .drained)
      (.kzalloc true (.ok 11))) = .error (.relock .sgv_pools_mutex) :=
  by rw [create_reclaim_relocks, if_pos (by decide)]

/-! ### Threads

Each thread runs its lock operations one at a time; a lock is taken only when
no thread holds it. A thread whose operations settle (run to the end from its
locks, with no fault and none left) can always be moved while any thread has
work: the holder of a lock another thread waits for either moves or waits
for a lock of higher rank, and the ranks end. -/

structure Thread where
  ops : List LockOp
  held : List LockName

/-- The operations left run to the end with no fault and no lock left. -/
def Thread.Settles (t : Thread) : Prop := runLocks t.held t.ops = .ok []

inductive Interleave : List Thread → List Thread → Prop
  | lock {ts : List Thread} {i : Nat} {l : LockName} {rest : List LockOp} {held : List LockName}
      (get : ts[i]? = some ⟨.lock l :: rest, held⟩) (free : ∀ t ∈ ts, l ∉ t.held) :
      Interleave ts (ts.set i ⟨rest, l :: held⟩)
  | unlock {ts : List Thread} {i : Nat} {l : LockName} {rest : List LockOp} {held : List LockName}
      (get : ts[i]? = some ⟨.unlock l :: rest, held⟩) : Interleave ts (ts.set i ⟨rest, held.erase l⟩)
  | sleep {ts : List Thread} {i : Nat} {rest : List LockOp} {held : List LockName}
      (get : ts[i]? = some ⟨.sleep :: rest, held⟩) : Interleave ts (ts.set i ⟨rest, held⟩)

/-- The configurations the threads reach from `start`. -/
inductive Reach (start : List Thread) : List Thread → Prop
  | refl : Reach start start
  | step {ts ts' : List Thread} : Reach start ts → Interleave ts ts' → Reach start ts'

section Threads
variable {held : List LockName} {rest : List LockOp} {done : List LockName}

theorem runLocks_lock {l : LockName} (run : runLocks held (.lock l :: rest) = .ok done) :
    (∀ h ∈ held, h.rank < l.rank) ∧ runLocks (l :: held) rest = .ok done := by
  simp only [runLocks, lockStep] at run
  split_ifs at run with mem order
  refine ⟨fun h hmem => ?_, run⟩
  have := List.any_eq_false.1 (Bool.not_eq_true _ ▸ order) h hmem
  simp only [decide_eq_true_eq] at this
  omega

theorem runLocks_unlock {l : LockName} (run : runLocks held (.unlock l :: rest) = .ok done) :
    runLocks (held.erase l) rest = .ok done := by
  simp only [runLocks, lockStep] at run
  split_ifs at run
  exact run

theorem runLocks_sleep (run : runLocks held (.sleep :: rest) = .ok done) : runLocks held rest = .ok done := by
  simp only [runLocks, lockStep] at run
  split_ifs at run
  exact run

theorem Interleave.settles {ts ts' : List Thread} (step : Interleave ts ts')
    (all : ∀ t ∈ ts, t.Settles) : ∀ t ∈ ts', t.Settles := by
  intro t mem
  cases step with
  | lock get _ =>
    rcases List.mem_or_eq_of_mem_set mem with old | rfl
    · exact all t old
    · exact (runLocks_lock (all _ (List.getElem?_mem get))).2
  | unlock get =>
    rcases List.mem_or_eq_of_mem_set mem with old | rfl
    · exact all t old
    · exact runLocks_unlock (all _ (List.getElem?_mem get))
  | sleep get =>
    rcases List.mem_or_eq_of_mem_set mem with old | rfl
    · exact all t old
    · exact runLocks_sleep (all _ (List.getElem?_mem get))

theorem Reach.settles {start ts : List Thread} (init : ∀ t ∈ start, t.Settles) (reach : Reach start ts) :
    ∀ t ∈ ts, t.Settles := by
  induction reach with
  | refl => exact init
  | step _ step ih => exact step.settles ih

theorem lock_progress {ts : List Thread} (all : ∀ t ∈ ts, t.Settles) :
    ∀ (k : Nat) {i : Nat} {l : LockName} {rest : List LockOp} {held : List LockName},
      ts[i]? = some ⟨.lock l :: rest, held⟩ → 3 ≤ l.rank + k → ∃ ts', Interleave ts ts'
  | 0, _, l, _, _, _, high => absurd high (by have := l.rank_lt_three; omega)
  | k + 1, _, l, _, _, get, high => by
    by_cases free : ∀ t ∈ ts, l ∉ t.held
    · exact ⟨_, .lock get free⟩
    push_neg at free
    obtain ⟨⟨ops, uheld⟩, mem, holds⟩ := free
    obtain ⟨j, getu⟩ := List.mem_iff_getElem?.1 mem
    have settles : runLocks uheld ops = .ok [] := all _ mem
    match ops, getu, settles with
    | [], _, settles =>
      simp only [runLocks, Except.ok.injEq] at settles
      simp [settles] at holds
    | .lock l' :: _, getu, settles =>
      have above := (runLocks_lock settles).1 l holds
      exact lock_progress all k getu (by omega)
    | .unlock _ :: _, getu, _ => exact ⟨_, .unlock getu⟩
    | .sleep :: _, getu, _ => exact ⟨_, .sleep getu⟩

theorem Interleave.progress {ts : List Thread} (all : ∀ t ∈ ts, t.Settles)
    (busy : ∃ t ∈ ts, t.ops ≠ []) : ∃ ts', Interleave ts ts' := by
  obtain ⟨⟨ops, held⟩, mem, busy⟩ := busy
  obtain ⟨i, get⟩ := List.mem_iff_getElem?.1 mem
  match ops, get, busy with
  | [], _, busy => exact absurd rfl busy
  | .lock _ :: _, get, _ => exact lock_progress all 3 get (by omega)
  | .unlock _ :: _, get, _ => exact ⟨_, .unlock get⟩
  | .sleep :: _, get, _ => exact ⟨_, .sleep get⟩

/-- Threads that each run exported functions of scst_mem.c one after another,
on any paths, from no lock held, with no allocation entering the shrinker
(`create_reclaim_relocks` is what such an allocation can do). In every configuration an interleaving
reaches, while some thread has operations left some thread can move, and a
thread that is done holds no lock. -/
theorem entries_never_deadlock (runs : List (List Entry)) {ts : List Thread}
    (reach : Reach (runs.map fun es => ⟨es.flatMap Entry.ops, []⟩) ts) :
    ((∃ t ∈ ts, t.ops ≠ []) → ∃ ts', Interleave ts ts') ∧ ∀ t ∈ ts, t.ops = [] → t.held = [] := by
  have all := reach.settles fun t mem => by
    obtain ⟨es, -, rfl⟩ := List.mem_map.1 mem
    exact clean_flatMap _ es fun e _ => e.clean
  refine ⟨Interleave.progress all, fun ⟨ops, held⟩ mem done => ?_⟩
  have settles : runLocks held ops = .ok [] := all _ mem
  simp only at done
  simpa [done, runLocks] using settles

end Threads

end Locks
end ScstMem
