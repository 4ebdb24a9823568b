import ScstMem.Pool

/-! The lifetime of a pool: `sgv_pool_create`, `sgv_pool_del`, the reference
`__sgv_shrink` takes on the pool it selects, and `sgv_pool_destroy`. Every
section under `sgv_pools_mutex` or `sgv_pools_lock` is one step, and so is
each atomic operation on `sgv_pool_ref`; `sgv_pool_deinit` runs as separate
steps: `cancel_delayed_work_sync`, each round of `sgv_pool_flush`, the removal
from `sgv_pools_list`, and the `kfree`. Pools are named by their index in
`pools`, the order `sgv_pool_init` adds them to `sgv_pools_list`. A dying
pool stays on both lists until its deinit removes it. -/
namespace ScstMem

/-- What the registry keeps of a pool. -/
structure RegPool where
  name : Nat
  owner_mm : Nat
  sgv_pool_ref : Int
  /-- On `sgv_pools_list`. -/
  listed : Bool
  cached_entries : Nat
  /-- How often `sgv_pool_destroy` has started on it. -/
  destroys : Nat
  /-- Given back by `kfree`. -/
  freed : Bool
  deriving DecidableEq, Repr, Inhabited

/-- A thread part way through a call on a pool. -/
inductive RegAct where
  /-- A caller of `sgv_pool_create` holding the pool it returned. -/
  | user (p : Nat)
  /-- `sgv_pool_destroy` before `cancel_delayed_work_sync`. -/
  | cancel (p : Nat)
  /-- `sgv_pool_destroy` in `sgv_pool_flush`. -/
  | flush (p : Nat)
  /-- `sgv_pool_destroy` before the removal from `sgv_pools_list`. -/
  | unlist (p : Nat)
  /-- `sgv_pool_destroy` before `kfree`. -/
  | free (p : Nat)
  /-- `__sgv_shrink` between its `sgv_pool_get` and `sgv_pool_put`. -/
  | shrinking (p : Nat)
  deriving DecidableEq, Repr

structure RegSys where
  pools : List RegPool
  sgv_active_pools_list : List Nat
  sgv_cur_purge_pool : Option Nat
  acts : List RegAct
  deriving DecidableEq, Repr

namespace RegSys
variable (r : RegSys) (p : Nat)

def pool : RegPool := r.pools.getD p default

def setPool (f : RegPool → RegPool) : RegSys := { r with pools := r.pools.set p (f (r.pool p)) }

/-- Replace one thread's activity by another, or end it with `none`. -/
def moveAct (a : RegAct) (b : Option RegAct) : RegSys :=
  { r with acts := b.toList ++ r.acts.erase a }

/-- `sgv_pool_get`. -/
def get : RegSys := r.setPool p fun q => { q with sgv_pool_ref := q.sgv_pool_ref + 1 }

/-- `sgv_pool_put`: the thread that drops the count to 0 starts
`sgv_pool_destroy`. -/
def put : RegSys :=
  let r1 := r.setPool p fun q => { q with sgv_pool_ref := q.sgv_pool_ref - 1 }
  if (r1.pool p).sgv_pool_ref = 0 then
    { r1.setPool p fun q => { q with destroys := q.destroys + 1 } with acts := .cancel p :: r1.acts }
  else r1

/-- `sgv_pool_create(name, clustering_type, shared)` by a thread of `mm`: a
listed pool of that name is shared when asked and owned by `mm`, else
refused; with none, a new pool with one reference is listed. -/
def create (name mm : Nat) (shared : Bool) : RegSys :=
  match (List.range r.pools.length).find? fun q => (r.pool q).listed && (r.pool q).name == name with
  | some q =>
      if shared && (r.pool q).owner_mm == mm then { r.get q with acts := .user q :: r.acts } else r
  | none =>
      { r with pools := r.pools ++ [⟨name, mm, 1, true, 0, 0, false⟩],
               acts := .user r.pools.length :: r.acts }

/-- A new object of the pool counted in `cached_entries`; the first puts the
pool on the active list. -/
def cache : RegSys :=
  let r1 := r.setPool p fun q => { q with cached_entries := q.cached_entries + 1 }
  if (r.pool p).cached_entries = 0 then
    { r1 with sgv_active_pools_list := r1.sgv_active_pools_list ++ [p] }
  else r1

/-- `sgv_dec_cached_entries`: the last object off takes the pool off the active
list. -/
def uncache : RegSys :=
  let r1 := r.setPool p fun q => { q with cached_entries := q.cached_entries - 1 }
  if (r1.pool p).cached_entries = 0 then
    let a := delFromActive r1.sgv_active_pools_list r1.sgv_cur_purge_pool p
    { r1 with sgv_active_pools_list := a.1, sgv_cur_purge_pool := a.2 }
  else r1

/-- The first section of a round of `__sgv_shrink`: the cursor's pool, else
the first active one, is referenced and the cursor moves past it. -/
def shrinkGet : RegSys :=
  match r.sgv_cur_purge_pool <|> r.sgv_active_pools_list.head? with
  | none => r
  | some q =>
      { r.get q with
        sgv_cur_purge_pool := (succOf q r.sgv_active_pools_list <|> r.sgv_active_pools_list.head?)
        acts := .shrinking q :: r.acts }

end RegSys

inductive RegStep : RegSys → RegSys → Prop
  | create (r : RegSys) (name mm : Nat) (shared : Bool) : RegStep r (r.create name mm shared)
  | cache (r : RegSys) (p : Nat) : .user p ∈ r.acts → RegStep r (r.cache p)
  | free_obj (r : RegSys) (p : Nat) : .user p ∈ r.acts → 0 < (r.pool p).cached_entries →
      RegStep r (r.uncache p)
  | del (r : RegSys) (p : Nat) : .user p ∈ r.acts → RegStep r ((r.moveAct (.user p) none).put p)
  | cancel (r : RegSys) (p : Nat) : .cancel p ∈ r.acts → RegStep r (r.moveAct (.cancel p) (some (.flush p)))
  | flush_obj (r : RegSys) (p : Nat) : .flush p ∈ r.acts → 0 < (r.pool p).cached_entries →
      RegStep r (r.uncache p)
  | flush_done (r : RegSys) (p : Nat) : .flush p ∈ r.acts → (r.pool p).cached_entries = 0 →
      RegStep r (r.moveAct (.flush p) (some (.unlist p)))
  | unlist (r : RegSys) (p : Nat) : .unlist p ∈ r.acts →
      RegStep r ((r.setPool p fun q => { q with listed := false }).moveAct (.unlist p) (some (.free p)))
  | kfree (r : RegSys) (p : Nat) : .free p ∈ r.acts →
      RegStep r ((r.setPool p fun q => { q with freed := true }).moveAct (.free p) none)
  | shrink_get (r : RegSys) : RegStep r r.shrinkGet
  | shrink_obj (r : RegSys) (p : Nat) : .shrinking p ∈ r.acts → 0 < (r.pool p).cached_entries →
      RegStep r (r.uncache p)
  | shrink_put (r : RegSys) (p : Nat) : .shrinking p ∈ r.acts →
      RegStep r ((r.moveAct (.shrinking p) none).put p)

/-- The states reached from no pools. -/
inductive RegReach : RegSys → Prop
  | init : RegReach ⟨[], [], none, []⟩
  | step {r r' : RegSys} : RegReach r → RegStep r r' → RegReach r'

/-- A pool created unshared, given a cached object, and deleted: its count is
0 and its destroy has started, with the pool still on both lists. -/
def dyingPool : RegSys := (((RegSys.mk [] [] none []).create 0 0 false).cache 0).moveAct (.user 0) none |>.put 0

theorem dyingPool_reach : RegReach dyingPool :=
  .step (.step (.step .init (.create _ 0 0 false)) (.cache _ 0 (by decide))) (.del _ 0 (by decide))

/-- The shrinker selects the dying pool and puts it again. -/
def shrunkDyingPool : RegSys := (dyingPool.shrinkGet.moveAct (.shrinking 0) none).put 0

/-- A shared create of the same name takes the dying pool, and its deinit
runs to the end. -/
def sharedDyingPool : RegSys :=
  let r1 := ((dyingPool.create 0 0 true).moveAct (.cancel 0) (some (.flush 0))).uncache 0
  let r2 := (r1.moveAct (.flush 0) (some (.unlist 0))).setPool 0 fun q => { q with listed := false }
  let r3 := (r2.moveAct (.unlist 0) (some (.free 0))).setPool 0 fun q => { q with freed := true }
  r3.moveAct (.free 0) none

/-- The shrinker raises the dying pool's count from 0 to 1, and its put drops
it to 0 again and destroys the pool a second time. A shared create instead
returns the dying pool to its caller, and the deinit frees it under that
caller. -/
theorem dying_pool_referenced_again :
    (dyingPool.pool 0).sgv_pool_ref = 0 ∧ (dyingPool.shrinkGet.pool 0).sgv_pool_ref = 1 ∧
      RegReach shrunkDyingPool ∧ (shrunkDyingPool.pool 0).destroys = 2 ∧
      RegReach sharedDyingPool ∧ RegAct.user 0 ∈ sharedDyingPool.acts ∧
      (sharedDyingPool.pool 0).freed = true :=
  ⟨by decide, by decide,
    .step (.step dyingPool_reach (.shrink_get _)) (.shrink_put _ 0 (by decide)), by decide,
    .step (.step (.step (.step (.step (.step dyingPool_reach (.create _ 0 0 true))
      (.cancel _ 0 (by decide))) (.flush_obj _ 0 (by decide) (by decide)))
      (.flush_done _ 0 (by decide) (by decide))) (.unlist _ 0 (by decide))) (.kfree _ 0 (by decide)),
    by decide, by decide⟩

end ScstMem
