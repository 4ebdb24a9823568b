import ScstMem.System

/-! The statistics of a pool. `sgv_pool_alloc` counts each object it hands
out: per order the allocations and the hits among them, and the big and
no-cached allocations; each fill adds the pages it asked for and the pages
clustering merged away. No other call touches these counters, and a fill that
succeeds made at least one entry, so after any calls, allowed or not, every
kind of allocation has merged fewer pages than it filled. -/
namespace ScstMem
open sgv_clustering_types

/-- The counters of a pool that only `sgv_pool_alloc` adds to. -/
structure PoolStats where
  cache_acc : Nat → CacheAcc
  big_alloc : Nat
  big_pages : Nat
  big_merged : Nat
  other_alloc : Nat
  other_pages : Nat
  other_merged : Nat

def SgvPool.stats (pool : SgvPool) : PoolStats :=
  ⟨pool.cache_acc, pool.big_alloc, pool.big_pages, pool.big_merged, pool.other_alloc, pool.other_pages,
    pool.other_merged⟩

/-- The allocations of an order that were not hits: each filled a new
object or one handed back through `*sgv`. -/
def CacheAcc.misses (a : CacheAcc) : Nat := a.total_alloc - a.hit_alloc

/-- A step that leaves the statistics of every pool as they were. -/
def StatsKept (s t : SgvState) : Prop := ∀ p, (t.pools p).stats = (s.pools p).stats

/-- Between calls: no more hits than allocations, each fill of order `i`
merged at most `2 ^ i - 1` of its pages, each big or no-cached fill fewer
pages than it filled, and pages were only counted with an allocation. -/
structure StatsOk (st : PoolStats) : Prop where
  hits : ∀ i, (st.cache_acc i).hit_alloc ≤ (st.cache_acc i).total_alloc
  merged : ∀ i, (st.cache_acc i).merged + (st.cache_acc i).misses ≤ (st.cache_acc i).misses * 2 ^ i
  big_merged : st.big_merged + st.big_alloc ≤ st.big_pages
  big_counted : st.big_pages = 0 ∨ 0 < st.big_alloc
  other_merged : st.other_merged + st.other_alloc ≤ st.other_pages
  other_counted : st.other_pages = 0 ∨ 0 < st.other_alloc

def StatsInv (s : SgvState) : Prop := ∀ p, StatsOk (s.pools p).stats

section Kept
variable {cfg : Config} {s t u : SgvState}

theorem StatsKept.refl : StatsKept s s := fun _ => rfl

theorem StatsKept.trans (first : StatsKept s t) (second : StatsKept t u) : StatsKept s u :=
  fun p => (second p).trans (first p)

theorem StatsKept.of_pools (same : t.pools = s.pools) : StatsKept s t := fun p => by rw [same]

theorem StatsKept.from_pools (kept : StatsKept t u) (same : t.pools = s.pools) : StatsKept s u :=
  (StatsKept.of_pools same).trans kept

theorem StatsInv.kept (inv : StatsInv s) (kept : StatsKept s t) : StatsInv t := fun p => kept p ▸ inv p

theorem statsKept_setPool (p : Nat) (f : SgvPool → SgvPool) (same : (f (s.pools p)).stats = (s.pools p).stats) :
    StatsKept s (s.setPool p f) := fun q => by
  by_cases own : q = p
  · subst own; simpa using same
  · simp [own]

theorem StatsInv.setPool (inv : StatsInv s) (p : Nat) (f : SgvPool → SgvPool) (ok : StatsOk (f (s.pools p)).stats) :
    StatsInv (s.setPool p f) := fun q => by
  by_cases own : q = p
  · subst own; simpa using ok
  · simpa [own] using inv q

theorem statsKept_dec (p : Nat) (pages : Int) : StatsKept s (sgv_dec_cached_entries s p pages) := by
  have counted := statsKept_setPool (s := s) p (fun pool =>
    { pool with cached_entries := pool.cached_entries - 1, cached_pages := pool.cached_pages - pages }) rfl
  unfold sgv_dec_cached_entries
  dsimp only
  split
  · exact counted.trans (.of_pools rfl)
  · exact counted

theorem statsKept_purge (id : Nat) : StatsKept s (__sgv_purge_from_cache s id) := by
  unfold __sgv_purge_from_cache
  refine ((statsKept_setPool _ _ ?_).trans (statsKept_dec _ _)).trans (.of_pools rfl)
  rfl

theorem statsKept_reclaim (id : Nat) : StatsKept s (sgv_dtor_and_free cfg (__sgv_purge_from_cache s id) id) :=
  (statsKept_purge id).trans (.of_pools (by rw [sgv_dtor_and_free_eq]))

theorem statsKept_put (id : Nat) : StatsKept s (sgv_put_obj s id) := by
  unfold sgv_put_obj
  exact StatsKept.trans (.of_pools (by rfl)) (statsKept_setPool _ _ (by rfl))

theorem statsKept_get_obj (p order : Nat) (ok : Bool) : StatsKept s (sgv_get_obj s p order ok).1 := by
  unfold sgv_get_obj
  split <;> dsimp only
  · exact statsKept_setPool _ _ (by rfl)
  · have counted : StatsKept s ((if (s.pools p).cached_entries = 0 then
        { s with sgv_active_pools_list := s.sgv_active_pools_list ++ [p] } else s).setPool p fun pool =>
        { pool with cached_entries := pool.cached_entries + 1, cached_pages := pool.cached_pages + 2 ^ order }) :=
      StatsKept.trans (.of_pools (by split <;> rfl)) (statsKept_setPool _ _ (by rfl))
    split
    · exact counted.trans (.of_pools rfl)
    · exact counted.trans (statsKept_dec _ _)

end Kept

/-! ### The reclaim paths -/

section Reclaim
variable {cfg : Config} {s : SgvState}

theorem statsKept_shrinkPoolLoop (p after cur_time fuel : Nat) (nr freed : Int) :
    StatsKept s (shrinkPoolLoop cfg p after cur_time fuel s nr freed).1 := by
  induction fuel generalizing s nr freed with
  | zero => exact .refl
  | succ fuel ih =>
    unfold shrinkPoolLoop
    split
    · exact .refl
    · split
      · split
        · dsimp only
          split
          · exact statsKept_reclaim _
          · exact (statsKept_reclaim _).trans (ih _ _)
        · exact .refl
      · exact .refl

theorem statsKept_shrinkLoop (after cur_time fuel : Nat) (nr prev_nr : Int) (circle : Bool) :
    StatsKept s (shrinkLoop cfg after cur_time fuel s nr prev_nr circle).1 := by
  induction fuel generalizing s nr prev_nr circle with
  | zero => exact .refl
  | succ fuel ih =>
    unfold shrinkLoop sgv_shrink_pool
    dsimp only
    split
    · split
      · exact .refl
      · split
        · exact StatsKept.trans (.of_pools (by rfl)) ((statsKept_shrinkPoolLoop _ _ _ _ _ _).trans (ih _ _ _))
        · split
          · exact .refl
          · exact StatsKept.trans (.of_pools (by rfl)) ((statsKept_shrinkPoolLoop _ _ _ _ _ _).trans (ih _ _ _))
    · exact .refl

theorem statsKept_hiwmk_check (pages : Int) : StatsKept s (sgv_hiwmk_check cfg s pages).1 := by
  unfold sgv_hiwmk_check __sgv_shrink
  dsimp only
  split
  · have shrunk : StatsKept s (shrinkLoop cfg 0 s.jiffies
        (shrinkFuel { s with sgv_releases_on_hiwmk := s.sgv_releases_on_hiwmk + 1 })
        { s with sgv_releases_on_hiwmk := s.sgv_releases_on_hiwmk + 1 } (pages + s.sgv_pages_total - cfg.sgv_hi_wmk)
        (pages + s.sgv_pages_total - cfg.sgv_hi_wmk) false).1 :=
      StatsKept.trans (.of_pools rfl) (statsKept_shrinkLoop _ _ _ _ _ _)
    split <;> exact shrunk.trans (.of_pools rfl)
  · exact .of_pools rfl

theorem statsKept_purgeLoop (cur_time p fuel : Nat) : StatsKept s (purgeLoop cfg cur_time p fuel s) := by
  induction fuel generalizing s with
  | zero => exact .refl
  | succ fuel ih =>
    unfold purgeLoop
    split
    · exact .refl
    · split
      · exact (statsKept_reclaim _).trans ih
      · exact statsKept_setPool _ _ (by rfl)

theorem statsKept_flushList (p k fuel : Nat) : StatsKept s (flushList cfg p k fuel s) := by
  induction fuel generalizing s with
  | zero => exact .refl
  | succ fuel ih =>
    unfold flushList
    split
    · exact .refl
    · exact (statsKept_reclaim _).trans ih

theorem statsKept_pool_flush (p : Nat) : StatsKept s (sgv_pool_flush cfg s p) := by
  unfold sgv_pool_flush
  generalize List.range cfg.SGV_POOL_ELEMENTS = ks
  induction ks generalizing s with
  | nil => exact .refl
  | cons k ks ih => exact (statsKept_flushList _ _ _).trans ih

end Reclaim

/-! ### The other calls -/

section Calls
variable {cfg : Config} {s : SgvState}

theorem statsKept_pool_free (id m : Nat) : StatsKept s (sgv_pool_free cfg s id m) := by
  unfold sgv_pool_free
  dsimp only
  split
  · exact ((statsKept_put id).from_pools (by rfl)).trans (.of_pools rfl)
  · exact .of_pools rfl

theorem statsKept_scst_alloc (size : Nat) (no_fail : Bool) (count : Nat) (env : ScstAllocEnv) :
    StatsKept s (scst_alloc cfg s size no_fail count env).1 := by
  have checked := (@statsKept_hiwmk_check cfg { s with
    sgv_other_total_alloc := s.sgv_other_total_alloc + 1 } (lenPages cfg size)).from_pools rfl
  unfold scst_alloc
  refine checked.trans (.of_pools ?_)
  simp only [apply_ite Prod.fst, apply_ite SgvState.pools, sgv_hiwmk_uncheck, ite_self]

theorem statsKept_sgv_shrink (nr : Int) : StatsKept s (sgv_shrink cfg s nr).1 := by
  unfold sgv_shrink __sgv_shrink
  split
  · exact statsKept_shrinkLoop _ _ _ _ _ _
  · exact .refl

theorem statsKept_purge_work (p : Nat) : StatsKept s (sgv_purge_work_fn cfg s p) :=
  (statsKept_setPool _ _ rfl).trans (statsKept_purgeLoop _ _ _)

end Calls

/-! ### `sgv_pool_alloc` -/

section Exits
variable {cfg : Config} {s : SgvState} (c : AllocCtx)

theorem statsKept_outUncheck : StatsKept s (outUncheck c s) :=
  .of_pools (by unfold outUncheck; split_ifs <;> rfl)

theorem statsKept_outFail : StatsKept s (outFail c s).1 := statsKept_outUncheck c

theorem statsKept_outReturn2 (sgv : Option Nat) : StatsKept s (outReturn2 c s sgv).1 := statsKept_outUncheck c

theorem statsKept_outFailFree (id : Nat) : StatsKept s (outFailFree c s id).1 := by
  unfold outFailFree outFail
  dsimp only
  split
  · exact ((statsKept_dec _ _).trans (.of_pools rfl)).trans (statsKept_outUncheck c)
  · exact (statsKept_outUncheck c).from_pools rfl

theorem statsKept_outReturn1 (id : Nat) (o : SgvObj) : StatsKept s (outReturn1 c s id o).1 :=
  (statsKept_outUncheck c).from_pools rfl

theorem statsKept_check_allowed (m : Nat) (pages : Int) : StatsKept s (sgv_check_allowed_mem s m pages).1 :=
  .of_pools (by unfold sgv_check_allowed_mem; dsimp only; split <;> rfl)

theorem StatsInv.check (inv : StatsInv s) (m : Nat) (pages : Int) : StatsInv (sgv_check_allowed_mem s m pages).1 :=
  inv.kept (statsKept_check_allowed m pages)

theorem StatsInv.hiwmk (inv : StatsInv s) (pages : Int) : StatsInv (sgv_hiwmk_check cfg s pages).1 :=
  inv.kept (statsKept_hiwmk_check pages)

theorem bumpAcc_bumpAcc (pool : SgvPool) (o : Nat) (f g : CacheAcc → CacheAcc) :
    (pool.bumpAcc o f).bumpAcc o g = pool.bumpAcc o (g ∘ f) := by
  simp [SgvPool.bumpAcc, Function.update_idem]

theorem StatsOk.bump {pool : SgvPool} (ok : StatsOk pool.stats) (o : Nat) (f : CacheAcc → CacheAcc)
    (hits : (f (pool.cache_acc o)).hit_alloc ≤ (f (pool.cache_acc o)).total_alloc)
    (merged : (f (pool.cache_acc o)).merged + (f (pool.cache_acc o)).misses ≤
      (f (pool.cache_acc o)).misses * 2 ^ o) :
    StatsOk (pool.bumpAcc o f).stats := by
  refine ⟨fun i => ?_, fun i => ?_, ok.big_merged, ok.big_counted, ok.other_merged, ok.other_counted⟩ <;>
  by_cases own : i = o <;>
    simp only [SgvPool.stats, SgvPool.bumpAcc, Function.update_apply, own, if_true, if_false]
  · exact hits
  · exact ok.hits i
  · exact merged
  · exact ok.merged i

theorem StatsOk.hit {pool : SgvPool} (ok : StatsOk pool.stats) (cache : c.cache = true) :
    StatsOk (successStats c (pool.bumpAcc c.order fun a => { a with hit_alloc := a.hit_alloc + 1 })).stats := by
  have hits : (pool.cache_acc c.order).hit_alloc ≤ (pool.cache_acc c.order).total_alloc := ok.hits c.order
  simp only [successStats, cache, if_true, bumpAcc_bumpAcc]
  refine ok.bump _ _ (by dsimp only [Function.comp]; omega) ?_
  simp only [Function.comp, CacheAcc.misses, Nat.add_sub_add_right]
  exact ok.merged c.order

theorem StatsOk.fill {pool : SgvPool} (ok : StatsOk pool.stats)
    (sized : c.cache = true → c.pages_to_alloc = 2 ^ c.order) (pos : 0 < c.pages_to_alloc) {sg : Nat}
    (made : 0 < sg) : StatsOk (successStats c (fillStats c (c.pages_to_alloc - sg) pool)).stats := by
  unfold successStats fillStats
  by_cases cache : c.cache = true
  · have merged : (pool.cache_acc c.order).merged + (pool.cache_acc c.order).misses ≤
        (pool.cache_acc c.order).misses * 2 ^ c.order := ok.merged c.order
    have hits : (pool.cache_acc c.order).hit_alloc ≤ (pool.cache_acc c.order).total_alloc := ok.hits c.order
    simp only [cache, if_true, bumpAcc_bumpAcc]
    refine ok.bump _ _ (by dsimp only [Function.comp]; omega) ?_
    simp only [Function.comp, CacheAcc.misses] at merged ⊢
    rw [show (pool.cache_acc c.order).total_alloc + 1 - (pool.cache_acc c.order).hit_alloc =
      (pool.cache_acc c.order).total_alloc - (pool.cache_acc c.order).hit_alloc + 1 by omega,
      Nat.succ_mul, sized cache]
    have some_page : 0 < 2 ^ c.order := Nat.two_pow_pos _
    generalize 2 ^ c.order = X at merged some_page ⊢
    omega
  · have big : pool.big_merged + pool.big_alloc ≤ pool.big_pages := ok.big_merged
    have other : pool.other_merged + pool.other_alloc ≤ pool.other_pages := ok.other_merged
    by_cases other_path : c.args.flags.no_cached = true
    · simp only [cache, other_path, Bool.false_eq_true, if_false, if_true]
      exact ⟨ok.hits, ok.merged, ok.big_merged, ok.big_counted, by dsimp only [SgvPool.stats]; omega,
        .inr (by dsimp only [SgvPool.stats]; omega)⟩
    · simp only [cache, other_path, Bool.false_eq_true, if_false]
      exact ⟨ok.hits, ok.merged, by dsimp only [SgvPool.stats]; omega, .inr (by dsimp only [SgvPool.stats]; omega),
        ok.other_merged, ok.other_counted⟩

end Exits

section Paths
variable {cfg : Config} {s : SgvState} {c : AllocCtx} (env : AllocEnv)

theorem StatsInv.alloc_success (inv : StatsInv s) (f : SgvPool → SgvPool) {id : Nat} {o : SgvObj}
    (ok : StatsOk (successStats c (f (s.pools c.args.pool))).stats) :
    StatsInv (allocSuccess cfg c (s.setPool c.args.pool f) id o).1 :=
  (inv.setPool c.args.pool (successStats c ∘ f) ok).kept (.of_pools (by
    show ((s.setPool c.args.pool f).setPool c.args.pool (successStats c)).pools = _
    simp only [SgvState.setPool_pools, Function.update_same, Function.update_idem]; rfl))

theorem StatsInv.alloc_fill (inv : StatsInv s) (sized : c.cache = true → c.pages_to_alloc = 2 ^ c.order)
    (pos : 0 < c.pages_to_alloc) (id : Nat) (o : SgvObj) : StatsInv (allocFill cfg c env s id o).1 := by
  unfold allocFill
  dsimp only
  split
  · split
    · exact inv.kept ((statsKept_outReturn1 c _ _).from_pools rfl)
    · exact inv.kept ((statsKept_outFailFree c _).from_pools rfl)
  · next made =>
    refine StatsInv.alloc_success ?_ _ ((inv c.args.pool).fill c sized pos (Nat.pos_of_ne_zero made))
    exact inv.kept (.of_pools rfl)

theorem StatsInv.alloc_cached_obj (inv : StatsInv s) (cache : c.cache = true)
    (npages : c.pages_to_alloc = 2 ^ c.order) (id : Nat) : StatsInv (allocCachedObj cfg c env s id).1 := by
  unfold allocCachedObj
  dsimp only
  split
  · exact inv.alloc_success _ ((inv c.args.pool).hit c cache)
  split
  · exact inv.kept (statsKept_outFailFree c _)
  split
  · exact inv.kept (statsKept_outFailFree c _)
  split
  · exact inv.kept (statsKept_outReturn1 c _ _)
  have checked := @StatsInv.hiwmk cfg _ inv c.pages_to_alloc
  split
  · exact checked.kept ((statsKept_outFailFree c _).from_pools rfl)
  · exact checked.alloc_fill (c := { c with hiwmk_checked := true }) env (fun _ => npages)
      (npages ▸ Nat.two_pow_pos _) _ _

theorem StatsInv.alloc_cached (inv : StatsInv s) : StatsInv (allocCached cfg c env s).1 := by
  unfold allocCached
  dsimp only
  have checked := inv.kept (statsKept_check_allowed c.args.mem_lim (2 ^ c.order : Nat))
  split
  · exact checked.kept (statsKept_outFail _)
  split
  · next s1 got =>
    have kept := statsKept_get_obj (s := (sgv_check_allowed_mem s c.args.mem_lim (2 ^ c.order : Nat)).1)
      c.args.pool c.order env.cache_ok
    rw [got] at kept
    exact (checked.kept kept).kept (statsKept_outFail _)
  · next s1 id got =>
    have kept := statsKept_get_obj (s := (sgv_check_allowed_mem s c.args.mem_lim (2 ^ c.order : Nat)).1)
      c.args.pool c.order env.cache_ok
    rw [got] at kept
    exact (checked.kept kept).alloc_cached_obj env rfl rfl id

theorem StatsInv.alloc_supplied (inv : StatsInv s) (id : Nat) : StatsInv (allocSupplied cfg c env s id).1 := by
  unfold allocSupplied
  dsimp only
  split
  · exact ((inv.kept (.of_pools (by rfl))).check _ _).kept (statsKept_outFailFree _ _)
  split
  · exact (((inv.kept (.of_pools (by rfl))).check _ _).hiwmk _).kept (statsKept_outFailFree _ _)
  · exact (((inv.kept (.of_pools (by rfl))).check _ _).hiwmk _).alloc_fill
      (c := { c with pages_to_alloc := 2 ^ c.order, cache := true, allowed_mem_checked := true,
                     hiwmk_checked := true }) env (fun _ => rfl) (Nat.two_pow_pos _) _ _

theorem StatsInv.alloc_big (inv : StatsInv s) (small : c.cache = false) (pos : 0 < c.pages) :
    StatsInv (allocBig cfg c env s).1 := by
  unfold allocBig
  dsimp only
  have checked := inv.check c.args.mem_lim (c.pages : Int)
  split
  · exact checked.kept (statsKept_outFail _)
  split
  · exact checked.kept (statsKept_outReturn2 _ _)
  split
  · exact checked.kept (statsKept_outFail _)
  split
  · exact ((checked.kept (.of_pools (by rfl))).hiwmk _).kept (statsKept_outFailFree _ _)
  · exact ((checked.kept (.of_pools (by rfl))).hiwmk _).alloc_fill
      (c := { c with pages_to_alloc := c.pages, allowed_mem_checked := true, hiwmk_checked := true }) env
      (fun cache => absurd (small ▸ cache) Bool.false_ne_true) pos _ _

theorem StatsInv.pool_alloc (inv : StatsInv s) (a : AllocArgs) : StatsInv (sgv_pool_alloc cfg s a env).1 := by
  unfold sgv_pool_alloc
  split
  · exact inv
  · next size =>
    dsimp only
    split
    · exact inv.alloc_supplied env _
    · split
      · exact inv.alloc_cached env
      · exact inv.alloc_big env rfl
          (by rw [round_up_eq_lenPages]; exact lenPages_pos cfg (Nat.pos_of_ne_zero size))

end Paths

section Runs
variable {cfg : Config} {s : SgvState}

/-- Every call but `sgv_pool_alloc` keeps the counters. -/
theorem Call.statsKept (s : SgvState) : ∀ call : Call, (∀ a env, call ≠ .alloc a env) →
    StatsKept s (call.run cfg s)
  | .alloc a env, other => absurd rfl (other a env)
  | .free id m, _ => statsKept_pool_free id m
  | .scstAlloc size no_fail count env, _ => statsKept_scst_alloc size no_fail count env
  | .scstFree _, _ => .of_pools rfl
  | .shrink nr, _ => statsKept_sgv_shrink nr
  | .purge p, _ => statsKept_purge_work p
  | .flush p, _ => statsKept_pool_flush p
  | .tick _, _ => .of_pools rfl

theorem StatsInv.run (inv : StatsInv s) (call : Call) : StatsInv (call.run cfg s) := by
  cases call with
  | alloc a env => exact inv.pool_alloc env a
  | _ => exact inv.kept (Call.statsKept _ _ fun _ _ => nofun)

theorem StatsInv.runCalls (inv : StatsInv s) (calls : List Call) : StatsInv (runCalls cfg s calls) := by
  induction calls generalizing s with
  | nil => exact inv
  | cons call rest ih => exact ih (inv.run call)

theorem statsInv_initial (ct : Nat → sgv_clustering_types) (limits : Nat → Int) :
    StatsInv (SgvState.initial ct limits) :=
  fun _ => ⟨fun _ => le_rfl, fun _ => Nat.zero_le _, le_rfl, .inl rfl, le_rfl, .inl rfl⟩

theorem statsInv_of_reachable (reach : Reachable cfg s) : StatsInv s := by
  induction reach with
  | init ct limits => exact statsInv_initial ct limits
  | step _ _ ih => exact ih.run _

end Runs

end ScstMem
