import ScstMem.Quiescent

/-! Runs whose `sgv_pool_alloc` requests stay below `2 ^ 31` bytes free every
frame they release. `sgv_free_sys_sg_entries` reads each length into an
`int`, and skips an entry of `2 ^ 31` bytes or more; in such runs no entry a
free reaches is that long. A cached object holds the fill of a bucket, of at
most `2 ^ (SGV_POOL_ELEMENTS - 1)` pages, which the platform keeps below
`2 ^ 31` bytes;
a big object holds the bytes of its request; a vector holds single pages, and
a failed fill fewer pages than it asked for. `FreesWhole` says so, and holds
with `Wf` along every such run. -/
namespace ScstMem
open sgv_clustering_types

section Whole
variable (cfg : Config)

/-- The first `n` entries are under `2 ^ 31` bytes, so `int len` reads each
as it is. -/
def Short (sg : List SgEntry) (n : Nat) : Prop :=
  ∀ i < n, (sg.getD i sg_clear).length < 2 ^ 31

/-- An object whose free will reach every frame it holds: a bucketed one is
of one of the pool's buckets (its entries are those of its fill, by
`FillKept`), a big one has short entries. -/
structure ObjWhole (o : SgvObj) : Prop where
  bucket : 0 ≤ o.order_or_pages → o.order_or_pages < cfg.SGV_POOL_ELEMENTS
  big : o.order_or_pages < 0 → Short o.sg_entries o.sg_count

/-- No free has skipped a frame, and no object or vector a later free reaches
would make one skip. -/
structure FreesWhole (s : SgvState) : Prop where
  leaked : s.pages_leaked = []
  objs : ∀ id o, s.objs id = some o → ObjWhole cfg o
  vectors : ∀ v ∈ s.vectors, Short v.1 v.2

variable {cfg}

theorem Short.leaked {sg : List SgEntry} {n : Nat} (short : Short sg n) : sgLeaked cfg sg n = [] :=
  sgLeaked_of_lt short

theorem short_of_bytes {sg : List SgEntry} {n : Nat} (small : sgBytes sg n < 2 ^ 31) : Short sg n :=
  fun _ lt => (length_le_sgBytes lt).trans_lt small

theorem RoundTrip.short {size cnt : Nat} {sg : List SgEntry} (rt : RoundTrip cfg size cnt sg)
    (small : size < 2 ^ 31) : Short sg cnt :=
  short_of_bytes (rt.2.2.2 ▸ small)

theorem bucket_bytes (buckets : 2 ^ (cfg.SGV_POOL_ELEMENTS - 1) * cfg.PAGE_SIZE < 2 ^ 31) {k : Nat}
    (lt : k < cfg.SGV_POOL_ELEMENTS) : 2 ^ k * cfg.PAGE_SIZE < 2 ^ 31 :=
  (Nat.mul_le_mul_right _ (Nat.pow_le_pow_right two_pos (by omega))).trans_lt buckets

theorem bucket_pred_bytes (buckets : 2 ^ (cfg.SGV_POOL_ELEMENTS - 1) * cfg.PAGE_SIZE < 2 ^ 31) {k : Nat}
    (lt : k < cfg.SGV_POOL_ELEMENTS) : (2 ^ k - 1) * cfg.PAGE_SIZE < 2 ^ 31 :=
  (Nat.mul_le_mul_right _ (Nat.sub_le _ _)).trans_lt (bucket_bytes buckets lt)

theorem Inv.cached_short {t : SgvState} {busy : Option Nat} {id : Nat} {o : SgvObj}
    (buckets : 2 ^ (cfg.SGV_POOL_ELEMENTS - 1) * cfg.PAGE_SIZE < 2 ^ 31) (inv : Inv cfg t busy)
    (whole : ObjWhole cfg o) (cached : t.Cached id) (get : t.objs id = some o) :
    Short o.sg_entries o.sg_count := by
  obtain ⟨-, -, bucketed, -, nb⟩ := inv.sorted_obj _ id cached
  rw [SgvState.obj_of_get get] at bucketed
  by_cases used : o.sg_count = 0
  · intro i lt; omega
  obtain ⟨f, -, kept⟩ := (inv.shape id o get nb).filled used
  have order : o.order_or_pages = (o.order_or_pages.toNat : Nat) := (Int.toNat_of_nonneg bucketed).symm
  rw [kept.cached_eq bucketed cached]
  refine short_of_bytes (kept.shape.bytes_eq ▸ ?_)
  rw [SgvObj.pages_of_order order, Int.toNat_natCast]
  exact bucket_bytes buckets (by have := whole.bucket bucketed; omega)

end Whole

section Store
variable {cfg : Config} {t u : SgvState}

theorem FreesWhole.congr (fw : FreesWhole cfg t) (objs : u.objs = t.objs)
    (leaked : u.pages_leaked = t.pages_leaked) (vectors : u.vectors = t.vectors) : FreesWhole cfg u :=
  ⟨leaked.trans fw.leaked, by rw [objs]; exact fw.objs, by rw [vectors]; exact fw.vectors⟩

theorem FreesWhole.storeEq (fw : FreesWhole cfg t) (same : StoreEq t u) : FreesWhole cfg u :=
  fw.congr same.objs same.pages_leaked same.vectors

theorem FreesWhole.check (fw : FreesWhole cfg t) (m : Nat) (pages : Int) :
    FreesWhole cfg (sgv_check_allowed_mem t m pages).1 := by
  unfold sgv_check_allowed_mem; dsimp only; split <;> exact fw.congr rfl rfl rfl

theorem FreesWhole.uncheck (fw : FreesWhole cfg t) (m : Nat) (pages : Int) :
    FreesWhole cfg (sgv_uncheck_allowed_mem t m pages) :=
  fw.congr rfl rfl rfl

theorem FreesWhole.hiwmk_uncheck (fw : FreesWhole cfg t) (pages : Int) :
    FreesWhole cfg (sgv_hiwmk_uncheck t pages) :=
  fw.congr rfl rfl rfl

theorem FreesWhole.logs (fw : FreesWhole cfg t) {taken freed leaked : List Nat} (nil : leaked = []) :
    FreesWhole cfg { t with
      pages_allocated := t.pages_allocated ++ taken
      pages_freed := t.pages_freed ++ freed
      pages_leaked := t.pages_leaked ++ leaked } :=
  ⟨by simp [fw.leaked, nil], fw.objs, fw.vectors⟩

theorem FreesWhole.setObj (fw : FreesWhole cfg t) (id : Nat) {x : Option SgvObj}
    (whole : ∀ o, x = some o → ObjWhole cfg o) : FreesWhole cfg (t.setObj id x) := by
  refine ⟨fw.leaked, fun j o get => ?_, fw.vectors⟩
  rw [SgvState.setObj_objs, Function.update_apply] at get
  split at get
  · exact whole o get
  · exact fw.objs j o get

theorem FreesWhole.newObj (fw : FreesWhole cfg t) {o : SgvObj} (whole : ObjWhole cfg o) :
    FreesWhole cfg (t.newObj o) :=
  (fw.setObj t.next_obj fun _ same => Option.some.inj same ▸ whole).congr rfl rfl rfl

theorem FreesWhole.handOut (fw : FreesWhole cfg t) (id m : Nat) {o : SgvObj} (whole : ObjWhole cfg o) :
    FreesWhole cfg (t.handOut id m o) :=
  (fw.setObj id fun _ same => Option.some.inj same ▸ whole).congr rfl rfl rfl

theorem FreesWhole.put_obj (fw : FreesWhole cfg t) {id : Nat} (whole : ObjWhole cfg (t.obj id)) :
    FreesWhole cfg (sgv_put_obj t id) :=
  (fw.setObj id fun _ same => by cases same; exact ⟨whole.1, whole.2⟩).congr rfl rfl rfl

theorem FreesWhole.dtor (fw : FreesWhole cfg t) (id : Nat)
    (short : Short (t.obj id).sg_entries (t.obj id).sg_count) :
    FreesWhole cfg (sgv_dtor_and_free cfg t id) := by
  rw [sgv_dtor_and_free_eq]
  refine ⟨?_, fun j o get => ?_, fw.vectors⟩
  · show t.pages_leaked ++ _ = []
    rw [fw.leaked, short.leaked, ite_self]; rfl
  · simp only [Function.update_apply] at get
    split at get
    · cases get
    · exact fw.objs j o get

theorem FreesWhole.purge (buckets : 2 ^ (cfg.SGV_POOL_ELEMENTS - 1) * cfg.PAGE_SIZE < 2 ^ 31)
    (fw : FreesWhole cfg t) {busy : Option Nat} (inv : Inv cfg t busy) {id : Nat} (cached : t.Cached id) :
    FreesWhole cfg (sgv_dtor_and_free cfg (__sgv_purge_from_cache t id) id) := by
  obtain ⟨live, -, -, -, -⟩ := inv.sorted_obj _ id cached
  obtain ⟨o, get⟩ := Option.isSome_iff_exists.1 live
  obtain ⟨pools, active, cur, eq, -⟩ := purge_from_cache_eq t id
  rw [eq]
  refine FreesWhole.dtor ?_ id ?_
  · exact fw.congr rfl rfl rfl
  show Short (t.obj id).sg_entries (t.obj id).sg_count
  rw [SgvState.obj_of_get get]
  exact inv.cached_short buckets (fw.objs id o get) cached get

theorem FreesWhole.reclaimed (buckets : 2 ^ (cfg.SGV_POOL_ELEMENTS - 1) * cfg.PAGE_SIZE < 2 ^ 31)
    {s : SgvState} (fw : FreesWhole cfg s) {busy : Option Nat} (inv : Inv cfg s busy)
    (rec : Reclaimed cfg s t) : FreesWhole cfg t := by
  induction rec with
  | refl => exact fw
  | purge run listed ih =>
    have inv' := inv.reclaimed run
    exact ih.purge buckets inv' (inv'.cached_of_listed listed)
  | keep _ same ih => exact ih.storeEq same

theorem FreesWhole.get_obj (fw : FreesWhole cfg t) {p order : Nat} (ok : Bool)
    (lt : order < cfg.SGV_POOL_ELEMENTS) : FreesWhole cfg (sgv_get_obj t p order ok).1 := by
  unfold sgv_get_obj
  split
  · exact fw.congr rfl rfl rfl
  · dsimp only
    have fw1 : FreesWhole cfg ((if (t.pools p).cached_entries = 0 then
        { t with sgv_active_pools_list := t.sgv_active_pools_list ++ [p] } else t).setPool p
        fun pool => { pool with
          cached_entries := pool.cached_entries + 1
          cached_pages := pool.cached_pages + 2 ^ order }) :=
      fw.storeEq (storeEq_count_new t p _)
    split
    · exact fw1.newObj ⟨fun _ => show (order : Int) < _ by exact_mod_cast lt,
        fun neg => absurd neg (by simp [freshObj])⟩
    · exact fw1.storeEq (storeEq_dec_cached_entries _ _ _)

end Store

section Paths
variable {cfg : Config} {t : SgvState} {c : AllocCtx} {id : Nat}

theorem FreesWhole.exit_uncheck (fw : FreesWhole cfg t) : FreesWhole cfg (outUncheck c t) := by
  unfold outUncheck; dsimp only; split <;> split <;> exact fw.congr rfl rfl rfl

theorem FreesWhole.exit_fail (fw : FreesWhole cfg t) : FreesWhole cfg (outFail c t).1 :=
  fw.exit_uncheck

theorem FreesWhole.exit_return2 (fw : FreesWhole cfg t) (sgv : Option Nat) :
    FreesWhole cfg (outReturn2 c t sgv).1 :=
  fw.exit_uncheck

theorem FreesWhole.exit_fail_free (fw : FreesWhole cfg t) : FreesWhole cfg (outFailFree c t id).1 := by
  refine FreesWhole.exit_uncheck (FreesWhole.setObj ?_ id fun _ none => nomatch none)
  split
  · exact fw.storeEq (storeEq_dec_cached_entries _ _ _)
  · exact fw

theorem FreesWhole.exit_return1 (fw : FreesWhole cfg t) {o : SgvObj} (whole : ObjWhole cfg o) :
    FreesWhole cfg (outReturn1 c t id o).1 :=
  (fw.handOut id c.args.mem_lim whole).exit_uncheck

theorem FreesWhole.exit_success (fw : FreesWhole cfg t) {o : SgvObj}
    (bucket : 0 ≤ o.order_or_pages → o.order_or_pages < cfg.SGV_POOL_ELEMENTS)
    (big : o.order_or_pages < 0 →
      Short (successObj cfg c (clustered t c.args.pool) o).2.sg_entries o.sg_count) :
    FreesWhole cfg (allocSuccess cfg c t id o).1 :=
  (fw.storeEq (StoreEq.setPool _ _ (successStats_recycling _ _) (successStats_sorted _ _)
    (successStats_clustering _ _))).handOut id c.args.mem_lim
    ⟨by rw [successObj_order]; exact bucket, by rw [successObj_order, successObj_sg_count]; exact big⟩

theorem successObj_short (cache : c.cache = false) (clust : Bool) {o : SgvObj} {N : Nat}
    (shape : FillShape cfg o.sg_entries o.sg_count N) (pos : 0 < c.args.size)
    (request : c.pages = lenPages cfg c.args.size) (exact : c.pages = N) (small : c.args.size < 2 ^ 31) :
    Short (successObj cfg c clust o).2.sg_entries o.sg_count := by
  have rt := (successObj_round_trip c clust o shape pos request (fun h => absurd h (by simp [cache]))
    (fun h => absurd h (by simp [cache])) (fun h => absurd h (by simp [cache])) fun _ => exact).2
  rw [successObj_count_of_big c clust o cache] at rt
  exact rt.short small

/-- The fill and what follows it: a failed fill gives back fewer pages than it
was asked for, and a big object that `success` cuts holds its request. -/
theorem FreesWhole.alloc_fill (fw : FreesWhole cfg t) (env : AllocEnv) {o : SgvObj}
    (bucket : 0 ≤ o.order_or_pages → o.order_or_pages < cfg.SGV_POOL_ELEMENTS)
    (len : o.sg_entries.length = c.pages_to_alloc)
    (below : (c.pages_to_alloc - 1) * cfg.PAGE_SIZE < 2 ^ 31)
    (big : o.order_or_pages < 0 → c.cache = false ∧ c.pages = c.pages_to_alloc ∧
      c.pages = lenPages cfg c.args.size ∧ 0 < c.args.size ∧ c.args.size < 2 ^ 31) :
    FreesWhole cfg (allocFill cfg c env t id o).1 := by
  set ct := (t.pools c.args.pool).clustering_type with hct
  have leak := @fill_leaked_nil cfg _ _ ct o.trans_tbl env.pages len.ge below
  have shape := @fill_shape cfg _ _ ct o.trans_tbl env.pages len
  unfold allocFill
  dsimp only
  rw [← hct]
  generalize sgv_alloc_sg_entries cfg o.sg_entries c.pages_to_alloc ct o.trans_tbl env.pages = r at *
  have fw1 : FreesWhole cfg { t with
      pages_allocated := t.pages_allocated ++ r.allocated
      pages_freed := t.pages_freed ++ r.freed
      pages_leaked := t.pages_leaked ++ r.leaked } :=
    fw.logs leak
  split
  · next zero =>
    have whole : ObjWhole cfg { o with sg_entries := r.sg, sg_count := r.sg_count, trans_tbl := r.trans_tbl } :=
      ⟨bucket, fun _ i lt => absurd lt (by simp [zero])⟩
    split
    · exact fw1.exit_return1 whole
    · exact (fw1.setObj id fun _ same => Option.some.inj same ▸ whole).exit_fail_free
  · next used =>
    refine (fw1.storeEq (StoreEq.setPool _ _ (fillStats_recycling _ _ _) (fillStats_sorted _ _ _)
      (fillStats_clustering _ _ _))).exit_success bucket fun neg => ?_
    obtain ⟨cache, exact, request, pos, small⟩ := big neg
    exact successObj_short cache _ (shape used) pos request exact small

theorem FreesWhole.alloc_supplied (buckets : 2 ^ (cfg.SGV_POOL_ELEMENTS - 1) * cfg.PAGE_SIZE < 2 ^ 31)
    (fw : FreesWhole cfg t) (w : Within cfg t none c.args.mem_lim 0) (env : AllocEnv) {m : Nat}
    (mem : (id, m) ∈ t.handed) (empty : (t.obj id).sg_count = 0)
    (order : (t.obj id).order_or_pages = c.order) :
    FreesWhole cfg (allocSupplied cfg c env t id).1 := by
  obtain ⟨o, get⟩ := Option.isSome_iff_exists.1 (w.inv.handed _ mem).1
  have len := (w.inv.shape id o get (by simp)).length
  have w1 := w.take_back mem empty c.args.mem_lim
  rw [SgvState.obj_of_get get] at order
  have lt : c.order < cfg.SGV_POOL_ELEMENTS := by
    have := (fw.objs id o get).bucket (by rw [order]; omega)
    rw [order] at this
    exact_mod_cast this
  have fw1 : FreesWhole cfg { t with handed := t.handed.filter fun e => e.1 ≠ id } :=
    fw.congr rfl rfl rfl
  unfold allocSupplied
  dsimp only
  split
  · exact (fw1.check _ _).exit_fail_free
  · have w2 := w1.check (2 ^ c.order : Nat)
    obtain ⟨-, objs3, -⟩ := w2.hiwmk_check (2 ^ c.order : Nat)
    have fw3 := (fw1.check _ _).reclaimed buckets w2.inv (sgv_hiwmk_check_reclaimed (2 ^ c.order : Nat))
    split
    · exact fw3.exit_fail_free
    · rw [SgvState.obj_of_get (objs3.trans (by simpa using get))]
      refine fw3.alloc_fill env (fun _ => by rw [order]; exact_mod_cast lt) ?_
        (bucket_pred_bytes buckets lt) fun neg => absurd neg (by rw [order]; omega)
      rw [len, SgvObj.pages_of_order order]
      rfl

/-- The bucket path once `sgv_get_obj` gave the call object `id`. -/
theorem FreesWhole.alloc_cached_obj (buckets : 2 ^ (cfg.SGV_POOL_ELEMENTS - 1) * cfg.PAGE_SIZE < 2 ^ 31)
    (fw : FreesWhole cfg t) (inv : Inv cfg t (some id)) (env : AllocEnv)
    (npages : c.pages_to_alloc = 2 ^ c.order) (lt : c.order < cfg.SGV_POOL_ELEMENTS) {o : SgvObj}
    (get : t.objs id = some o) (order : o.order_or_pages = c.order) :
    FreesWhole cfg (allocCachedObj cfg c env t id).1 := by
  have bucket : 0 ≤ o.order_or_pages → o.order_or_pages < cfg.SGV_POOL_ELEMENTS := fun _ => by
    rw [order]; exact_mod_cast lt
  have bucketed : ¬o.order_or_pages < 0 := by rw [order]; omega
  unfold allocCachedObj
  dsimp only
  rw [SgvState.obj_of_get get]
  by_cases used : o.sg_count ≠ 0
  · rw [if_pos used]
    exact (fw.storeEq (StoreEq.setPool _ _ rfl rfl rfl)).exit_success bucket fun neg => absurd neg bucketed
  rw [if_neg used]
  by_cases miss : c.args.flags.no_alloc_on_cache_miss = true ∧
      ¬c.args.flags.return_obj_on_alloc_fail = true
  · rw [if_pos miss]
    exact fw.exit_fail_free
  rw [if_neg miss]
  cases arrays : cachedArrays cfg c env (clustered t c.args.pool) o with
  | none => exact fw.exit_fail_free
  | some o1 =>
    dsimp only
    rw [cachedArrays_some arrays]
    by_cases give_back : c.args.flags.no_alloc_on_cache_miss = true ∧
        c.args.flags.return_obj_on_alloc_fail = true
    · rw [if_pos give_back]
      exact fw.exit_return1 ⟨bucket, fun neg => absurd neg bucketed⟩
    rw [if_neg give_back]
    have fw2 := fw.reclaimed buckets inv (sgv_hiwmk_check_reclaimed c.pages_to_alloc)
    by_cases over : (!(sgv_hiwmk_check cfg t c.pages_to_alloc).2) = true
    · rw [if_pos over]
      refine FreesWhole.exit_fail_free (fw2.setObj id fun _ same => ?_)
      cases same
      exact ⟨bucket, fun neg => absurd neg bucketed⟩
    · rw [if_neg over]
      exact fw2.alloc_fill env bucket (by simp [sg_init_table]) (npages ▸ bucket_pred_bytes buckets lt)
        fun neg => absurd neg bucketed

theorem FreesWhole.alloc_cached (buckets : 2 ^ (cfg.SGV_POOL_ELEMENTS - 1) * cfg.PAGE_SIZE < 2 ^ 31)
    (fw : FreesWhole cfg t) (w : Within cfg t none c.args.mem_lim 0) (env : AllocEnv)
    (lt : c.order < cfg.SGV_POOL_ELEMENTS) : FreesWhole cfg (allocCached cfg c env t).1 := by
  unfold allocCached
  dsimp only
  split
  · exact (fw.check _ _).exit_fail
  · have w1 := w.check (2 ^ c.order : Nat)
    have fw1 := (fw.check c.args.mem_lim (2 ^ c.order : Nat)).get_obj (p := c.args.pool) env.cache_ok lt
    split
    · next s1 got =>
      rw [got] at fw1
      exact fw1.exit_fail
    · next s1 id got =>
      rw [got] at fw1
      obtain ⟨w2, -, o, get, -, order, -, -⟩ := w1.get_obj got
      exact fw1.alloc_cached_obj buckets w2.inv env rfl lt get order

/-- The big and no-cached path: a fresh object of the request's pages. -/
theorem FreesWhole.alloc_big (buckets : 2 ^ (cfg.SGV_POOL_ELEMENTS - 1) * cfg.PAGE_SIZE < 2 ^ 31)
    (fw : FreesWhole cfg t) (w : Within cfg t none c.args.mem_lim 0) (env : AllocEnv)
    (pos : 0 < c.args.size) (request : c.pages = lenPages cfg c.args.size)
    (small : c.cache = false) (below : c.args.size < 2 ^ 31) :
    FreesWhole cfg (allocBig cfg c env t).1 := by
  have some_page : 0 < c.pages := request ▸ lenPages_pos cfg pos
  unfold allocBig
  dsimp only
  by_cases fail : (!(sgv_check_allowed_mem t c.args.mem_lim c.pages).2) = true
  · rw [if_pos fail]
    exact (fw.check _ _).exit_fail
  rw [if_neg fail]
  by_cases ret : c.args.flags.no_alloc_on_cache_miss = true
  · rw [if_pos ret]
    exact (fw.check _ _).exit_return2 _
  rw [if_neg ret]
  by_cases no_big : (!env.big_ok) = true
  · rw [if_pos no_big]
    exact (fw.check _ _).exit_fail
  rw [if_neg no_big]
  have big : ¬(0 ≤ -(c.pages : Int)) := by omega
  have fresh : ObjWhole cfg { freshObj c.args.pool (-(c.pages : Int)) with
      allocator_priv := c.args.priv, sg_entries := sg_init_table c.pages } :=
    ⟨fun nonneg => absurd nonneg big, fun _ _ lt => absurd lt (Nat.not_lt_zero _)⟩
  have w1 := (w.check (c.pages : Int)).create (o := { freshObj c.args.pool (-(c.pages : Int)) with
      allocator_priv := c.args.priv, sg_entries := sg_init_table c.pages }) rfl
  have fw2 := ((fw.check _ _).newObj fresh).reclaimed buckets w1.inv (sgv_hiwmk_check_reclaimed c.pages)
  generalize sgv_hiwmk_check cfg _ c.pages = h at fw2 ⊢
  by_cases over : (!h.2) = true
  · rw [if_pos over]
    exact fw2.exit_fail_free
  · rw [if_neg over]
    refine fw2.alloc_fill env fresh.bucket (List.length_replicate _ _) ?_
      fun _ => ⟨small, rfl, request, pos, below⟩
    rw [request]
    exact (lenPages_pred_mul_le cfg _).trans_lt below

theorem FreesWhole.pool_alloc (buckets : 2 ^ (cfg.SGV_POOL_ELEMENTS - 1) * cfg.PAGE_SIZE < 2 ^ 31)
    (fw : FreesWhole cfg t) (wf : Wf cfg t) (a : AllocArgs) (env : AllocEnv)
    (ok : (Call.alloc a env).allowed cfg t = true) (below : a.size < 2 ^ 31) :
    FreesWhole cfg (sgv_pool_alloc cfg t a env).1 := by
  have w := Within.retarget wf a.mem_lim
  unfold sgv_pool_alloc
  split
  · exact fw
  · next size =>
    dsimp only
    split
    · next id sgv =>
      simp only [Call.allowed, sgv, Bool.and_eq_true, List.any_eq_true, beq_iff_eq,
        decide_eq_true_eq] at ok
      obtain ⟨-, ⟨⟨⟨e, mem, fst⟩, empty⟩, order⟩, -⟩ := ok
      exact fw.alloc_supplied buckets w env (m := e.2) (by rw [← fst]; exact mem) empty order
    · split
      · next cached => exact fw.alloc_cached buckets w env cached.1
      · exact fw.alloc_big buckets w env (Nat.pos_of_ne_zero size) (round_up_eq_lenPages cfg a.size)
          rfl below

end Paths

section Calls
variable {cfg : Config} {t : SgvState}

theorem FreesWhole.pool_free (fw : FreesWhole cfg t) (inv : Inv cfg t none) {id m : Nat}
    (mem : (id, m) ∈ t.handed) : FreesWhole cfg (sgv_pool_free cfg t id m) := by
  obtain ⟨o, get⟩ := Option.isSome_iff_exists.1 (inv.handed _ mem).1
  have whole := fw.objs id o get
  have fw1 : FreesWhole cfg { t with handed := t.handed.erase (id, m) } := fw.congr rfl rfl rfl
  unfold sgv_pool_free
  dsimp only
  rw [SgvState.obj_of_get get]
  split
  · next bucketed =>
    have restored : ObjWhole cfg o.restoreOrig := ⟨whole.bucket, fun neg => absurd neg (not_lt.2 bucketed)⟩
    refine FreesWhole.uncheck (FreesWhole.put_obj (fw1.setObj id fun _ same => ?_) ?_) _ _
    · exact Option.some.inj same ▸ restored
    · simpa [SgvState.obj] using restored
  · next big =>
    refine FreesWhole.uncheck (FreesWhole.hiwmk_uncheck (FreesWhole.setObj ?_ id
      fun _ same => by cases same) _) _ _
    exact ⟨by simp [fw.leaked, (whole.big (not_le.1 big)).leaked], fw.objs, fw.vectors⟩

theorem FreesWhole.add_vector (fw : FreesWhole cfg t) {sg : List SgEntry} {n : Nat} (short : Short sg n) :
    FreesWhole cfg { t with vectors := t.vectors ++ [(sg, n)] } := by
  refine ⟨fw.leaked, fw.objs, fun v mem => ?_⟩
  rcases List.mem_append.1 mem with old | new
  · exact fw.vectors v old
  · rw [List.mem_singleton.1 new]; exact short

/-- `scst_alloc`: a vector of single pages; a failed fill gives back fewer
pages than the `int` size spans. -/
theorem FreesWhole.alloc_vector (buckets : 2 ^ (cfg.SGV_POOL_ELEMENTS - 1) * cfg.PAGE_SIZE < 2 ^ 31)
    (fw : FreesWhole cfg t) (inv : Inv cfg t none) (size : Nat) (no_fail : Bool) (count : Nat)
    (env : ScstAllocEnv) (small : size < 2 ^ 31) :
    FreesWhole cfg (scst_alloc cfg t size no_fail count env).1 := by
  have fw1 := (FreesWhole.congr (u := { t with sgv_other_total_alloc := t.sgv_other_total_alloc + 1 })
    fw rfl rfl rfl).reclaimed buckets (inv.congr rfl rfl rfl fun _ => ⟨rfl, rfl, rfl⟩)
    (sgv_hiwmk_check_reclaimed (lenPages cfg size))
  have room : lenPages cfg size ≤ (sg_init_table (lenPages cfg size)).length := by simp [sg_init_table]
  have leak := @fill_leaked_nil cfg _ _ .sgv_no_clustering none env.pages room
    ((lenPages_pred_mul_le cfg size).trans_lt small)
  have shape := @fill_shape cfg (sg_init_table (lenPages cfg size)) _ .sgv_no_clustering none env.pages
    (List.length_replicate _ _)
  have single := @fill_count_no_clustering cfg _ _ none env.pages room
  have uncheck : ∀ {u : SgvState} (pages : Int) (undo : Bool), FreesWhole cfg u →
      FreesWhole cfg (if undo then sgv_hiwmk_uncheck u pages else u) := fun _ _ fu => by
    split
    · exact fu.hiwmk_uncheck _
    · exact fu
  unfold scst_alloc
  dsimp only
  generalize sgv_hiwmk_check cfg _ (lenPages cfg size) = h at fw1
  generalize sgv_alloc_sg_entries cfg _ _ _ _ _ = r at leak shape single
  obtain ⟨h1, ok⟩ := h
  dsimp only at fw1 ⊢
  by_cases refused : (!ok) = true ∧ (!no_fail) = true
  · rw [if_pos refused]
    exact fw1
  rw [if_neg refused]
  by_cases no_table : (!env.kmalloc_ok) = true
  · rw [if_pos no_table]
    exact uncheck _ _ (uncheck _ _ fw1)
  rw [if_neg no_table]
  by_cases zero : r.sg_count = 0
  · rw [if_pos zero]
    exact uncheck _ _ (FreesWhole.logs (uncheck _ _ fw1) leak)
  · rw [if_neg zero]
    have one : ∀ i < r.sg_count, (r.sg.getD i sg_clear).length = cfg.PAGE_SIZE :=
      single_pages (shape zero).filled (by rw [(shape zero).bytes_eq, single zero])
    refine FreesWhole.add_vector (FreesWhole.logs (uncheck _ _ fw1) leak) fun i lt => ?_
    rw [one i lt]
    exact (Nat.le_mul_of_pos_left _ (Nat.two_pow_pos _)).trans_lt buckets

theorem FreesWhole.free_vector (fw : FreesWhole cfg t) {k : Nat} (lt : k < t.vectors.length) :
    FreesWhole cfg (scst_free cfg t k) := by
  have mem : t.vectors.getD k ([], 0) ∈ t.vectors := by
    simp only [List.getD_eq_getElem?_getD, List.getElem?_eq_getElem lt, Option.getD_some]
    exact List.getElem_mem lt
  refine ⟨?_, fw.objs, fun v held => fw.vectors v (List.mem_of_mem_eraseIdx held)⟩
  show t.pages_leaked ++ sgLeaked cfg _ _ = []
  rw [fw.leaked, (fw.vectors _ mem).leaked]
  rfl

end Calls

section Runs
variable (cfg : Config)

/-- The call's `sgv_pool_alloc` request is below `bound` bytes. `scst_alloc`
takes an `int` size, which `Call.allowed` already keeps below `2 ^ 31`. -/
def Call.below (bound : Nat) : Call → Bool
  | .alloc a _ => decide (a.size < bound)
  | _ => true

/-- The states reached from `scst_sgv_pools_init` by calls the callers may
make whose requests are below `bound` bytes. -/
inductive ReachableBelow (bound : Nat) : SgvState → Prop
  | init (ct : Nat → sgv_clustering_types) (limits : Nat → Int) :
      ReachableBelow bound (SgvState.initial ct limits)
  | step {s : SgvState} {c : Call} : ReachableBelow bound s → c.allowed cfg s = true →
      c.below bound = true → ReachableBelow bound (c.run cfg s)

theorem reachableBelow_runCalls {bound : Nat} :
    ∀ {s : SgvState} (cs : List Call), ReachableBelow cfg bound s → allAllowed cfg s cs = true →
      (cs.all fun c => c.below bound) = true → ReachableBelow cfg bound (runCalls cfg s cs)
  | _, [], reach, _, _ => reach
  | _, c :: cs, reach, ok, below => by
    simp only [allAllowed, List.all_cons, Bool.and_eq_true] at ok below
    exact reachableBelow_runCalls cs (.step reach ok.1 below.1) ok.2 below.2

variable {cfg}

theorem ReachableBelow.reachable {bound : Nat} {s : SgvState} (reach : ReachableBelow cfg bound s) :
    Reachable cfg s := by
  induction reach with
  | init ct limits => exact .init ct limits
  | step _ ok _ ih => exact .step ih ok

theorem freesWhole_initial (ct : Nat → sgv_clustering_types) (limits : Nat → Int) :
    FreesWhole cfg (SgvState.initial ct limits) :=
  ⟨rfl, fun _ _ get => (nomatch get), fun _ mem => nomatch mem⟩

theorem FreesWhole.run (buckets : 2 ^ (cfg.SGV_POOL_ELEMENTS - 1) * cfg.PAGE_SIZE < 2 ^ 31)
    {s : SgvState} {c : Call} (fw : FreesWhole cfg s) (wf : Wf cfg s) (ok : c.allowed cfg s = true)
    (below : c.below (2 ^ 31) = true) : FreesWhole cfg (c.run cfg s) := by
  cases c with
  | alloc a env => exact fw.pool_alloc buckets wf a env ok (by simpa [Call.below] using below)
  | free id m => exact fw.pool_free wf.inv (by simpa [Call.allowed] using ok)
  | scstAlloc size no_fail count env =>
    simp only [Call.allowed, Bool.and_eq_true, decide_eq_true_eq] at ok
    exact fw.alloc_vector buckets wf.inv size no_fail count env ok.1
  | scstFree k => exact fw.free_vector (by simpa [Call.allowed] using ok)
  | shrink nr => exact fw.reclaimed buckets wf.inv (sgv_shrink_call_reclaimed nr)
  | purge p => exact fw.reclaimed buckets wf.inv (sgv_purge_work_fn_reclaimed p)
  | flush p => exact fw.reclaimed buckets wf.inv (sgv_pool_flush_reclaimed p)
  | tick dt => exact fw.congr rfl rfl rfl

theorem freesWhole_of_reachableBelow (buckets : 2 ^ (cfg.SGV_POOL_ELEMENTS - 1) * cfg.PAGE_SIZE < 2 ^ 31)
    {s : SgvState} (reach : ReachableBelow cfg (2 ^ 31) s) : FreesWhole cfg s := by
  induction reach with
  | init ct limits => exact freesWhole_initial ct limits
  | step run ok below ih => exact ih.run buckets (wf_of_reachable run.reachable) ok below

/-- Every frame `alloc_pages` gave is given to `__free_pages` or held by a
live object or a vector the callers hold, as often as it was allocated, in
every run whose requests are below `2 ^ 31` bytes on a platform whose largest
bucket spans less; so when the page source never repeats a frame, no frame is freed
twice. Trans_tbl writes past the table are not modelled
(`transFrom_drops_overrun`). -/
theorem frames_freed_once (buckets : 2 ^ (cfg.SGV_POOL_ELEMENTS - 1) * cfg.PAGE_SIZE < 2 ^ 31)
    {s : SgvState} (reach : ReachableBelow cfg (2 ^ 31) s) :
    (s.pages_freed ++ heldPfns cfg s).Perm s.pages_allocated ∧
      (s.pages_allocated.Nodup → s.pages_freed.Nodup) := by
  have conserved := (wf_of_reachable reach.reachable).conserved
  rw [(freesWhole_of_reachableBelow buckets reach).leaked, List.append_nil] at conserved
  exact ⟨conserved, fun nodup => (conserved.nodup_iff.2 nodup).of_append_left⟩

theorem cachedTwoPages_below : ReachableBelow x86Config (2 ^ 31) cachedTwoPages :=
  reachableBelow_runCalls x86Config _ (.init _ _) (by decide) (by decide)

theorem cachedTwoPages_frames :
    2 ^ (x86Config.SGV_POOL_ELEMENTS - 1) * x86Config.PAGE_SIZE < 2 ^ 31 ∧
      ReachableBelow x86Config (2 ^ 31) cachedTwoPages ∧
      (cachedTwoPages.pages_freed ++ heldPfns x86Config cachedTwoPages).Perm
        cachedTwoPages.pages_allocated ∧
      (cachedTwoPages.pages_allocated.Nodup → cachedTwoPages.pages_freed.Nodup) :=
  ⟨by decide, cachedTwoPages_below, frames_freed_once (by decide) cachedTwoPages_below⟩

end Runs

end ScstMem
