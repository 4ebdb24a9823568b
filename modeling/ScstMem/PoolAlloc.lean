import ScstMem.AllocPaths

/-! The three paths of `sgv_pool_alloc`, and the call. From a state between
calls each path keeps both ledgers and ends with nothing pending, and a
successful call hands out an object whose count and entries cover the
request. From `sgv_get_obj` (or the `*sgv` argument, or the `kmalloc` of a big
object) to its exit a path holds one object in a local; the reclaim run inside
`sgv_hiwmk_check` leaves that object alone. -/
namespace ScstMem
open sgv_clustering_types

section Frames
variable {cfg : Config} {s t : SgvState} {busy : Option Nat} {m0 id : Nat} {d : Int}

theorem SgvState.obj_of_get {o : SgvObj} (get : t.objs id = some o) : t.obj id = o := by
  simp [SgvState.obj, get]

@[simp] theorem check_allowed_mem_objs (m : Nat) (pages : Int) :
    (sgv_check_allowed_mem t m pages).1.objs = t.objs := by
  unfold sgv_check_allowed_mem; dsimp only; split <;> rfl

@[simp] theorem check_allowed_mem_pools (m : Nat) (pages : Int) :
    (sgv_check_allowed_mem t m pages).1.pools = t.pools := by
  unfold sgv_check_allowed_mem; dsimp only; split <;> rfl

theorem Reclaimed.busy_frame (inv : Inv cfg s (some id)) (rec : Reclaimed cfg s t) :
    t.objs id = s.objs id ∧ ∀ p, (t.pools p).clustering_type = (s.pools p).clustering_type := by
  induction rec with
  | refl => exact ⟨rfl, fun _ => rfl⟩
  | @purge u p x run listed ih =>
    have inv' := inv.reclaimed run
    have ne : x ≠ id := fun same =>
      (inv'.sorted_obj _ x (inv'.cached_of_listed listed)).not_busy (by rw [same])
    obtain ⟨pools, active, cur, eq, frame⟩ := purge_from_cache_eq u x
    rw [eq, sgv_dtor_and_free_eq]
    exact ⟨by simpa [Function.update_noteq (Ne.symm ne)] using ih.1,
      fun q => (frame q).1.trans (ih.2 q)⟩
  | keep _ same ih => exact ⟨same.objs ▸ ih.1, fun q => (same.clustering q).trans (ih.2 q)⟩

theorem Within.hiwmk_check (w : Within cfg t (some id) m0 d) (pages : Int) :
    Within cfg (sgv_hiwmk_check cfg t pages).1 (some id) m0 d ∧
      (sgv_hiwmk_check cfg t pages).1.objs id = t.objs id ∧
      ∀ p, ((sgv_hiwmk_check cfg t pages).1.pools p).clustering_type = (t.pools p).clustering_type :=
  ⟨w.reclaimed (sgv_hiwmk_check_reclaimed pages), (sgv_hiwmk_check_reclaimed pages).busy_frame w.inv⟩

theorem Within.retarget (w : Within cfg t busy m0 0) (m1 : Nat) : Within cfg t busy m1 0 :=
  ⟨w.inv, fun m => by rw [w.charged]; simp, w.conserved⟩

theorem handed_filter_eq_erase {L : List (Nat × Nat)} {m : Nat} (nodup : (L.map Prod.fst).Nodup)
    (mem : (id, m) ∈ L) : L.filter (fun e => e.1 ≠ id) = L.erase (id, m) := by
  induction L with
  | nil => cases mem
  | cons e L ih =>
    rw [List.map_cons, List.nodup_cons] at nodup
    by_cases same : e = (id, m)
    · subst same
      rw [List.erase_cons_head, List.filter_cons_of_neg (by simp), List.filter_eq_self]
      exact fun e' mem' => by
        simpa using fun eq : e'.1 = id => nodup.1 (List.mem_map.2 ⟨e', mem', eq⟩)
    · have mem' : (id, m) ∈ L := (List.mem_cons.1 mem).resolve_left (Ne.symm same)
      have ne : e.1 ≠ id := fun eq => nodup.1 (eq ▸ List.mem_map_of_mem Prod.fst mem')
      rw [List.erase_cons_tail (by simpa using same), List.filter_cons_of_pos (by simpa using ne),
        ih nodup.2 mem']

theorem Within.take_back (w : Within cfg t none m0 0) {m : Nat} (mem : (id, m) ∈ t.handed)
    (empty : (t.obj id).sg_count = 0) (m1 : Nat) :
    Within cfg { t with handed := t.handed.filter fun e => e.1 ≠ id } (some id) m1 0 := by
  have w1 := (w.retarget m).release mem
  simp only [SgvObj.heldPages, empty, ne_eq, not_true_eq_false, if_false] at w1
  rw [handed_filter_eq_erase w.inv.handed_nodup mem]
  exact w1.retarget m1

end Frames

section Get
variable {cfg : Config} {t s1 : SgvState} {m0 id : Nat} {d : Int}

theorem storeEq_count_new (t : SgvState) (p : Nat) (pages : Int) :
    StoreEq t ((if (t.pools p).cached_entries = 0 then
        { t with sgv_active_pools_list := t.sgv_active_pools_list ++ [p] } else t).setPool p
      fun pool => { pool with
        cached_entries := pool.cached_entries + 1
        cached_pages := pool.cached_pages + pages }) := by
  refine StoreEq.trans ?_ (StoreEq.setPool _ _ rfl rfl rfl)
  split <;> constructor <;> intros <;> rfl

theorem sgv_get_obj_none {p order : Nat} {ok : Bool} (got : sgv_get_obj t p order ok = (s1, none)) :
    StoreEq t s1 := by
  rcases hl : (t.pools p).recycling_lists order with _ | ⟨x, rest⟩
  · simp only [sgv_get_obj, hl] at got
    split at got
    · simp at got
    · obtain ⟨rfl, -⟩ := Prod.mk.inj got
      exact (storeEq_count_new t p _).trans (storeEq_dec_cached_entries _ _ _)
  · simp [sgv_get_obj, hl] at got

/-- `sgv_get_obj` gives the call a cached object of the pool and order, or a
new object with no pages. -/
theorem Within.get_obj {p order : Nat} {ok : Bool} (w : Within cfg t none m0 d)
    (got : sgv_get_obj t p order ok = (s1, some id)) :
    Within cfg s1 (some id) m0 d ∧ (∀ q, (s1.pools q).clustering_type = (t.pools q).clustering_type) ∧
      ∃ o, s1.objs id = some o ∧ o.owner_pool = p ∧ o.order_or_pages = order ∧
        (o.sg_count = 0 → o.filled = none) ∧
        (o.sg_count ≠ 0 → ObjShape cfg (t.pools p).clustering_type True o) := by
  rcases hl : (t.pools p).recycling_lists order with _ | ⟨x, rest⟩
  · simp only [sgv_get_obj, hl] at got
    split at got
    · simp only [Prod.mk.injEq, Option.some.injEq] at got
      obtain ⟨rfl, rfl⟩ := got
      have same := storeEq_count_new t p (2 ^ order)
      refine ⟨(w.storeEq same).create rfl, fun q => by simpa using same.clustering q,
        freshObj p order, by simp, rfl, rfl, fun _ => rfl, fun used => absurd rfl used⟩
    · simp at got
  · have x_id : x = id := by simpa [sgv_get_obj, hl] using congrArg Prod.snd got
    subst x_id
    have s1_eq : (sgv_get_obj t p order ok).1 = s1 := congrArg Prod.fst got
    obtain ⟨mem, ord⟩ := w.inv.mem_sorted_of_listed (hl ▸ List.mem_cons_self x rest)
    obtain ⟨live, owner, -, -, -⟩ := w.inv.sorted_obj p x mem
    obtain ⟨o, get⟩ := Option.isSome_iff_exists.1 live
    have own := SgvState.obj_of_get get
    have cached : t.Cached x := w.inv.cached_of_mem mem
    have shape := w.inv.shape x o get (by simp)
    rw [own] at owner ord
    rw [owner, eq_true cached] at shape
    subst s1_eq
    refine ⟨w.take ok hl, fun q => ?_, o, by simpa [sgv_get_obj, hl] using get, owner, ord,
      fun empty => shape.unfilled empty, fun _ => shape⟩
    simp only [sgv_get_obj, hl, SgvState.setPool_pools, Function.update_apply]
    split <;> simp_all

end Get

section Paths
variable {cfg : Config} {t : SgvState} {c : AllocCtx} {id : Nat}

theorem SgvObj.pages_of_order {o : SgvObj} {k : Nat} (order : o.order_or_pages = k) :
    o.pages = (2 ^ k : Nat) := by
  unfold SgvObj.pages
  rw [order, if_pos (Int.natCast_nonneg k)]
  simp

theorem cachedArrays_some {env : AllocEnv} {clust : Bool} {o o1 : SgvObj}
    (arrays : cachedArrays cfg c env clust o = some o1) :
    o1 = { o with
      sg_entries := sg_init_table c.pages_to_alloc
      trans_tbl := if clust then some (List.replicate c.pages_to_alloc ⟨0, 0⟩) else o.trans_tbl } := by
  unfold cachedArrays at arrays
  dsimp only at arrays
  split at arrays
  · exact (Option.some.inj arrays).symm
  · split at arrays
    · cases arrays
    · split at arrays
      · cases arrays
      · exact (Option.some.inj arrays).symm

theorem arrays_shape {ct : sgv_clustering_types} {clust : Bool} {o : SgvObj}
    (empty : o.sg_count = 0) (unfilled : o.filled = none)
    (pages : o.pages.toNat = c.pages_to_alloc) (clustered : clust = true ↔ ct ≠ .sgv_no_clustering) :
    ObjShape cfg ct False { o with
      sg_entries := sg_init_table c.pages_to_alloc
      trans_tbl := if clust then some (List.replicate c.pages_to_alloc ⟨0, 0⟩) else o.trans_tbl } :=
  ⟨(List.length_replicate _ _).trans pages.symm,
    fun _ cl => ⟨List.replicate c.pages_to_alloc ⟨0, 0⟩, by simp [clustered.2 cl],
      (List.length_replicate _ _).trans pages.symm⟩,
    fun _ => unfilled, fun used => absurd empty used⟩

theorem Within.check_fail {busy : Option Nat} (w : Within cfg t busy c.args.mem_lim 0)
    (unchecked : c.allowed_mem_checked = false)
    (fail : (sgv_check_allowed_mem t c.args.mem_lim c.pages_to_alloc).2 = false) :
    Within cfg (sgv_check_allowed_mem t c.args.mem_lim c.pages_to_alloc).1 busy c.args.mem_lim c.held :=
  (w.check _).charge_eq (by simp [fail, AllocCtx.held, unchecked])

theorem Within.check_ok {busy : Option Nat} (w : Within cfg t busy c.args.mem_lim 0)
    (ok : (sgv_check_allowed_mem t c.args.mem_lim c.pages_to_alloc).2 = true) :
    Within cfg (sgv_check_allowed_mem t c.args.mem_lim c.pages_to_alloc).1 busy
      { c with allowed_mem_checked := true }.args.mem_lim { c with allowed_mem_checked := true }.held :=
  (w.check _).charge_eq (by simp [ok, AllocCtx.held])

/-- The `*sgv` path: the caller hands back an object it holds with no pages,
of the request's order and pool. -/
theorem Within.alloc_supplied (w : Within cfg t none c.args.mem_lim 0) (env : AllocEnv) {m : Nat}
    (mem : (id, m) ∈ t.handed) (empty : (t.obj id).sg_count = 0)
    (order : (t.obj id).order_or_pages = c.order) (owner : (t.obj id).owner_pool = c.args.pool)
    (pos : 0 < c.args.size) (request : c.pages = lenPages cfg c.args.size)
    (fits : c.pages ≤ 2 ^ c.order) (unchecked : c.allowed_mem_checked = false) :
    Within cfg (allocSupplied cfg c env t id).1 none c.args.mem_lim 0 ∧
      AllocOk cfg c.args.size (allocSupplied cfg c env t id).1 (allocSupplied cfg c env t id).2 := by
  obtain ⟨o, get⟩ := Option.isSome_iff_exists.1 (w.inv.handed _ mem).1
  have shape := w.inv.shape id o get (by simp)
  have w1 := w.take_back mem empty c.args.mem_lim
  rw [SgvState.obj_of_get get] at empty order owner
  rw [owner] at shape
  have pages := SgvObj.pages_of_order order
  have live : (t.objs id).isSome := by simp [get]
  have none_held : objPfns cfg (t.objs id) = [] := by rw [get, objPfns_empty empty]
  unfold allocSupplied
  dsimp only
  split
  · next fail =>
    exact (w1.check_fail (c := { c with pages_to_alloc := 2 ^ c.order, cache := true }) unchecked
      (by simpa using fail)).exit_fail_free (by simp [get]) (by simpa using none_held)
  · next ok =>
    obtain ⟨w2, objs2, ct2⟩ := (w1.check_ok (c := { c with pages_to_alloc := 2 ^ c.order, cache := true })
      (by simpa using ok)).hiwmk_check (2 ^ c.order : Nat)
    dsimp only at objs2 ct2
    split
    · exact w2.exit_fail_free (by rw [objs2]; simp [get]) (by rw [objs2]; simp [none_held])
    · rw [SgvState.obj_of_get (objs2.trans (by simpa using get))]
      refine Within.alloc_fill env w2 rfl (by rw [objs2]; simp [get]) (by rw [objs2]; simp [none_held])
        owner (shape.unfilled empty) (by rw [shape.length, pages]; rfl) pages
        (by rw [order]; exact (decide_eq_true (Int.natCast_nonneg _)).symm)
        (fun b cl => ?_) pos request (fun _ => fits) (fun h => absurd h (by simp))
      rw [ct2] at cl
      obtain ⟨tt, some_tt, len⟩ := shape.table b (by simpa using cl)
      exact ⟨tt, some_tt, by rw [len, pages]; rfl⟩

/-- The bucket path once `sgv_get_obj` gave the call object `id`: a cached
object of the request's order, or one with no pages. -/
theorem Within.alloc_cached_obj (w : Within cfg t (some id) c.args.mem_lim c.held) (env : AllocEnv)
    (checked : c.allowed_mem_checked = true) (cache : c.cache = true)
    (npages : c.pages_to_alloc = 2 ^ c.order) {o : SgvObj} (get : t.objs id = some o)
    (owner : o.owner_pool = c.args.pool) (order : o.order_or_pages = c.order)
    (unfilled : o.sg_count = 0 → o.filled = none)
    (hit : o.sg_count ≠ 0 → ObjShape cfg (t.pools c.args.pool).clustering_type True o)
    (pos : 0 < c.args.size) (request : c.pages = lenPages cfg c.args.size)
    (fits : c.pages ≤ 2 ^ c.order) :
    Within cfg (allocCachedObj cfg c env t id).1 none c.args.mem_lim 0 ∧
      AllocOk cfg c.args.size (allocCachedObj cfg c env t id).1 (allocCachedObj cfg c env t id).2 := by
  have live : (t.objs id).isSome := by simp [get]
  have held : c.held = (2 ^ c.order : Nat) := by simp [AllocCtx.held, checked, npages]
  have pages := SgvObj.pages_of_order order
  have N : o.pages.toNat = c.pages_to_alloc := by rw [pages, npages]; rfl
  have bucketed : 0 ≤ o.order_or_pages := by rw [order]; exact Int.natCast_nonneg _
  have ct_iff : clustered t c.args.pool = true ↔
      (t.pools c.args.pool).clustering_type ≠ .sgv_no_clustering := clustered_iff t _
  unfold allocCachedObj
  dsimp only
  rw [SgvState.obj_of_get get]
  by_cases used : o.sg_count ≠ 0
  · rw [if_pos used]
    have shape := hit used
    obtain ⟨f, filled, kept⟩ := shape.filled used
    have entries := kept.cached_eq bucketed trivial
    subst entries
    have stats := StoreEq.setPool (t := t) c.args.pool
      (fun pool => pool.bumpAcc c.order fun a => { a with hit_alloc := a.hit_alloc + 1 }) rfl rfl rfl
    have clust_eq : ∀ q, clustered (t.setPool c.args.pool
        fun pool => pool.bumpAcc c.order fun a => { a with hit_alloc := a.hit_alloc + 1 }) q =
        clustered t q := fun q => by simp only [clustered, stats.clustering]
    refine (w.storeEq stats).exit_success (by simpa using get)
      (by simp [SgvObj.heldPages, used, pages, held]) ?_ ?_
    · rw [stats.clustering, owner]
      exact successObj_shape c _ rfl filled used kept.shape kept.trans shape.table kept.single
        (by simp [cache, bucketed])
    · rw [clust_eq]
      refine successObj_round_trip c _ o kept.shape pos request (fun _ => N ▸ npages ▸ fits)
        (fun _ cl => kept.trans bucketed (ct_iff.1 cl)) (fun _ cl => kept.single bucketed ?_)
        (fun h => absurd h (by simp [cache]))
      by_contra ne
      simp [ct_iff.2 ne] at cl
  rw [if_neg used]
  have empty : o.sg_count = 0 := not_not.1 used
  have none_held : objPfns cfg (t.objs id) = [] := by rw [get, objPfns_empty empty]
  by_cases miss : c.args.flags.no_alloc_on_cache_miss = true ∧
      ¬c.args.flags.return_obj_on_alloc_fail = true
  · rw [if_pos miss]
    exact w.exit_fail_free live none_held
  rw [if_neg miss]
  cases arrays : cachedArrays cfg c env (clustered t c.args.pool) o with
  | none => exact w.exit_fail_free live none_held
  | some o1 =>
    dsimp only
    rw [cachedArrays_some arrays]
    have shape1 : ObjShape cfg (t.pools c.args.pool).clustering_type False _ :=
      arrays_shape (c := c) empty (unfilled empty) N ct_iff
    by_cases give_back : c.args.flags.no_alloc_on_cache_miss = true ∧
        c.args.flags.return_obj_on_alloc_fail = true
    · rw [if_pos give_back]
      exact w.exit_return1 live ⟨shape1.1, shape1.2, shape1.3, fun used => absurd empty used⟩ empty
        none_held
    rw [if_neg give_back]
    obtain ⟨w2, objs2, ct2⟩ := w.hiwmk_check c.pages_to_alloc
    by_cases over : (!(sgv_hiwmk_check cfg t c.pages_to_alloc).2) = true
    · rw [if_pos over]
      exact (w2.set_busy (by rw [objs2]; exact live)
        (by rw [objs2, none_held]; exact objPfns_empty (by exact empty))).exit_fail_free
        (by simp) (by simp [objPfns, empty])
    rw [if_neg over]
    refine Within.alloc_fill env w2 checked (by rw [objs2]; exact live)
      (by rw [objs2]; exact none_held) owner (unfilled empty) (by simp [sg_init_table])
      (by rw [npages]; exact pages) (by simp [cache, bucketed]) (fun b cl => ?_) pos request
      (fun _ => npages ▸ fits) (fun h => absurd h (by simp [cache]))
    rw [ct2] at cl
    obtain ⟨tt, some_tt, len⟩ := shape1.table b cl
    exact ⟨tt, some_tt, len.trans N⟩

theorem Within.alloc_cached (w : Within cfg t none c.args.mem_lim 0) (env : AllocEnv)
    (pos : 0 < c.args.size) (request : c.pages = lenPages cfg c.args.size)
    (fits : c.pages ≤ 2 ^ c.order) (unchecked : c.allowed_mem_checked = false) :
    Within cfg (allocCached cfg c env t).1 none c.args.mem_lim 0 ∧
      AllocOk cfg c.args.size (allocCached cfg c env t).1 (allocCached cfg c env t).2 := by
  unfold allocCached
  dsimp only
  split
  · next fail =>
    exact (w.check_fail (c := { c with pages_to_alloc := 2 ^ c.order, cache := true }) unchecked
      (by simpa using fail)).exit_fail
  · next ok =>
    have w1 := w.check_ok (c := { c with pages_to_alloc := 2 ^ c.order, cache := true })
      (by simpa using ok)
    split
    · next s1 got => exact (w1.storeEq (sgv_get_obj_none got)).exit_fail
    · next s1 id got =>
      obtain ⟨w2, ct2, o, get, owner, order, unfilled, hit⟩ := w1.get_obj got
      exact w2.alloc_cached_obj env rfl rfl rfl get owner order unfilled
        (fun used => by rw [ct2]; exact hit used) pos request fits

/-- The big and no-cached path from a state between calls. -/
theorem Within.alloc_big (w : Within cfg t none c.args.mem_lim 0) (env : AllocEnv)
    (pos : 0 < c.args.size) (request : c.pages = lenPages cfg c.args.size)
    (small : c.cache = false) (unchecked : c.allowed_mem_checked = false) :
    Within cfg (allocBig cfg c env t).1 none c.args.mem_lim 0 ∧
      AllocOk cfg c.args.size (allocBig cfg c env t).1 (allocBig cfg c env t).2 := by
  have some_page : 0 < c.pages := request ▸ lenPages_pos cfg pos
  unfold allocBig
  dsimp only
  by_cases fail : (!(sgv_check_allowed_mem t c.args.mem_lim c.pages).2) = true
  · rw [if_pos fail]
    exact (w.check_fail (c := { c with pages_to_alloc := c.pages }) unchecked
      (by simpa using fail)).exit_fail
  rw [if_neg fail]
  have w1 := w.check_ok (c := { c with pages_to_alloc := c.pages }) (by simpa using fail)
  by_cases ret : c.args.flags.no_alloc_on_cache_miss = true
  · rw [if_pos ret]
    exact w1.exit_return2 _
  rw [if_neg ret]
  by_cases no_big : (!env.big_ok) = true
  · rw [if_pos no_big]
    exact w1.exit_fail
  rw [if_neg no_big]
  obtain ⟨w2, objs2, -⟩ := (w1.create (o := { freshObj c.args.pool (-(c.pages : Int)) with
      allocator_priv := c.args.priv, sg_entries := sg_init_table c.pages }) rfl).hiwmk_check c.pages
  have get2 := objs2.trans (by rw [SgvState.newObj_objs, Function.update_same])
  have big : ¬(0 ≤ -(c.pages : Int)) := by omega
  generalize sgv_hiwmk_check cfg _ c.pages = h at w2 get2 ⊢
  by_cases over : (!h.2) = true
  · rw [if_pos over]
    exact w2.exit_fail_free (by rw [get2]; rfl) (by rw [get2]; exact objPfns_empty rfl)
  rw [if_neg over]
  refine Within.alloc_fill env w2 rfl (by rw [get2]; rfl) (by rw [get2]; exact objPfns_empty rfl)
    rfl rfl (List.length_replicate _ _) ?_ ?_ (fun b _ => absurd b big) pos request
    (fun h => absurd h (by simp [small])) (fun _ => rfl)
  · show (if 0 ≤ -(c.pages : Int) then _ else -(-(c.pages : Int))) = c.pages
    rw [if_neg big, neg_neg]
  · show c.cache = decide (0 ≤ -(c.pages : Int))
    rw [small, decide_eq_false big]

theorem Within.pool_alloc {m0 : Nat} (w : Within cfg t none m0 0) (a : AllocArgs) (env : AllocEnv)
    (ok : (Call.alloc a env).allowed cfg t = true) :
    Within cfg (sgv_pool_alloc cfg t a env).1 none a.mem_lim 0 ∧
      AllocOk cfg a.size (sgv_pool_alloc cfg t a env).1 (sgv_pool_alloc cfg t a env).2 := by
  have w' := w.retarget a.mem_lim
  unfold sgv_pool_alloc
  split
  · exact ⟨w', allocOk_of_none rfl⟩
  · next size =>
    dsimp only
    have pos : 0 < a.size := Nat.pos_of_ne_zero size
    have request := round_up_eq_lenPages cfg a.size
    have fits := lenPages_le_order cfg a.size pos
    split
    · next id sgv =>
      simp only [Call.allowed, sgv, Bool.and_eq_true, List.any_eq_true, beq_iff_eq,
        decide_eq_true_eq] at ok
      obtain ⟨-, ⟨⟨⟨e, mem, fst⟩, empty⟩, order⟩, owner⟩ := ok
      exact w'.alloc_supplied env (m := e.2) (by rw [← fst]; exact mem) empty order owner pos request
        (request ▸ fits) rfl
    · split
      · exact w'.alloc_cached env pos request (request ▸ fits) rfl
      · exact w'.alloc_big env pos request rfl rfl

end Paths

end ScstMem
