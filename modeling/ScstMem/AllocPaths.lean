import ScstMem.Ledger
import ScstMem.Success

/-! `sgv_pool_alloc` label by label. Each exit gives back what the path
charged (`out_uncheck` reads `allowed_mem_checked`), destroys or hands out the
object the path holds, and keeps both ledgers; `success` hands out an object
whose shape lets the next `sgv_pool_free` restore it, with a count and entries
that cover the request. -/
namespace ScstMem
open sgv_clustering_types

/-- The pages a path has charged when it reaches an exit label. -/
def AllocCtx.held (c : AllocCtx) : Int := if c.allowed_mem_checked then c.pages_to_alloc else 0

/-- What a successful `sgv_pool_alloc` gives its caller: the object through
`*sgv`, a count within it, and entries that add up to the request. -/
def AllocOk (cfg : Config) (size : Nat) (t : SgvState) (out : AllocOut) : Prop :=
  ∀ sg, out.res = some sg → ∃ id, out.sgv = some id ∧ out.count ≤ (t.obj id).sg_count ∧
    RoundTrip cfg size out.count sg

theorem allocOk_of_none {cfg : Config} {size : Nat} {t : SgvState} {out : AllocOut}
    (none : out.res = none) : AllocOk cfg size t out := fun sg some => by simp [none] at some

theorem clustered_iff (s : SgvState) (p : Nat) :
    clustered s p = true ↔ (s.pools p).clustering_type ≠ .sgv_no_clustering := by
  simp [clustered]

theorem SgvObj.pages_nonneg (o : SgvObj) : 0 ≤ o.pages := by
  unfold SgvObj.pages; split
  · exact le_of_lt (two_pow_int_pos _)
  · omega

section Shapes
variable {cfg : Config} {ct : sgv_clustering_types}

theorem cutAt_length_eq (E : List SgEntry) (e L : Nat) : (cutAt E e L).length = E.length :=
  List.length_set _ _ _

theorem successObj_shape (c : AllocCtx) (clust : Bool) {o : SgvObj} {f : List SgEntry}
    (entries : o.sg_entries = f) (filled : o.filled = some f) (used : o.sg_count ≠ 0)
    (shape : FillShape cfg f o.sg_count o.pages.toNat)
    (trans : 0 ≤ o.order_or_pages → ct ≠ .sgv_no_clustering →
      TransShape cfg f o.sg_count o.pages.toNat (o.trans_tbl.getD []))
    (table : 0 ≤ o.order_or_pages → ct ≠ .sgv_no_clustering →
      ∃ t, o.trans_tbl = some t ∧ t.length = o.pages.toNat)
    (single : 0 ≤ o.order_or_pages → ct = .sgv_no_clustering → o.sg_count = o.pages.toNat)
    (cached : c.cache = decide (0 ≤ o.order_or_pages)) :
    ObjShape cfg ct False (successObj cfg c clust o).2 := by
  refine ⟨?_, by simpa only [successObj_order, successObj_trans_tbl, successObj_pages] using table,
    fun zero => absurd ((successObj_sg_count c clust o).symm.trans zero) used,
    fun _ => ⟨f, (successObj_filled c clust o).trans filled, ?_⟩⟩
  · rw [successObj_pages, successObj_eq, ← shape.length_eq, ← entries]
    exact cutAt_length_eq _ _ _
  · refine ⟨by simpa only [successObj_sg_count, successObj_pages] using shape,
      by simpa only [successObj_order, successObj_trans_tbl, successObj_sg_count, successObj_pages]
        using trans,
      fun _ no => no.elim, fun bucketed _ => ?_,
      by simpa only [successObj_order, successObj_sg_count, successObj_pages] using single, fun big => ?_⟩
    · rw [successObj_order] at bucketed
      rw [successObj_restore clust o (cached.trans (decide_eq_true bucketed)), entries]
    · rw [successObj_order] at big
      rw [successObj_sg_count, successObj_frees clust o (cached.trans (decide_eq_false (not_le.2 big)))
        (entries ▸ shape.filled), entries]

theorem restore_shape {o : SgvObj} (shape : ObjShape cfg ct False o) (bucketed : 0 ≤ o.order_or_pages)
    (j : Nat) : ObjShape cfg ct True { o.restoreOrig with time_stamp := j } := by
  obtain ⟨length, table, unfilled, filled⟩ := shape
  refine ⟨by simpa [SgvObj.restoreOrig] using length, table, unfilled, fun used => ?_⟩
  obtain ⟨f, some_f, kept⟩ := filled used
  exact ⟨f, some_f, kept.shape, kept.trans, fun _ _ => kept.handed_eq bucketed id,
    fun _ no => (no trivial).elim, kept.single, fun big => absurd bucketed (not_le.2 big)⟩

end Shapes

section Exits
variable {cfg : Config} {t : SgvState} {c : AllocCtx} {id : Nat}

theorem Within.charge_eq {busy : Option Nat} {m0 : Nat} {d d' : Int} (w : Within cfg t busy m0 d)
    (eq : d = d') : Within cfg t busy m0 d' := eq ▸ w

theorem storeEq_hiwmk_uncheck (t : SgvState) (pages : Int) : StoreEq t (sgv_hiwmk_uncheck t pages) := by
  constructor <;> intros <;> rfl

theorem Within.exit_uncheck (w : Within cfg t none c.args.mem_lim c.held) :
    Within cfg (outUncheck c t) none c.args.mem_lim 0 := by
  have w1 : Within cfg (if c.hiwmk_checked then sgv_hiwmk_uncheck t c.pages_to_alloc else t) none
      c.args.mem_lim c.held := by
    split
    · exact w.storeEq (storeEq_hiwmk_uncheck _ _)
    · exact w
  unfold outUncheck AllocCtx.held at *
  dsimp only
  split
  · next checked => exact (w1.uncheck _).charge_eq (by simp [checked])
  · next unchecked => exact w1.charge_eq (by simp [unchecked])

theorem Within.exit_fail_free {size : Nat} (w : Within cfg t (some id) c.args.mem_lim c.held)
    (live : (t.objs id).isSome) (empty : objPfns cfg (t.objs id) = []) :
    Within cfg (outFailFree c t id).1 none c.args.mem_lim 0 ∧
      AllocOk cfg size (outFailFree c t id).1 (outFailFree c t id).2 := by
  have w1 : Within cfg (if c.cache then sgv_dec_cached_entries t c.args.pool c.pages_to_alloc else t)
      (some id) c.args.mem_lim c.held := by
    split
    · exact w.storeEq (storeEq_dec_cached_entries _ _ _)
    · exact w
  have objs : (if c.cache then sgv_dec_cached_entries t c.args.pool c.pages_to_alloc else t).objs =
      t.objs := by split <;> simp
  exact ⟨(w1.drop_busy (objs ▸ live) (objs ▸ empty)).exit_uncheck, allocOk_of_none rfl⟩

theorem Within.exit_return1 {size : Nat} {o : SgvObj} (w : Within cfg t (some id) c.args.mem_lim c.held)
    (live : (t.objs id).isSome) (shape : ObjShape cfg (t.pools o.owner_pool).clustering_type False o)
    (unused : o.sg_count = 0) (empty : objPfns cfg (t.objs id) = []) :
    Within cfg (outReturn1 c t id o).1 none c.args.mem_lim 0 ∧
      AllocOk cfg size (outReturn1 c t id o).1 (outReturn1 c t id o).2 := by
  have w1 := w.hand live shape (by rw [empty, objPfns_empty unused])
  simp only [SgvObj.heldPages, unused, ne_eq, not_true_eq_false, if_false, sub_zero] at w1
  exact ⟨w1.exit_uncheck, allocOk_of_none rfl⟩

theorem Within.exit_fail {size : Nat} (w : Within cfg t none c.args.mem_lim c.held) :
    Within cfg (outFail c t).1 none c.args.mem_lim 0 ∧ AllocOk cfg size (outFail c t).1 (outFail c t).2 :=
  ⟨w.exit_uncheck, allocOk_of_none rfl⟩

theorem Within.exit_return2 {size : Nat} (w : Within cfg t none c.args.mem_lim c.held) (sgv : Option Nat) :
    Within cfg (outReturn2 c t sgv).1 none c.args.mem_lim 0 ∧
      AllocOk cfg size (outReturn2 c t sgv).1 (outReturn2 c t sgv).2 :=
  ⟨w.exit_uncheck, allocOk_of_none rfl⟩

theorem Within.exit_success {o : SgvObj} (w : Within cfg t (some id) c.args.mem_lim c.held)
    (get : t.objs id = some o) (charge : o.heldPages = c.held)
    (shape : ObjShape cfg (t.pools o.owner_pool).clustering_type False
      (successObj cfg c (clustered t c.args.pool) o).2)
    (rt : (successObj cfg c (clustered t c.args.pool) o).1 ≤ o.sg_count ∧
      RoundTrip cfg c.args.size (successObj cfg c (clustered t c.args.pool) o).1
        (successObj cfg c (clustered t c.args.pool) o).2.sg_entries) :
    Within cfg (allocSuccess cfg c t id o).1 none c.args.mem_lim 0 ∧
      AllocOk cfg c.args.size (allocSuccess cfg c t id o).1 (allocSuccess cfg c t id o).2 := by
  have stats : StoreEq t (t.setPool c.args.pool (successStats c)) :=
    StoreEq.setPool _ _ (by simp) (by simp) (by simp)
  have w1 := w.storeEq stats
  have live : (t.objs id).isSome := by simp [get]
  refine ⟨(w1.hand (by simpa using live) (by rw [stats.clustering, successObj_owner]; exact shape)
    (by simp [get, objPfns])).charge_eq (by rw [successObj_heldPages, charge, sub_self]),
    fun sg res => ?_⟩
  simp only [allocSuccess, Option.some.injEq] at res ⊢
  subst res
  exact ⟨id, rfl, by simpa [SgvState.obj] using rt.1, rt.2⟩

end Exits

section Fill
variable {cfg : Config} {t : SgvState} {c : AllocCtx} {id : Nat} {busy : Option Nat} {m0 : Nat}
  {d : Int}

theorem Within.logs (w : Within cfg t busy m0 d) {taken freed leaked : List Nat}
    (perm : (freed ++ leaked).Perm taken) :
    Within cfg { t with
      pages_allocated := t.pages_allocated ++ taken
      pages_freed := t.pages_freed ++ freed
      pages_leaked := t.pages_leaked ++ leaked } busy m0 d := by
  refine ⟨w.inv.congr rfl rfl rfl fun _ => ⟨rfl, rfl, rfl⟩, w.charged, ?_⟩
  have conserved := Multiset.coe_eq_coe.2 w.conserved
  rw [← Multiset.coe_eq_coe] at perm ⊢
  simp only [← Multiset.coe_add] at conserved perm ⊢
  change (t.pages_freed : Multiset Nat) + freed + (t.pages_leaked + leaked) + heldPfns cfg t =
    t.pages_allocated + taken
  rw [← conserved, ← perm]
  abel

theorem Within.fill_success {o : SgvObj} (w : Within cfg t (some id) m0 d) (live : (t.objs id).isSome)
    (empty : objPfns cfg (t.objs id) = []) {taken freed leaked : List Nat}
    (perm : (freed ++ leaked ++ objPfns cfg (some o)).Perm taken) :
    Within cfg ({ t with
      pages_allocated := t.pages_allocated ++ taken
      pages_freed := t.pages_freed ++ freed
      pages_leaked := t.pages_leaked ++ leaked }.setObj id (some o)) (some id) m0 d := by
  have inv : Inv cfg { t with
      pages_allocated := t.pages_allocated ++ taken
      pages_freed := t.pages_freed ++ freed
      pages_leaked := t.pages_leaked ++ leaked } (some id) :=
    w.inv.congr rfl rfl rfl fun _ => ⟨rfl, rfl, rfl⟩
  have held := @heldPfns_setObj cfg t _ (w.inv.lt_next live) (some o)
  refine ⟨inv.set_busy live o, fun m => ?_, ?_⟩
  · show t.alloced_pages m = _
    rw [w.charged]
    congr 1
    symm
    apply handedCharge_congr
    · rfl
    · intro e mem
      simp [SgvState.obj, w.handed_ne mem]
  · have conserved := Multiset.coe_eq_coe.2 w.conserved
    rw [empty, List.append_nil] at held
    rw [← Multiset.coe_eq_coe] at perm held ⊢
    simp only [← Multiset.coe_add] at conserved perm held ⊢
    change (t.pages_freed : Multiset Nat) + freed + (t.pages_leaked + leaked) +
      (heldPfns cfg (t.setObj id (some o)) : Multiset Nat) = t.pages_allocated + taken
    rw [← conserved, ← perm, held]
    abel

theorem allocSuccess_setObj (c : AllocCtx) (t : SgvState) (id : Nat) (x : Option SgvObj)
    (o : SgvObj) : allocSuccess cfg c (t.setObj id x) id o = allocSuccess cfg c t id o := by
  simp [allocSuccess, SgvState.handOut, SgvState.setObj, SgvState.setPool, clustered]

/-- The fill and what follows it, on an object with no pages that the path
holds with its charge taken. -/
theorem Within.alloc_fill {o : SgvObj} (env : AllocEnv)
    (w : Within cfg t (some id) c.args.mem_lim c.held) (checked : c.allowed_mem_checked = true)
    (live : (t.objs id).isSome) (empty : objPfns cfg (t.objs id) = [])
    (owner : o.owner_pool = c.args.pool) (unfilled : o.filled = none)
    (len : o.sg_entries.length = c.pages_to_alloc) (pages : o.pages = c.pages_to_alloc)
    (cached : c.cache = decide (0 ≤ o.order_or_pages))
    (table : 0 ≤ o.order_or_pages → (t.pools c.args.pool).clustering_type ≠ .sgv_no_clustering →
      ∃ tt, o.trans_tbl = some tt ∧ tt.length = c.pages_to_alloc)
    (pos : 0 < c.args.size) (request : c.pages = lenPages cfg c.args.size)
    (fits : c.cache = true → c.pages ≤ c.pages_to_alloc)
    (exact : c.cache = false → c.pages = c.pages_to_alloc) :
    Within cfg (allocFill cfg c env t id o).1 none c.args.mem_lim 0 ∧
      AllocOk cfg c.args.size (allocFill cfg c env t id o).1 (allocFill cfg c env t id o).2 := by
  have some_page : 0 < c.pages_to_alloc := by
    have := lenPages_pos cfg pos
    cases h : c.cache
    · rw [← exact h]; omega
    · have := fits h; omega
  have N : o.pages.toNat = c.pages_to_alloc := by rw [pages]; rfl
  have held : c.held = c.pages_to_alloc := by simp [AllocCtx.held, checked]
  have room : c.pages_to_alloc ≤ o.sg_entries.length := len.ge
  set ct := (t.pools c.args.pool).clustering_type with hct
  have perm := @fill_pfns cfg _ _ ct o.trans_tbl env.pages room
  have length := @fill_length cfg _ _ ct o.trans_tbl env.pages room
  have keep := @fill_trans_tbl_of_empty cfg _ _ ct o.trans_tbl env.pages room some_page
  have shape := @fill_shape cfg _ _ ct o.trans_tbl env.pages len
  have trans : 0 ≤ o.order_or_pages → ct ≠ .sgv_no_clustering →
      (sgv_alloc_sg_entries cfg o.sg_entries c.pages_to_alloc ct o.trans_tbl env.pages).sg_count ≠ 0 →
      ∃ t', (sgv_alloc_sg_entries cfg o.sg_entries c.pages_to_alloc ct o.trans_tbl env.pages).trans_tbl =
        some t' ∧ TransShape cfg
          (sgv_alloc_sg_entries cfg o.sg_entries c.pages_to_alloc ct o.trans_tbl env.pages).sg
          (sgv_alloc_sg_entries cfg o.sg_entries c.pages_to_alloc ct o.trans_tbl env.pages).sg_count
          c.pages_to_alloc t' := fun bucketed clust used => by
    obtain ⟨tt, some_tt, tlen⟩ := table bucketed clust
    rw [some_tt] at used ⊢
    exact fill_trans len clust tlen used
  have unclust : ct = .sgv_no_clustering →
      (sgv_alloc_sg_entries cfg o.sg_entries c.pages_to_alloc ct o.trans_tbl env.pages).sg_count ≠ 0 →
      (sgv_alloc_sg_entries cfg o.sg_entries c.pages_to_alloc ct o.trans_tbl env.pages).sg_count =
        c.pages_to_alloc := by
    intro no
    rw [no]
    exact fill_count_no_clustering _ _ room
  unfold allocFill
  dsimp only
  rw [← hct]
  generalize sgv_alloc_sg_entries cfg o.sg_entries c.pages_to_alloc ct o.trans_tbl env.pages = r at *
  set o1 : SgvObj := { o with sg_entries := r.sg, sg_count := r.sg_count, trans_tbl := r.trans_tbl }
  split
  · next zero =>
    simp only [zero, sgPfns, List.range_zero, List.flatMap_nil, List.append_nil] at perm
    have w1 := w.logs perm
    have o1_pages : o1.pages = o.pages := rfl
    have o1_shape : ObjShape cfg ct False o1 :=
      ⟨by rw [o1_pages, N]; exact length.trans len, fun b cl => by
        obtain ⟨tt, some_tt, tlen⟩ := table b cl
        exact ⟨tt, by simp [o1, keep zero, some_tt], by rw [o1_pages, N, tlen]⟩,
        fun _ => unfilled, fun used => absurd zero used⟩
    split
    · exact w1.exit_return1 live (by simpa [o1, owner] using o1_shape) zero empty
    · exact (w1.set_busy live (o := o1) (by rw [objPfns_empty (o := o1) zero]; exact empty.symm)).exit_fail_free
        (by simp) (by simp [objPfns_empty (o := o1) zero])
  · next used =>
    have fshape := shape used
    set o2 : SgvObj := { o1 with filled := some r.sg }
    have w1 := w.fill_success live empty (o := o2) (by simpa [objPfns, o2, o1, used] using perm)
    rw [← allocSuccess_setObj c _ id (some o2) o2, SgvState.setPool_setObj_comm]
    set T := (({ t with
      pages_allocated := t.pages_allocated ++ r.allocated
      pages_freed := t.pages_freed ++ r.freed
      pages_leaked := t.pages_leaked ++ r.leaked } : SgvState).setObj id (some o2)).setPool c.args.pool
        (fillStats c (c.pages_to_alloc - r.sg_count))
    have w2 : Within cfg T (some id) c.args.mem_lim c.held :=
      w1.storeEq (StoreEq.setPool _ _ (by simp) (by simp) (by simp))
    have ct_eq : (T.pools c.args.pool).clustering_type = ct := by simp [T, ct]
    have o2_pages : o2.pages = o.pages := rfl
    have bucketed : c.cache = true → 0 ≤ o2.order_or_pages := fun h => by simpa [h] using cached.symm
    have clust : clustered T c.args.pool = true ↔ ct ≠ .sgv_no_clustering := by
      rw [clustered_iff, ct_eq]
    have fill_trans' : 0 ≤ o2.order_or_pages → ct ≠ .sgv_no_clustering →
        ∃ t', o2.trans_tbl = some t' ∧ TransShape cfg r.sg r.sg_count c.pages_to_alloc t' :=
      fun b cl => trans b cl used
    refine w2.exit_success (by simp [T]) (by simp [SgvObj.heldPages, o2, o1, used, held, o2_pages, pages])
      ?_ ?_
    · rw [show o2.owner_pool = c.args.pool from owner, ct_eq]
      refine successObj_shape c _ (f := r.sg) rfl rfl used (by rw [o2_pages, N]; exact fshape)
        (fun b cl => ?_) (fun b cl => ?_) (fun b no => ?_) cached
      · obtain ⟨t', some_t', ts⟩ := fill_trans' b cl
        rw [some_t', o2_pages, N]; exact ts
      · obtain ⟨t', some_t', ts⟩ := fill_trans' b cl
        exact ⟨t', some_t', by rw [o2_pages, N]; exact ts.1⟩
      · rw [o2_pages, N]; exact unclust no used
    · refine successObj_round_trip c _ o2 fshape pos request fits (fun h cl => ?_) (fun h cl => ?_) exact
      · obtain ⟨t', some_t', ts⟩ := fill_trans' (bucketed h) (clust.1 cl)
        rw [some_t']; exact ts
      · exact unclust (not_not.1 fun h => by simp [clust.2 h] at cl) used

end Fill

end ScstMem
