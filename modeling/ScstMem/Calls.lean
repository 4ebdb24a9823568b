import ScstMem.PoolAlloc

/-! The other calls of the interface: `sgv_pool_free`, `scst_alloc`,
`scst_free`, the reclaim entries and the clock. Each keeps both ledgers, so
`Wf`, what holds between calls, holds in every reachable state. -/
namespace ScstMem
open sgv_clustering_types

section Free
variable {cfg : Config} {t : SgvState} {busy : Option Nat} {m0 id : Nat} {d : Int}

theorem Within.drop_freeing (w : Within cfg t (some id) m0 d) (live : (t.objs id).isSome)
    {freed leaked : List Nat} (frees : (freed ++ leaked).Perm (objPfns cfg (t.objs id))) :
    Within cfg ({ t with
      pages_freed := t.pages_freed ++ freed
      pages_leaked := t.pages_leaked ++ leaked }.setObj id none) none m0 d := by
  have inv : Inv cfg { t with
      pages_freed := t.pages_freed ++ freed
      pages_leaked := t.pages_leaked ++ leaked } (some id) :=
    w.inv.congr rfl rfl rfl fun _ => ⟨rfl, rfl, rfl⟩
  have held := @heldPfns_setObj cfg t _ (w.inv.lt_next live) none
  refine ⟨inv.drop_busy, fun m => ?_, ?_⟩
  · show t.alloced_pages m = _
    rw [w.charged]
    congr 1
    symm
    apply handedCharge_congr
    · rfl
    · intro e mem
      simp [SgvState.obj, w.handed_ne mem]
  · have none_empty : objPfns cfg none = [] := rfl
    rw [none_empty, List.append_nil] at held
    exact conserved_release w.conserved frees held

/-- `sgv_pool_free` of an object a caller holds: the charge it was handed out
with goes back to its `scst_mem_lim`. -/
theorem Within.pool_free (w : Within cfg t none m0 0) {m : Nat} (mem : (id, m) ∈ t.handed) :
    Within cfg (sgv_pool_free cfg t id m) none m0 0 := by
  obtain ⟨o, get⟩ := Option.isSome_iff_exists.1 (w.inv.handed _ mem).1
  have live : (t.objs id).isSome := by simp [get]
  have handed : ¬t.Cached id := fun cached =>
    (w.inv.sorted_obj _ id cached).not_handed (List.mem_map_of_mem Prod.fst mem)
  have shape := w.inv.shape id o get (by simp)
  rw [eq_false handed] at shape
  have own := SgvState.obj_of_get get
  have w1 := (w.retarget m).release mem
  rw [own] at w1
  unfold sgv_pool_free
  dsimp only
  rw [own]
  split
  · next bucketed =>
    have w2 := w1.set_busy live (o := o.restoreOrig) (by rw [get]; rfl)
    have restored : ({ t with handed := t.handed.erase (id, m) }.setObj id (some o.restoreOrig)).obj id =
        o.restoreOrig := by simp [SgvState.obj]
    have w3 := w2.link (by simp) (by rw [restored]; exact bucketed)
      (by rw [restored]; exact restore_shape shape bucketed _)
    exact ((w3.uncheck _).charge_eq (by simp only [SgvObj.heldPages, SgvObj.pages, if_pos bucketed,
      sub_self])).retarget m0
  · next big =>
    have frees : (sgv_free_sys_sg_entries cfg o.sg_entries o.sg_count ++
        sgLeaked cfg o.sg_entries o.sg_count).Perm (objPfns cfg (t.objs id)) := by
      refine (free_leaked_perm _ _).trans ?_
      rw [get, objPfns]
      split
      · next used =>
        obtain ⟨f, filled, kept⟩ := shape.filled used
        rw [filled, kept.big_frames (not_le.1 big)]
        rfl
      · next empty =>
        simp only [ne_eq, not_not] at empty
        simp [sgPfns, empty]
    have w2 := (w1.drop_freeing live frees).storeEq
      (storeEq_hiwmk_uncheck _ (if o.sg_count ≠ 0 then -o.order_or_pages else 0))
    exact ((w2.uncheck _).charge_eq (by simp only [SgvObj.heldPages, SgvObj.pages, if_neg big,
      sub_self])).retarget m0

end Free

section Vectors
variable {cfg : Config} {t : SgvState} {busy : Option Nat} {m0 : Nat} {d : Int}

theorem Within.add_vector (w : Within cfg t busy m0 d) {taken freed leaked : List Nat}
    {sg : List SgEntry} {n : Nat} (perm : (freed ++ leaked ++ sgPfns cfg sg n).Perm taken) :
    Within cfg { t with
      pages_allocated := t.pages_allocated ++ taken
      pages_freed := t.pages_freed ++ freed
      pages_leaked := t.pages_leaked ++ leaked
      vectors := t.vectors ++ [(sg, n)] } busy m0 d := by
  refine ⟨w.inv.congr rfl rfl rfl fun _ => ⟨rfl, rfl, rfl⟩, w.charged, ?_⟩
  have conserved := Multiset.coe_eq_coe.2 w.conserved
  rw [← Multiset.coe_eq_coe] at perm ⊢
  simp only [heldPfns, List.flatMap_append, List.flatMap_singleton, ← Multiset.coe_add]
    at conserved perm ⊢
  rw [← conserved, ← perm]
  ac_rfl

theorem Within.alloc_vector (w : Within cfg t none m0 d) (size : Nat) (no_fail : Bool) (count : Nat)
    (env : ScstAllocEnv) : Within cfg (scst_alloc cfg t size no_fail count env).1 none m0 d := by
  have uncheck : ∀ {u : SgvState} (pages : Int) (undo : Bool), Within cfg u none m0 d →
      Within cfg (if undo then sgv_hiwmk_uncheck u pages else u) none m0 d := fun pages undo wu => by
    split
    · exact wu.storeEq (storeEq_hiwmk_uncheck _ _)
    · exact wu
  have w1 := (w.storeEq (t := t) (u := { t with sgv_other_total_alloc := t.sgv_other_total_alloc + 1 })
    (by constructor <;> intros <;> rfl)).reclaimed (sgv_hiwmk_check_reclaimed (lenPages cfg size))
  have perm := @fill_pfns cfg (sg_init_table (lenPages cfg size)) (lenPages cfg size)
    .sgv_no_clustering none env.pages (List.length_replicate _ _).symm.le
  unfold scst_alloc
  dsimp only
  generalize sgv_hiwmk_check cfg _ (lenPages cfg size) = h at w1
  generalize sgv_alloc_sg_entries cfg _ _ _ _ _ = r at perm
  obtain ⟨h1, ok⟩ := h
  dsimp only at w1 perm ⊢
  by_cases refused : (!ok) = true ∧ (!no_fail) = true
  · rw [if_pos refused]
    exact w1
  rw [if_neg refused]
  by_cases no_table : (!env.kmalloc_ok) = true
  · rw [if_pos no_table]
    exact uncheck _ _ (uncheck _ _ w1)
  rw [if_neg no_table]
  by_cases zero : r.sg_count = 0
  · rw [if_pos zero]
    simp only [zero, sgPfns, List.range_zero, List.flatMap_nil, List.append_nil] at perm
    exact uncheck _ _ (Within.logs (uncheck _ _ w1) perm)
  rw [if_neg zero]
  exact Within.add_vector (uncheck _ _ w1) perm

theorem Within.free_vector (w : Within cfg t busy m0 d) {k : Nat} (lt : k < t.vectors.length) :
    Within cfg (scst_free cfg t k) busy m0 d := by
  refine ⟨w.inv.congr rfl rfl rfl fun _ => ⟨rfl, rfl, rfl⟩, w.charged, ?_⟩
  set g : List SgEntry × Nat → List Nat := fun v => sgPfns cfg v.1 v.2
  have parts : t.vectors.flatMap g = (t.vectors.take k).flatMap g ++ g (t.vectors.getD k ([], 0)) ++
      (t.vectors.drop (k + 1)).flatMap g := by
    have split := List.take_append_drop k t.vectors
    rw [List.drop_eq_getElem_cons lt] at split
    conv_lhs => rw [← split]
    simp only [List.flatMap_append, List.flatMap_cons, List.getD_eq_getElem?_getD,
      List.getElem?_eq_getElem lt, Option.getD_some, List.append_assoc]
  change (t.pages_freed ++ sgv_free_sys_sg_entries cfg (t.vectors.getD k ([], 0)).1
      (t.vectors.getD k ([], 0)).2 ++ (t.pages_leaked ++ sgLeaked cfg (t.vectors.getD k ([], 0)).1
      (t.vectors.getD k ([], 0)).2) ++ ((List.range t.next_obj).flatMap (fun id => objPfns cfg (t.objs id)) ++
      (t.vectors.eraseIdx k).flatMap g)).Perm t.pages_allocated
  refine conserved_release w.conserved (free_leaked_perm _ _) ?_
  rw [← Multiset.coe_eq_coe]
  simp only [heldPfns, List.eraseIdx_eq_take_drop_succ, List.flatMap_append, parts, ← Multiset.coe_add]
  ac_rfl

end Vectors

end ScstMem
