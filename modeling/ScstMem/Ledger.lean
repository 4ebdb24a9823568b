import ScstMem.Invariant

/-! The two ledgers the allocator keeps beside its objects. Each
`scst_mem_lim` is charged the pages of every object a caller holds against
it; `sgv_pool_alloc` charges before it knows whether it will hand anything
out, so within a call a pending charge `d` stands beside them. And the frames
`alloc_pages` returned are those given to `__free_pages` together with those
the objects and the vectors hold, where an object holds the frames of its
last fill. `Within` is the invariant inside a call; each operation the calls
are made of keeps it. -/
namespace ScstMem

section Ledger
variable (cfg : Config)

/-- The pages the objects the callers hold are charged to `mem_lim` `m`. -/
def handedCharge (s : SgvState) (m : Nat) : Int :=
  ((s.handed.filter fun e => e.2 = m).map fun e => (s.obj e.1).heldPages).sum

/-- The frames an object holds: those of its last fill, while it has pages. -/
def objPfns : Option SgvObj → List Nat
  | some o => if o.sg_count ≠ 0 then sgPfns cfg (o.filled.getD []) o.sg_count else []
  | none => []

/-- The frames held by the objects and by the vectors the callers hold. -/
def heldPfns (s : SgvState) : List Nat :=
  (List.range s.next_obj).flatMap (fun id => objPfns cfg (s.objs id)) ++
    s.vectors.flatMap fun v => sgPfns cfg v.1 v.2

/-- Within a call that holds `busy` and has charged `d` pages to `mem_lim`
`m0` for it. -/
structure Within (s : SgvState) (busy : Option Nat) (m0 : Nat) (d : Int) : Prop where
  inv : Inv cfg s busy
  charged : ∀ m, s.alloced_pages m = handedCharge s m + if m = m0 then d else 0
  conserved : (s.pages_freed ++ s.pages_leaked ++ heldPfns cfg s).Perm s.pages_allocated

end Ledger

section Frames
variable {cfg : Config}

theorem objPfns_empty {o : SgvObj} (empty : o.sg_count = 0) : objPfns cfg (some o) = [] := by
  simp [objPfns, empty]

theorem objsPfns_update (objs : Nat → Option SgvObj) {n id : Nat} (lt : id < n)
    (x : Option SgvObj) :
    ((List.range n).flatMap (fun j => objPfns cfg (Function.update objs id x j)) ++
      objPfns cfg (objs id)).Perm
      ((List.range n).flatMap (fun j => objPfns cfg (objs j)) ++ objPfns cfg x) := by
  have base : ∀ y, ((List.range n).flatMap fun j => objPfns cfg (Function.update objs id y j)).Perm
      ((List.range n).flatMap (fun j => objPfns cfg (Function.update objs id none j)) ++
        objPfns cfg y) := fun y =>
    flatMap_range_perm lt (fun j _ ne => by simp [ne]) (by simp [objPfns])
  have new := base x
  have old := base (objs id)
  rw [Function.update_eq_self] at old
  rw [← Multiset.coe_eq_coe] at new old ⊢
  simp only [← Multiset.coe_add] at new old ⊢
  rw [new, old, add_right_comm]

theorem heldPfns_setObj (t : SgvState) {id : Nat} (lt : id < t.next_obj) (x : Option SgvObj) :
    (heldPfns cfg (t.setObj id x) ++ objPfns cfg (t.objs id)).Perm
      (heldPfns cfg t ++ objPfns cfg x) := by
  have objs := @objsPfns_update cfg t.objs _ _ lt x
  rw [← Multiset.coe_eq_coe] at *
  simp only [heldPfns, SgvState.setObj, ← Multiset.coe_add] at *
  rw [add_right_comm, objs, add_right_comm]

theorem heldPfns_setObj_eq (t : SgvState) {id : Nat} (lt : id < t.next_obj) {x : Option SgvObj}
    (same : objPfns cfg x = objPfns cfg (t.objs id)) :
    (heldPfns cfg (t.setObj id x)).Perm (heldPfns cfg t) := by
  have := @heldPfns_setObj cfg t _ lt x
  rwa [same, List.perm_append_right_iff] at this

theorem heldPfns_newObj (t : SgvState) {o : SgvObj} (empty : o.sg_count = 0) :
    heldPfns cfg (t.newObj o) = heldPfns cfg t := by
  have below : (List.range t.next_obj).flatMap
      (fun j => objPfns cfg (Function.update t.objs t.next_obj (some o) j)) =
      (List.range t.next_obj).flatMap fun j => objPfns cfg (t.objs j) :=
    List.flatMap_congr fun j mem => by simp [(List.mem_range.1 mem).ne]
  simp [heldPfns, List.range_succ, below, objPfns_empty empty]

theorem heldPfns_handOut (t : SgvState) (id m : Nat) (o : SgvObj) :
    heldPfns cfg (t.handOut id m o) = heldPfns cfg (t.setObj id (some o)) := rfl

theorem conserved_release {t : SgvState} {F L X H H' : List Nat}
    (cons : (t.pages_freed ++ t.pages_leaked ++ H).Perm t.pages_allocated)
    (parts : (F ++ L).Perm X) (held : (H' ++ X).Perm H) :
    (t.pages_freed ++ F ++ (t.pages_leaked ++ L) ++ H').Perm t.pages_allocated := by
  rw [← Multiset.coe_eq_coe] at cons parts held ⊢
  simp only [← Multiset.coe_add] at cons parts held ⊢
  rw [← cons, ← held, ← parts]
  abel

end Frames

section Charges
variable {t : SgvState}

theorem handedCharge_congr {u : SgvState} (handed : u.handed = t.handed)
    (objs : ∀ e ∈ t.handed, u.obj e.1 = t.obj e.1) (m : Nat) :
    handedCharge u m = handedCharge t m := by
  unfold handedCharge
  rw [handed]
  congr 1
  exact List.map_congr_left fun e mem => by rw [objs e (List.mem_of_mem_filter mem)]

theorem handedCharge_handOut {id : Nat} (fresh : id ∉ t.handed.map Prod.fst) (m0 : Nat)
    (o : SgvObj) (m : Nat) :
    handedCharge (t.handOut id m0 o) m = handedCharge t m + if m = m0 then o.heldPages else 0 := by
  have old : ∀ e ∈ t.handed, (t.handOut id m0 o).obj e.1 = t.obj e.1 := fun e mem => by
    have : e.1 ≠ id := fun eq => fresh (eq ▸ List.mem_map_of_mem _ mem)
    simp [SgvState.obj, this]
  unfold handedCharge
  have first : ((t.handed.filter fun e => e.2 = m).map fun e => ((t.handOut id m0 o).obj e.1).heldPages) =
      (t.handed.filter fun e => e.2 = m).map fun e => (t.obj e.1).heldPages :=
    List.map_congr_left fun e mem => by rw [old e (List.mem_of_mem_filter mem)]
  rw [SgvState.handOut_handed, List.filter_append, List.map_append, List.sum_append, first]
  by_cases same : m = m0
  · subst same; simp [SgvState.obj]
  · simp [same, Ne.symm same]

theorem handedCharge_erase {id m0 : Nat} (mem : (id, m0) ∈ t.handed) (m : Nat) :
    handedCharge { t with handed := t.handed.erase (id, m0) } m +
        (if m = m0 then (t.obj id).heldPages else 0) = handedCharge t m := by
  obtain ⟨pre, post, split, gone⟩ : ∃ pre post, t.handed = pre ++ (id, m0) :: post ∧
      t.handed.erase (id, m0) = pre ++ post := by
    obtain ⟨pre, post, -, split, gone⟩ := List.exists_erase_eq mem
    exact ⟨pre, post, split, gone⟩
  unfold handedCharge
  have obj : ({ t with handed := t.handed.erase (id, m0) } : SgvState).obj = t.obj := rfl
  rw [obj, gone, split]
  by_cases same : m = m0
  · subst same; simp [List.filter_append]; omega
  · simp [List.filter_append, List.filter_cons, same, Ne.symm same]

end Charges

section Steps
variable {cfg : Config} {t u : SgvState} {busy : Option Nat} {m0 : Nat} {d : Int} {id : Nat}

theorem Within.congr {busy' : Option Nat} (w : Within cfg t busy m0 d) (inv : Inv cfg u busy')
    (objs : u.objs = t.objs) (next : u.next_obj = t.next_obj) (handed : u.handed = t.handed)
    (vectors : u.vectors = t.vectors) (alloced : u.alloced_pages = t.alloced_pages)
    (freed : u.pages_freed = t.pages_freed) (leaked : u.pages_leaked = t.pages_leaked)
    (allocated : u.pages_allocated = t.pages_allocated) :
    Within cfg u busy' m0 d := by
  have held : heldPfns cfg u = heldPfns cfg t := by simp only [heldPfns, objs, next, vectors]
  refine ⟨inv, fun m => ?_, by rw [freed, leaked, held, allocated]; exact w.conserved⟩
  rw [alloced, w.charged, handedCharge_congr handed fun e _ => by simp [SgvState.obj, objs]]

theorem Within.storeEq (w : Within cfg t busy m0 d) (same : StoreEq t u) : Within cfg u busy m0 d :=
  w.congr (w.inv.storeEq same) same.objs same.next_obj same.handed same.vectors same.alloced
    same.pages_freed same.pages_leaked same.pages_allocated

theorem StoreEq.trans {v : SgvState} (first : StoreEq t u) (second : StoreEq u v) : StoreEq t v :=
  ⟨second.1.trans first.1, second.2.trans first.2, second.3.trans first.3, second.4.trans first.4,
    second.5.trans first.5, second.6.trans first.6, second.7.trans first.7, second.8.trans first.8,
    fun p => (second.9 p).trans (first.9 p), fun p => (second.10 p).trans (first.10 p),
    fun p => (second.11 p).trans (first.11 p)⟩

theorem storeEq_dec_cached_entries (t : SgvState) (p : Nat) (pages : Int) :
    StoreEq t (sgv_dec_cached_entries t p pages) := by
  unfold sgv_dec_cached_entries
  dsimp only
  have first : StoreEq t (t.setPool p fun pool => { pool with
      cached_entries := pool.cached_entries - 1, cached_pages := pool.cached_pages - pages }) :=
    StoreEq.setPool _ _ rfl rfl rfl
  split
  · exact first.trans (by constructor <;> intros <;> rfl)
  · exact first

theorem Inv.cached_frees {o : SgvObj} (inv : Inv cfg t busy) (cached : t.Cached id)
    (live : t.objs id = some o) :
    (if o.sg_count ≠ 0 then sgPfns cfg o.sg_entries o.sg_count else []) =
      objPfns cfg (some o) := by
  obtain ⟨-, owner, bucketed, -, nb⟩ := inv.sorted_obj _ id cached
  have shape := inv.shape id o live nb
  have own : t.obj id = o := by simp [SgvState.obj, live]
  simp only [objPfns]
  split
  · next used =>
    obtain ⟨f, filled, kept⟩ := shape.filled used
    rw [kept.cached_eq (own ▸ bucketed) cached, filled]; rfl
  · rfl

theorem Within.purge (w : Within cfg t busy m0 d) (cached : t.Cached id) :
    Within cfg (sgv_dtor_and_free cfg (__sgv_purge_from_cache t id) id) busy m0 d := by
  obtain ⟨live, -, -, not_handed, -⟩ := w.inv.sorted_obj _ id cached
  obtain ⟨o, get⟩ := Option.isSome_iff_exists.1 live
  obtain ⟨pools, active, cur, eq, -⟩ := purge_from_cache_eq t id
  have own : t.obj id = o := by simp [SgvState.obj, get]
  have held := @heldPfns_setObj cfg t _ (w.inv.lt_next live) none
  have frees := w.inv.cached_frees cached get
  refine ⟨w.inv.purge cached, fun m => ?_, ?_⟩
  · rw [eq, sgv_dtor_and_free_eq, w.charged]
    congr 1
    symm
    apply handedCharge_congr
    · rfl
    intro e mem
    have : e.1 ≠ id := fun same => not_handed (same ▸ List.mem_map_of_mem _ mem)
    simp [SgvState.obj, this]
  · rw [eq, sgv_dtor_and_free_eq]
    change ((t.pages_freed ++ if (t.obj id).sg_count ≠ 0 then
      sgv_free_sys_sg_entries cfg (t.obj id).sg_entries (t.obj id).sg_count else []) ++
      (t.pages_leaked ++ if (t.obj id).sg_count ≠ 0 then
        sgLeaked cfg (t.obj id).sg_entries (t.obj id).sg_count else []) ++
      heldPfns cfg (t.setObj id none)).Perm t.pages_allocated
    have none_empty : objPfns cfg none = [] := rfl
    rw [get, none_empty, List.append_nil] at held
    rw [← frees] at held
    rw [own]
    refine conserved_release w.conserved ?_ held
    split
    · exact free_leaked_perm _ _
    · rfl

theorem Within.reclaimed {s : SgvState} (w : Within cfg s busy m0 d) (rec : Reclaimed cfg s t) :
    Within cfg t busy m0 d := by
  induction rec with
  | refl => exact w
  | purge _ listed ih => exact ih.purge (ih.inv.cached_of_listed listed)
  | keep _ same ih => exact ih.storeEq same

theorem Within.check (w : Within cfg t busy m0 d) (pages : Int) :
    Within cfg (sgv_check_allowed_mem t m0 pages).1 busy m0
      (if (sgv_check_allowed_mem t m0 pages).2 then d + pages else d) := by
  have charge : ∀ f, handedCharge { t with alloced_pages := f } = handedCharge t := fun _ => rfl
  unfold sgv_check_allowed_mem
  dsimp only
  split <;> refine ⟨w.inv.congr rfl rfl rfl fun _ => ⟨rfl, rfl, rfl⟩, fun m => ?_, w.conserved⟩ <;>
    by_cases same : m = m0
  · subst same; simp only [Function.update_same, chargeAdd, charge, w.charged m, if_true]; omega
  · simp only [Function.update_noteq same, charge, w.charged m, if_neg same]
  · subst same
    simp only [Function.update_same, chargeAdd, charge, w.charged m, if_true, Bool.false_eq_true,
      if_false]
    omega
  · simp only [Function.update_noteq same, charge, w.charged m, if_neg same]

theorem Within.uncheck (w : Within cfg t busy m0 d) (pages : Int) :
    Within cfg (sgv_uncheck_allowed_mem t m0 pages) busy m0 (d - pages) := by
  have charge : ∀ f, handedCharge { t with alloced_pages := f } = handedCharge t := fun _ => rfl
  refine ⟨w.inv.congr rfl rfl rfl fun _ => ⟨rfl, rfl, rfl⟩, fun m => ?_, w.conserved⟩
  by_cases same : m = m0
  · subst same
    simp only [sgv_uncheck_allowed_mem, Function.update_same, charge, w.charged m, if_true]
    omega
  · simp only [sgv_uncheck_allowed_mem, Function.update_noteq same, charge, w.charged m, if_neg same]

theorem Within.take {p order : Nat} {rest : List Nat} (cache_ok : Bool) (w : Within cfg t none m0 d)
    (head : (t.pools p).recycling_lists order = id :: rest) :
    Within cfg (sgv_get_obj t p order cache_ok).1 (some id) m0 d :=
  w.congr (w.inv.take cache_ok head) (by simp [sgv_get_obj, head]) (by simp [sgv_get_obj, head])
    (by simp [sgv_get_obj, head]) (by simp only [sgv_get_obj, head]; rfl)
    (by simp only [sgv_get_obj, head]; rfl) (by simp only [sgv_get_obj, head]; rfl)
    (by simp only [sgv_get_obj, head]; rfl) (by simp only [sgv_get_obj, head]; rfl)

theorem Within.create {o : SgvObj} (w : Within cfg t none m0 d) (empty : o.sg_count = 0) :
    Within cfg (t.newObj o) (some t.next_obj) m0 d := by
  refine ⟨w.inv.create o, fun m => ?_, by rw [heldPfns_newObj t empty]; exact w.conserved⟩
  rw [SgvState.newObj_alloced_pages, w.charged, handedCharge_congr (SgvState.newObj_handed t o)]
  intro e mem
  have : e.1 ≠ t.next_obj := (w.inv.lt_next (w.inv.handed e mem).1).ne
  simp [SgvState.obj, this]

theorem Within.handed_ne (w : Within cfg t (some id) m0 d) {e : Nat × Nat} (mem : e ∈ t.handed) :
    e.1 ≠ id :=
  fun eq => (w.inv.handed e mem).2 (eq ▸ rfl)

theorem Within.set_busy {o : SgvObj} (w : Within cfg t (some id) m0 d) (live : (t.objs id).isSome)
    (same : objPfns cfg (some o) = objPfns cfg (t.objs id)) :
    Within cfg (t.setObj id (some o)) (some id) m0 d := by
  refine ⟨w.inv.set_busy live o, fun m => ?_, ?_⟩
  · rw [SgvState.setObj_alloced_pages, w.charged, handedCharge_congr (SgvState.setObj_handed _ _ _)]
    intro e mem
    simp [SgvState.obj, w.handed_ne mem]
  · exact ((heldPfns_setObj_eq t (w.inv.lt_next live) same).append_left _).trans w.conserved

theorem Within.drop_busy (w : Within cfg t (some id) m0 d) (live : (t.objs id).isSome)
    (empty : objPfns cfg (t.objs id) = []) : Within cfg (t.setObj id none) none m0 d := by
  refine ⟨w.inv.drop_busy, fun m => ?_, ?_⟩
  · rw [SgvState.setObj_alloced_pages, w.charged, handedCharge_congr (SgvState.setObj_handed _ _ _)]
    intro e mem
    simp [SgvState.obj, w.handed_ne mem]
  · exact ((heldPfns_setObj_eq t (w.inv.lt_next live) (by rw [empty]; rfl)).append_left _).trans
      w.conserved

theorem Within.hand {o : SgvObj} (w : Within cfg t (some id) m0 d) (live : (t.objs id).isSome)
    (shape : ObjShape cfg (t.pools o.owner_pool).clustering_type False o)
    (same : objPfns cfg (some o) = objPfns cfg (t.objs id)) :
    Within cfg (t.handOut id m0 o) none m0 (d - o.heldPages) := by
  refine ⟨w.inv.hand live m0 shape, fun m => ?_, ?_⟩
  · rw [SgvState.handOut_alloced_pages, w.charged, handedCharge_handOut w.inv.busy_not_handed]
    split <;> omega
  · exact ((heldPfns_setObj_eq t (w.inv.lt_next live) same).append_left _).trans w.conserved

theorem Within.release {m : Nat} (w : Within cfg t none m 0) (mem : (id, m) ∈ t.handed) :
    Within cfg { t with handed := t.handed.erase (id, m) } (some id) m (t.obj id).heldPages := by
  refine ⟨w.inv.release mem, fun m' => ?_, w.conserved⟩
  show t.alloced_pages m' = _
  rw [w.charged, ← handedCharge_erase mem m']
  split <;> simp

theorem Within.link (w : Within cfg t (some id) m0 d) (live : (t.objs id).isSome)
    (bucketed : 0 ≤ (t.obj id).order_or_pages)
    (shape : ObjShape cfg (t.pools (t.obj id).owner_pool).clustering_type True
      { t.obj id with time_stamp := t.jiffies }) :
    Within cfg (sgv_put_obj t id) none m0 d := by
  obtain ⟨o, get⟩ := Option.isSome_iff_exists.1 live
  have own : t.obj id = o := by simp [SgvState.obj, get]
  have held : heldPfns cfg (sgv_put_obj t id) = heldPfns cfg
      (t.setObj id (some { t.obj id with time_stamp := t.jiffies })) := rfl
  refine ⟨w.inv.link live bucketed shape, fun m => ?_, ?_⟩
  · rw [show (sgv_put_obj t id).alloced_pages = t.alloced_pages from rfl, w.charged,
      handedCharge_congr (put_obj_handed t id)]
    intro e mem
    simp [SgvState.obj, w.handed_ne mem]
  · rw [held]
    exact ((heldPfns_setObj_eq t (w.inv.lt_next live) (by rw [get, own]; rfl)).append_left _).trans
      w.conserved

end Steps

end ScstMem
