import ScstMem.System
import ScstMem.Lifecycle

/-! What holds of the sequential allocator between calls. Every cached object
is live, bucketed, of the pool whose lists hold it, once on that pool's
`sorted_recycling_list` and once on the recycling list of its order, and no
caller holds it; every object a caller holds is live and held once. Each
live object keeps what its last successful fill left: the entries themselves
while cached, the entries with one length cut that `sgv_pool_free` restores
while handed out, and, for a big object, entries that span the same frames.
Within a call the object the call holds in a local (`busy`) is exempt. -/
namespace ScstMem
open sgv_clustering_types

/-- The object is on the sorted list of its pool. -/
def SgvState.Cached (s : SgvState) (id : Nat) : Prop :=
  id ∈ (s.pools (s.obj id).owner_pool).sorted_recycling_list

/-- What an object holding pages keeps of its last fill `f`. -/
structure FillKept (cfg : Config) (ct : sgv_clustering_types) (cached : Prop) (o : SgvObj)
    (f : List SgEntry) : Prop where
  shape : FillShape cfg f o.sg_count o.pages.toNat
  trans : 0 ≤ o.order_or_pages → ct ≠ .sgv_no_clustering →
    TransShape cfg f o.sg_count o.pages.toNat (o.trans_tbl.getD [])
  cached_eq : 0 ≤ o.order_or_pages → cached → o.sg_entries = f
  handed_eq : 0 ≤ o.order_or_pages → ¬cached → o.restoreOrig.sg_entries = f
  single : 0 ≤ o.order_or_pages → ct = .sgv_no_clustering → o.sg_count = o.pages.toNat
  big_frames : o.order_or_pages < 0 → sgPfns cfg o.sg_entries o.sg_count = sgPfns cfg f o.sg_count

/-- An object between calls, in a pool of clustering `ct`. -/
structure ObjShape (cfg : Config) (ct : sgv_clustering_types) (cached : Prop) (o : SgvObj) :
    Prop where
  length : o.sg_entries.length = o.pages.toNat
  table : 0 ≤ o.order_or_pages → ct ≠ .sgv_no_clustering →
    ∃ t, o.trans_tbl = some t ∧ t.length = o.pages.toNat
  unfilled : o.sg_count = 0 → o.filled = none
  filled : o.sg_count ≠ 0 → ∃ f, o.filled = some f ∧ FillKept cfg ct cached o f

/-- An object on the sorted list of pool `p`. -/
structure CachedObj (s : SgvState) (p id : Nat) (busy : Option Nat) : Prop where
  live : (s.objs id).isSome
  owner : (s.obj id).owner_pool = p
  bucketed : 0 ≤ (s.obj id).order_or_pages
  not_handed : id ∉ s.handed.map Prod.fst
  not_busy : busy ≠ some id

structure Inv (cfg : Config) (s : SgvState) (busy : Option Nat) : Prop where
  fresh : ∀ id, s.next_obj ≤ id → s.objs id = none
  sorted_once : ∀ p id, (s.pools p).sorted_recycling_list.count id ≤ 1
  sorted_obj : ∀ p id, id ∈ (s.pools p).sorted_recycling_list → CachedObj s p id busy
  lists : ∀ p k id, ((s.pools p).recycling_lists k).count id =
    if id ∈ (s.pools p).sorted_recycling_list ∧ (s.obj id).order_or_pages = k then 1 else 0
  handed : ∀ e ∈ s.handed, (s.objs e.1).isSome ∧ busy ≠ some e.1
  handed_nodup : (s.handed.map Prod.fst).Nodup
  shape : ∀ id o, s.objs id = some o → busy ≠ some id →
    ObjShape cfg (s.pools o.owner_pool).clustering_type (s.Cached id) o


section Congr
variable {cfg : Config} {t u : SgvState} {busy : Option Nat}

theorem Inv.congr (inv : Inv cfg t busy) (objs : u.objs = t.objs) (next : u.next_obj = t.next_obj)
    (handed : u.handed = t.handed)
    (pools : ∀ p, (u.pools p).recycling_lists = (t.pools p).recycling_lists ∧
      (u.pools p).sorted_recycling_list = (t.pools p).sorted_recycling_list ∧
      (u.pools p).clustering_type = (t.pools p).clustering_type) : Inv cfg u busy := by
  have obj : ∀ id, u.obj id = t.obj id := fun id => by simp [SgvState.obj, objs]
  have cached : ∀ id, u.Cached id = t.Cached id := fun id => by
    simp only [SgvState.Cached, obj, (pools _).2.1]
  refine ⟨fun id le => objs ▸ inv.fresh id (next ▸ le), fun p id => (pools p).2.1 ▸ inv.sorted_once p id,
    fun p id mem => ?_, fun p k id => ?_, fun e mem => ?_, handed ▸ inv.handed_nodup,
    fun id o get nb => ?_⟩
  · obtain ⟨live, owner, bucketed, not_handed, not_busy⟩ :=
      inv.sorted_obj p id ((pools p).2.1 ▸ mem)
    exact ⟨objs ▸ live, obj id ▸ owner, obj id ▸ bucketed, handed ▸ not_handed, not_busy⟩
  · rw [(pools p).1, (pools p).2.1, obj]; exact inv.lists p k id
  · rw [handed] at mem; rw [objs]; exact inv.handed e mem
  · rw [objs] at get
    rw [(pools _).2.2, cached]
    exact inv.shape id o get nb

theorem Inv.storeEq (inv : Inv cfg t busy) (same : StoreEq t u) : Inv cfg u busy :=
  inv.congr same.objs same.next_obj same.handed fun p =>
    ⟨same.recycling p, same.sorted p, same.clustering p⟩

end Congr

/-- `u`'s lists are `t`'s with object `id` taken off the sorted list and the
recycling list of its order in its pool. -/
structure Unlinked (t u : SgvState) (id : Nat) : Prop where
  clustering : ∀ q, (u.pools q).clustering_type = (t.pools q).clustering_type
  recycling : ∀ q k x, ((u.pools q).recycling_lists k).count x =
    ((t.pools q).recycling_lists k).count x -
      if x = id ∧ q = (t.obj id).owner_pool ∧ (k : Int) = (t.obj id).order_or_pages then 1 else 0
  sorted : ∀ q x, (u.pools q).sorted_recycling_list.count x =
    (t.pools q).sorted_recycling_list.count x - if x = id ∧ q = (t.obj id).owner_pool then 1 else 0

section Unlink
variable {cfg : Config} {t u : SgvState} {busy : Option Nat} {id : Nat}

theorem Inv.cached_of_mem {p : Nat} (inv : Inv cfg t busy)
    (mem : id ∈ (t.pools p).sorted_recycling_list) : t.Cached id := by
  have := (inv.sorted_obj p id mem).owner
  rw [SgvState.Cached, this]; exact mem

theorem Inv.mem_sorted_of_listed {p k : Nat} (inv : Inv cfg t busy)
    (mem : id ∈ (t.pools p).recycling_lists k) :
    id ∈ (t.pools p).sorted_recycling_list ∧ (t.obj id).order_or_pages = k := by
  have := inv.lists p k id
  rw [← List.count_pos_iff] at mem
  split at this
  · assumption
  · omega

theorem Inv.cached_of_listed {p : Nat} (inv : Inv cfg t busy)
    (listed : (∃ k, id ∈ (t.pools p).recycling_lists k) ∨ id ∈ (t.pools p).sorted_recycling_list) :
    t.Cached id := by
  rcases listed with ⟨k, mem⟩ | mem
  · exact inv.cached_of_mem (inv.mem_sorted_of_listed mem).1
  · exact inv.cached_of_mem mem

theorem Unlinked.mem_sorted (inv : Inv cfg t busy) (unl : Unlinked t u id) (cached : t.Cached id)
    (q x : Nat) :
    x ∈ (u.pools q).sorted_recycling_list ↔ x ∈ (t.pools q).sorted_recycling_list ∧ x ≠ id := by
  have count := unl.sorted q x
  have once := inv.sorted_once q x
  simp only [← List.count_pos_iff]
  by_cases same : x = id
  · subst same
    by_cases own : q = (t.obj x).owner_pool
    · subst own
      have := List.count_pos_iff.2 cached
      simp only [and_self, if_true] at count ⊢; omega
    · have absent : (t.pools q).sorted_recycling_list.count x = 0 := List.count_eq_zero.2
        fun mem => own (inv.sorted_obj q x mem).owner.symm
      simp only [own, and_false, if_false, absent] at count ⊢; omega
  · simp only [same, false_and, if_false, Nat.sub_zero] at count
    simp [count, same]

theorem Unlinked.count_recycling (inv : Inv cfg t busy) (unl : Unlinked t u id)
    (cached : t.Cached id) (q k x : Nat) :
    ((u.pools q).recycling_lists k).count x =
      if x = id then 0 else ((t.pools q).recycling_lists k).count x := by
  rw [unl.recycling]
  by_cases same : x = id
  · subst same
    rw [inv.lists]
    by_cases here : q = (t.obj x).owner_pool ∧ (k : Int) = (t.obj x).order_or_pages
    · have : x ∈ (t.pools (t.obj x).owner_pool).sorted_recycling_list := cached
      simp [here, this]
    · have : ¬(x ∈ (t.pools q).sorted_recycling_list ∧ (t.obj x).order_or_pages = k) :=
        fun ⟨mem, ord⟩ => here ⟨(inv.sorted_obj q x mem).owner.symm, ord.symm⟩
      simp [this, here]
  · simp [same]

/-- Unlinking object `id` keeps the invariant, whether the object is then
destroyed or held in the local of a call (`busy'`). -/
theorem Inv.unlinked {busy' : Option Nat} (inv : Inv cfg t busy) (unl : Unlinked t u id)
    (cached : t.Cached id) (objs : ∀ x, x ≠ id → u.objs x = t.objs x)
    (fresh : u.objs id = none ∨ u.objs id = t.objs id) (exempt : u.objs id = none ∨ busy' = some id)
    (busy_eq : ∀ x, x ≠ id → (busy' = some x ↔ busy = some x))
    (next : u.next_obj = t.next_obj) (handed : u.handed = t.handed) : Inv cfg u busy' := by
  have obj : ∀ x, x ≠ id → u.obj x = t.obj x := fun x ne => by simp [SgvState.obj, objs x ne]
  have not_handed := (inv.sorted_obj _ id cached).not_handed
  have still : ∀ x, x ≠ id → (u.Cached x ↔ t.Cached x) := fun x ne => by
    simp only [SgvState.Cached, obj x ne, unl.mem_sorted inv cached, ne, ne_eq, not_false_eq_true,
      and_true]
  refine ⟨fun x le => ?_, fun q x => ?_, fun q x mem => ?_, fun q k x => ?_, fun e mem => ?_,
    handed ▸ inv.handed_nodup, fun x o get nb => ?_⟩
  · by_cases same : x = id
    · subst same; rcases fresh with gone | kept
      · exact gone
      · rw [kept]; exact inv.fresh x (next ▸ le)
    · rw [objs x same]; exact inv.fresh x (next ▸ le)
  · rw [← List.count_pos_iff] at *
    have := unl.sorted q x
    have := inv.sorted_once q x
    omega
  · obtain ⟨mem, ne⟩ := (unl.mem_sorted inv cached q x).1 mem
    obtain ⟨live, owner, bucketed, nh, nb⟩ := inv.sorted_obj q x mem
    exact ⟨by rw [objs x ne]; exact live, by rw [obj x ne]; exact owner,
      by rw [obj x ne]; exact bucketed, handed ▸ nh, fun b => nb ((busy_eq x ne).1 b)⟩
  · rw [unl.count_recycling inv cached]
    by_cases same : x = id
    · simp [same, unl.mem_sorted inv cached]
    · rw [if_neg same, inv.lists, obj x same]
      simp [same, unl.mem_sorted inv cached]
  · rw [handed] at mem
    have ne : e.1 ≠ id := fun eq => not_handed (eq ▸ List.mem_map_of_mem _ mem)
    obtain ⟨live, nb⟩ := inv.handed e mem
    exact ⟨by rw [objs _ ne]; exact live, fun b => nb ((busy_eq _ ne).1 b)⟩
  · have ne : x ≠ id := by
      rintro rfl
      rcases exempt with gone | b
      · simp [gone] at get
      · exact nb b
    rw [objs x ne] at get
    rw [unl.clustering, propext (still x ne)]
    exact inv.shape x o get fun b => nb ((busy_eq x ne).2 b)

theorem Inv.purge_unlinked (inv : Inv cfg t busy) (cached : t.Cached id) :
    Unlinked t (__sgv_purge_from_cache t id) id := by
  obtain ⟨pools, active, cur, eq, same⟩ := purge_from_cache_eq t id
  have bucketed := (inv.sorted_obj _ id cached).bucketed
  rw [eq]
  refine ⟨fun q => (same q).1, fun q k x => ?_, fun q x => ?_⟩
  · rw [(same q).2.1]
    by_cases own : q = (t.obj id).owner_pool
    · by_cases ord : k = (t.obj id).order_or_pages.toNat
      · subst ord
        rcases eq_or_ne x id with rfl | ne
        · simp [own, Int.toNat_of_nonneg bucketed]
        · simp [own, List.count_erase, ne, Ne.symm ne]
      · have : ¬(k : Int) = (t.obj id).order_or_pages := fun e => ord (by omega)
        simp [own, Function.update_apply, ord, this]
    · simp [own]
  · rw [(same q).2.2]
    by_cases own : q = (t.obj id).owner_pool
    · rcases eq_or_ne x id with rfl | ne
      · simp [own]
      · simp [own, List.count_erase, ne, Ne.symm ne]
    · simp [own]

theorem Inv.get_obj_unlinked {p order : Nat} {rest : List Nat} (cache_ok : Bool)
    (inv : Inv cfg t busy) (head : (t.pools p).recycling_lists order = id :: rest) :
    Unlinked t (sgv_get_obj t p order cache_ok).1 id := by
  obtain ⟨mem, ord⟩ := inv.mem_sorted_of_listed (head ▸ List.mem_cons_self id rest)
  have own := (inv.sorted_obj p id mem).owner
  refine ⟨fun q => ?_, fun q k x => ?_, fun q x => ?_⟩
  · by_cases same : q = p <;> simp [sgv_get_obj, head, Function.update_apply, same]
  · by_cases same : q = p
    · subst same
      by_cases at_order : k = order
      · subst at_order
        rcases eq_or_ne x id with rfl | ne
        · simp [sgv_get_obj, head, own, ord, List.count_cons]
        · simp [sgv_get_obj, head, List.count_cons, ne, Ne.symm ne]
      · have : ¬(k : Int) = (t.obj id).order_or_pages := by omega
        simp [sgv_get_obj, head, Function.update_apply, at_order, this]
    · simp [sgv_get_obj, head, Function.update_apply, same, own, Ne.symm same]
  · by_cases same : q = p
    · subst same
      rcases eq_or_ne x id with rfl | ne
      · simp [sgv_get_obj, head, own]
      · simp [sgv_get_obj, head, List.count_erase, ne, Ne.symm ne]
    · simp [sgv_get_obj, head, Function.update_apply, same, own, Ne.symm same]

end Unlink

section Moves
variable {cfg : Config} {s t : SgvState} {busy : Option Nat} {id : Nat}

theorem Inv.purge (inv : Inv cfg t busy) (cached : t.Cached id) :
    Inv cfg (sgv_dtor_and_free cfg (__sgv_purge_from_cache t id) id) busy := by
  have unl := inv.purge_unlinked cached
  obtain ⟨pools, active, cur, eq, -⟩ := purge_from_cache_eq t id
  rw [eq] at unl ⊢
  rw [sgv_dtor_and_free_eq]
  exact inv.unlinked ⟨unl.1, unl.2, unl.3⟩ cached (fun x ne => by simp [ne]) (.inl (by simp))
    (.inl (by simp)) (fun _ _ => Iff.rfl) rfl rfl

theorem Inv.reclaimed (inv : Inv cfg s busy) (rec : Reclaimed cfg s t) : Inv cfg t busy := by
  induction rec with
  | refl => exact inv
  | purge _ listed ih => exact ih.purge (ih.cached_of_listed listed)
  | keep _ same ih => exact ih.storeEq same

theorem Inv.lt_next (inv : Inv cfg t busy) (live : (t.objs id).isSome) : id < t.next_obj := by
  by_contra past
  simp [inv.fresh id (by omega)] at live

theorem Inv.busy_not_listed (inv : Inv cfg t (some id)) (p : Nat) :
    id ∉ (t.pools p).sorted_recycling_list :=
  fun mem => (inv.sorted_obj p id mem).not_busy rfl

theorem Inv.busy_not_handed (inv : Inv cfg t (some id)) : id ∉ t.handed.map Prod.fst := by
  simp only [List.mem_map, not_exists, not_and]
  exact fun e mem eq => (inv.handed e mem).2 (eq ▸ rfl)

theorem Inv.take {p order : Nat} {rest : List Nat} (cache_ok : Bool) (inv : Inv cfg t none)
    (head : (t.pools p).recycling_lists order = id :: rest) :
    Inv cfg (sgv_get_obj t p order cache_ok).1 (some id) := by
  obtain ⟨mem, -⟩ := inv.mem_sorted_of_listed (head ▸ List.mem_cons_self id rest)
  have objs : (sgv_get_obj t p order cache_ok).1.objs = t.objs := by simp [sgv_get_obj, head]
  exact inv.unlinked (inv.get_obj_unlinked cache_ok head) (inv.cached_of_mem mem)
    (fun x _ => by rw [objs]) (.inr (by rw [objs])) (.inr rfl)
    (fun x ne => by simp [Ne.symm ne]) (by simp only [sgv_get_obj, head]; rfl)
    (by simp only [sgv_get_obj, head]; rfl)

theorem Inv.create (inv : Inv cfg t none) (o : SgvObj) : Inv cfg (t.newObj o) (some t.next_obj) := by
  have old : ∀ x, (t.objs x).isSome → x ≠ t.next_obj := fun x live => (inv.lt_next live).ne
  have obj : ∀ x, (t.objs x).isSome → (t.newObj o).obj x = t.obj x := fun x live => by
    simp [SgvState.obj, old x live]
  refine ⟨fun x le => ?_, inv.sorted_once, fun q x mem => ?_, fun q k x => ?_, fun e mem => ?_,
    inv.handed_nodup, fun x o' get nb => ?_⟩
  · rw [SgvState.newObj_next_obj] at le
    have ne : x ≠ t.next_obj := by omega
    simp [Function.update_apply, ne, inv.fresh x (by omega)]
  · obtain ⟨live, owner, bucketed, nh, -⟩ := inv.sorted_obj q x mem
    exact ⟨by simp [old x live, live], by rw [obj x live]; exact owner,
      by rw [obj x live]; exact bucketed, nh, fun b => old x live (Option.some_inj.1 b).symm⟩
  · rw [SgvState.newObj_pools, inv.lists]
    by_cases listed : x ∈ (t.pools q).sorted_recycling_list
    · rw [obj x (inv.sorted_obj q x listed).live]
    · simp [listed]
  · obtain ⟨live, -⟩ := inv.handed e mem
    exact ⟨by simp [old _ live, live], fun b => old _ live (Option.some_inj.1 b).symm⟩
  · have ne : x ≠ t.next_obj := fun eq => nb (eq ▸ rfl)
    simp only [SgvState.newObj_objs, Function.update_apply, ne, if_false] at get
    have cached : (t.newObj o).Cached x = t.Cached x := by
      simp only [SgvState.Cached, obj x (by simp [get])]; rfl
    rw [cached]
    exact inv.shape x o' get (by simp)

theorem Inv.set_busy (inv : Inv cfg t (some id)) (live : (t.objs id).isSome) (o : SgvObj) :
    Inv cfg (t.setObj id (some o)) (some id) := by
  have obj : ∀ x, x ≠ id → (t.setObj id (some o)).obj x = t.obj x := fun x ne => by
    simp [SgvState.obj, SgvState.setObj, ne]
  have not_busy : ∀ q x, x ∈ (t.pools q).sorted_recycling_list → x ≠ id := fun q x mem eq =>
    inv.busy_not_listed q (eq ▸ mem)
  refine ⟨fun x le => ?_, inv.sorted_once, fun q x mem => ?_, fun q k x => ?_, fun e mem => ?_,
    inv.handed_nodup, fun x o' get nb => ?_⟩
  · rw [SgvState.setObj_next_obj] at le
    have : x ≠ id := fun eq => by have := inv.lt_next live; omega
    simp [SgvState.setObj, this, inv.fresh x le]
  · obtain ⟨live', owner, bucketed, nh, nb⟩ := inv.sorted_obj q x mem
    have ne := not_busy q x mem
    exact ⟨by simp [SgvState.setObj, ne, live'], by rw [obj x ne]; exact owner,
      by rw [obj x ne]; exact bucketed, nh, nb⟩
  · by_cases same : x = id
    · subst same
      have := inv.lists q k x
      simp only [SgvState.setObj_pools, inv.busy_not_listed q, false_and, if_false] at this ⊢
      exact this
    · rw [SgvState.setObj_pools, inv.lists, obj x same]
  · obtain ⟨live', nb⟩ := inv.handed e mem
    have ne : e.1 ≠ id := fun eq => nb (eq ▸ rfl)
    exact ⟨by simp [SgvState.setObj, ne, live'], nb⟩
  · have ne : x ≠ id := fun eq => nb (eq ▸ rfl)
    simp only [SgvState.setObj_objs, Function.update_apply, ne, if_false] at get
    have cached : (t.setObj id (some o)).Cached x = t.Cached x := by
      simp only [SgvState.Cached, obj x ne]; rfl
    rw [cached, SgvState.setObj_pools]
    exact inv.shape x o' get nb

theorem Inv.drop_busy (inv : Inv cfg t (some id)) : Inv cfg (t.setObj id none) none := by
  have obj : ∀ x, x ≠ id → (t.setObj id none).obj x = t.obj x := fun x ne => by
    simp [SgvState.obj, SgvState.setObj, ne]
  have not_busy : ∀ q x, x ∈ (t.pools q).sorted_recycling_list → x ≠ id := fun q x mem eq =>
    inv.busy_not_listed q (eq ▸ mem)
  refine ⟨fun x le => ?_, inv.sorted_once, fun q x mem => ?_, fun q k x => ?_, fun e mem => ?_,
    inv.handed_nodup, fun x o' get _ => ?_⟩
  · by_cases same : x = id <;> simp [SgvState.setObj, Function.update_apply, same, inv.fresh x le]
  · obtain ⟨live', owner, bucketed, nh, -⟩ := inv.sorted_obj q x mem
    have ne := not_busy q x mem
    exact ⟨by simp [SgvState.setObj, ne, live'], by rw [obj x ne]; exact owner,
      by rw [obj x ne]; exact bucketed, nh, by simp⟩
  · by_cases same : x = id
    · subst same
      have := inv.lists q k x
      simp only [SgvState.setObj_pools, inv.busy_not_listed q, false_and, if_false] at this ⊢
      exact this
    · rw [SgvState.setObj_pools, inv.lists, obj x same]
  · obtain ⟨live', nb⟩ := inv.handed e mem
    have ne : e.1 ≠ id := fun eq => nb (eq ▸ rfl)
    exact ⟨by simp [SgvState.setObj, ne, live'], by simp⟩
  · have ne : x ≠ id := by rintro rfl; simp [SgvState.setObj] at get
    simp only [SgvState.setObj_objs, Function.update_apply, ne, if_false] at get
    have cached : (t.setObj id none).Cached x = t.Cached x := by
      simp only [SgvState.Cached, obj x ne]; rfl
    rw [cached, SgvState.setObj_pools]
    exact inv.shape x o' get fun b => ne (Option.some_inj.1 b).symm

/-- The call hands the object it holds to its caller. -/
theorem Inv.hand (inv : Inv cfg t (some id)) (live : (t.objs id).isSome) (m : Nat) {o : SgvObj}
    (shape : ObjShape cfg (t.pools o.owner_pool).clustering_type False o) :
    Inv cfg (t.handOut id m o) none := by
  have obj : ∀ x, x ≠ id → (t.handOut id m o).obj x = t.obj x := fun x ne => by
    simp [SgvState.obj, ne]
  have not_busy : ∀ q x, x ∈ (t.pools q).sorted_recycling_list → x ≠ id := fun q x mem eq =>
    inv.busy_not_listed q (eq ▸ mem)
  refine ⟨fun x le => ?_, inv.sorted_once, fun q x mem => ?_, fun q k x => ?_, fun e mem => ?_,
    ?_, fun x o' get _ => ?_⟩
  · rw [SgvState.handOut_next_obj] at le
    have : x ≠ id := fun eq => by have := inv.lt_next live; omega
    simp [this, inv.fresh x le]
  · obtain ⟨live', owner, bucketed, nh, -⟩ := inv.sorted_obj q x mem
    have ne := not_busy q x mem
    exact ⟨by simp [ne, live'], by rw [obj x ne]; exact owner, by rw [obj x ne]; exact bucketed,
      by simp [nh, ne, Ne.symm ne], by simp⟩
  · by_cases same : x = id
    · subst same
      have := inv.lists q k x
      simp only [SgvState.handOut_pools, inv.busy_not_listed q, false_and, if_false] at this ⊢
      exact this
    · rw [SgvState.handOut_pools, inv.lists, obj x same]
  · simp only [SgvState.handOut_handed, List.mem_append, List.mem_singleton] at mem
    rcases mem with mem | rfl
    · have ne : e.1 ≠ id := fun eq => (inv.handed e mem).2 (eq ▸ rfl)
      exact ⟨by simp [ne, (inv.handed e mem).1], by simp⟩
    · simp
  · simp only [SgvState.handOut_handed, List.map_append, List.map_cons, List.map_nil]
    exact List.nodup_append.2 ⟨inv.handed_nodup, List.nodup_singleton _,
      List.disjoint_singleton.2 inv.busy_not_handed⟩
  · by_cases same : x = id
    · subst same
      simp only [SgvState.handOut_objs, Function.update_same, Option.some_inj] at get
      subst get
      have uncached : ¬(t.handOut x m o).Cached x := by
        simpa [SgvState.Cached, SgvState.obj] using inv.busy_not_listed o.owner_pool
      rw [propext (iff_false_intro uncached), SgvState.handOut_pools]
      exact shape
    · simp only [SgvState.handOut_objs, Function.update_apply, same, if_false] at get
      have cached : (t.handOut id m o).Cached x = t.Cached x := by
        simp only [SgvState.Cached, obj x same]; rfl
      rw [cached, SgvState.handOut_pools]
      exact inv.shape x o' get fun b => same (Option.some_inj.1 b).symm

theorem Inv.release {m : Nat} (inv : Inv cfg t none) (mem : (id, m) ∈ t.handed) :
    Inv cfg { t with handed := t.handed.erase (id, m) } (some id) := by
  have nodup := inv.handed_nodup
  have gone : ∀ e ∈ t.handed.erase (id, m), e.1 ≠ id := fun e mem' eq => by
    have := (List.Nodup.of_map _ nodup).mem_erase_iff.1 mem'
    exact this.1 (List.inj_on_of_nodup_map nodup this.2 mem (by simp [eq]))
  have sub : List.Sublist ((t.handed.erase (id, m)).map Prod.fst) (t.handed.map Prod.fst) :=
    (List.erase_sublist _ _).map _
  have listed_handed : id ∈ t.handed.map Prod.fst := List.mem_map_of_mem _ mem
  refine ⟨inv.fresh, inv.sorted_once, fun q x mem' => ?_, inv.lists, fun e mem' => ?_,
    nodup.sublist sub, fun x o get nb => inv.shape x o get (by simp)⟩
  · obtain ⟨live, owner, bucketed, nh, -⟩ := inv.sorted_obj q x mem'
    exact ⟨live, owner, bucketed, fun h => nh (sub.subset h),
      fun b => nh (Option.some_inj.1 b ▸ listed_handed)⟩
  · exact ⟨(inv.handed e ((List.erase_sublist _ _).subset mem')).1,
      fun b => gone e mem' (Option.some_inj.1 b).symm⟩

end Moves

section Link
variable {cfg : Config} {t : SgvState} {id : Nat}

theorem put_obj_recycling_count (t : SgvState) (id q k x : Nat) :
    (((sgv_put_obj t id).pools q).recycling_lists k).count x =
      ((t.pools q).recycling_lists k).count x +
        if x = id ∧ q = (t.obj id).owner_pool ∧ k = (t.obj id).order_or_pages.toNat then 1 else 0 := by
  obtain ⟨i, le, rl, -⟩ := put_obj_link t id
  by_cases own : q = (t.obj id).owner_pool
  · subst own
    rw [rl]
    simp only [LifeSys.link, lifeOf, Function.update_apply]
    split
    · next ord =>
      subst ord
      rw [(List.perm_insertIdx _ _ le).count_eq, List.count_cons]
      by_cases same : x = id
      · simp [same]
      · simp [same, Ne.symm same]
    · simp [*]
  · simp [sgv_put_obj, own]

theorem put_obj_sorted_count (t : SgvState) (id q x : Nat) :
    ((sgv_put_obj t id).pools q).sorted_recycling_list.count x =
      (t.pools q).sorted_recycling_list.count x +
        if x = id ∧ q = (t.obj id).owner_pool then 1 else 0 := by
  by_cases own : q = (t.obj id).owner_pool
  · subst own
    by_cases same : x = id <;> simp [sgv_put_obj, same, List.count_singleton]
  · simp [sgv_put_obj, own]

@[simp] theorem put_obj_objs (t : SgvState) (id : Nat) :
    (sgv_put_obj t id).objs = Function.update t.objs id (some { t.obj id with time_stamp := t.jiffies }) :=
  rfl

@[simp] theorem put_obj_handed (t : SgvState) (id : Nat) : (sgv_put_obj t id).handed = t.handed :=
  rfl

/-- `sgv_put_obj` caches the object the call holds. -/
theorem Inv.link (inv : Inv cfg t (some id)) (live : (t.objs id).isSome)
    (bucketed : 0 ≤ (t.obj id).order_or_pages)
    (shape : ObjShape cfg (t.pools (t.obj id).owner_pool).clustering_type True
      { t.obj id with time_stamp := t.jiffies }) :
    Inv cfg (sgv_put_obj t id) none := by
  have obj : ∀ x, x ≠ id → (sgv_put_obj t id).obj x = t.obj x := fun x ne => by
    simp [SgvState.obj, ne]
  have obj_id : (sgv_put_obj t id).obj id = { t.obj id with time_stamp := t.jiffies } := by
    simp [SgvState.obj]
  have absent : ∀ q, (t.pools q).sorted_recycling_list.count id = 0 := fun q =>
    List.count_eq_zero.2 (inv.busy_not_listed q)
  have mem_sorted : ∀ q x, x ∈ ((sgv_put_obj t id).pools q).sorted_recycling_list ↔
      x ∈ (t.pools q).sorted_recycling_list ∨ x = id ∧ q = (t.obj id).owner_pool := fun q x => by
    simp only [← List.count_pos_iff, put_obj_sorted_count]
    split <;> simp_all
  have cached_id : (sgv_put_obj t id).Cached id := by
    simp [SgvState.Cached, obj_id, mem_sorted]
  have cached : ∀ x, x ≠ id → ((sgv_put_obj t id).Cached x ↔ t.Cached x) := fun x ne => by
    simp [SgvState.Cached, obj x ne, mem_sorted, ne]
  refine ⟨fun x le => ?_, fun q x => ?_, fun q x mem => ?_, fun q k x => ?_, fun e mem => ?_,
    inv.handed_nodup, fun x o get _ => ?_⟩
  · rw [put_obj_next_obj] at le
    have : x ≠ id := fun eq => by have := inv.lt_next live; omega
    simp [this, inv.fresh x le]
  · rw [put_obj_sorted_count]
    have := inv.sorted_once q x
    split
    · next here => rw [here.1, absent]
    · omega
  · rcases (mem_sorted q x).1 mem with old | ⟨rfl, rfl⟩
    · have ne : x ≠ id := fun eq => inv.busy_not_listed q (eq ▸ old)
      obtain ⟨live', owner, bucketed', nh, -⟩ := inv.sorted_obj q x old
      exact ⟨by simp [ne, live'], by rw [obj x ne]; exact owner, by rw [obj x ne]; exact bucketed',
        nh, by simp⟩
    · exact ⟨by simp, by rw [obj_id], by rw [obj_id]; exact bucketed, inv.busy_not_handed, by simp⟩
  · rw [put_obj_recycling_count, inv.lists]
    by_cases same : x = id
    · subst same
      have : (t.pools q).sorted_recycling_list.count x = 0 := absent q
      simp only [mem_sorted, obj_id, inv.busy_not_listed q, false_or, false_and, if_false,
        Nat.zero_add, true_and]
      by_cases own : q = (t.obj x).owner_pool
      · simp only [own, true_and]
        congr 1
        exact propext ⟨fun eq => by omega, fun eq => by omega⟩
      · simp [own]
    · simp [same, mem_sorted, obj x same]
  · exact ⟨by by_cases same : e.1 = id <;> simp [same, (inv.handed e mem).1], by simp⟩
  · by_cases same : x = id
    · subst same
      simp only [put_obj_objs, Function.update_same, Option.some_inj] at get
      subst get
      rw [propext (iff_true_intro cached_id), put_obj_clustering]
      exact shape
    · simp only [put_obj_objs, Function.update_apply, same, if_false] at get
      rw [propext (cached x same), put_obj_clustering]
      exact inv.shape x o get fun b => same (Option.some_inj.1 b).symm

end Link

end ScstMem
