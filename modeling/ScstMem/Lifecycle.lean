import ScstMem.Pool

/-! The bucketed objects of one pool under any interleaving of
`sgv_pool_alloc`, `sgv_pool_free`, `sgv_purge_work_fn`, `sgv_shrink` and
`sgv_pool_flush`. Each section under `sgv_pool_lock` is one step, and so is
each `sgv_dtor_and_free` after the lock is dropped. An object a call holds in a
local between two of its sections is with that call's caller (`held`), with
the purging thread (`destroying`), or given back to the slab (`destroyed`).
`list_del` of an object's two list entries unlinks it from
`sorted_recycling_list` and from the recycling list of its order; the
position `sgv_put_obj` picks in a clustered pool is left open. -/
namespace ScstMem

structure LifeSys where
  recycling_lists : Nat → List Nat
  sorted_recycling_list : List Nat
  order_or_pages : Nat → Nat
  /-- The objects made so far are `0 .. next_obj - 1`. -/
  next_obj : Nat
  /-- Objects returned to a caller, or in its `sgv_pool_alloc`. -/
  held : List Nat
  /-- Objects a purge, shrink or flush unlinked and has not destroyed yet. -/
  destroying : List Nat
  /-- Objects given back to `kmem_cache_free`. -/
  destroyed : List Nat

namespace LifeSys
variable (l : LifeSys) (id : Nat)

/-- The two `list_del`s of `__sgv_purge_from_cache` and `sgv_get_obj`. -/
def unlink : LifeSys :=
  { l with
    recycling_lists := Function.update l.recycling_lists (l.order_or_pages id)
      ((l.recycling_lists (l.order_or_pages id)).erase id)
    sorted_recycling_list := l.sorted_recycling_list.erase id }

/-- The two `list_add`s of `sgv_put_obj`, at position `i` of the recycling
list. -/
def link (i : Nat) : LifeSys :=
  { l with
    recycling_lists := Function.update l.recycling_lists (l.order_or_pages id)
      ((l.recycling_lists (l.order_or_pages id)).insertIdx i id)
    sorted_recycling_list := l.sorted_recycling_list ++ [id] }

end LifeSys

inductive LifeStep : LifeSys → LifeSys → Prop
  /-- `sgv_get_obj` takes the head of `recycling_lists[order]`. -/
  | get_cached (l : LifeSys) (k id : Nat) (rest : List Nat) : l.recycling_lists k = id :: rest →
      LifeStep l { l.unlink id with held := id :: l.held }
  /-- `sgv_get_obj` finds the list empty and makes a new object. -/
  | get_new (l : LifeSys) (k : Nat) :
      LifeStep l { l with order_or_pages := Function.update l.order_or_pages l.next_obj k,
                          next_obj := l.next_obj + 1, held := l.next_obj :: l.held }
  /-- `out_fail_free` of `sgv_pool_alloc`, on a new or a supplied object. -/
  | drop (l : LifeSys) (id : Nat) : id ∈ l.held →
      LifeStep l { l with held := l.held.erase id, destroyed := id :: l.destroyed }
  /-- `sgv_pool_free` of a bucketed object. -/
  | put (l : LifeSys) (id i : Nat) : id ∈ l.held →
      i ≤ (l.recycling_lists (l.order_or_pages id)).length →
      LifeStep l { l.link id i with held := l.held.erase id }
  /-- `sgv_purge_work_fn` and `sgv_shrink_pool` unlink the oldest object. -/
  | purge (l : LifeSys) (id : Nat) (rest : List Nat) : l.sorted_recycling_list = id :: rest →
      LifeStep l { l.unlink id with destroying := id :: l.destroying }
  /-- `sgv_pool_flush` unlinks the head of `recycling_lists[k]`. -/
  | flush (l : LifeSys) (k id : Nat) (rest : List Nat) : l.recycling_lists k = id :: rest →
      LifeStep l { l.unlink id with destroying := id :: l.destroying }
  /-- `sgv_dtor_and_free` after the lock is dropped. -/
  | dtor (l : LifeSys) (id : Nat) : id ∈ l.destroying →
      LifeStep l { l with destroying := l.destroying.erase id, destroyed := id :: l.destroyed }

/-- A pool after `sgv_pool_init`. -/
def LifeSys.initial : LifeSys := ⟨fun _ => [], [], fun _ => 0, 0, [], [], []⟩

inductive LifeReach : LifeSys → Prop
  | init : LifeReach LifeSys.initial
  | step {l l' : LifeSys} : LifeReach l → LifeStep l l' → LifeReach l'

theorem count_cons_eq (x a : Nat) (L : List Nat) :
    (x :: L).count a = L.count a + if x = a then 1 else 0 := by
  simp [List.count_cons]

theorem count_erase_add {x : Nat} {L : List Nat} (mem : x ∈ L) (a : Nat) :
    (L.erase x).count a + (if x = a then 1 else 0) = L.count a := by
  by_cases same : x = a
  · subst same
    have := List.count_pos_iff.2 mem
    simp only [List.count_erase_self, if_true]
    omega
  · simp [List.count_erase_of_ne (Ne.symm same), same]

namespace LifeSys
variable (l : LifeSys)

/-- Every object is on `recycling_lists[order_or_pages]` as often as on
`sorted_recycling_list`, and on no other recycling list. -/
def Linked : Prop :=
  ∀ k id, (l.recycling_lists k).count id =
    if k = l.order_or_pages id then l.sorted_recycling_list.count id else 0

/-- How often an object is with a caller, on the sorted list, with a
destroying thread, or destroyed. -/
def copies (id : Nat) : Nat :=
  l.held.count id + l.sorted_recycling_list.count id + l.destroying.count id +
    l.destroyed.count id

variable {l}

theorem Linked.head {k id : Nat} {rest : List Nat} (linked : l.Linked)
    (head : l.recycling_lists k = id :: rest) :
    k = l.order_or_pages id ∧ id ∈ l.sorted_recycling_list := by
  have := linked k id
  rw [head, List.count_cons_self] at this
  split at this
  · exact ⟨‹_›, List.count_pos_iff.1 (by omega)⟩
  · omega

theorem Linked.unlink {id : Nat} (linked : l.Linked) (mem : id ∈ l.sorted_recycling_list) :
    (l.unlink id).Linked := by
  intro k a
  have before := linked k a
  have own := linked (l.order_or_pages id) id
  have pos := List.count_pos_iff.2 mem
  simp only [LifeSys.unlink, Function.update_apply, if_true] at own ⊢
  by_cases same : a = id
  · subst same
    split <;> simp_all [List.count_erase_self]
  · simp only [List.count_erase_of_ne same]
    split <;> simp_all

theorem Linked.link {id : Nat} (i : Nat) (linked : l.Linked)
    (pos : i ≤ (l.recycling_lists (l.order_or_pages id)).length) : (l.link id i).Linked := by
  intro k a
  have before := linked k a
  simp only [LifeSys.link, Function.update_apply]
  split
  · rename_i at_order
    subst at_order
    rw [(List.perm_insertIdx _ _ pos).count_eq, List.count_cons, List.count_append,
      List.count_singleton, linked]
    by_cases same : id = a <;> simp_all
  · rw [List.count_append, List.count_singleton]
    by_cases same : id = a <;> simp_all

end LifeSys

structure LifeInv (l : LifeSys) : Prop where
  copies_eq : ∀ id, l.copies id = if id < l.next_obj then 1 else 0
  linked : l.Linked

theorem LifeInv.step {l l' : LifeSys} (inv : LifeInv l) : LifeStep l l' → LifeInv l'
  | .get_cached _ k id rest head => by
      obtain ⟨-, mem⟩ := inv.linked.head head
      refine ⟨fun a => ?_, inv.linked.unlink mem⟩
      have := count_erase_add mem a
      have := inv.copies_eq a
      simp only [LifeSys.copies, LifeSys.unlink, count_cons_eq] at *
      omega
  | .get_new _ k => by
      have fresh := inv.copies_eq l.next_obj
      simp only [lt_irrefl, if_false, LifeSys.copies, Nat.add_eq_zero_iff, List.count_eq_zero] at fresh
      refine ⟨fun a => ?_, fun k' a => ?_⟩
      · have := inv.copies_eq a
        simp only [LifeSys.copies, count_cons_eq] at this ⊢
        by_cases same : l.next_obj = a
        · subst same
          simp only [List.count_eq_zero.2 fresh.1.1.1, List.count_eq_zero.2 fresh.1.1.2,
            List.count_eq_zero.2 fresh.1.2, List.count_eq_zero.2 fresh.2]
          simp
        · simp only [same, if_false]
          split_ifs at this ⊢ <;> omega
      · have := inv.linked k' a
        by_cases same : a = l.next_obj
        · subst same
          rw [List.count_eq_zero.2 fresh.1.1.2] at this
          simp only [Function.update_same, List.count_eq_zero.2 fresh.1.1.2]
          split_ifs at this ⊢ <;> simp_all
        · simpa [Function.update_noteq same] using this
  | .drop _ id mem => by
      refine ⟨fun a => ?_, inv.linked⟩
      have := count_erase_add mem a
      have := inv.copies_eq a
      simp only [LifeSys.copies, count_cons_eq] at *
      omega
  | .put _ id i mem pos => by
      refine ⟨fun a => ?_, inv.linked.link i pos⟩
      have := count_erase_add mem a
      have := inv.copies_eq a
      simp only [LifeSys.copies, LifeSys.link, List.count_append, List.count_singleton,
        beq_iff_eq] at *
      omega
  | .purge _ id rest head => by
      have mem : id ∈ l.sorted_recycling_list := by simp [head]
      refine ⟨fun a => ?_, inv.linked.unlink mem⟩
      have := count_erase_add mem a
      have := inv.copies_eq a
      simp only [LifeSys.copies, LifeSys.unlink, count_cons_eq] at *
      omega
  | .flush _ k id rest head => by
      obtain ⟨-, mem⟩ := inv.linked.head head
      refine ⟨fun a => ?_, inv.linked.unlink mem⟩
      have := count_erase_add mem a
      have := inv.copies_eq a
      simp only [LifeSys.copies, LifeSys.unlink, count_cons_eq] at *
      omega
  | .dtor _ id mem => by
      refine ⟨fun a => ?_, inv.linked⟩
      have := count_erase_add mem a
      have := inv.copies_eq a
      simp only [LifeSys.copies, count_cons_eq] at *
      omega

theorem LifeReach.inv {l : LifeSys} (reach : LifeReach l) : LifeInv l := by
  induction reach with
  | init => exact ⟨fun _ => by simp [LifeSys.initial, LifeSys.copies], fun _ _ => by
      simp [LifeSys.initial]⟩
  | step _ step inv => exact inv.step step

/-- Pool `p` of a sequential state as the lifecycle sees it, with no object
in a local. -/
def lifeOf (s : SgvState) (p : Nat) : LifeSys :=
  ⟨(s.pools p).recycling_lists, (s.pools p).sorted_recycling_list,
    fun id => (s.obj id).order_or_pages.toNat, s.next_obj, [], [], []⟩

theorem insertBySgCount_eq_insertIdx (s : SgvState) (count id : Nat) (list : List Nat) :
    ∃ i ≤ list.length, insertBySgCount s count id list = list.insertIdx i id := by
  induction list with
  | nil => exact ⟨0, le_rfl, rfl⟩
  | cons x rest ih =>
    obtain ⟨i, le, eq⟩ := ih
    unfold insertBySgCount
    split
    · exact ⟨0, Nat.zero_le _, rfl⟩
    · exact ⟨i + 1, by simpa using le, by rw [eq, List.insertIdx_succ_cons]⟩

theorem purge_from_cache_unlink (s : SgvState) (id : Nat) :
    ((__sgv_purge_from_cache s id).pools (s.obj id).owner_pool).recycling_lists =
        ((lifeOf s (s.obj id).owner_pool).unlink id).recycling_lists ∧
      ((__sgv_purge_from_cache s id).pools (s.obj id).owner_pool).sorted_recycling_list =
        ((lifeOf s (s.obj id).owner_pool).unlink id).sorted_recycling_list := by
  simp [__sgv_purge_from_cache, LifeSys.unlink, lifeOf, SgvState.setPool]

theorem get_obj_unlink (s : SgvState) (p order : Nat) (cache_ok : Bool) {id : Nat}
    {rest : List Nat} (head : (s.pools p).recycling_lists order = id :: rest)
    (own : (s.obj id).order_or_pages.toNat = order) :
    ((sgv_get_obj s p order cache_ok).1.pools p).recycling_lists =
        ((lifeOf s p).unlink id).recycling_lists ∧
      ((sgv_get_obj s p order cache_ok).1.pools p).sorted_recycling_list =
        ((lifeOf s p).unlink id).sorted_recycling_list := by
  simp [sgv_get_obj, head, LifeSys.unlink, lifeOf, SgvState.setPool, own]

theorem put_obj_link (s : SgvState) (id : Nat) :
    ∃ i ≤ ((s.pools (s.obj id).owner_pool).recycling_lists (s.obj id).order_or_pages.toNat).length,
      ((sgv_put_obj s id).pools (s.obj id).owner_pool).recycling_lists =
          ((lifeOf s (s.obj id).owner_pool).link id i).recycling_lists ∧
        ((sgv_put_obj s id).pools (s.obj id).owner_pool).sorted_recycling_list =
          ((lifeOf s (s.obj id).owner_pool).link id i).sorted_recycling_list := by
  obtain ⟨i, le, eq⟩ := insertBySgCount_eq_insertIdx s (s.obj id).sg_count id
    ((s.pools (s.obj id).owner_pool).recycling_lists (s.obj id).order_or_pages.toNat)
  by_cases clustered : (s.pools (s.obj id).owner_pool).clustering_type = .sgv_no_clustering
  · exact ⟨0, Nat.zero_le _, by
      simp [sgv_put_obj, clustered, LifeSys.link, lifeOf, SgvState.setPool]⟩
  · exact ⟨i, le, by simp [sgv_put_obj, clustered, LifeSys.link, lifeOf, SgvState.setPool, eq]⟩

end ScstMem
