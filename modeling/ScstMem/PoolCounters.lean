import ScstMem.Lifecycle

/-! The three counters of a pool under any interleaving of `sgv_pool_alloc`,
`sgv_pool_free`, `sgv_purge_work_fn`, `sgv_shrink` and `sgv_pool_flush`, over
the lifecycle model. `sgv_get_obj` counts a new object in the section that
finds `recycling_lists[order]` empty, and `kmem_cache_alloc` makes it after
the lock is dropped; `out_fail_free` uncounts the object of its call under the
lock and `kmem_cache_free` frees it after. Between the two halves the count
and the objects disagree: a counted object does not exist yet, or an object
still in `sgv_pool_alloc` is no longer counted (it is then with the thread that
destroys it, as a purged one is). -/
namespace ScstMem

/-- `1 << order_or_pages` of an object, given the objects' orders. -/
def orderPages (order : Nat → Nat) (id : Nat) : Int := 2 ^ order id

@[simp] theorem LifeSys.unlink_order_or_pages (l : LifeSys) (id : Nat) :
    (l.unlink id).order_or_pages = l.order_or_pages := rfl

@[simp] theorem LifeSys.link_order_or_pages (l : LifeSys) (id i : Nat) :
    (l.link id i).order_or_pages = l.order_or_pages := rfl

/-- A pool of the lifecycle model with `cached_entries`, `cached_pages` and
`inactive_cached_pages`. -/
structure CountSys where
  life : LifeSys
  cached_entries : Int
  cached_pages : Int
  inactive_cached_pages : Int
  /-- The orders of the objects `sgv_get_obj` has counted and not yet made. -/
  counting : List Nat

inductive CountStep : CountSys → CountSys → Prop
  /-- `sgv_get_obj` takes the head of `recycling_lists[order]`. -/
  | get_cached (c : CountSys) (k id : Nat) (rest : List Nat) : c.life.recycling_lists k = id :: rest →
      CountStep c { c with
        life := { c.life.unlink id with held := id :: c.life.held }
        inactive_cached_pages := c.inactive_cached_pages - 2 ^ k }
  /-- `sgv_get_obj` finds `recycling_lists[order]` empty and counts a new object. -/
  | count (c : CountSys) (k : Nat) : c.life.recycling_lists k = [] →
      CountStep c { c with
        cached_entries := c.cached_entries + 1
        cached_pages := c.cached_pages + 2 ^ k
        counting := k :: c.counting }
  /-- `kmem_cache_alloc` returns the object. -/
  | create (c : CountSys) (k : Nat) : k ∈ c.counting →
      CountStep c { c with
        life := { c.life with
          order_or_pages := Function.update c.life.order_or_pages c.life.next_obj k
          next_obj := c.life.next_obj + 1
          held := c.life.next_obj :: c.life.held }
        counting := c.counting.erase k }
  /-- `kmem_cache_alloc` fails and `sgv_dec_cached_entries` takes the count back. -/
  | cache_fail (c : CountSys) (k : Nat) : k ∈ c.counting →
      CountStep c { c with
        cached_entries := c.cached_entries - 1
        cached_pages := c.cached_pages - 2 ^ k
        counting := c.counting.erase k }
  /-- `out_fail_free` uncounts the object of its call with `sgv_dec_cached_entries`. -/
  | uncount (c : CountSys) (id : Nat) : id ∈ c.life.held →
      CountStep c { c with
        life := { c.life with
          held := c.life.held.erase id
          destroying := id :: c.life.destroying }
        cached_entries := c.cached_entries - 1
        cached_pages := c.cached_pages - orderPages c.life.order_or_pages id }
  /-- `sgv_pool_free` of a bucketed object: `sgv_put_obj`. -/
  | put (c : CountSys) (id i : Nat) : id ∈ c.life.held →
      i ≤ (c.life.recycling_lists (c.life.order_or_pages id)).length →
      CountStep c { c with
        life := { c.life.link id i with held := c.life.held.erase id }
        inactive_cached_pages := c.inactive_cached_pages + orderPages c.life.order_or_pages id }
  /-- `sgv_purge_work_fn` and `sgv_shrink_pool` purge the oldest object. -/
  | purge (c : CountSys) (id : Nat) (rest : List Nat) : c.life.sorted_recycling_list = id :: rest →
      CountStep c { c with
        life := { c.life.unlink id with destroying := id :: c.life.destroying }
        cached_entries := c.cached_entries - 1
        cached_pages := c.cached_pages - orderPages c.life.order_or_pages id
        inactive_cached_pages := c.inactive_cached_pages - orderPages c.life.order_or_pages id }
  /-- `sgv_pool_flush` purges the head of `recycling_lists[k]`. -/
  | flush (c : CountSys) (k id : Nat) (rest : List Nat) : c.life.recycling_lists k = id :: rest →
      CountStep c { c with
        life := { c.life.unlink id with destroying := id :: c.life.destroying }
        cached_entries := c.cached_entries - 1
        cached_pages := c.cached_pages - orderPages c.life.order_or_pages id
        inactive_cached_pages := c.inactive_cached_pages - orderPages c.life.order_or_pages id }
  /-- `sgv_dtor_and_free` or `kmem_cache_free` after the lock is dropped. -/
  | dtor (c : CountSys) (id : Nat) : id ∈ c.life.destroying →
      CountStep c { c with
        life := { c.life with
          destroying := c.life.destroying.erase id
          destroyed := id :: c.life.destroyed } }

/-- The pool after `sgv_pool_init`. -/
def CountSys.initial : CountSys := ⟨LifeSys.initial, 0, 0, 0, []⟩

inductive CountReach : CountSys → Prop
  | init : CountReach CountSys.initial
  | step {c c' : CountSys} : CountReach c → CountStep c c' → CountReach c'

/-- What the counters stand for: the objects with a caller or in
`sgv_pool_alloc`, the cached ones, and the calls between the two halves of
`sgv_get_obj`. -/
structure CountInv (c : CountSys) : Prop where
  life : LifeInv c.life
  entries : c.cached_entries =
    c.life.held.length + c.life.sorted_recycling_list.length + c.counting.length
  pages : c.cached_pages = (c.life.held.map (orderPages c.life.order_or_pages)).sum +
    (c.life.sorted_recycling_list.map (orderPages c.life.order_or_pages)).sum + (c.counting.map fun k => (2 : Int) ^ k).sum
  inactive : c.inactive_cached_pages = (c.life.sorted_recycling_list.map (orderPages c.life.order_or_pages)).sum

section Sums

theorem sum_map_erase_sub {α : Type} [DecidableEq α] (f : α → Int) {a : α} {l : List α}
    (mem : a ∈ l) : ((l.erase a).map f).sum = (l.map f).sum - f a := by
  have := List.sum_map_erase f mem
  omega

theorem sum_pow_erase {k : Nat} {l : List Nat} (mem : k ∈ l) :
    ((l.erase k).map fun k => (2 : Int) ^ k).sum = (l.map fun k => (2 : Int) ^ k).sum - 2 ^ k :=
  sum_map_erase_sub _ mem

end Sums

namespace LifeInv
variable {l : LifeSys}

theorem uncount (inv : LifeInv l) {id : Nat} (mem : id ∈ l.held) :
    LifeInv { l with held := l.held.erase id, destroying := id :: l.destroying } := by
  refine ⟨fun a => ?_, inv.linked⟩
  have := count_erase_add mem a
  have := inv.copies_eq a
  simp only [LifeSys.copies, count_cons_eq] at *
  omega

theorem fresh (inv : LifeInv l) :
    l.next_obj ∉ l.held ∧ l.next_obj ∉ l.sorted_recycling_list := by
  have none := inv.copies_eq l.next_obj
  simp only [lt_irrefl, if_false, LifeSys.copies, Nat.add_eq_zero_iff, List.count_eq_zero] at none
  exact ⟨none.1.1.1, none.1.1.2⟩

end LifeInv

theorem CountInv.step {c c' : CountSys} (inv : CountInv c) (step : CountStep c c') : CountInv c' := by
  obtain ⟨life, entries, pages, inactive⟩ := inv
  cases step with
  | get_cached k id rest head =>
    obtain ⟨order, mem⟩ := life.linked.head head
    have at_k : orderPages c.life.order_or_pages id = 2 ^ k := by rw [orderPages, ← order]
    have := List.length_pos_of_mem mem
    refine ⟨life.step (.get_cached _ k id rest head), ?_, ?_, ?_⟩ <;>
      simp only [LifeSys.unlink_order_or_pages, LifeSys.unlink, List.length_cons,
        List.length_erase_of_mem mem, List.map_cons, List.sum_cons, sum_map_erase_sub _ mem] <;> omega
  | count k _ =>
    refine ⟨life, ?_, ?_, inactive⟩ <;> simp only [List.length_cons, List.map_cons, List.sum_cons] <;> omega
  | create k mem =>
    obtain ⟨fresh_held, fresh_sorted⟩ := life.fresh
    have same : ∀ ids : List Nat, c.life.next_obj ∉ ids →
        ids.map (orderPages (Function.update c.life.order_or_pages c.life.next_obj k)) =
          ids.map (orderPages c.life.order_or_pages) := fun ids fresh =>
      List.map_congr_left fun id mem => by
        rw [orderPages, orderPages,
          Function.update_noteq fun (eq : id = c.life.next_obj) => fresh (eq ▸ mem)]
    have new : orderPages (Function.update c.life.order_or_pages c.life.next_obj k) c.life.next_obj =
        2 ^ k := by rw [orderPages, Function.update_same]
    have := List.length_pos_of_mem mem
    refine ⟨life.step (.get_new _ k), ?_, ?_, ?_⟩ <;>
      simp only [List.length_cons, List.length_erase_of_mem mem, List.map_cons, List.sum_cons,
        same _ fresh_held, same _ fresh_sorted, sum_pow_erase mem, new] <;> omega
  | cache_fail k mem =>
    have := List.length_pos_of_mem mem
    refine ⟨life, ?_, ?_, inactive⟩ <;> simp only [List.length_erase_of_mem mem, sum_pow_erase mem] <;> omega
  | uncount id mem =>
    have := List.length_pos_of_mem mem
    refine ⟨life.uncount mem, ?_, ?_, inactive⟩ <;>
      simp only [List.length_erase_of_mem mem, sum_map_erase_sub _ mem] <;> omega
  | put id i mem pos =>
    have := List.length_pos_of_mem mem
    refine ⟨life.step (.put _ id i mem pos), ?_, ?_, ?_⟩ <;>
      simp only [LifeSys.link_order_or_pages, LifeSys.link, List.length_erase_of_mem mem,
        List.length_append, List.length_singleton, sum_map_erase_sub _ mem, List.map_append,
        List.map_singleton, List.sum_append, List.sum_singleton] <;> omega
  | purge id rest head =>
    have mem : id ∈ c.life.sorted_recycling_list := by simp [head]
    have := List.length_pos_of_mem mem
    refine ⟨life.step (.purge _ id rest head), ?_, ?_, ?_⟩ <;>
      simp only [LifeSys.unlink_order_or_pages, LifeSys.unlink, List.length_erase_of_mem mem,
        sum_map_erase_sub _ mem] <;> omega
  | flush k id rest head =>
    obtain ⟨-, mem⟩ := life.linked.head head
    have := List.length_pos_of_mem mem
    refine ⟨life.step (.flush _ k id rest head), ?_, ?_, ?_⟩ <;>
      simp only [LifeSys.unlink_order_or_pages, LifeSys.unlink, List.length_erase_of_mem mem,
        sum_map_erase_sub _ mem] <;> omega
  | dtor id mem => exact ⟨life.step (.dtor _ id mem), entries, pages, inactive⟩

theorem CountReach.inv {c : CountSys} (reach : CountReach c) : CountInv c := by
  induction reach with
  | init => exact ⟨LifeReach.init.inv, by simp [CountSys.initial, LifeSys.initial],
      by simp [CountSys.initial, LifeSys.initial], by simp [CountSys.initial, LifeSys.initial]⟩
  | step _ step inv => exact inv.step step

/-- `cached_entries`, `cached_pages` and `inactive_cached_pages`. -/
def SgvPool.counters (pool : SgvPool) : Int × Int × Int :=
  (pool.cached_entries, pool.cached_pages, pool.inactive_cached_pages)

section Counters
variable {cfg : Config} (s : SgvState)

theorem dec_cached_entries_counters (p : Nat) (pages : Int) :
    ((sgv_dec_cached_entries s p pages).pools p).counters =
      ((s.pools p).cached_entries - 1, (s.pools p).cached_pages - pages,
        (s.pools p).inactive_cached_pages) := by
  unfold sgv_dec_cached_entries
  dsimp only
  split <;> simp [SgvPool.counters, sgv_del_from_active, SgvState.setPool]

theorem get_obj_counters (p order : Nat) (cache_ok : Bool) :
    ((sgv_get_obj s p order cache_ok).1.pools p).counters =
      if (s.pools p).recycling_lists order = [] then
        if cache_ok then ((s.pools p).cached_entries + 1, (s.pools p).cached_pages + 2 ^ order,
          (s.pools p).inactive_cached_pages)
        else (s.pools p).counters
      else ((s.pools p).cached_entries, (s.pools p).cached_pages,
        (s.pools p).inactive_cached_pages - 2 ^ order) := by
  unfold sgv_get_obj
  split
  · next id rest head => simp [head, SgvPool.counters, SgvState.setPool]
  · next empty =>
    rw [if_pos empty]
    dsimp only
    have pools : (if (s.pools p).cached_entries = 0 then
        { s with sgv_active_pools_list := s.sgv_active_pools_list ++ [p] } else s).pools = s.pools := by
      split <;> rfl
    cases cache_ok
    · simp only [Bool.false_eq_true, if_false]
      rw [dec_cached_entries_counters]
      simp [SgvPool.counters, SgvState.setPool, pools]
    · simp [SgvPool.counters, SgvState.setPool, pools]

theorem put_obj_counters (id : Nat) :
    ((sgv_put_obj s id).pools (s.obj id).owner_pool).counters =
      ((s.pools (s.obj id).owner_pool).cached_entries, (s.pools (s.obj id).owner_pool).cached_pages,
        (s.pools (s.obj id).owner_pool).inactive_cached_pages + 2 ^ (s.obj id).order_or_pages.toNat) := by
  simp [sgv_put_obj, SgvPool.counters, SgvState.setPool, SgvState.setObj]

theorem purge_from_cache_counters (id : Nat) :
    ((__sgv_purge_from_cache s id).pools (s.obj id).owner_pool).counters =
      ((s.pools (s.obj id).owner_pool).cached_entries - 1,
        (s.pools (s.obj id).owner_pool).cached_pages - 2 ^ (s.obj id).order_or_pages.toNat,
        (s.pools (s.obj id).owner_pool).inactive_cached_pages - 2 ^ (s.obj id).order_or_pages.toNat) := by
  unfold __sgv_purge_from_cache
  dsimp only
  rw [dec_cached_entries_counters]
  simp [SgvPool.counters, SgvState.setPool]

end Counters

end ScstMem
