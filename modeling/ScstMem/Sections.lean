import ScstMem.Reclaim
import ScstMem.Lifecycle

/-! The pool lists and the active-pool registry under any interleaving of the
calls. Every section under `sgv_pool_lock` or `sgv_pools_lock` is one step,
made by the sequential model's own function: `sgv_get_obj` on a hit, the
section of `sgv_get_obj` that counts a new object, the `kmem_cache_alloc` that
makes it, `sgv_dec_cached_entries`, `sgv_put_obj`, `__sgv_purge_from_cache`
and the `sgv_dtor_and_free` after it, and the cursor's move at the start of a
round of `__sgv_shrink`. `sgv_dec_cached_entries` and `sgv_put_obj` run only
on an object their pool counts off its lists, one `sgv_get_obj` counted, so
`cached_entries` never falls below the objects listed (`Counted`). The clock
only moves forward. A call changes the objects it holds off the lists at will,
and the counters, charges, flags and statistics that no invariant here
reads. -/
namespace ScstMem
open sgv_clustering_types

/-- The section of `sgv_get_obj` that finds `recycling_lists[order]` empty:
the pool's first object puts the pool on the active list, and the new object
is counted. -/
def getObjCount (s : SgvState) (p order : Nat) : SgvState :=
  let s1 := if (s.pools p).cached_entries = 0 then
      { s with sgv_active_pools_list := s.sgv_active_pools_list ++ [p] }
    else s
  s1.setPool p fun pool =>
    { pool with cached_entries := pool.cached_entries + 1,
                cached_pages := pool.cached_pages + 2 ^ order }

section Count
variable (s : SgvState) (p order : Nat)

@[simp] theorem getObjCount_active : (getObjCount s p order).sgv_active_pools_list =
    if (s.pools p).cached_entries = 0 then s.sgv_active_pools_list ++ [p] else s.sgv_active_pools_list := by
  unfold getObjCount; split <;> rfl

@[simp] theorem getObjCount_cursor :
    (getObjCount s p order).sgv_cur_purge_pool = s.sgv_cur_purge_pool := by
  unfold getObjCount; split <;> rfl

@[simp] theorem getObjCount_pools : (getObjCount s p order).pools = Function.update s.pools p
    { s.pools p with cached_entries := (s.pools p).cached_entries + 1,
                     cached_pages := (s.pools p).cached_pages + 2 ^ order } := by
  unfold getObjCount; split <;> rfl

@[simp] theorem getObjCount_objs : (getObjCount s p order).objs = s.objs := by
  unfold getObjCount; split <;> rfl

@[simp] theorem getObjCount_next_obj : (getObjCount s p order).next_obj = s.next_obj := by
  unfold getObjCount; split <;> rfl

@[simp] theorem getObjCount_jiffies : (getObjCount s p order).jiffies = s.jiffies := by
  unfold getObjCount; split <;> rfl

theorem sgv_get_obj_miss {s : SgvState} {p order : Nat} (ok : Bool)
    (empty : (s.pools p).recycling_lists order = []) :
    sgv_get_obj s p order ok = if ok then
        ((getObjCount s p order).newObj (freshObj p order), some (getObjCount s p order).next_obj)
      else (sgv_dec_cached_entries (getObjCount s p order) p (2 ^ order), none) := by
  simp only [sgv_get_obj, empty, getObjCount]

end Count

/-- On the lists of some pool. -/
def SgvState.Listed (s : SgvState) (id : Nat) : Prop := ∃ p, id ∈ (s.pools p).sorted_recycling_list

/-- What a step that touches none of the lists leaves alone: the objects, the
pools' lists, clustering and `cached_entries`, the active list, the cursor and
the clock. -/
structure ListsKept (s u : SgvState) : Prop where
  objs : u.objs = s.objs
  next_obj : u.next_obj = s.next_obj
  active : u.sgv_active_pools_list = s.sgv_active_pools_list
  cursor : u.sgv_cur_purge_pool = s.sgv_cur_purge_pool
  jiffies : u.jiffies = s.jiffies
  clustering : ∀ p, (u.pools p).clustering_type = (s.pools p).clustering_type
  recycling : ∀ p, (u.pools p).recycling_lists = (s.pools p).recycling_lists
  sorted : ∀ p, (u.pools p).sorted_recycling_list = (s.pools p).sorted_recycling_list
  cached_entries : ∀ p, (u.pools p).cached_entries = (s.pools p).cached_entries

/-- Pool \`p\` counts an object that is on none of its lists: one a call holds
between \`sgv_get_obj\` and \`sgv_put_obj\` or \`out_fail_free\`, or one
\`sgv_get_obj\` has counted and \`kmem_cache_alloc\` not yet made. These are
the held and counting objects of \`CountSys\`; only their number is kept here. -/
def CountsOffList (s : SgvState) (p : Nat) : Prop :=
  ((s.pools p).sorted_recycling_list.length : Int) < (s.pools p).cached_entries

instance (s : SgvState) (p : Nat) : Decidable (CountsOffList s p) :=
  inferInstanceAs (Decidable (_ < _))

inductive PoolSection (cfg : Config) : SgvState → SgvState → Prop
  /-- `sgv_get_obj` takes the head of `recycling_lists[order]`. -/
  | get_hit (s : SgvState) (p order : Nat) (ok : Bool) : (s.pools p).recycling_lists order ≠ [] →
      PoolSection cfg s (sgv_get_obj s p order ok).1
  /-- `sgv_get_obj` finds `recycling_lists[order]` empty and counts a new object. -/
  | count (s : SgvState) (p order : Nat) : (s.pools p).recycling_lists order = [] →
      PoolSection cfg s (getObjCount s p order)
  /-- `kmem_cache_alloc` or `kmalloc` makes a new object. -/
  | create (s : SgvState) (o : SgvObj) : PoolSection cfg s (s.newObj o)
  /-- `sgv_dec_cached_entries` on a failed `kmem_cache_alloc` or in
  `out_fail_free`, which uncounts the object just counted or held. -/
  | dec (s : SgvState) (p : Nat) (pages : Int) : CountsOffList s p →
      PoolSection cfg s (sgv_dec_cached_entries s p pages)
  /-- `sgv_put_obj` of a held object, which its pool still counts. -/
  | put (s : SgvState) (id : Nat) : id < s.next_obj → ¬s.Listed id →
      CountsOffList s (s.obj id).owner_pool → PoolSection cfg s (sgv_put_obj s id)
  /-- `__sgv_purge_from_cache` of a cached object, by a purge, a shrink or a flush. -/
  | purge (s : SgvState) (p id : Nat) : id ∈ (s.pools p).sorted_recycling_list →
      PoolSection cfg s (__sgv_purge_from_cache s id)
  /-- `sgv_dtor_and_free` after the lock is dropped. -/
  | dtor (s : SgvState) (id : Nat) : ¬s.Listed id → PoolSection cfg s (sgv_dtor_and_free cfg s id)
  /-- A call changes an object it holds. -/
  | hold (s : SgvState) (id : Nat) (x : Option SgvObj) : ¬s.Listed id →
      PoolSection cfg s (s.setObj id x)
  /-- A round of `__sgv_shrink` takes the cursor's pool and moves the cursor on. -/
  | cursor (s : SgvState) (p : Nat) : cursorPool s = some p →
      PoolSection cfg s { s with sgv_cur_purge_pool :=
        (succOf p s.sgv_active_pools_list).or s.sgv_active_pools_list.head? }
  | tick (s : SgvState) (dt : Nat) : PoolSection cfg s { s with jiffies := s.jiffies + dt }
  /-- Counters, charges, flags and statistics. -/
  | other (s u : SgvState) : ListsKept s u → PoolSection cfg s u

/-- The states reached from `scst_sgv_pools_init`. -/
inductive SectionReach (cfg : Config) : SgvState → Prop
  | init (ct : Nat → sgv_clustering_types) (limits : Nat → Int) :
      SectionReach cfg (SgvState.initial ct limits)
  | step {s t : SgvState} : SectionReach cfg s → PoolSection cfg s t → SectionReach cfg t

/-! ### The active-pool registry -/

/-- A pool is on `sgv_active_pools_list` exactly when it has cached entries,
and then once; the cursor is NULL or on the list. -/
structure ActiveInv (s : SgvState) : Prop where
  mem_iff : ∀ p, p ∈ s.sgv_active_pools_list ↔ 0 < (s.pools p).cached_entries
  nodup : s.sgv_active_pools_list.Nodup
  cursor : ∀ p, s.sgv_cur_purge_pool = some p → p ∈ s.sgv_active_pools_list

theorem succOf_mem {p q : Nat} {l : List Nat} (next : succOf p l = some q) : q ∈ l ∧ (l.Nodup → q ≠ p) := by
  induction l with
  | nil => cases next
  | cons x rest ih =>
    simp only [succOf] at next
    split at next
    · next same =>
      subst same
      have mem := List.mem_of_mem_head? next
      exact ⟨List.mem_cons_of_mem _ mem, fun nodup eq => (List.nodup_cons.1 nodup).1 (eq ▸ mem)⟩
    · obtain ⟨mem, ne⟩ := ih next
      exact ⟨List.mem_cons_of_mem _ mem, fun nodup => ne (List.nodup_cons.1 nodup).2⟩

theorem ActiveInv.cursorPool_mem {s : SgvState} (inv : ActiveInv s) {p : Nat}
    (sel : cursorPool s = some p) : p ∈ s.sgv_active_pools_list := by
  unfold cursorPool at sel
  split at sel
  · exact inv.cursor _ (by simp_all)
  · exact List.mem_of_mem_head? sel

theorem delFromActive_cursor {active : List Nat} {cur : Option Nat} {p q : Nat}
    (nodup : active.Nodup) (cur_on : ∀ r, cur = some r → r ∈ active)
    (moved : (delFromActive active cur p).2 = some q) : q ∈ active.erase p := by
  simp only [delFromActive] at moved ⊢
  split at moved
  · next at_p =>
    split at moved
    · next q' next =>
      obtain ⟨mem, ne⟩ := succOf_mem next
      cases moved
      exact (nodup.mem_erase_iff).2 ⟨ne nodup, mem⟩
    · exact List.mem_of_mem_head? moved
  · have := cur_on q moved
    exact (nodup.mem_erase_iff).2 ⟨fun same => by simp_all, this⟩

theorem ActiveInv.of_eq {s u : SgvState} (inv : ActiveInv s)
    (active : u.sgv_active_pools_list = s.sgv_active_pools_list)
    (cursor : u.sgv_cur_purge_pool = s.sgv_cur_purge_pool)
    (entries : ∀ p, (u.pools p).cached_entries = (s.pools p).cached_entries) : ActiveInv u :=
  ⟨fun p => by rw [active, entries]; exact inv.mem_iff p, active ▸ inv.nodup,
    fun p cur => active ▸ inv.cursor p (cursor ▸ cur)⟩

theorem ActiveInv.of_parts {u : SgvState} {active : List Nat} {cur : Option Nat}
    (on_list : u.sgv_active_pools_list = active) (at_cur : u.sgv_cur_purge_pool = cur)
    (mem_iff : ∀ p, p ∈ active ↔ 0 < (u.pools p).cached_entries) (nodup : active.Nodup)
    (cursor : ∀ p, cur = some p → p ∈ active) : ActiveInv u := by
  subst on_list at_cur; exact ⟨mem_iff, nodup, cursor⟩

theorem ActiveInv.count {s : SgvState} (inv : ActiveInv s) (p order : Nat) :
    ActiveInv (getObjCount s p order) := by
  have entries := inv.mem_iff p
  have other (q) (same : q ≠ p) : 0 < ((getObjCount s p order).pools q).cached_entries ↔
      q ∈ s.sgv_active_pools_list := by simp [Function.update_noteq same, inv.mem_iff]
  by_cases zero : (s.pools p).cached_entries = 0
  · have off : p ∉ s.sgv_active_pools_list := by rw [entries]; omega
    refine .of_parts (by rw [getObjCount_active, if_pos zero]) (getObjCount_cursor ..) (fun q => ?_)
      (inv.nodup.append (List.nodup_singleton p) (by simpa using off))
      (fun q cur => List.mem_append_left _ (inv.cursor q cur))
    by_cases same : q = p
    · subst same; simp [zero]
    · simp [other q same, same, inv.mem_iff]
  · refine .of_parts (by rw [getObjCount_active, if_neg zero]) (getObjCount_cursor ..) (fun q => ?_)
      inv.nodup inv.cursor
    by_cases same : q = p
    · subst same; simp only [getObjCount_pools, Function.update_same, entries]; omega
    · exact (other q same).symm

section Dec
variable (s : SgvState) (p : Nat) (pages : Int)

@[simp] theorem sgv_dec_cached_entries_active : (sgv_dec_cached_entries s p pages).sgv_active_pools_list =
    if (s.pools p).cached_entries - 1 = 0 then s.sgv_active_pools_list.erase p
    else s.sgv_active_pools_list := by
  unfold sgv_dec_cached_entries
  dsimp only; simp only [SgvState.setPool_pools, Function.update_same]; split <;> rfl

@[simp] theorem sgv_dec_cached_entries_cursor : (sgv_dec_cached_entries s p pages).sgv_cur_purge_pool =
    if (s.pools p).cached_entries - 1 = 0 then
      (delFromActive s.sgv_active_pools_list s.sgv_cur_purge_pool p).2
    else s.sgv_cur_purge_pool := by
  unfold sgv_dec_cached_entries
  dsimp only; simp only [SgvState.setPool_pools, Function.update_same]; split <;> rfl

@[simp] theorem sgv_dec_cached_entries_entries (q : Nat) :
    ((sgv_dec_cached_entries s p pages).pools q).cached_entries =
      if q = p then (s.pools p).cached_entries - 1 else (s.pools q).cached_entries := by
  unfold sgv_dec_cached_entries sgv_del_from_active
  dsimp only
  by_cases same : q = p
  · subst same; split <;> simp
  · split <;> simp [same]

@[simp] theorem sgv_dec_cached_entries_clustering (q : Nat) :
    ((sgv_dec_cached_entries s p pages).pools q).clustering_type = (s.pools q).clustering_type := by
  unfold sgv_dec_cached_entries sgv_del_from_active
  dsimp only
  by_cases same : q = p
  · subst same; split <;> simp
  · split <;> simp [same]

@[simp] theorem sgv_dec_cached_entries_scheduled (q : Nat) :
    ((sgv_dec_cached_entries s p pages).pools q).purge_work_scheduled =
      (s.pools q).purge_work_scheduled := by
  unfold sgv_dec_cached_entries sgv_del_from_active
  dsimp only
  by_cases same : q = p
  · subst same; split <;> simp
  · split <;> simp [same]

@[simp] theorem sgv_dec_cached_entries_next_obj :
    (sgv_dec_cached_entries s p pages).next_obj = s.next_obj := by
  unfold sgv_dec_cached_entries; dsimp only; split <;> rfl

@[simp] theorem sgv_dec_cached_entries_jiffies :
    (sgv_dec_cached_entries s p pages).jiffies = s.jiffies := by
  unfold sgv_dec_cached_entries; dsimp only; split <;> rfl

end Dec

theorem ActiveInv.dec {s : SgvState} (inv : ActiveInv s) (p : Nat) (pages : Int) :
    ActiveInv (sgv_dec_cached_entries s p pages) := by
  have entries := inv.mem_iff p
  have other (q) (same : q ≠ p) : 0 < ((sgv_dec_cached_entries s p pages).pools q).cached_entries ↔
      q ∈ s.sgv_active_pools_list := by simp [same, inv.mem_iff]
  by_cases zero : (s.pools p).cached_entries - 1 = 0
  · refine .of_parts (by rw [sgv_dec_cached_entries_active, if_pos zero])
      (by rw [sgv_dec_cached_entries_cursor, if_pos zero]) (fun q => ?_) (inv.nodup.erase p)
      (fun q cur => delFromActive_cursor inv.nodup inv.cursor cur)
    rw [inv.nodup.mem_erase_iff]
    by_cases same : q = p
    · subst same; simp [zero]
    · simp [other q same, same, inv.mem_iff]
  · refine .of_parts (by rw [sgv_dec_cached_entries_active, if_neg zero])
      (by rw [sgv_dec_cached_entries_cursor, if_neg zero]) (fun q => ?_) inv.nodup inv.cursor
    by_cases same : q = p
    · subst same; simp only [sgv_dec_cached_entries_entries, if_true, entries]; omega
    · exact (other q same).symm

theorem sgv_get_obj_hit {s : SgvState} {p order id : Nat} {rest : List Nat} (ok : Bool)
    (head : (s.pools p).recycling_lists order = id :: rest) :
    sgv_get_obj s p order ok = (s.setPool p fun pool =>
      { pool with
        sorted_recycling_list := pool.sorted_recycling_list.erase id
        recycling_lists := Function.update pool.recycling_lists order rest
        inactive_cached_pages := pool.inactive_cached_pages - 2 ^ order }, some id) := by
  simp only [sgv_get_obj, head]

section Put
variable (s : SgvState) (id : Nat)

theorem put_obj_pools (q : Nat) : (sgv_put_obj s id).pools q =
    if q = (s.obj id).owner_pool then
      { s.pools q with
        recycling_lists := Function.update (s.pools q).recycling_lists (s.obj id).order_or_pages.toNat
          (if (s.pools q).clustering_type ≠ .sgv_no_clustering then
            insertBySgCount s (s.obj id).sg_count id
              ((s.pools q).recycling_lists (s.obj id).order_or_pages.toNat)
          else id :: (s.pools q).recycling_lists (s.obj id).order_or_pages.toNat)
        sorted_recycling_list := (s.pools q).sorted_recycling_list ++ [id]
        inactive_cached_pages := (s.pools q).inactive_cached_pages + 2 ^ (s.obj id).order_or_pages.toNat
        purge_work_scheduled := true }
    else s.pools q := by
  by_cases same : q = (s.obj id).owner_pool
  · subst same; simp [sgv_put_obj]
  · simp [sgv_put_obj, same]

theorem put_obj_obj (x : Nat) : (sgv_put_obj s id).obj x =
    if x = id then { s.obj id with time_stamp := s.jiffies } else s.obj x := by
  by_cases same : x = id
  · subst same; simp [sgv_put_obj, SgvState.obj]
  · simp [sgv_put_obj, SgvState.obj, same]

@[simp] theorem put_obj_jiffies : (sgv_put_obj s id).jiffies = s.jiffies := rfl

@[simp] theorem put_obj_active : (sgv_put_obj s id).sgv_active_pools_list = s.sgv_active_pools_list :=
  rfl

@[simp] theorem put_obj_cursor : (sgv_put_obj s id).sgv_cur_purge_pool = s.sgv_cur_purge_pool := rfl

end Put

theorem ActiveInv.setPool {s : SgvState} (inv : ActiveInv s) {p : Nat} {f : SgvPool → SgvPool}
    (keep : (f (s.pools p)).cached_entries = (s.pools p).cached_entries) :
    ActiveInv (s.setPool p f) :=
  inv.of_eq rfl rfl fun q => by by_cases same : q = p <;> simp [same, keep]

theorem ActiveInv.purge {s : SgvState} (inv : ActiveInv s) (id : Nat) :
    ActiveInv (__sgv_purge_from_cache s id) := by
  unfold __sgv_purge_from_cache
  exact ActiveInv.of_eq ((inv.setPool (by rfl)).dec _ _) rfl rfl fun _ => rfl

theorem ActiveInv.step {cfg : Config} {s t : SgvState} (inv : ActiveInv s)
    (step : PoolSection cfg s t) : ActiveInv t := by
  cases step with
  | get_hit p order ok nonempty =>
    obtain ⟨id, rest, head⟩ := List.exists_cons_of_ne_nil nonempty
    rw [sgv_get_obj_hit ok head]; dsimp only; exact inv.setPool (by rfl)
  | count p order _ => exact inv.count p order
  | create o => exact inv.of_eq rfl rfl fun _ => rfl
  | dec p pages _ => exact inv.dec p pages
  | put id _ _ _ => exact inv.of_eq rfl rfl fun q => by rw [put_obj_pools]; split <;> rfl
  | purge p id _ => exact inv.purge id
  | dtor id _ => rw [sgv_dtor_and_free_eq]; exact inv.of_eq rfl rfl fun _ => rfl
  | hold id x _ => exact inv.of_eq rfl rfl fun _ => rfl
  | cursor p _ =>
    refine ⟨inv.mem_iff, inv.nodup, fun q cur => ?_⟩
    cases next : succOf p s.sgv_active_pools_list with
    | some r =>
      simp only [next, Option.or_some, Option.some.injEq] at cur
      exact cur ▸ (succOf_mem next).1
    | none => simp only [next, Option.none_or] at cur; exact List.mem_of_mem_head? cur
  | tick dt => exact inv.of_eq rfl rfl fun _ => rfl
  | other u kept => exact inv.of_eq kept.active kept.cursor kept.cached_entries

/-! ### The lists -/

/-- The lists of every pool: the sorted list holds each object once, every
object on it belongs to the pool and exists, and the recycling lists split it
by order, each object once. -/
structure ListsWf (s : SgvState) : Prop where
  owner : ∀ p id, id ∈ (s.pools p).sorted_recycling_list →
    (s.obj id).owner_pool = p ∧ id < s.next_obj
  nodup : ∀ p, (s.pools p).sorted_recycling_list.Nodup
  recycling_nodup : ∀ p k, ((s.pools p).recycling_lists k).Nodup
  recycled : ∀ p k id, id ∈ (s.pools p).recycling_lists k →
    id ∈ (s.pools p).sorted_recycling_list ∧ (s.obj id).order_or_pages.toNat = k
  bucket : ∀ p id, id ∈ (s.pools p).sorted_recycling_list →
    id ∈ (s.pools p).recycling_lists (s.obj id).order_or_pages.toNat

/-- Each recycling list of a clustered pool is in nondecreasing `sg_count`. -/
def SgSorted (s : SgvState) : Prop :=
  ∀ p, (s.pools p).clustering_type ≠ sgv_no_clustering → ∀ k,
    ((s.pools p).recycling_lists k).Pairwise fun a b => (s.obj a).sg_count ≤ (s.obj b).sg_count

/-- Each sorted list is in nondecreasing `time_stamp`, and no stamp is ahead
of the clock. -/
def AgeSorted (s : SgvState) : Prop :=
  ∀ p, ((s.pools p).sorted_recycling_list.Pairwise fun a b =>
      (s.obj a).time_stamp ≤ (s.obj b).time_stamp) ∧
    ∀ id ∈ (s.pools p).sorted_recycling_list, (s.obj id).time_stamp ≤ s.jiffies

/-- A step that changes no list and no object on one. -/
structure ListsFrame (s u : SgvState) : Prop where
  clustering : ∀ p, (u.pools p).clustering_type = (s.pools p).clustering_type
  recycling : ∀ p, (u.pools p).recycling_lists = (s.pools p).recycling_lists
  sorted : ∀ p, (u.pools p).sorted_recycling_list = (s.pools p).sorted_recycling_list
  listed_obj : ∀ id, s.Listed id → u.obj id = s.obj id
  next_obj : s.next_obj ≤ u.next_obj
  jiffies : s.jiffies ≤ u.jiffies

/-- A step that takes object `id` off pool `p`'s sorted list and off its
recycling list `k`, and changes nothing else the lists' invariants read. -/
structure ListsUnlink (s u : SgvState) (p k id : Nat) : Prop where
  clustering : ∀ q, (u.pools q).clustering_type = (s.pools q).clustering_type
  recycling : ∀ q, (u.pools q).recycling_lists = if q = p then
    Function.update (s.pools p).recycling_lists k (((s.pools p).recycling_lists k).erase id)
    else (s.pools q).recycling_lists
  sorted : ∀ q, (u.pools q).sorted_recycling_list = if q = p then
    (s.pools p).sorted_recycling_list.erase id else (s.pools q).sorted_recycling_list
  objs : u.objs = s.objs
  next_obj : u.next_obj = s.next_obj
  jiffies : u.jiffies = s.jiffies

section Frame
variable {s u : SgvState} (kept : ListsFrame s u)
include kept

theorem ListsWf.frame (wf : ListsWf s) : ListsWf u where
  owner p id mem := by
    rw [kept.sorted] at mem
    rw [kept.listed_obj id ⟨p, mem⟩]
    exact (wf.owner p id mem).imp_right fun lt => lt.trans_le kept.next_obj
  nodup p := kept.sorted p ▸ wf.nodup p
  recycling_nodup p k := kept.recycling p ▸ wf.recycling_nodup p k
  recycled p k id mem := by
    rw [kept.recycling] at mem
    obtain ⟨listed, ord⟩ := wf.recycled p k id mem
    rw [kept.sorted, kept.listed_obj id ⟨p, listed⟩]; exact ⟨listed, ord⟩
  bucket p id mem := by
    rw [kept.sorted] at mem
    rw [kept.recycling, kept.listed_obj id ⟨p, mem⟩]; exact wf.bucket p id mem

theorem SgSorted.frame (wf : ListsWf s) (sorted : SgSorted s) : SgSorted u := fun p clustered k => by
  rw [kept.clustering] at clustered
  rw [kept.recycling]
  refine (sorted p clustered k).imp_of_mem fun {a b} ma mb le => ?_
  rwa [kept.listed_obj a ⟨p, (wf.recycled p k a ma).1⟩, kept.listed_obj b ⟨p, (wf.recycled p k b mb).1⟩]

theorem AgeSorted.frame (age : AgeSorted s) : AgeSorted u := fun p => by
  obtain ⟨pairwise, past⟩ := age p
  rw [kept.sorted]
  refine ⟨pairwise.imp_of_mem fun {a b} ma mb le => ?_, fun id mem => ?_⟩
  · rwa [kept.listed_obj a ⟨p, ma⟩, kept.listed_obj b ⟨p, mb⟩]
  · rw [kept.listed_obj id ⟨p, mem⟩]; exact (past id mem).trans kept.jiffies

end Frame

section Unlink
variable {s u : SgvState} {p k id : Nat} (unl : ListsUnlink s u p k id)
include unl

theorem ListsUnlink.obj (x : Nat) : u.obj x = s.obj x := by simp [SgvState.obj, unl.objs]

theorem ListsUnlink.sorted_sublist (q : Nat) :
    (u.pools q).sorted_recycling_list.Sublist (s.pools q).sorted_recycling_list := by
  rw [unl.sorted]; split
  · next same => subst same; exact List.erase_sublist _ _
  · exact List.Sublist.refl _

theorem ListsUnlink.recycling_sublist (q k' : Nat) :
    ((u.pools q).recycling_lists k').Sublist ((s.pools q).recycling_lists k') := by
  rw [unl.recycling]; split
  · next same =>
    subst same
    rw [Function.update_apply]; split
    · next at_k => subst at_k; exact List.erase_sublist _ _
    · exact List.Sublist.refl _
  · exact List.Sublist.refl _

theorem ListsWf.unlink (wf : ListsWf s) (ord : (s.obj id).order_or_pages.toNat = k) : ListsWf u where
  owner q x mem := by
    rw [unl.obj, unl.next_obj]; exact wf.owner q x ((unl.sorted_sublist q).subset mem)
  nodup q := (wf.nodup q).sublist (unl.sorted_sublist q)
  recycling_nodup q k' := (wf.recycling_nodup q k').sublist (unl.recycling_sublist q k')
  recycled q k' x mem := by
    obtain ⟨listed, ord_x⟩ := wf.recycled q k' x ((unl.recycling_sublist q k').subset mem)
    rw [unl.obj]
    refine ⟨?_, ord_x⟩
    rw [unl.sorted]; split
    · next same =>
      subst same
      refine (wf.nodup q).mem_erase_iff.2 ⟨fun eq => ?_, listed⟩
      subst eq
      have at_k : k' = k := ord_x.symm.trans ord
      subst at_k
      rw [unl.recycling, if_pos rfl, Function.update_same, (wf.recycling_nodup q _).mem_erase_iff] at mem
      exact mem.1 rfl
    · exact listed
  bucket q x mem := by
    have listed := (unl.sorted_sublist q).subset mem
    have in_bucket := wf.bucket q x listed
    rw [unl.obj, unl.recycling]; split
    · next same =>
      subst same
      rw [unl.sorted, if_pos rfl, (wf.nodup q).mem_erase_iff] at mem
      rw [Function.update_apply]; split
      · next at_k => rw [← at_k]; exact (List.mem_erase_of_ne mem.1).2 in_bucket
      · exact in_bucket
    · exact in_bucket

theorem SgSorted.unlink (sorted : SgSorted s) : SgSorted u := fun q clustered k' => by
  rw [unl.clustering] at clustered
  simpa only [unl.obj] using (sorted q clustered k').sublist (unl.recycling_sublist q k')

theorem AgeSorted.unlink (age : AgeSorted s) : AgeSorted u := fun q => by
  obtain ⟨pairwise, past⟩ := age q
  simp only [unl.obj, unl.jiffies]
  exact ⟨pairwise.sublist (unl.sorted_sublist q), fun x mem => past x ((unl.sorted_sublist q).subset mem)⟩

end Unlink

theorem insertBySgCount_perm (s : SgvState) (count id : Nat) (list : List Nat) :
    (insertBySgCount s count id list).Perm (id :: list) := by
  obtain ⟨i, le, eq⟩ := insertBySgCount_eq_insertIdx s count id list
  rw [eq]; exact List.perm_insertIdx id list le

/-- The loop of `sgv_put_obj` over `recycling_lists[order]` links the object
right before the first one whose `sg_count` is at least `count`. -/
theorem insertBySgCount_split (s : SgvState) (count id : Nat) (list : List Nat) :
    insertBySgCount s count id list =
      list.takeWhile (fun x => decide ((s.obj x).sg_count < count)) ++
        id :: list.dropWhile (fun x => decide ((s.obj x).sg_count < count)) := by
  induction list with
  | nil => rfl
  | cons x rest ih =>
    unfold insertBySgCount
    by_cases before : count ≤ (s.obj x).sg_count
    · simp [before, List.takeWhile_cons, List.dropWhile_cons]
    · simp [before, List.takeWhile_cons, List.dropWhile_cons, Nat.lt_of_not_le before, ih]

theorem insertBySgCount_pairwise (s : SgvState) (id : Nat) {list : List Nat}
    (sorted : list.Pairwise fun a b => (s.obj a).sg_count ≤ (s.obj b).sg_count) :
    (insertBySgCount s (s.obj id).sg_count id list).Pairwise
      fun a b => (s.obj a).sg_count ≤ (s.obj b).sg_count := by
  induction list with
  | nil => exact List.pairwise_singleton _ _
  | cons x rest ih =>
    obtain ⟨head, tail⟩ := List.pairwise_cons.1 sorted
    unfold insertBySgCount
    split
    · next before =>
      refine List.pairwise_cons.2 ⟨fun y mem => ?_, sorted⟩
      rcases List.mem_cons.1 mem with rfl | mem
      · exact before
      · exact before.trans (head y mem)
    · next after =>
      refine List.pairwise_cons.2 ⟨fun y mem => ?_, ih tail⟩
      rcases List.mem_cons.1 ((insertBySgCount_perm s _ id rest).subset mem) with rfl | mem
      · omega
      · exact head y mem

section Put
variable {s : SgvState} {id : Nat}

theorem put_obj_mem_sorted (q x : Nat) : x ∈ ((sgv_put_obj s id).pools q).sorted_recycling_list ↔
    x ∈ (s.pools q).sorted_recycling_list ∨ q = (s.obj id).owner_pool ∧ x = id := by
  rw [put_obj_pools]; split <;> simp [*]

theorem put_obj_mem_recycling (q k x : Nat) :
    x ∈ ((sgv_put_obj s id).pools q).recycling_lists k ↔ x ∈ (s.pools q).recycling_lists k ∨
      q = (s.obj id).owner_pool ∧ k = (s.obj id).order_or_pages.toNat ∧ x = id := by
  rw [put_obj_pools]; split
  · next same =>
    subst same
    dsimp only; rw [Function.update_apply]; split
    · next at_k =>
      subst at_k
      have perm := insertBySgCount_perm s (s.obj id).sg_count id
        ((s.pools (s.obj id).owner_pool).recycling_lists (s.obj id).order_or_pages.toNat)
      split <;> simp [perm.mem_iff, or_comm]
    · simp [*]
  · simp [*]

/-- In a clustered pool `sgv_put_obj` links the object into
`recycling_lists[order]` right before the first object whose `sg_count` is at
least its own. -/
theorem put_obj_links_by_sg_count
    (clustered : (s.pools (s.obj id).owner_pool).clustering_type ≠ sgv_no_clustering) :
    ((sgv_put_obj s id).pools (s.obj id).owner_pool).recycling_lists (s.obj id).order_or_pages.toNat =
      ((s.pools (s.obj id).owner_pool).recycling_lists (s.obj id).order_or_pages.toNat).takeWhile
          (fun x => decide ((s.obj x).sg_count < (s.obj id).sg_count)) ++
        id :: ((s.pools (s.obj id).owner_pool).recycling_lists (s.obj id).order_or_pages.toNat).dropWhile
          (fun x => decide ((s.obj x).sg_count < (s.obj id).sg_count)) := by
  rw [put_obj_pools, if_pos rfl]
  simp only [Function.update_same, if_pos clustered, insertBySgCount_split]

theorem put_obj_recycling_nodup (wf : ListsWf s) (off : ¬s.Listed id) (q k : Nat) :
    (((sgv_put_obj s id).pools q).recycling_lists k).Nodup := by
  have fresh : id ∉ (s.pools q).recycling_lists k := fun mem => off ⟨q, (wf.recycled q k id mem).1⟩
  rw [put_obj_pools]; split
  · dsimp only; rw [Function.update_apply]; split
    · next at_k =>
      subst at_k
      have nodup := List.nodup_cons.2 ⟨fresh, wf.recycling_nodup q _⟩
      split
      · exact (insertBySgCount_perm s _ id _).nodup_iff.2 nodup
      · exact nodup
    · exact wf.recycling_nodup q k
  · exact wf.recycling_nodup q k

@[simp] theorem put_obj_owner_pool (x : Nat) :
    ((sgv_put_obj s id).obj x).owner_pool = (s.obj x).owner_pool := by
  rw [put_obj_obj]; split <;> simp_all

@[simp] theorem put_obj_order (x : Nat) :
    ((sgv_put_obj s id).obj x).order_or_pages = (s.obj x).order_or_pages := by
  rw [put_obj_obj]; split <;> simp_all

@[simp] theorem put_obj_sg_count (x : Nat) :
    ((sgv_put_obj s id).obj x).sg_count = (s.obj x).sg_count := by
  rw [put_obj_obj]; split <;> simp_all

theorem put_obj_time_stamp (x : Nat) : ((sgv_put_obj s id).obj x).time_stamp =
    if x = id then s.jiffies else (s.obj x).time_stamp := by
  rw [put_obj_obj]; split <;> rfl

theorem ListsWf.put (wf : ListsWf s) (lt : id < s.next_obj) (off : ¬s.Listed id) :
    ListsWf (sgv_put_obj s id) where
  owner q x mem := by
    rw [put_obj_owner_pool, put_obj_next_obj]
    rcases (put_obj_mem_sorted q x).1 mem with listed | ⟨rfl, rfl⟩
    · exact wf.owner q x listed
    · exact ⟨rfl, lt⟩
  nodup q := by
    rw [put_obj_pools]; split
    · exact (wf.nodup q).append (List.nodup_singleton id) (by simpa using fun mem => off ⟨q, mem⟩)
    · exact wf.nodup q
  recycling_nodup := put_obj_recycling_nodup wf off
  recycled q k x mem := by
    rw [put_obj_mem_sorted, put_obj_order]
    rcases (put_obj_mem_recycling q k x).1 mem with listed | ⟨rfl, rfl, rfl⟩
    · exact (wf.recycled q k x listed).imp_left .inl
    · exact ⟨.inr ⟨rfl, rfl⟩, rfl⟩
  bucket q x mem := by
    rw [put_obj_mem_recycling, put_obj_order]
    rcases (put_obj_mem_sorted q x).1 mem with listed | ⟨rfl, rfl⟩
    · exact .inl (wf.bucket q x listed)
    · exact .inr ⟨rfl, rfl, rfl⟩

theorem SgSorted.put (sorted : SgSorted s) :
    SgSorted (sgv_put_obj s id) := fun q clustered k => by
  rw [put_obj_clustering] at clustered
  simp only [put_obj_sg_count]
  rw [put_obj_pools]; split
  · dsimp only; rw [Function.update_apply]; split
    · next at_k => subst at_k; exact insertBySgCount_pairwise s id (sorted q clustered _)
    · exact sorted q clustered k
  · exact sorted q clustered k

theorem AgeSorted.put (age : AgeSorted s) (off : ¬s.Listed id) : AgeSorted (sgv_put_obj s id) :=
  fun q => by
  obtain ⟨pairwise, past⟩ := age q
  have old (x) (mem : x ∈ (s.pools q).sorted_recycling_list) :
      ((sgv_put_obj s id).obj x).time_stamp = (s.obj x).time_stamp := by
    rw [put_obj_time_stamp, if_neg fun (same : x = id) => off ⟨q, same ▸ mem⟩]
  have kept : (s.pools q).sorted_recycling_list.Pairwise fun a b =>
      ((sgv_put_obj s id).obj a).time_stamp ≤ ((sgv_put_obj s id).obj b).time_stamp :=
    pairwise.imp_of_mem fun {a b} ma mb le => by rwa [old a ma, old b mb]
  rw [put_obj_pools, put_obj_jiffies]; split
  · refine ⟨List.pairwise_append.2 ⟨kept, List.pairwise_singleton _ _, fun a ma b mb => ?_⟩,
      fun x mem => ?_⟩
    · rw [List.mem_singleton.1 mb, old a ma, put_obj_time_stamp, if_pos rfl]; exact past a ma
    · rcases List.mem_append.1 mem with mem | mem
      · rw [old x mem]; exact past x mem
      · rw [List.mem_singleton.1 mem, put_obj_time_stamp, if_pos rfl]
  · exact ⟨kept, fun x mem => by rw [old x mem]; exact past x mem⟩

end Put

/-- What a section does to the lists: nothing, unlink one cached object, or
link one object that is on no list. -/
theorem PoolSection.lists {cfg : Config} {s t : SgvState} (wf : ListsWf s)
    (step : PoolSection cfg s t) :
    ListsFrame s t ∨
      (∃ p id, id ∈ (s.pools p).sorted_recycling_list ∧
        ListsUnlink s t p (s.obj id).order_or_pages.toNat id) ∨
      ∃ id, id < s.next_obj ∧ ¬s.Listed id ∧ t = sgv_put_obj s id := by
  have off_ne {id x : Nat} (off : ¬s.Listed id) (listed : s.Listed x) : x ≠ id :=
    fun same => off (same ▸ listed)
  cases step with
  | get_hit p order ok nonempty =>
    obtain ⟨id, rest, head⟩ := List.exists_cons_of_ne_nil nonempty
    obtain ⟨listed, ord⟩ := wf.recycled p order id (head ▸ List.mem_cons_self id rest)
    refine .inr (.inl ⟨p, id, listed, ?_⟩)
    rw [sgv_get_obj_hit ok head, ord]
    refine ⟨fun q => ?_, fun q => ?_, fun q => ?_, rfl, rfl, rfl⟩ <;>
      by_cases same : q = p <;> simp [same, head]
  | count p order _ =>
    exact .inl ⟨fun q => by by_cases same : q = p <;> simp [same],
      fun q => by by_cases same : q = p <;> simp [same],
      fun q => by by_cases same : q = p <;> simp [same],
      fun _ _ => by simp [SgvState.obj], by simp, by simp⟩
  | create o =>
    refine .inl ⟨fun _ => rfl, fun _ => rfl, fun _ => rfl, fun x ⟨q, mem⟩ => ?_, by simp, le_rfl⟩
    simp [SgvState.obj, Function.update_noteq (Nat.ne_of_lt (wf.owner q x mem).2)]
  | dec p pages _ =>
    exact .inl ⟨fun _ => by simp, fun _ => by simp, fun _ => by simp, fun _ _ => by simp [SgvState.obj],
      by simp, by simp⟩
  | put id lt off _ => exact .inr (.inr ⟨id, lt, off, rfl⟩)
  | purge p id listed =>
    obtain ⟨pools, active, cur, eq, same⟩ := purge_from_cache_eq s id
    have own := (wf.owner p id listed).1
    refine .inr (.inl ⟨p, id, listed, ?_⟩)
    rw [eq]
    refine ⟨fun q => (same q).1, fun q => ?_, fun q => ?_, rfl, rfl, rfl⟩ <;>
      [rw [(same q).2.1, own]; rw [(same q).2.2, own]] <;> by_cases at_p : q = p <;> simp [at_p]
  | dtor id off =>
    rw [sgv_dtor_and_free_eq]
    exact .inl ⟨fun _ => rfl, fun _ => rfl, fun _ => rfl,
      fun x listed => by simp [SgvState.obj, Function.update_noteq (off_ne off listed)], le_rfl, le_rfl⟩
  | hold id x off =>
    exact .inl ⟨fun _ => rfl, fun _ => rfl, fun _ => rfl,
      fun y listed => by simp [SgvState.obj, Function.update_noteq (off_ne off listed)], le_rfl, le_rfl⟩
  | cursor p _ => exact .inl ⟨fun _ => rfl, fun _ => rfl, fun _ => rfl, fun _ _ => rfl, le_rfl, le_rfl⟩
  | tick dt =>
    exact .inl ⟨fun _ => rfl, fun _ => rfl, fun _ => rfl, fun _ _ => rfl, le_rfl, Nat.le_add_right _ _⟩
  | other u kept =>
    exact .inl ⟨kept.clustering, kept.recycling, kept.sorted,
      fun _ _ => by simp [SgvState.obj, kept.objs], kept.next_obj.ge, kept.jiffies.ge⟩

theorem ListsWf.step {cfg : Config} {s t : SgvState} (wf : ListsWf s) (step : PoolSection cfg s t) :
    ListsWf t := by
  rcases step.lists wf with kept | ⟨p, id, -, unl⟩ | ⟨id, lt, off, rfl⟩
  · exact wf.frame kept
  · exact wf.unlink unl rfl
  · exact wf.put lt off

theorem SgSorted.step {cfg : Config} {s t : SgvState} (wf : ListsWf s) (sorted : SgSorted s)
    (step : PoolSection cfg s t) : SgSorted t := by
  rcases step.lists wf with kept | ⟨p, id, -, unl⟩ | ⟨id, -, -, rfl⟩
  · exact sorted.frame kept wf
  · exact sorted.unlink unl
  · exact sorted.put

theorem AgeSorted.step {cfg : Config} {s t : SgvState} (wf : ListsWf s) (age : AgeSorted s)
    (step : PoolSection cfg s t) : AgeSorted t := by
  rcases step.lists wf with kept | ⟨p, id, -, unl⟩ | ⟨id, lt, off, rfl⟩
  · exact age.frame kept
  · exact age.unlink unl
  · exact age.put off

/-! ### What the counters count -/

/-- Each pool's \`cached_entries\` counts at least the objects on its lists;
the others it counts are the ones \`CountsOffList\` names. -/
def Counted (s : SgvState) : Prop :=
  ∀ p, ((s.pools p).sorted_recycling_list.length : Int) ≤ (s.pools p).cached_entries

theorem purge_from_cache_entries (s : SgvState) (id q : Nat) :
    ((__sgv_purge_from_cache s id).pools q).cached_entries =
      if q = (s.obj id).owner_pool then (s.pools q).cached_entries - 1 else (s.pools q).cached_entries := by
  unfold __sgv_purge_from_cache
  by_cases same : q = (s.obj id).owner_pool <;> simp [same]

/-- A hit and a purge take an object off the lists, a purge uncounting it
too; counting a new object adds one to the count, and \`dec\` and \`put\` use up
an object the pool counts off its lists. -/
theorem Counted.step {cfg : Config} {s t : SgvState} (wf : ListsWf s) (counted : Counted s)
    (step : PoolSection cfg s t) : Counted t := fun q => by
  have le := counted q
  cases step with
  | get_hit p order ok nonempty =>
    obtain ⟨id, rest, head⟩ := List.exists_cons_of_ne_nil nonempty
    have shorter := (List.erase_sublist id (s.pools q).sorted_recycling_list).length_le
    rw [sgv_get_obj_hit ok head]
    by_cases same : q = p
    · subst same; simp only [SgvState.setPool_pools, Function.update_same]; omega
    · simpa [same] using le
  | count p order _ =>
    by_cases same : q = p
    · subst same; simp only [getObjCount_pools, Function.update_same]; omega
    · simpa [same] using le
  | create o => exact le
  | dec p pages pending =>
    rw [sgv_dec_cached_entries_entries, sgv_dec_cached_entries_sorted]
    split
    · next same => subst same; exact Int.le_sub_one_of_lt pending
    · exact le
  | put id _ _ pending =>
    rw [put_obj_pools]
    by_cases same : q = (s.obj id).owner_pool
    · subst same; simp only [if_true, List.length_append, List.length_singleton]
      unfold CountsOffList at pending; omega
    · simpa [same] using le
  | purge p id listed =>
    obtain ⟨pools, active, cur, eq, same⟩ := purge_from_cache_eq s id
    have own := (wf.owner p id listed).1
    rw [purge_from_cache_entries, eq]
    dsimp only
    rw [(same q).2.2, own]
    split
    · next at_p =>
      subst at_p
      have := List.length_pos_of_mem listed
      rw [List.length_erase_of_mem listed]; omega
    · exact le
  | dtor id _ => rw [sgv_dtor_and_free_eq]; exact le
  | hold id x _ => exact le
  | cursor p _ => exact le
  | tick dt => exact le
  | other u kept => rw [kept.sorted, kept.cached_entries]; exact le

/-- What every section keeps. -/
structure SectionInv (s : SgvState) : Prop where
  active : ActiveInv s
  lists : ListsWf s
  sg_sorted : SgSorted s
  age_sorted : AgeSorted s
  counted : Counted s

theorem SectionInv.initial (ct : Nat → sgv_clustering_types) (limits : Nat → Int) :
    SectionInv (SgvState.initial ct limits) := by
  refine ⟨⟨fun p => ?_, List.nodup_nil, fun _ none => by cases none⟩,
    ⟨fun _ _ mem => ?_, fun _ => ?_, fun _ _ => ?_, fun _ _ _ mem => ?_, fun _ _ mem => ?_⟩,
    fun _ _ _ => ?_, fun _ => ⟨?_, fun _ mem => ?_⟩, fun _ => ?_⟩ <;>
    simp_all [SgvState.initial, SgvPool.empty]

theorem SectionInv.step {cfg : Config} {s t : SgvState} (inv : SectionInv s)
    (step : PoolSection cfg s t) : SectionInv t :=
  ⟨inv.active.step step, inv.lists.step step, inv.sg_sorted.step inv.lists step,
    inv.age_sorted.step inv.lists step, inv.counted.step inv.lists step⟩

theorem SectionReach.inv {cfg : Config} {s : SgvState} (reach : SectionReach cfg s) : SectionInv s := by
  induction reach with
  | init ct limits => exact .initial ct limits
  | step _ step ih => exact ih.step step

/-! ### The registry and the recycling order in every reachable state -/

theorem active_pools_registered {cfg : Config} {s : SgvState} (reach : SectionReach cfg s) :
    (∀ p, p ∈ s.sgv_active_pools_list ↔ 0 < (s.pools p).cached_entries) ∧
      (∀ p, 0 < (s.pools p).cached_entries → s.sgv_active_pools_list.count p = 1) ∧
      ∀ p, s.sgv_cur_purge_pool = some p → p ∈ s.sgv_active_pools_list := by
  obtain ⟨mem_iff, nodup, cursor⟩ := reach.inv.active
  exact ⟨mem_iff, fun p pos => List.count_eq_one_of_mem nodup ((mem_iff p).2 pos), cursor⟩

/-- A hit takes the head of `recycling_lists[k]`, and in a clustered pool no
cached object of order `k` has fewer entries: `sgv_put_obj` links each object
before the first with at least its `sg_count` (`put_obj_links_by_sg_count`),
and the other sections only unlink. -/
theorem hit_least_sg_count {cfg : Config} {s : SgvState} (reach : SectionReach cfg s) {p : Nat}
    (clustered : (s.pools p).clustering_type ≠ sgv_no_clustering) :
    (∀ k, ((s.pools p).recycling_lists k).Pairwise
        fun a b => (s.obj a).sg_count ≤ (s.obj b).sg_count) ∧
      ∀ k id rest ok, (s.pools p).recycling_lists k = id :: rest →
        (sgv_get_obj s p k ok).2 = some id ∧
          ∀ x ∈ (s.pools p).sorted_recycling_list, (s.obj x).order_or_pages.toNat = k →
            (s.obj id).sg_count ≤ (s.obj x).sg_count := by
  have inv := reach.inv
  refine ⟨inv.sg_sorted p clustered, fun k id rest ok head => ⟨by rw [sgv_get_obj_hit ok head], ?_⟩⟩
  intro x listed ord
  have bucketed := inv.lists.bucket p x listed
  rw [ord, head] at bucketed
  have sorted := inv.sg_sorted p clustered k
  rw [head] at sorted
  rcases List.mem_cons.1 bucketed with rfl | mem
  · exact le_rfl
  · exact List.rel_of_pairwise_cons sorted mem

/-- A fully clustered pool 0 after `sgv_get_obj` made an object of order 0. -/
def madeFresh : SgvState :=
  (getObjCount (SgvState.initial (fun _ => sgv_full_clustering) fun _ => 0) 0 0).newObj (freshObj 0 0)

/-- The object freed by `sgv_pool_free` and cached. -/
def cachedFresh : SgvState := sgv_put_obj madeFresh 0

theorem madeFresh_unlisted : ¬madeFresh.Listed 0 := by
  rintro ⟨q, mem⟩
  by_cases same : q = 0 <;> simp [madeFresh, same, SgvState.initial, SgvPool.empty] at mem

theorem madeFresh_reach : SectionReach x86Config madeFresh :=
  .step (.step (.init _ _) (.count _ 0 0 rfl)) (.create _ _)

theorem cachedFresh_reach : SectionReach x86Config cachedFresh :=
  .step madeFresh_reach (.put _ 0 (by simp [madeFresh]) madeFresh_unlisted (by decide))

theorem cachedFresh_registered :
    SectionReach x86Config cachedFresh ∧
      ((∀ p, p ∈ cachedFresh.sgv_active_pools_list ↔ 0 < (cachedFresh.pools p).cached_entries) ∧
        (∀ p, 0 < (cachedFresh.pools p).cached_entries →
          cachedFresh.sgv_active_pools_list.count p = 1) ∧
        ∀ p, cachedFresh.sgv_cur_purge_pool = some p → p ∈ cachedFresh.sgv_active_pools_list) :=
  ⟨cachedFresh_reach, active_pools_registered cachedFresh_reach⟩

/-- In a reachable state an object on some pool's lists is on the list of a
pool of the active list: a pool off the list counts no entries (`Counted`). -/
theorem SectionInv.listed_iff {s : SgvState} (inv : SectionInv s) (id : Nat) :
    s.Listed id ↔ ∃ p ∈ s.sgv_active_pools_list, id ∈ (s.pools p).sorted_recycling_list := by
  refine ⟨fun ⟨p, mem⟩ => ⟨p, (inv.active.mem_iff p).2 ?_, mem⟩, fun ⟨p, _, mem⟩ => ⟨p, mem⟩⟩
  have counted := inv.counted p
  have := List.length_pos_of_mem mem
  omega

/-- Three objects made and held: two of order 2 in the fully clustered pool
0, filled into 3 entries and into 1, and one of order 0 in pool 1. -/
def twoMade : SgvState :=
  let s1 := (getObjCount (SgvState.initial (fun _ => sgv_full_clustering) fun _ => 0) 0 2).newObj
    { freshObj 0 2 with sg_count := 3 }
  let s2 := (getObjCount s1 0 2).newObj { freshObj 0 2 with sg_count := 1 }
  (getObjCount s2 1 0).newObj { freshObj 1 0 with sg_count := 1 }

/-- The three objects freed: the first at jiffies 0, the other two 100 jiffies
later; then the clock moves to 6050, with 1000 pages in use. -/
def twoPools : SgvState :=
  let s1 := sgv_put_obj twoMade 0
  let s2 := sgv_put_obj (sgv_put_obj { s1 with jiffies := s1.jiffies + 100 } 1) 2
  { s2 with jiffies := s2.jiffies + 5950, sgv_pages_total := 1000 }

theorem twoMade_reach : SectionReach x86Config twoMade :=
  .step (.step (.step (.step (.step (.step (.init _ _) (.count _ 0 2 rfl)) (.create _ _))
    (.count _ 0 2 rfl)) (.create _ _)) (.count _ 1 0 rfl)) (.create _ _)

theorem twoPools_reach : SectionReach x86Config twoPools :=
  have put0 := twoMade_reach.step
    (.put _ 0 (by decide) ((twoMade_reach.inv.listed_iff 0).not.2 (by decide)) (by decide))
  have ticked := put0.step (.tick _ 100)
  have put1 := ticked.step (.put _ 1 (by decide) ((ticked.inv.listed_iff 1).not.2 (by decide)) (by decide))
  have put2 := put1.step (.put _ 2 (by decide) ((put1.inv.listed_iff 2).not.2 (by decide)) (by decide))
  (put2.step (.tick _ 5950)).step (.other _ _ ⟨rfl, rfl, rfl, rfl, rfl,
    fun _ => rfl, fun _ => rfl, fun _ => rfl, fun _ => rfl⟩)

/-- Object 1, with fewer entries, is linked before object 0 and is the one a
hit returns. -/
theorem twoPools_least_sg_count :
    SectionReach x86Config twoPools ∧ (twoPools.pools 0).clustering_type ≠ sgv_no_clustering ∧
      (twoPools.pools 0).recycling_lists 2 = [1, 0] ∧ (sgv_get_obj twoPools 0 2 true).2 = some 1 ∧
      ((∀ k, ((twoPools.pools 0).recycling_lists k).Pairwise
          fun a b => (twoPools.obj a).sg_count ≤ (twoPools.obj b).sg_count) ∧
        ∀ k id rest ok, (twoPools.pools 0).recycling_lists k = id :: rest →
          (sgv_get_obj twoPools 0 k ok).2 = some id ∧
            ∀ x ∈ (twoPools.pools 0).sorted_recycling_list, (twoPools.obj x).order_or_pages.toNat = k →
              (twoPools.obj id).sg_count ≤ (twoPools.obj x).sg_count) :=
  have clustered : (twoPools.pools 0).clustering_type ≠ sgv_no_clustering := by decide
  ⟨twoPools_reach, clustered, by decide, by decide, hit_least_sg_count twoPools_reach clustered⟩

end ScstMem
