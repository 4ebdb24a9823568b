import ScstMem.Sections

/-! The loops that destroy cached objects oldest first. `sgv_purge_work_fn`
walks its pool's `sorted_recycling_list` from the head and stops at the first
object younger than `PURGE_TIME_AFTER`; `sgv_shrink_pool` does the same with
its own age limit and stops early on the watermark or the page budget. On a
list in age order the first destroys exactly the old objects and the second a
prefix of them. -/
namespace ScstMem
open sgv_clustering_types

section Aged
variable {cfg : Config}

/-- Pool `p`'s sorted list as the loops read it: each object once, and each
of the pool, so that `__sgv_purge_from_cache` unlinks it from this list. -/
structure PoolListed (s : SgvState) (p : Nat) : Prop where
  nodup : (s.pools p).sorted_recycling_list.Nodup
  owner : ∀ id ∈ (s.pools p).sorted_recycling_list, (s.obj id).owner_pool = p

theorem ListsWf.listed {s : SgvState} (wf : ListsWf s) (p : Nat) : PoolListed s p :=
  ⟨wf.nodup p, fun id mem => (wf.owner p id mem).1⟩

theorem PoolListed.purge_head {s : SgvState} {p id : Nat} {rest : List Nat}
    (listed : PoolListed s p) (head : (s.pools p).sorted_recycling_list = id :: rest) :
    ((sgv_dtor_and_free cfg (__sgv_purge_from_cache s id) id).pools p).sorted_recycling_list = rest ∧
      (sgv_dtor_and_free cfg (__sgv_purge_from_cache s id) id).objs = Function.update s.objs id none ∧
      (∀ x ∈ rest, (sgv_dtor_and_free cfg (__sgv_purge_from_cache s id) id).obj x = s.obj x) ∧
      PoolListed (sgv_dtor_and_free cfg (__sgv_purge_from_cache s id) id) p := by
  obtain ⟨pools, active, cur, eq, same⟩ := purge_from_cache_eq s id
  have own := listed.owner id (head ▸ List.mem_cons_self id rest)
  have nodup := listed.nodup
  rw [head, List.nodup_cons] at nodup
  have sorted : ((sgv_dtor_and_free cfg (__sgv_purge_from_cache s id) id).pools p).sorted_recycling_list =
      rest := by
    rw [sgv_dtor_and_free_eq, eq]; simp [(same p).2.2, own, head]
  have objs : (sgv_dtor_and_free cfg (__sgv_purge_from_cache s id) id).objs =
      Function.update s.objs id none := by
    rw [sgv_dtor_and_free_eq, eq]
  have kept (x) (mem : x ∈ rest) : (sgv_dtor_and_free cfg (__sgv_purge_from_cache s id) id).obj x =
      s.obj x := by
    simp [SgvState.obj, objs, Function.update_noteq (ne_of_mem_of_not_mem mem nodup.1)]
  refine ⟨sorted, objs, kept, ⟨sorted ▸ nodup.2, fun x mem => ?_⟩⟩
  rw [sorted] at mem
  rw [kept x mem]; exact listed.owner x (head ▸ List.mem_cons_of_mem id mem)

/-- `sgv_purge_work_fn`'s loop, on a list in age order and with a round for
each object: the young objects stay listed, and exactly the old ones are
freed. -/
theorem purgeLoop_exact (cur_time p : Nat) :
    ∀ (fuel : Nat) (s : SgvState), PoolListed s p →
      ((s.pools p).sorted_recycling_list.Pairwise fun a b =>
        (s.obj a).time_stamp ≤ (s.obj b).time_stamp) →
      (s.pools p).sorted_recycling_list.length ≤ fuel →
      ((purgeLoop cfg cur_time p fuel s).pools p).sorted_recycling_list =
          (s.pools p).sorted_recycling_list.filter
            (fun id => cur_time < (s.obj id).time_stamp + cfg.PURGE_TIME_AFTER) ∧
        ∀ x, (purgeLoop cfg cur_time p fuel s).objs x =
          if x ∈ (s.pools p).sorted_recycling_list ∧
            (s.obj x).time_stamp + cfg.PURGE_TIME_AFTER ≤ cur_time then none else s.objs x
  | 0, s, _, _, short => by
    have empty := List.length_eq_zero.1 (Nat.le_zero.1 short)
    simp [purgeLoop, empty]
  | fuel + 1, s, listed, aged, short => by
    unfold purgeLoop
    split
    · next empty => simp [empty]
    · next id rest head =>
      rw [head] at aged short ⊢
      obtain ⟨before, aged_rest⟩ := List.pairwise_cons.1 aged
      split
      · next old =>
        obtain ⟨sorted, objs, kept, listed'⟩ := listed.purge_head head
        have nodup := listed.nodup
        rw [head, List.nodup_cons] at nodup
        obtain ⟨filtered, freed⟩ := purgeLoop_exact cur_time p fuel _ listed'
          (by rw [sorted]; exact aged_rest.imp_of_mem fun {a b} ma mb le => by rwa [kept a ma, kept b mb])
          (by rw [sorted]; simpa using short)
        refine ⟨?_, fun x => ?_⟩
        · rw [filtered, sorted, List.filter_cons_of_neg (by simpa using old)]
          exact List.filter_congr fun x mem => by rw [kept x mem]
        · rw [freed x, sorted, objs]
          by_cases same : x = id
          · subst same; simp [nodup.1, old]
          · by_cases mem : x ∈ rest
            · simp [same, mem, kept x mem]
            · simp [same, mem]
      · next young =>
        have all_young : ∀ x ∈ id :: rest, cur_time < (s.obj x).time_stamp + cfg.PURGE_TIME_AFTER :=
          fun x mem => by
            rcases List.mem_cons.1 mem with rfl | mem
            · omega
            · have := before x mem; omega
        refine ⟨?_, fun x => ?_⟩
        · simp only [SgvState.setPool_pools, Function.update_same]
          rw [head, List.filter_eq_self.2 fun x mem => by simpa using all_young x mem]
        · have := all_young x
          simp only [SgvState.setPool_objs]
          split
          · next both => have := this both.1; omega
          · rfl

/-- `sgv_shrink_pool`'s loop frees a prefix of the list, each object of it
old enough for `after`, and nothing else. -/
theorem shrinkPoolLoop_prefix (p after cur_time : Nat) :
    ∀ (fuel : Nat) (s : SgvState) (nr freed : Int), PoolListed s p →
      ∃ m, ((shrinkPoolLoop cfg p after cur_time fuel s nr freed).1.pools p).sorted_recycling_list =
          (s.pools p).sorted_recycling_list.drop m ∧
        (∀ x ∈ (s.pools p).sorted_recycling_list.take m, (s.obj x).time_stamp + after ≤ cur_time) ∧
        ∀ x, (shrinkPoolLoop cfg p after cur_time fuel s nr freed).1.objs x =
          if x ∈ (s.pools p).sorted_recycling_list.take m then none else s.objs x
  | 0, s, nr, freed, _ => ⟨0, by simp [shrinkPoolLoop]⟩
  | fuel + 1, s, nr, freed, listed => by
    unfold shrinkPoolLoop
    split
    · exact ⟨0, by simp⟩
    · next id rest head =>
      split
      · split
        · next _ old =>
          obtain ⟨sorted, objs, kept, listed'⟩ := @PoolListed.purge_head cfg _ _ _ _ listed head
          have nodup := listed.nodup
          rw [head, List.nodup_cons] at nodup
          rw [head]
          dsimp only
          split
          · refine ⟨1, by simpa using sorted, fun x mem => ?_, fun x => ?_⟩
            · simp only [List.take_succ_cons, List.take_zero, List.mem_singleton] at mem
              rw [mem]; omega
            · rw [objs]
              by_cases same : x = id
              · subst same; simp
              · simp [same]
          · obtain ⟨m, dropped, aged, freed'⟩ := shrinkPoolLoop_prefix p after cur_time fuel _
              (nr - 2 ^ (s.obj id).order_or_pages.toNat) (freed + 2 ^ (s.obj id).order_or_pages.toNat) listed'
            rw [sorted] at dropped aged freed'
            refine ⟨m + 1, by simpa using dropped, fun x mem => ?_, fun x => ?_⟩
            · rcases List.mem_cons.1 (by simpa using mem) with rfl | mem
              · omega
              · rw [← kept x (List.mem_of_mem_take mem)]; exact aged x mem
            · rw [freed' x, objs]
              by_cases same : x = id
              · subst same; simp [fun mem => nodup.1 (List.mem_of_mem_take mem)]
              · simp [same]
        · exact ⟨0, by simp⟩
      · exact ⟨0, by simp⟩

theorem sgv_purge_work_fn_exact {s : SgvState} {p : Nat} (listed : PoolListed s p)
    (aged : (s.pools p).sorted_recycling_list.Pairwise fun a b =>
      (s.obj a).time_stamp ≤ (s.obj b).time_stamp) :
    ((sgv_purge_work_fn cfg s p).pools p).sorted_recycling_list =
        (s.pools p).sorted_recycling_list.filter
          (fun id => s.jiffies < (s.obj id).time_stamp + cfg.PURGE_TIME_AFTER) ∧
      ∀ x, (sgv_purge_work_fn cfg s p).objs x =
        if x ∈ (s.pools p).sorted_recycling_list ∧
          (s.obj x).time_stamp + cfg.PURGE_TIME_AFTER ≤ s.jiffies then none else s.objs x := by
  have same_obj (x : Nat) :
      (s.setPool p fun pool => { pool with purge_work_scheduled := false }).obj x = s.obj x := rfl
  have same_list : ((s.setPool p fun pool => { pool with purge_work_scheduled := false }).pools
      p).sorted_recycling_list = (s.pools p).sorted_recycling_list := by simp
  have := @purgeLoop_exact cfg s.jiffies p (s.pools p).sorted_recycling_list.length _
    ⟨same_list ▸ listed.nodup, fun id mem => by rw [same_obj]; exact listed.owner id (same_list ▸ mem)⟩
    (by rw [same_list]; simpa only [same_obj] using aged) (by rw [same_list])
  unfold sgv_purge_work_fn
  simpa only [same_obj, same_list, SgvState.setPool_objs] using this

end Aged

/-- In every reachable state each sorted list is in age order. So a run of
`sgv_purge_work_fn` with no other call in between keeps exactly the objects
younger than `PURGE_TIME_AFTER` and frees the others, and `sgv_shrink_pool`
frees a prefix of the list, the oldest objects, each old enough for its
limit. -/
theorem purge_in_age_order {cfg : Config} {s : SgvState} (reach : SectionReach cfg s) :
    AgeSorted s ∧
      (∀ p, ((sgv_purge_work_fn cfg s p).pools p).sorted_recycling_list =
          (s.pools p).sorted_recycling_list.filter
            (fun id => s.jiffies < (s.obj id).time_stamp + cfg.PURGE_TIME_AFTER) ∧
        ∀ x, (sgv_purge_work_fn cfg s p).objs x =
          if x ∈ (s.pools p).sorted_recycling_list ∧
            (s.obj x).time_stamp + cfg.PURGE_TIME_AFTER ≤ s.jiffies then none else s.objs x) ∧
      ∀ p nr after cur_time, ∃ m,
        ((sgv_shrink_pool cfg s p nr after cur_time).1.pools p).sorted_recycling_list =
            (s.pools p).sorted_recycling_list.drop m ∧
          (∀ x ∈ (s.pools p).sorted_recycling_list.take m, (s.obj x).time_stamp + after ≤ cur_time) ∧
          ∀ x, (sgv_shrink_pool cfg s p nr after cur_time).1.objs x =
            if x ∈ (s.pools p).sorted_recycling_list.take m then none else s.objs x := by
  have inv := reach.inv
  exact ⟨inv.age_sorted, fun p => sgv_purge_work_fn_exact (inv.lists.listed p) (inv.age_sorted p).1,
    fun p nr after cur_time => shrinkPoolLoop_prefix p after cur_time _ s nr 0 (inv.lists.listed p)⟩

/-- Pool 0 holds object 0, freed at jiffies 0, before object 1, freed 100
jiffies later; at 6050 the work frees the first and keeps the second. -/
theorem twoPools_age_order :
    SectionReach x86Config twoPools ∧ (twoPools.pools 0).sorted_recycling_list = [0, 1] ∧
      ((sgv_purge_work_fn x86Config twoPools 0).pools 0).sorted_recycling_list = [1] ∧
      (AgeSorted twoPools ∧
        (∀ p, ((sgv_purge_work_fn x86Config twoPools p).pools p).sorted_recycling_list =
            (twoPools.pools p).sorted_recycling_list.filter
              (fun id => twoPools.jiffies < (twoPools.obj id).time_stamp + x86Config.PURGE_TIME_AFTER) ∧
          ∀ x, (sgv_purge_work_fn x86Config twoPools p).objs x =
            if x ∈ (twoPools.pools p).sorted_recycling_list ∧
              (twoPools.obj x).time_stamp + x86Config.PURGE_TIME_AFTER ≤ twoPools.jiffies
            then none else twoPools.objs x) ∧
        ∀ p nr after cur_time, ∃ m,
          ((sgv_shrink_pool x86Config twoPools p nr after cur_time).1.pools p).sorted_recycling_list =
              (twoPools.pools p).sorted_recycling_list.drop m ∧
            (∀ x ∈ (twoPools.pools p).sorted_recycling_list.take m,
              (twoPools.obj x).time_stamp + after ≤ cur_time) ∧
            ∀ x, (sgv_shrink_pool x86Config twoPools p nr after cur_time).1.objs x =
              if x ∈ (twoPools.pools p).sorted_recycling_list.take m then none
              else twoPools.objs x) :=
  ⟨twoPools_reach, by decide, by decide, purge_in_age_order twoPools_reach⟩

/-! ### The purge work item under any interleaving -/

/-- Where a run of `sgv_purge_work_fn` is: entered, with `cur_time` read; in
its loop under the pool lock; destroying an object with the lock dropped;
past its loop, about to return. -/
inductive PurgePhase
  | started (cur_time : Nat)
  | looping (cur_time : Nat)
  | destroying (cur_time id : Nat)
  | finishing
  deriving DecidableEq, Repr

/-- The allocator with each pool's delayed work item: whether it is queued,
and the run in progress. The workqueue never runs one work item twice at
once; a running item can be queued again. -/
structure PurgeSys where
  state : SgvState
  pending : Nat → Bool
  running : Nat → Option PurgePhase

/-- Pool `p`'s `purge_work_scheduled`. -/
def PurgeSys.flag (w : PurgeSys) (p : Nat) : Bool := (w.state.pools p).purge_work_scheduled

def setScheduled (s : SgvState) (p : Nat) (b : Bool) : SgvState :=
  s.setPool p fun pool => { pool with purge_work_scheduled := b }

inductive PurgeStep (cfg : Config) : PurgeSys → PurgeSys → Prop
  /-- A section that writes no `purge_work_scheduled`: a hit, a purge by a
  shrink or a flush, a release into a pool whose flag is set, and the rest. -/
  | locked (w : PurgeSys) (t : SgvState) : PoolSection cfg w.state t →
      (∀ p, (t.pools p).purge_work_scheduled = (w.state.pools p).purge_work_scheduled) →
      PurgeStep cfg w { w with state := t }
  /-- `sgv_put_obj` into a pool whose flag is clear sets it and queues the work. -/
  | release (w : PurgeSys) (id : Nat) : id < w.state.next_obj → ¬w.state.Listed id →
      CountsOffList w.state (w.state.obj id).owner_pool → w.flag (w.state.obj id).owner_pool = false →
      PurgeStep cfg w { w with
        state := sgv_put_obj w.state id
        pending := Function.update w.pending (w.state.obj id).owner_pool true }
  /-- The workqueue runs a queued item that is not running. -/
  | start (w : PurgeSys) (p : Nat) : w.pending p = true → w.running p = none →
      PurgeStep cfg w { w with
        pending := Function.update w.pending p false
        running := Function.update w.running p (some (.started w.state.jiffies)) }
  /-- Under the lock: `purge_work_scheduled = false`. -/
  | clear (w : PurgeSys) (p cur_time : Nat) : w.running p = some (.started cur_time) →
      PurgeStep cfg w { w with
        state := setScheduled w.state p false
        running := Function.update w.running p (some (.looping cur_time)) }
  /-- The head is old enough: `__sgv_purge_from_cache`, and the lock is dropped. -/
  | purge_old (w : PurgeSys) (p cur_time id : Nat) (rest : List Nat) :
      w.running p = some (.looping cur_time) → (w.state.pools p).sorted_recycling_list = id :: rest →
      cur_time ≥ (w.state.obj id).time_stamp + cfg.PURGE_TIME_AFTER →
      PurgeStep cfg w { w with
        state := __sgv_purge_from_cache w.state id
        running := Function.update w.running p (some (.destroying cur_time id)) }
  /-- `sgv_dtor_and_free` with the lock dropped; the lock is taken again. -/
  | destroy (w : PurgeSys) (p cur_time id : Nat) : w.running p = some (.destroying cur_time id) →
      ¬w.state.Listed id →
      PurgeStep cfg w { w with
        state := sgv_dtor_and_free cfg w.state id
        running := Function.update w.running p (some (.looping cur_time)) }
  /-- The head is too young: the work is queued again and the flag set. -/
  | reschedule (w : PurgeSys) (p cur_time id : Nat) (rest : List Nat) :
      w.running p = some (.looping cur_time) → (w.state.pools p).sorted_recycling_list = id :: rest →
      cur_time < (w.state.obj id).time_stamp + cfg.PURGE_TIME_AFTER →
      PurgeStep cfg w { w with
        state := setScheduled w.state p true
        pending := Function.update w.pending p true
        running := Function.update w.running p (some .finishing) }
  /-- The list is empty and the loop ends. -/
  | drained (w : PurgeSys) (p cur_time : Nat) : w.running p = some (.looping cur_time) →
      (w.state.pools p).sorted_recycling_list = [] →
      PurgeStep cfg w { w with running := Function.update w.running p (some .finishing) }
  /-- The lock is dropped and the function returns. -/
  | finish (w : PurgeSys) (p : Nat) : w.running p = some .finishing →
      PurgeStep cfg w { w with running := Function.update w.running p none }

/-- From `scst_sgv_pools_init`, with no work queued. -/
inductive PurgeReach (cfg : Config) : PurgeSys → Prop
  | init (ct : Nat → sgv_clustering_types) (limits : Nat → Int) :
      PurgeReach cfg ⟨SgvState.initial ct limits, fun _ => false, fun _ => none⟩
  | step {w w' : PurgeSys} : PurgeReach cfg w → PurgeStep cfg w w' → PurgeReach cfg w'

theorem setScheduled_kept (s : SgvState) (p : Nat) (b : Bool) : ListsKept s (setScheduled s p b) :=
  ⟨rfl, rfl, rfl, rfl, rfl, fun q => by by_cases same : q = p <;> simp [setScheduled, same],
    fun q => by by_cases same : q = p <;> simp [setScheduled, same],
    fun q => by by_cases same : q = p <;> simp [setScheduled, same],
    fun q => by by_cases same : q = p <;> simp [setScheduled, same]⟩

theorem PurgeReach.sections {cfg : Config} {w : PurgeSys} (reach : PurgeReach cfg w) :
    SectionReach cfg w.state := by
  induction reach with
  | init ct limits => exact .init ct limits
  | step _ step ih =>
    cases step with
    | locked t sec _ => exact ih.step sec
    | release id lt off counted _ => exact ih.step (.put _ id lt off counted)
    | start => exact ih
    | clear p _ _ => exact ih.step (.other _ _ (setScheduled_kept _ p false))
    | purge_old p _ id rest _ head _ => exact ih.step (.purge _ p id (head ▸ List.mem_cons_self id rest))
    | destroy p _ id _ off => exact ih.step (.dtor _ id off)
    | reschedule p _ _ _ _ _ _ => exact ih.step (.other _ _ (setScheduled_kept _ p true))
    | drained => exact ih
    | finish => exact ih

/-- Pool `p`'s list, flag and work item: a set flag means the work is queued
or has just started and not yet cleared it; a non-empty list means the flag
is set and the work queued, or a run has not yet left its loop. -/
structure PurgeCovered (sorted : List Nat) (flag pending : Bool) (running : Option PurgePhase) :
    Prop where
  flagged : flag = true → pending = true ∨ ∃ t, running = some (.started t)
  covered : sorted ≠ [] → flag = true ∧ pending = true ∨ ∃ ph, running = some ph ∧ ph ≠ .finishing

namespace PurgeCovered
variable {l : List Nat} {f pend : Bool}

theorem queued (r : Option PurgePhase) : PurgeCovered l true true r :=
  ⟨fun _ => .inl rfl, fun _ => .inl ⟨rfl, rfl⟩⟩

theorem started (t : Nat) : PurgeCovered l f false (some (.started t)) :=
  ⟨fun _ => .inr ⟨t, rfl⟩, fun _ => .inr ⟨_, rfl, nofun⟩⟩

theorem cleared (t : Nat) : PurgeCovered l false pend (some (.looping t)) :=
  ⟨nofun, fun _ => .inr ⟨_, rfl, nofun⟩⟩

theorem sublist {l' : List Nat} {r : Option PurgePhase} (c : PurgeCovered l f pend r) (sub : l'.Sublist l) :
    PurgeCovered l' f pend r :=
  ⟨c.flagged, fun nonempty => c.covered fun empty => nonempty (List.sublist_nil.1 (empty ▸ sub))⟩

theorem move {l' : List Nat} {ph ph' : PurgePhase} (c : PurgeCovered l f pend (some ph))
    (past : ∀ t, ph ≠ .started t) (within : ph' ≠ .finishing) : PurgeCovered l' f pend (some ph') :=
  ⟨fun set => .inl ((c.flagged set).resolve_right fun ⟨t, eq⟩ => past t (Option.some.inj eq)),
    fun _ => .inr ⟨ph', rfl, within⟩⟩

theorem finished (c : PurgeCovered l f pend (some .finishing)) : PurgeCovered l f pend none :=
  ⟨fun set => .inl ((c.flagged set).resolve_right nofun),
    fun nonempty => .inl ((c.covered nonempty).resolve_right fun ⟨_, eq, ne⟩ => ne (Option.some.inj eq).symm)⟩

end PurgeCovered

/-- Every pool's list, flag and work item are covered. -/
def PurgeInv (w : PurgeSys) : Prop :=
  ∀ p, PurgeCovered (w.state.pools p).sorted_recycling_list (w.flag p) (w.pending p) (w.running p)


section Work
variable {cfg : Config}

@[simp] theorem setScheduled_sorted (s : SgvState) (p q : Nat) (b : Bool) :
    ((setScheduled s p b).pools q).sorted_recycling_list = (s.pools q).sorted_recycling_list := by
  by_cases same : q = p <;> simp [setScheduled, same]

theorem setScheduled_scheduled (s : SgvState) (p q : Nat) (b : Bool) :
    ((setScheduled s p b).pools q).purge_work_scheduled =
      if q = p then b else (s.pools q).purge_work_scheduled := by
  by_cases same : q = p <;> simp [setScheduled, same]

theorem purge_from_cache_scheduled (s : SgvState) (id q : Nat) :
    ((__sgv_purge_from_cache s id).pools q).purge_work_scheduled = (s.pools q).purge_work_scheduled := by
  unfold __sgv_purge_from_cache
  dsimp only
  rw [sgv_dec_cached_entries_scheduled]
  by_cases same : q = (s.obj id).owner_pool <;> simp [same]

theorem purge_from_cache_sublist (s : SgvState) (id q : Nat) :
    ((__sgv_purge_from_cache s id).pools q).sorted_recycling_list.Sublist
      (s.pools q).sorted_recycling_list := by
  obtain ⟨pools, active, cur, eq, same⟩ := purge_from_cache_eq s id
  rw [eq]; dsimp only; rw [(same q).2.2]
  split
  · exact List.erase_sublist _ _
  · exact List.Sublist.refl _

theorem purge_from_cache_unlisted {s : SgvState} (wf : ListsWf s) (id : Nat) :
    ¬(__sgv_purge_from_cache s id).Listed id := by
  rintro ⟨q, listed⟩
  obtain ⟨pools, active, cur, eq, same⟩ := purge_from_cache_eq s id
  rw [eq] at listed; dsimp only at listed
  rw [(same q).2.2] at listed
  split at listed
  · exact (wf.nodup q).not_mem_erase listed
  · next other => exact other (wf.owner q id listed).1.symm

theorem PoolSection.sorted_grows {s t : SgvState} (wf : ListsWf s) (step : PoolSection cfg s t) (q : Nat)
    (nonempty : (t.pools q).sorted_recycling_list ≠ []) :
    (s.pools q).sorted_recycling_list ≠ [] ∨ (t.pools q).purge_work_scheduled = true := by
  rcases step.lists wf with kept | ⟨p, id, -, unl⟩ | ⟨id, -, -, rfl⟩
  · rw [kept.sorted] at nonempty; exact .inl nonempty
  · exact .inl fun empty => nonempty (List.sublist_nil.1 (empty ▸ unl.sorted_sublist q))
  · rw [put_obj_pools] at nonempty ⊢
    split
    · exact .inr rfl
    · next other => rw [if_neg other] at nonempty; exact .inl nonempty

theorem PurgeInv.kept {w w' : PurgeSys} (inv : PurgeInv w) {q : Nat}
    (sorted : (w'.state.pools q).sorted_recycling_list = (w.state.pools q).sorted_recycling_list)
    (flag : w'.flag q = w.flag q) (pending : w'.pending q = w.pending q)
    (running : w'.running q = w.running q) :
    PurgeCovered (w'.state.pools q).sorted_recycling_list (w'.flag q) (w'.pending q) (w'.running q) := by
  rw [sorted, flag, pending, running]; exact inv q

theorem PurgeInv.step {w w' : PurgeSys} (inv : PurgeInv w) (wf : ListsWf w.state)
    (step : PurgeStep cfg w w') : PurgeInv w' := by
  intro q
  cases step with
  | locked t sec flags =>
    have c := inv q
    have same_flag : PurgeSys.flag { w with state := t } q = w.flag q := flags q
    refine ⟨fun set => c.flagged (same_flag ▸ set), fun nonempty => ?_⟩
    rcases sec.sorted_grows wf q nonempty with old | set
    · exact (c.covered old).imp_left fun ⟨flagged, pend⟩ => ⟨same_flag ▸ flagged, pend⟩
    · rcases c.flagged (same_flag.symm.trans set) with pend | ⟨_, run⟩
      · exact .inl ⟨set, pend⟩
      · exact .inr ⟨_, run, nofun⟩
  | release id _ _ _ _ =>
    by_cases same : q = (w.state.obj id).owner_pool
    · subst same
      have flag : ((sgv_put_obj w.state id).pools (w.state.obj id).owner_pool).purge_work_scheduled := by
        rw [put_obj_pools, if_pos rfl]
      simp only [PurgeSys.flag, flag, Function.update_same]
      exact .queued _
    · exact inv.kept (by rw [put_obj_pools, if_neg same]) (by simp [PurgeSys.flag, put_obj_pools, same])
        (Function.update_noteq same _ _) rfl
  | start p _ _ =>
    by_cases same : q = p
    · subst same; simp only [Function.update_same]; exact .started _
    · exact inv.kept rfl rfl (Function.update_noteq same _ _) (Function.update_noteq same _ _)
  | clear p _ _ =>
    by_cases same : q = p
    · subst same
      simp only [PurgeSys.flag, setScheduled_scheduled, if_pos rfl, Function.update_same]
      exact .cleared _
    · exact inv.kept (setScheduled_sorted _ _ _ _) (by simp [PurgeSys.flag, setScheduled_scheduled, same]) rfl
        (Function.update_noteq same _ _)
  | purge_old p _ id _ run _ _ =>
    have c := inv q
    simp only [PurgeSys.flag, purge_from_cache_scheduled]
    by_cases same : q = p
    · subst same
      rw [run] at c
      rw [Function.update_same]
      exact c.move nofun nofun
    · rw [Function.update_noteq same]
      exact c.sublist (purge_from_cache_sublist _ _ _)
  | destroy p _ id run _ =>
    have pools : (sgv_dtor_and_free cfg w.state id).pools = w.state.pools := by rw [sgv_dtor_and_free_eq]
    by_cases same : q = p
    · subst same
      have c := inv q
      rw [run] at c
      simp only [PurgeSys.flag, pools, Function.update_same]
      exact c.move nofun nofun
    · exact inv.kept (by rw [pools]) (by simp [PurgeSys.flag, pools]) rfl (Function.update_noteq same _ _)
  | reschedule p _ _ _ _ _ _ =>
    by_cases same : q = p
    · subst same
      simp only [PurgeSys.flag, setScheduled_scheduled, if_pos rfl, Function.update_same]
      exact .queued _
    · exact inv.kept (setScheduled_sorted _ _ _ _) (by simp [PurgeSys.flag, setScheduled_scheduled, same])
        (Function.update_noteq same _ _) (Function.update_noteq same _ _)
  | drained p _ run empty =>
    by_cases same : q = p
    · subst same
      have c := inv q
      rw [run] at c
      simp only [Function.update_same]
      exact ⟨fun set => .inl ((c.flagged set).resolve_right fun ⟨_, eq⟩ => nomatch eq),
        fun nonempty => absurd empty nonempty⟩
    · exact inv.kept rfl rfl rfl (Function.update_noteq same _ _)
  | finish p run =>
    by_cases same : q = p
    · subst same
      have c := inv q
      rw [run] at c
      simp only [Function.update_same]; exact c.finished
    · exact inv.kept rfl rfl rfl (Function.update_noteq same _ _)

theorem PurgeReach.inv {w : PurgeSys} (reach : PurgeReach cfg w) : PurgeInv w := by
  induction reach with
  | init ct limits => intro p; exact ⟨nofun, nofun⟩
  | step reach step ih => exact ih.step reach.sections.inv.lists step

end Work

/-- Under any interleaving of releases, hits, shrinks, flushes and runs of the
purge work, a pool with cached objects has its flag set and its work queued,
or a run of its work that has not left its loop; and a set flag means the
work is queued, or a run has started and not yet cleared it. -/
theorem cached_objects_purged {cfg : Config} {w : PurgeSys} (reach : PurgeReach cfg w) (p : Nat) :
    ((w.state.pools p).sorted_recycling_list ≠ [] →
        (w.state.pools p).purge_work_scheduled = true ∧ w.pending p = true ∨
          ∃ ph, w.running p = some ph ∧ ph ≠ .finishing) ∧
      ((w.state.pools p).purge_work_scheduled = true →
        w.pending p = true ∨ ∃ t, w.running p = some (.started t)) :=
  ⟨(reach.inv p).covered, (reach.inv p).flagged⟩

/-- `madeFresh` released into pool 0, whose work is queued by it. -/
def queuedFresh : PurgeSys :=
  ⟨cachedFresh, Function.update (fun _ => false) (madeFresh.obj 0).owner_pool true, fun _ => none⟩

theorem madeFresh_unscheduled (q : Nat) : (madeFresh.pools q).purge_work_scheduled = false := by
  by_cases same : q = 0 <;> simp [madeFresh, same, SgvState.initial, SgvPool.empty]

theorem queuedFresh_reach : PurgeReach x86Config queuedFresh :=
  .step (.step (.step (.init (fun _ => sgv_full_clustering) fun _ => 0)
    (.locked _ _ (.count _ 0 0 rfl) fun q => by by_cases same : q = 0 <;> simp [same]))
    (.locked _ madeFresh (.create _ _) fun _ => rfl))
    (.release _ 0 (by simp [madeFresh]) madeFresh_unlisted (by decide) (madeFresh_unscheduled _))

theorem queuedFresh_purged :
    PurgeReach x86Config queuedFresh ∧
      ∀ p, ((queuedFresh.state.pools p).sorted_recycling_list ≠ [] →
          (queuedFresh.state.pools p).purge_work_scheduled = true ∧ queuedFresh.pending p = true ∨
            ∃ ph, queuedFresh.running p = some ph ∧ ph ≠ .finishing) ∧
        ((queuedFresh.state.pools p).purge_work_scheduled = true →
          queuedFresh.pending p = true ∨ ∃ t, queuedFresh.running p = some (.started t)) :=
  ⟨queuedFresh_reach, cached_objects_purged queuedFresh_reach⟩

/-! ### A run of the work item alone is `sgv_purge_work_fn` -/

section Alone
variable {cfg : Config}
open Relation

/-- The loop of a run, with no other step in between, ends where `purgeLoop`
does: each old head is purged and destroyed, and the run leaves its loop at
an empty list or, queued again, at the first young head. -/
theorem purge_loop_steps (cur_time p : Nat) : ∀ (fuel : Nat) (w : PurgeSys),
    w.running p = some (.looping cur_time) → ListsWf w.state → w.pending p = w.flag p →
    (w.state.pools p).sorted_recycling_list.length ≤ fuel →
    ReflTransGen (PurgeStep cfg) w
      ⟨purgeLoop cfg cur_time p fuel w.state,
        Function.update w.pending p ((purgeLoop cfg cur_time p fuel w.state).pools p).purge_work_scheduled,
        Function.update w.running p (some .finishing)⟩
  | 0, w, loop, _, pend, short => by
    rw [purgeLoop, ← PurgeSys.flag, ← pend, Function.update_eq_self]
    exact .single (.drained w p cur_time loop (List.eq_nil_of_length_eq_zero (Nat.le_zero.1 short)))
  | fuel + 1, w, loop, wf, pend, short => by
    unfold purgeLoop
    split
    · next empty =>
      rw [← PurgeSys.flag, ← pend, Function.update_eq_self]
      exact .single (.drained w p cur_time loop empty)
    · next id rest head =>
      split
      · next old =>
        obtain ⟨sorted, -, -, -⟩ := @PoolListed.purge_head cfg _ _ _ _ (wf.listed p) head
        have mem : id ∈ (w.state.pools p).sorted_recycling_list := head ▸ List.mem_cons_self id rest
        have wf' := (wf.step (@PoolSection.purge cfg _ p id mem)).step
          (@PoolSection.dtor cfg _ id (purge_from_cache_unlisted wf id))
        have destroyed : ReflTransGen (PurgeStep cfg) w
            ⟨sgv_dtor_and_free cfg (__sgv_purge_from_cache w.state id) id, w.pending, w.running⟩ := by
          have two := (ReflTransGen.single (@PurgeStep.purge_old cfg w p cur_time id rest loop head old)).tail
            (@PurgeStep.destroy cfg _ p cur_time id (by simp) (purge_from_cache_unlisted wf id))
          simpa only [Function.update_idem, ← loop, Function.update_eq_self] using two
        refine destroyed.trans (purge_loop_steps cur_time p fuel _ loop wf' ?_ ?_)
        · simp [PurgeSys.flag, sgv_dtor_and_free_eq, purge_from_cache_scheduled, pend]
        · rw [sorted]; rw [head] at short; simpa using short
      · next young =>
        have reschedule := @PurgeStep.reschedule cfg w p cur_time id rest loop head (by omega)
        simp only [setScheduled] at reschedule
        simpa only [SgvState.setPool_pools, Function.update_same] using ReflTransGen.single reschedule

/-- A run of pool `p`'s work item from the moment the workqueue starts it to
its return, with no other step in between, is `sgv_purge_work_fn`: it leaves
the state the function computes, with the work queued again exactly when the
function set the flag, and no run in progress. -/
theorem purge_run_is_work_fn {w : PurgeSys} {p : Nat} (wf : ListsWf w.state) (queued : w.pending p = true)
    (idle : w.running p = none) :
    ReflTransGen (PurgeStep cfg) w
      ⟨sgv_purge_work_fn cfg w.state p,
        Function.update w.pending p ((sgv_purge_work_fn cfg w.state p).pools p).purge_work_scheduled,
        w.running⟩ := by
  have loop := @purge_loop_steps cfg w.state.jiffies p (w.state.pools p).sorted_recycling_list.length
    ⟨setScheduled w.state p false, Function.update w.pending p false,
      Function.update (Function.update w.running p (some (.started w.state.jiffies))) p
        (some (.looping w.state.jiffies))⟩
    (by simp) (wf.step (@PoolSection.other cfg _ _ (setScheduled_kept w.state p false)))
    (by simp [PurgeSys.flag, setScheduled_scheduled]) (by simp)
  have run := (ReflTransGen.head (.start w p queued idle) (.head (.clear _ p w.state.jiffies (by simp)) loop)).tail
    (.finish _ p (by simp))
  simpa only [sgv_purge_work_fn, setScheduled, Function.update_idem, ← idle, Function.update_eq_self] using run

theorem queuedFresh_work_fn_run :
    ListsWf queuedFresh.state ∧ queuedFresh.pending 0 = true ∧ queuedFresh.running 0 = none ∧
      ReflTransGen (PurgeStep x86Config) queuedFresh
        ⟨sgv_purge_work_fn x86Config queuedFresh.state 0,
          Function.update queuedFresh.pending 0
            ((sgv_purge_work_fn x86Config queuedFresh.state 0).pools 0).purge_work_scheduled,
          queuedFresh.running⟩ :=
  have wf := queuedFresh_reach.sections.inv.lists
  ⟨wf, by decide, rfl, purge_run_is_work_fn wf (by decide) rfl⟩

end Alone

end ScstMem
