import ScstMem.Pool

/-! The reclaim paths: `sgv_shrink_pool`, the round-robin `__sgv_shrink`, the
shrinker callback `sgv_shrink`, the delayed `sgv_purge_work_fn`,
`sgv_pool_flush` and the high-watermark gate `sgv_hiwmk_check`. Each loop
takes a round count: the per-pool loops take the list's length (every round
unlinks the object at the head), and `__sgv_shrink` takes `shrinkFuel`, a
bound on its rounds. The sequential model runs the loops with no other call
in between, so the pool references `__sgv_shrink` takes and drops cancel out
and are left out. `time_after_eq` is `≥` on a clock that does not wrap. -/
namespace ScstMem
open sgv_clustering_types

section Reclaim
variable (cfg : Config)

/-- The loop of `sgv_shrink_pool` with `freed` pages freed so far. -/
def shrinkPoolLoop (p after cur_time : Nat) : Nat → SgvState → Int → Int → SgvState × Int
  | 0, s, nr, _ => (s, nr)
  | fuel + 1, s, nr, freed =>
      match (s.pools p).sorted_recycling_list with
      | [] => (s, nr)
      | id :: _ =>
          if s.sgv_pages_total > cfg.sgv_lo_wmk then
            if cur_time ≥ (s.obj id).time_stamp + after then
              let pages : Int := 2 ^ (s.obj id).order_or_pages.toNat
              let s1 := sgv_dtor_and_free cfg (__sgv_purge_from_cache s id) id
              if nr - pages ≤ 0 ∨ freed + pages ≥ MAX_PAGES_PER_POOL then (s1, nr - pages)
              else shrinkPoolLoop p after cur_time fuel s1 (nr - pages) (freed + pages)
            else (s, nr)
          else (s, nr)

def sgv_shrink_pool (s : SgvState) (p : Nat) (nr : Int) (after cur_time : Nat) : SgvState × Int :=
  shrinkPoolLoop cfg p after cur_time (s.pools p).sorted_recycling_list.length s nr 0

/-- The pool `__sgv_shrink` starts a round with: the cursor, else the first
active pool. -/
def cursorPool (s : SgvState) : Option Nat :=
  match s.sgv_cur_purge_pool with
  | some p => some p
  | none => s.sgv_active_pools_list.head?

/-- The `while (nr > 0)` loop of `__sgv_shrink`. The cursor moves on before
the pool is shrunk; past the last pool it wraps, and a second wrap without
progress ends the loop. -/
def shrinkLoop (after cur_time : Nat) : Nat → SgvState → Int → Int → Bool → SgvState × Int
  | 0, s, nr, _, _ => (s, nr)
  | fuel + 1, s, nr, prev_nr, circled =>
      if nr > 0 then
        match cursorPool s with
        | none => (s, nr)
        | some p =>
            match succOf p s.sgv_active_pools_list with
            | some q =>
                let r := sgv_shrink_pool cfg { s with sgv_cur_purge_pool := some q } p nr after cur_time
                shrinkLoop after cur_time fuel r.1 r.2 prev_nr circled
            | none =>
                if circled ∧ prev_nr = nr then (s, nr)
                else
                  let r := sgv_shrink_pool cfg
                    { s with sgv_cur_purge_pool := s.sgv_active_pools_list.head? } p nr after cur_time
                  shrinkLoop after cur_time fuel r.1 r.2 nr true
      else (s, nr)

/-- Cached objects, over the active pools. -/
def cachedCount (s : SgvState) : Nat :=
  (s.sgv_active_pools_list.map fun p => (s.pools p).sorted_recycling_list.length).sum

/-- A bound on the rounds of `__sgv_shrink`: between two rounds that free an
object there are fewer than two passes over the active list. -/
def shrinkFuel (s : SgvState) : Nat :=
  (cachedCount s + 1) * (2 * s.sgv_active_pools_list.length + 2) + 1

def __sgv_shrink (s : SgvState) (nr : Int) (after : Nat) : SgvState × Int :=
  shrinkLoop cfg after s.jiffies (shrinkFuel s) s nr nr false

/-- The shrinker callback: shrink by `nr`, or with `nr ≤ 0` report how many
inactive pages lie above the low watermark. -/
def sgv_shrink (s : SgvState) (nr : Int) : SgvState × Int :=
  if nr > 0 then __sgv_shrink cfg s nr cfg.SHRINK_TIME_AFTER
  else (s, max 0 ((s.sgv_active_pools_list.map fun p =>
    (s.pools p).inactive_cached_pages).sum - cfg.sgv_lo_wmk))

def purgeLoop (cur_time p : Nat) : Nat → SgvState → SgvState
  | 0, s => s
  | fuel + 1, s =>
      match (s.pools p).sorted_recycling_list with
      | [] => s
      | id :: _ =>
          if cur_time ≥ (s.obj id).time_stamp + cfg.PURGE_TIME_AFTER then
            purgeLoop cur_time p fuel (sgv_dtor_and_free cfg (__sgv_purge_from_cache s id) id)
          else s.setPool p fun pool => { pool with purge_work_scheduled := true }

/-- `sgv_purge_work_fn`: destroy the objects released at least
`PURGE_TIME_AFTER` ago, oldest first, and reschedule at the first younger one. -/
def sgv_purge_work_fn (s : SgvState) (p : Nat) : SgvState :=
  purgeLoop cfg s.jiffies p (s.pools p).sorted_recycling_list.length
    (s.setPool p fun pool => { pool with purge_work_scheduled := false })

def flushList (p k : Nat) : Nat → SgvState → SgvState
  | 0, s => s
  | fuel + 1, s =>
      match (s.pools p).recycling_lists k with
      | [] => s
      | id :: _ => flushList p k fuel (sgv_dtor_and_free cfg (__sgv_purge_from_cache s id) id)

/-- `sgv_pool_flush`: destroy every cached object, order by order. -/
def sgv_pool_flush (s : SgvState) (p : Nat) : SgvState :=
  (List.range cfg.SGV_POOL_ELEMENTS).foldl
    (fun s k => flushList cfg p k ((s.pools p).recycling_lists k).length s) s

/-- `sgv_hiwmk_check(pages_to_alloc)`: read the total; above the mark, shrink
by the excess with no age limit and fail if that falls short; then add. -/
def sgv_hiwmk_check (s : SgvState) (pages_to_alloc : Int) : SgvState × Bool :=
  let pages := pages_to_alloc + s.sgv_pages_total
  if pages > cfg.sgv_hi_wmk then
    let s1 := { s with sgv_releases_on_hiwmk := s.sgv_releases_on_hiwmk + 1 }
    let r := __sgv_shrink cfg s1 (pages - cfg.sgv_hi_wmk) 0
    if r.2 > 0 then
      ({ r.1 with sgv_releases_on_hiwmk_failed := r.1.sgv_releases_on_hiwmk_failed + 1 }, false)
    else ({ r.1 with sgv_pages_total := r.1.sgv_pages_total + pages_to_alloc }, true)
  else ({ s with sgv_pages_total := s.sgv_pages_total + pages_to_alloc }, true)

end Reclaim

section Shrinks
variable {cfg : Config} {s : SgvState} {nr : Int}

/-- What a shrink does to the total, given the count `nr` still wanted before
and after: it only frees pages, and every freed page comes off `nr`. -/
def Shrinks (s : SgvState) (nr : Int) (r : SgvState × Int) : Prop :=
  r.1.sgv_pages_total - r.2 = s.sgv_pages_total - nr ∧ r.1.sgv_pages_total ≤ s.sgv_pages_total

theorem Shrinks.refl : Shrinks s nr (s, nr) := ⟨rfl, le_rfl⟩

theorem Shrinks.trans {t : SgvState} {m : Int} {r : SgvState × Int} (h : Shrinks s nr (t, m))
    (h' : Shrinks t m r) : Shrinks s nr r :=
  ⟨h'.1.trans h.1, h'.2.trans h.2⟩

theorem Shrinks.purge (id : Nat) :
    Shrinks s nr (sgv_dtor_and_free cfg (__sgv_purge_from_cache s id) id,
      nr - 2 ^ (s.obj id).order_or_pages.toNat) := by
  have := two_pow_int_pos (s.obj id).order_or_pages.toNat
  constructor <;> simp only [sgv_dtor_and_free_total, purge_from_cache_total] <;> omega

theorem Shrinks.cursor {c : Option Nat} {r : SgvState × Int}
    (h : Shrinks { s with sgv_cur_purge_pool := c } nr r) : Shrinks s nr r := h

theorem shrinkPoolLoop_shrinks (p after cur_time fuel : Nat) (freed : Int) :
    Shrinks s nr (shrinkPoolLoop cfg p after cur_time fuel s nr freed) := by
  induction fuel generalizing s nr freed with
  | zero => exact .refl
  | succ fuel ih =>
    unfold shrinkPoolLoop
    split
    · exact .refl
    · split
      · split
        · dsimp only
          split
          · exact .purge _
          · exact (Shrinks.purge _).trans (ih _)
        · exact .refl
      · exact .refl

theorem shrinkLoop_shrinks (after cur_time fuel : Nat) (prev_nr : Int) (circle : Bool) :
    Shrinks s nr (shrinkLoop cfg after cur_time fuel s nr prev_nr circle) := by
  induction fuel generalizing s nr prev_nr circle with
  | zero => exact .refl
  | succ fuel ih =>
    unfold shrinkLoop
    split
    · split
      · exact .refl
      · split
        · exact Shrinks.cursor ((shrinkPoolLoop_shrinks _ _ _ _ _).trans (ih _ _))
        · split
          · exact .refl
          · exact Shrinks.cursor ((shrinkPoolLoop_shrinks _ _ _ _ _).trans (ih _ _))
    · exact .refl

theorem sgv_shrink_shrinks (after : Nat) : Shrinks s nr (__sgv_shrink cfg s nr after) :=
  shrinkLoop_shrinks _ _ _ _ _

theorem sgv_hiwmk_check_spec (pages : Int) :
    ∃ freed, 0 ≤ freed ∧ (pages + s.sgv_pages_total ≤ cfg.sgv_hi_wmk → freed = 0) ∧
      ((sgv_hiwmk_check cfg s pages).2 = true ↔
        pages + (s.sgv_pages_total - freed) ≤ cfg.sgv_hi_wmk) ∧
      (sgv_hiwmk_check cfg s pages).1.sgv_pages_total =
        s.sgv_pages_total - freed + if (sgv_hiwmk_check cfg s pages).2 then pages else 0 := by
  by_cases over : pages + s.sgv_pages_total > cfg.sgv_hi_wmk
  · obtain ⟨tracks, le⟩ := @sgv_shrink_shrinks cfg
      { s with sgv_releases_on_hiwmk := s.sgv_releases_on_hiwmk + 1 }
      (pages + s.sgv_pages_total - cfg.sgv_hi_wmk) 0
    simp only [sgv_hiwmk_check, if_pos over]
    generalize __sgv_shrink cfg _ _ 0 = r at tracks le ⊢
    dsimp only at tracks le
    refine ⟨s.sgv_pages_total - r.1.sgv_pages_total, by omega, fun fits => absurd fits (by omega), ?_⟩
    split <;> simp only [if_true, Bool.false_eq_true, false_iff, if_false, true_iff] <;> omega
  · simp only [sgv_hiwmk_check, if_neg over]
    exact ⟨0, le_rfl, fun _ => rfl, by simp only [if_true, true_iff]; omega, by simp⟩

end Shrinks

section Reclaimed
variable {cfg : Config} {s t u : SgvState}

/-- Two states that agree on the objects, what the callers hold, the charges,
the page log and the pools' lists: they differ at most in counters, cursors,
flags, the clock and the total. -/
structure StoreEq (t u : SgvState) : Prop where
  objs : u.objs = t.objs
  next_obj : u.next_obj = t.next_obj
  handed : u.handed = t.handed
  vectors : u.vectors = t.vectors
  alloced : u.alloced_pages = t.alloced_pages
  pages_allocated : u.pages_allocated = t.pages_allocated
  pages_freed : u.pages_freed = t.pages_freed
  pages_leaked : u.pages_leaked = t.pages_leaked
  recycling : ∀ p, (u.pools p).recycling_lists = (t.pools p).recycling_lists
  sorted : ∀ p, (u.pools p).sorted_recycling_list = (t.pools p).sorted_recycling_list
  clustering : ∀ p, (u.pools p).clustering_type = (t.pools p).clustering_type

theorem StoreEq.setPool (p : Nat) (f : SgvPool → SgvPool)
    (lists : (f (t.pools p)).recycling_lists = (t.pools p).recycling_lists)
    (sorted : (f (t.pools p)).sorted_recycling_list = (t.pools p).sorted_recycling_list)
    (ct : (f (t.pools p)).clustering_type = (t.pools p).clustering_type) :
    StoreEq t (t.setPool p f) := by
  refine ⟨rfl, rfl, rfl, rfl, rfl, rfl, rfl, rfl, fun q => ?_, fun q => ?_, fun q => ?_⟩ <;>
    by_cases same : q = p <;> simp [Function.update_apply, same, *]

/-- The states a run of reclaim steps reaches: cached objects unlinked and
destroyed one at a time, and updates that keep the store. -/
inductive Reclaimed (cfg : Config) (s : SgvState) : SgvState → Prop
  | refl : Reclaimed cfg s s
  | purge {t : SgvState} {p id : Nat} : Reclaimed cfg s t →
      (∃ k, id ∈ (t.pools p).recycling_lists k) ∨ id ∈ (t.pools p).sorted_recycling_list →
      Reclaimed cfg s (sgv_dtor_and_free cfg (__sgv_purge_from_cache t id) id)
  | keep {t u : SgvState} : Reclaimed cfg s t → StoreEq t u → Reclaimed cfg s u

theorem Reclaimed.trans (first : Reclaimed cfg s t) (second : Reclaimed cfg t u) :
    Reclaimed cfg s u := by
  induction second with
  | refl => exact first
  | purge _ listed ih => exact .purge ih listed
  | keep _ same ih => exact .keep ih same

theorem Reclaimed.of_storeEq (same : StoreEq s t) : Reclaimed cfg s t := .keep .refl same

theorem Reclaimed.purge_head {p id : Nat} {rest : List Nat}
    (head : (∃ k, (s.pools p).recycling_lists k = id :: rest) ∨
      (s.pools p).sorted_recycling_list = id :: rest) :
    Reclaimed cfg s (sgv_dtor_and_free cfg (__sgv_purge_from_cache s id) id) :=
  .purge (p := p) .refl (head.imp (fun ⟨k, h⟩ => ⟨k, by simp [h]⟩) fun h => by simp [h])

theorem shrinkPoolLoop_reclaimed (p after cur_time fuel : Nat) (nr freed : Int) :
    Reclaimed cfg s (shrinkPoolLoop cfg p after cur_time fuel s nr freed).1 := by
  induction fuel generalizing s nr freed with
  | zero => exact .refl
  | succ fuel ih =>
    unfold shrinkPoolLoop
    split
    · exact .refl
    · next id rest head =>
      split
      · split
        · dsimp only
          split
          · exact .purge_head (.inr head)
          · exact (Reclaimed.purge_head (.inr head)).trans (ih _ _)
        · exact .refl
      · exact .refl

theorem storeEq_cursor (c : Option Nat) : StoreEq s { s with sgv_cur_purge_pool := c } := by
  constructor <;> intros <;> rfl

theorem shrinkLoop_reclaimed (after cur_time fuel : Nat) (nr prev_nr : Int) (circle : Bool) :
    Reclaimed cfg s (shrinkLoop cfg after cur_time fuel s nr prev_nr circle).1 := by
  induction fuel generalizing s nr prev_nr circle with
  | zero => exact .refl
  | succ fuel ih =>
    unfold shrinkLoop
    split
    · split
      · exact .refl
      · split
        · exact (Reclaimed.of_storeEq (storeEq_cursor _)).trans
            ((shrinkPoolLoop_reclaimed _ _ _ _ _ _).trans (ih _ _ _))
        · split
          · exact .refl
          · exact (Reclaimed.of_storeEq (storeEq_cursor _)).trans
              ((shrinkPoolLoop_reclaimed _ _ _ _ _ _).trans (ih _ _ _))
    · exact .refl

theorem sgv_shrink_reclaimed (nr : Int) (after : Nat) :
    Reclaimed cfg s (__sgv_shrink cfg s nr after).1 :=
  shrinkLoop_reclaimed _ _ _ _ _ _

theorem sgv_hiwmk_check_reclaimed (pages : Int) :
    Reclaimed cfg s (sgv_hiwmk_check cfg s pages).1 := by
  unfold sgv_hiwmk_check
  dsimp only
  split
  · have shrunk : Reclaimed cfg s (__sgv_shrink cfg
        { s with sgv_releases_on_hiwmk := s.sgv_releases_on_hiwmk + 1 }
        (pages + s.sgv_pages_total - cfg.sgv_hi_wmk) 0).1 :=
      (Reclaimed.of_storeEq (by constructor <;> intros <;> rfl)).trans (sgv_shrink_reclaimed _ 0)
    split <;> exact .keep shrunk (by constructor <;> intros <;> rfl)
  · exact .of_storeEq (by constructor <;> intros <;> rfl)

theorem sgv_shrink_call_reclaimed (nr : Int) : Reclaimed cfg s (sgv_shrink cfg s nr).1 := by
  unfold sgv_shrink
  split
  · exact sgv_shrink_reclaimed _ _
  · exact .refl

theorem purgeLoop_reclaimed (cur_time p fuel : Nat) :
    Reclaimed cfg s (purgeLoop cfg cur_time p fuel s) := by
  induction fuel generalizing s with
  | zero => exact .refl
  | succ fuel ih =>
    unfold purgeLoop
    split
    · exact .refl
    · next id rest head =>
      split
      · exact (Reclaimed.purge_head (.inr head)).trans ih
      · exact .of_storeEq (.setPool _ _ rfl rfl rfl)

theorem sgv_purge_work_fn_reclaimed (p : Nat) : Reclaimed cfg s (sgv_purge_work_fn cfg s p) :=
  (Reclaimed.of_storeEq (.setPool _ _ rfl rfl rfl)).trans (purgeLoop_reclaimed _ _ _)

theorem flushList_reclaimed (p k fuel : Nat) : Reclaimed cfg s (flushList cfg p k fuel s) := by
  induction fuel generalizing s with
  | zero => exact .refl
  | succ fuel ih =>
    unfold flushList
    split
    · exact .refl
    · next id rest head => exact (Reclaimed.purge_head (.inl ⟨k, head⟩)).trans ih

theorem sgv_pool_flush_reclaimed (p : Nat) : Reclaimed cfg s (sgv_pool_flush cfg s p) := by
  unfold sgv_pool_flush
  generalize List.range cfg.SGV_POOL_ELEMENTS = ks
  induction ks generalizing s with
  | nil => exact .refl
  | cons k ks ih => exact (flushList_reclaimed _ _ _).trans ih

end Reclaimed

end ScstMem
