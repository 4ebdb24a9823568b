import ScstMem.Purge

/-! The round-robin loop of `__sgv_shrink`, run with no other call in
between. Each round is the cursor section and a `sgv_shrink_pool`, which is a
run of purge and free sections, so the registry and the lists stay well
formed. A round either frees an object, and the cache shrinks, or frees
nothing and only moves the cursor; two wraps with no free in between end the
loop. This bounds the rounds by `shrinkFuel`, and shows that a loop that ends
with pages still wanted has found every active pool unable to free. -/
namespace ScstMem
open sgv_clustering_types
open Relation

section Steps
variable {cfg : Config} {s t : SgvState}

/-- What the shrinker reads of a state and keeps: the registry of active
pools, and lists that hold each cached object once, on its own pool's lists.
A heap of C lists has the second by construction. -/
structure ShrinkInv (s : SgvState) : Prop where
  active : ActiveInv s
  lists : ListsWf s

theorem ListsWf.steps (wf : ListsWf s) (steps : ReflTransGen (PoolSection cfg) s t) : ListsWf t := by
  induction steps with
  | refl => exact wf
  | tail _ step ih => exact ih.step step

theorem ShrinkInv.steps (inv : ShrinkInv s) (steps : ReflTransGen (PoolSection cfg) s t) : ShrinkInv t := by
  induction steps with
  | refl => exact inv
  | tail _ step ih => exact ⟨ih.active.step step, ih.lists.step step⟩

theorem AgeSorted.steps (wf : ListsWf s) (age : AgeSorted s) (steps : ReflTransGen (PoolSection cfg) s t) :
    AgeSorted t := by
  induction steps with
  | refl => exact age
  | tail before step ih => exact ih.step (wf.steps before) step

theorem Counted.steps (wf : ListsWf s) (counted : Counted s) (steps : ReflTransGen (PoolSection cfg) s t) :
    Counted t := by
  induction steps with
  | refl => exact counted
  | tail before step ih => exact ih.step (wf.steps before) step

theorem purge_free_steps (wf : ListsWf s) {p id : Nat} (mem : id ∈ (s.pools p).sorted_recycling_list) :
    ReflTransGen (PoolSection cfg) s (sgv_dtor_and_free cfg (__sgv_purge_from_cache s id) id) :=
  .tail (.single (.purge s p id mem)) (.dtor _ id (purge_from_cache_unlisted wf id))

theorem shrinkPoolLoop_steps (p after cur_time : Nat) :
    ∀ (fuel : Nat) (s : SgvState) (nr freed : Int), ListsWf s →
      ReflTransGen (PoolSection cfg) s (shrinkPoolLoop cfg p after cur_time fuel s nr freed).1
  | 0, _, _, _, _ => .refl
  | fuel + 1, s, nr, freed, wf => by
    unfold shrinkPoolLoop
    split
    · exact .refl
    · next id rest head =>
      have purged : ReflTransGen (PoolSection cfg) s (sgv_dtor_and_free cfg (__sgv_purge_from_cache s id) id) :=
        purge_free_steps wf (head ▸ List.mem_cons_self id rest)
      split
      · split
        · dsimp only
          split
          · exact purged
          · exact purged.trans (shrinkPoolLoop_steps p after cur_time fuel _ _ _ (wf.steps purged))
        · exact .refl
      · exact .refl

end Steps

section Drains
variable {cfg : Config} {s t u : SgvState}

/-- What a round of the shrinker does to the cache: pools leave the active
list, objects leave the sorted lists, and the clock stands. -/
structure Drains (s t : SgvState) : Prop where
  active : t.sgv_active_pools_list.Sublist s.sgv_active_pools_list
  sorted : ∀ q, (t.pools q).sorted_recycling_list.length ≤ (s.pools q).sorted_recycling_list.length
  jiffies : t.jiffies = s.jiffies

theorem Drains.refl : Drains s s := ⟨List.Sublist.refl _, fun _ => le_rfl, rfl⟩

theorem Drains.trans (first : Drains s t) (second : Drains t u) : Drains s u :=
  ⟨second.active.trans first.active, fun q => (second.sorted q).trans (first.sorted q),
    second.jiffies.trans first.jiffies⟩

theorem Drains.cursor (c : Option Nat) : Drains s { s with sgv_cur_purge_pool := c } :=
  ⟨List.Sublist.refl _, fun _ => le_rfl, rfl⟩

theorem Drains.cachedCount_le (drains : Drains s t) : cachedCount t ≤ cachedCount s :=
  calc cachedCount t ≤ (s.sgv_active_pools_list.map fun q => (t.pools q).sorted_recycling_list.length).sum :=
        (drains.active.map _).sum_le_sum fun _ _ => Nat.zero_le _
    _ ≤ cachedCount s := List.sum_le_sum fun q _ => drains.sorted q

theorem Drains.cachedCount_lt (drains : Drains s t) {p : Nat} (act : p ∈ s.sgv_active_pools_list)
    (fewer : (t.pools p).sorted_recycling_list.length < (s.pools p).sorted_recycling_list.length) :
    cachedCount t < cachedCount s :=
  calc cachedCount t ≤ (s.sgv_active_pools_list.map fun q => (t.pools q).sorted_recycling_list.length).sum :=
        (drains.active.map _).sum_le_sum fun _ _ => Nat.zero_le _
    _ < cachedCount s := List.sum_lt_sum _ _ (fun q _ => drains.sorted q) ⟨p, act, fewer⟩

theorem purge_from_cache_active (id : Nat) :
    (__sgv_purge_from_cache s id).sgv_active_pools_list.Sublist s.sgv_active_pools_list := by
  unfold __sgv_purge_from_cache
  simp only [sgv_dec_cached_entries_active]
  split
  · exact List.erase_sublist _ _
  · exact List.Sublist.refl _

theorem drains_purge_free (id : Nat) : Drains s (sgv_dtor_and_free cfg (__sgv_purge_from_cache s id) id) := by
  have active : (__sgv_purge_from_cache s id).sgv_active_pools_list.Sublist s.sgv_active_pools_list :=
    purge_from_cache_active id
  obtain ⟨pools, active', cur, eq, same⟩ := purge_from_cache_eq s id
  rw [sgv_dtor_and_free_eq]
  rw [eq] at active ⊢
  refine ⟨active, fun q => ?_, rfl⟩
  dsimp only
  rw [(same q).2.2]
  split
  · exact List.length_erase_le _ _
  · exact le_rfl

theorem shrinkPoolLoop_drains (p after cur_time : Nat) :
    ∀ (fuel : Nat) (s : SgvState) (nr freed : Int), Drains s (shrinkPoolLoop cfg p after cur_time fuel s nr freed).1
  | 0, _, _, _ => .refl
  | fuel + 1, s, nr, freed => by
    unfold shrinkPoolLoop
    split
    · exact .refl
    · split
      · split
        · dsimp only
          split
          · exact drains_purge_free _
          · exact (drains_purge_free _).trans (shrinkPoolLoop_drains p after cur_time fuel _ _ _)
        · exact .refl
      · exact .refl

end Drains

section Stops
variable {cfg : Config} {s : SgvState}

/-- The test that ends `sgv_shrink_pool` before it frees anything: the
pool's sorted list is empty, the total is down to the low watermark, or the
oldest object is younger than `after`. -/
def ShrinkStops (cfg : Config) (s : SgvState) (p after cur_time : Nat) : Prop :=
  match (s.pools p).sorted_recycling_list with
  | [] => True
  | id :: _ => s.sgv_pages_total ≤ cfg.sgv_lo_wmk ∨ cur_time < (s.obj id).time_stamp + after

instance (p after cur_time : Nat) : Decidable (ShrinkStops cfg s p after cur_time) := by
  unfold ShrinkStops; split <;> infer_instance

theorem shrinkPoolLoop_stops {p after cur_time : Nat} (stops : ShrinkStops cfg s p after cur_time)
    (fuel : Nat) (nr freed : Int) : shrinkPoolLoop cfg p after cur_time fuel s nr freed = (s, nr) := by
  cases fuel with
  | zero => rfl
  | succ fuel =>
    unfold shrinkPoolLoop
    unfold ShrinkStops at stops
    split
    · rfl
    · next id rest head =>
      rw [head] at stops
      split
      · rw [if_neg (by omega)]
      · rfl

theorem sgv_shrink_pool_cases (wf : ListsWf s) {p : Nat} (act : p ∈ s.sgv_active_pools_list) (nr : Int)
    (after cur_time : Nat) :
    (ShrinkStops cfg s p after cur_time ∧ sgv_shrink_pool cfg s p nr after cur_time = (s, nr)) ∨
      ((sgv_shrink_pool cfg s p nr after cur_time).2 < nr ∧
        cachedCount (sgv_shrink_pool cfg s p nr after cur_time).1 < cachedCount s) := by
  by_cases stops : ShrinkStops cfg s p after cur_time
  · exact .inl ⟨stops, shrinkPoolLoop_stops stops _ _ _⟩
  right
  unfold ShrinkStops at stops
  split at stops
  · exact absurd trivial stops
  next id rest head =>
  obtain ⟨sorted, -, -, -⟩ := @PoolListed.purge_head cfg _ _ _ _ (wf.listed p) head
  have pages := two_pow_int_pos (s.obj id).order_or_pages.toNat
  have fewer : cachedCount (sgv_dtor_and_free cfg (__sgv_purge_from_cache s id) id) < cachedCount s :=
    (drains_purge_free id).cachedCount_lt act (by rw [sorted, head]; exact Nat.lt_succ_self _)
  unfold sgv_shrink_pool
  rw [head]
  simp only [List.length_cons, shrinkPoolLoop, head]
  rw [if_pos (by omega), if_pos (by omega)]
  split
  · exact ⟨by omega, fewer⟩
  · obtain ⟨tracks, le⟩ := @shrinkPoolLoop_shrinks cfg (sgv_dtor_and_free cfg (__sgv_purge_from_cache s id) id)
      (nr - 2 ^ (s.obj id).order_or_pages.toNat) p after cur_time rest.length (0 + 2 ^ (s.obj id).order_or_pages.toNat)
    exact ⟨by omega, lt_of_le_of_lt (shrinkPoolLoop_drains _ _ _ _ _ _ _).cachedCount_le fewer⟩

end Stops

section Rounds
variable {cfg : Config} {s : SgvState}

theorem succOf_indexOf {p : Nat} :
    ∀ {l : List Nat}, l.Nodup → p ∈ l →
      (∀ q, succOf p l = some q → l.indexOf q = l.indexOf p + 1) ∧
        (succOf p l = none → l.indexOf p + 1 = l.length)
  | x :: rest, nodup, mem => by
    obtain ⟨fresh, nodup'⟩ := List.nodup_cons.1 nodup
    by_cases at_x : x = p
    · subst at_x
      simp only [succOf, if_true, List.indexOf_cons_self]
      cases rest with
      | nil => simp
      | cons y ys =>
        refine ⟨fun q next => ?_, fun next => by cases next⟩
        cases next
        rw [List.indexOf_cons_ne _ fun same => fresh (by rw [same]; exact List.mem_cons_self _ _),
          List.indexOf_cons_self]
    · have mem' : p ∈ rest := (List.mem_cons.1 mem).resolve_left fun same => at_x same.symm
      obtain ⟨next, last⟩ := succOf_indexOf nodup' mem'
      simp only [succOf, if_neg at_x, List.indexOf_cons_ne _ at_x, List.length_cons]
      refine ⟨fun q found => ?_, fun found => by rw [← last found]⟩
      rw [List.indexOf_cons_ne _ fun same => fresh (by rw [same]; exact (succOf_mem found).1), next q found]

/-- Where on the active list the next round starts. -/
def cursorIndex (s : SgvState) : Nat :=
  match cursorPool s with
  | some p => s.sgv_active_pools_list.indexOf p
  | none => 0

theorem cursorIndex_of {p : Nat} (sel : cursorPool s = some p) :
    cursorIndex s = s.sgv_active_pools_list.indexOf p := by
  simp [cursorIndex, sel]

theorem cursorIndex_head : cursorIndex { s with sgv_cur_purge_pool := s.sgv_active_pools_list.head? } = 0 := by
  unfold cursorIndex cursorPool
  cases head : s.sgv_active_pools_list with
  | nil => rfl
  | cons x rest => simp

/-- A bound on the rounds left to the loop of `__sgv_shrink`: each cached
object can be freed once, and between two frees the cursor runs to the end of
the list and, after the wrap that takes `prev_nr`, once more round it. -/
def shrinkRounds (s : SgvState) (nr prev_nr : Int) (circled : Bool) : Nat :=
  if nr ≤ 0 then 0
  else
    let pools := s.sgv_active_pools_list.length
    let left := pools - 1 - cursorIndex s
    cachedCount s * (2 * pools + 2) + (if circled = true ∧ prev_nr = nr then left else left + pools) + 1

theorem shrinkRounds_eq {nr : Int} (prev_nr : Int) (circled : Bool) (pos : 0 < nr) :
    shrinkRounds s nr prev_nr circled =
      cachedCount s * (2 * s.sgv_active_pools_list.length + 2) +
        (if circled = true ∧ prev_nr = nr then s.sgv_active_pools_list.length - 1 - cursorIndex s
          else s.sgv_active_pools_list.length - 1 - cursorIndex s + s.sgv_active_pools_list.length) + 1 := by
  unfold shrinkRounds
  rw [if_neg (by omega)]

theorem shrinkRounds_pos {nr : Int} (prev_nr : Int) (circled : Bool) (pos : 0 < nr) :
    cachedCount s * (2 * s.sgv_active_pools_list.length + 2) + 1 ≤ shrinkRounds s nr prev_nr circled := by
  unfold shrinkRounds
  rw [if_neg (by omega)]
  dsimp only
  omega

theorem shrinkRounds_le (nr prev_nr : Int) (circled : Bool) :
    shrinkRounds s nr prev_nr circled ≤
      cachedCount s * (2 * s.sgv_active_pools_list.length + 2) + 2 * s.sgv_active_pools_list.length + 1 := by
  unfold shrinkRounds
  split
  · omega
  · dsimp only; split <;> omega

theorem shrinkRounds_start (nr : Int) : shrinkRounds s nr nr false ≤ shrinkFuel s := by
  have := shrinkRounds_le (s := s) nr nr false
  unfold shrinkFuel
  rw [add_mul, one_mul]
  omega

theorem shrinkRounds_freed {t : SgvState} {nr m prev_nr prev' : Int} {circled circled' : Bool} (pos : 0 < nr)
    (fewer : cachedCount t < cachedCount s) (pools : t.sgv_active_pools_list.length ≤ s.sgv_active_pools_list.length) :
    shrinkRounds t m prev' circled' < shrinkRounds s nr prev_nr circled := by
  have le := shrinkRounds_le (s := t) m prev' circled'
  have ge := shrinkRounds_pos (s := s) prev_nr circled pos
  have mono : (cachedCount t + 1) * (2 * t.sgv_active_pools_list.length + 2) ≤
      cachedCount s * (2 * s.sgv_active_pools_list.length + 2) := Nat.mul_le_mul fewer (by omega)
  rw [add_mul, one_mul] at mono
  omega

/-- What holds at the top of every round of the loop of `__sgv_shrink`: the
registry and the lists are well formed, `nr` has only gone down since
`prev_nr` was taken, and once the loop has wrapped with no free since, every
pool it has visited since the wrap would free nothing: those before the
cursor, and the last pool, shrunk in the round that wrapped. -/
structure ShrinkRun (cfg : Config) (after cur_time : Nat) (s : SgvState) (nr prev_nr : Int) (circled : Bool) :
    Prop where
  inv : ShrinkInv s
  le_prev : nr ≤ prev_nr
  idle : circled = true → prev_nr = nr → ∀ q ∈ s.sgv_active_pools_list,
    s.sgv_active_pools_list.indexOf q < cursorIndex s ∨
      s.sgv_active_pools_list.indexOf q + 1 = s.sgv_active_pools_list.length →
    ShrinkStops cfg s q after cur_time

variable {after cur_time : Nat} {nr prev_nr : Int} {circled : Bool}

theorem ListsWf.cursor (wf : ListsWf s) (c : Option Nat) : ListsWf { s with sgv_cur_purge_pool := c } :=
  ⟨wf.owner, wf.nodup, wf.recycling_nodup, wf.recycled, wf.bucket⟩

theorem round_steps (wf : ListsWf s) {p : Nat} (sel : cursorPool s = some p) {c : Option Nat}
    (moved : c = (succOf p s.sgv_active_pools_list).or s.sgv_active_pools_list.head?) (nr : Int) :
    ReflTransGen (PoolSection cfg) s
      (sgv_shrink_pool cfg { s with sgv_cur_purge_pool := c } p nr after cur_time).1 := by
  have cursor : PoolSection cfg s { s with sgv_cur_purge_pool := c } := moved ▸ .cursor s p sel
  exact (ReflTransGen.single cursor).trans (shrinkPoolLoop_steps _ _ _ _ _ _ _ (wf.cursor c))

theorem ShrinkRun.freed {t : SgvState} {m prev' : Int} {circled' : Bool} (inv : ShrinkInv t) (fewer : m < nr)
    (le : nr ≤ prev') : ShrinkRun cfg after cur_time t m prev' circled' :=
  ⟨inv, by omega, fun _ same => absurd same (by omega)⟩

/-- A round that does not wrap: it frees, or it adds its pool to those
visited with nothing to free. Either way the bound goes down. -/
theorem ShrinkRun.next_round (run : ShrinkRun cfg after cur_time s nr prev_nr circled) (pos : 0 < nr)
    {p q : Nat} (sel : cursorPool s = some p) (next : succOf p s.sgv_active_pools_list = some q) :
    ShrinkRun cfg after cur_time
        (sgv_shrink_pool cfg { s with sgv_cur_purge_pool := some q } p nr after cur_time).1
        (sgv_shrink_pool cfg { s with sgv_cur_purge_pool := some q } p nr after cur_time).2 prev_nr circled ∧
      shrinkRounds (sgv_shrink_pool cfg { s with sgv_cur_purge_pool := some q } p nr after cur_time).1
        (sgv_shrink_pool cfg { s with sgv_cur_purge_pool := some q } p nr after cur_time).2 prev_nr circled <
        shrinkRounds s nr prev_nr circled := by
  have act := run.inv.active.cursorPool_mem sel
  have steps : ReflTransGen (PoolSection cfg) s
      (sgv_shrink_pool cfg { s with sgv_cur_purge_pool := some q } p nr after cur_time).1 :=
    round_steps run.inv.lists sel (by rw [next]; rfl) nr
  have inv' := run.inv.steps steps
  rcases @sgv_shrink_pool_cases cfg _ (run.inv.lists.cursor (some q)) p act nr after cur_time
    with ⟨stops, same⟩ | ⟨fewer, smaller⟩
  · rw [same] at inv' ⊢
    dsimp only at inv' ⊢
    have index := (succOf_indexOf run.inv.active.nodup act).1 q next
    have q_lt := List.indexOf_lt_length.2 (succOf_mem next).1
    have at_p := cursorIndex_of sel
    have at_q : cursorIndex { s with sgv_cur_purge_pool := some q } = s.sgv_active_pools_list.indexOf q := rfl
    have count : cachedCount { s with sgv_cur_purge_pool := some q } = cachedCount s := rfl
    refine ⟨⟨inv', run.le_prev, fun circ prev r mem before => ?_⟩, ?_⟩
    · dsimp only at mem before
      rw [at_q, index] at before
      by_cases at_r : s.sgv_active_pools_list.indexOf r = s.sgv_active_pools_list.indexOf p
      · rw [(List.indexOf_inj mem act).1 at_r]; exact stops
      · exact run.idle circ prev r mem (by rw [at_p]; omega)
    · rw [shrinkRounds_eq _ _ pos, shrinkRounds_eq _ _ pos, count, at_q, at_p, index]
      dsimp only
      split <;> omega
  · exact ⟨.freed inv' fewer run.le_prev,
      shrinkRounds_freed pos smaller (@shrinkPoolLoop_drains cfg p after cur_time _ _ _ _).active.length_le⟩

/-- A round that wraps without ending the loop takes `prev_nr` and marks the
circle: it frees, or the last pool becomes the first visited with nothing to
free. Either way the bound goes down. -/
theorem ShrinkRun.wrap_round (run : ShrinkRun cfg after cur_time s nr prev_nr circled) (pos : 0 < nr)
    {p : Nat} (sel : cursorPool s = some p) (last : succOf p s.sgv_active_pools_list = none)
    (go_on : ¬(circled = true ∧ prev_nr = nr)) :
    ShrinkRun cfg after cur_time
        (sgv_shrink_pool cfg { s with sgv_cur_purge_pool := s.sgv_active_pools_list.head? } p nr after cur_time).1
        (sgv_shrink_pool cfg { s with sgv_cur_purge_pool := s.sgv_active_pools_list.head? } p nr after cur_time).2
        nr true ∧
      shrinkRounds
          (sgv_shrink_pool cfg { s with sgv_cur_purge_pool := s.sgv_active_pools_list.head? } p nr after cur_time).1
          (sgv_shrink_pool cfg { s with sgv_cur_purge_pool := s.sgv_active_pools_list.head? } p nr after cur_time).2
          nr true <
        shrinkRounds s nr prev_nr circled := by
  have act := run.inv.active.cursorPool_mem sel
  have steps : ReflTransGen (PoolSection cfg) s
      (sgv_shrink_pool cfg { s with sgv_cur_purge_pool := s.sgv_active_pools_list.head? } p nr after cur_time).1 :=
    round_steps run.inv.lists sel (by rw [last]; rfl) nr
  have inv' := run.inv.steps steps
  rcases @sgv_shrink_pool_cases cfg _ (run.inv.lists.cursor s.sgv_active_pools_list.head?) p act nr after cur_time
    with ⟨stops, same⟩ | ⟨fewer, smaller⟩
  · rw [same] at inv' ⊢
    dsimp only at inv' ⊢
    have index := (succOf_indexOf run.inv.active.nodup act).2 last
    have at_p := cursorIndex_of sel
    have count : cachedCount { s with sgv_cur_purge_pool := s.sgv_active_pools_list.head? } = cachedCount s := rfl
    refine ⟨⟨inv', le_rfl, fun _ _ r mem before => ?_⟩, ?_⟩
    · dsimp only at mem before
      rw [cursorIndex_head] at before
      have at_r : s.sgv_active_pools_list.indexOf r = s.sgv_active_pools_list.indexOf p := by omega
      rw [(List.indexOf_inj mem act).1 at_r]; exact stops
    · rw [shrinkRounds_eq _ _ pos, shrinkRounds_eq _ _ pos, count, cursorIndex_head, at_p,
        if_pos (show true = true ∧ nr = nr from ⟨rfl, rfl⟩), if_neg go_on]
      dsimp only
      have := List.length_pos_of_mem act
      omega
  · exact ⟨.freed inv' fewer le_rfl,
      shrinkRounds_freed pos smaller (@shrinkPoolLoop_drains cfg p after cur_time _ _ _ _).active.length_le⟩

end Rounds

section Loop
variable {cfg : Config} {after cur_time n : Nat} {s : SgvState} {nr prev_nr : Int} {circled : Bool} {p : Nat}

/-! The ways one round of the loop goes. -/

theorem shrinkLoop_done (stop : ¬0 < nr) : shrinkLoop cfg after cur_time (n + 1) s nr prev_nr circled = (s, nr) := by
  unfold shrinkLoop; rw [if_neg stop]

theorem shrinkLoop_empty (pos : 0 < nr) (sel : cursorPool s = none) :
    shrinkLoop cfg after cur_time (n + 1) s nr prev_nr circled = (s, nr) := by
  unfold shrinkLoop; simp only [if_pos pos, sel]

theorem shrinkLoop_next (pos : 0 < nr) (sel : cursorPool s = some p) {q : Nat}
    (next : succOf p s.sgv_active_pools_list = some q) :
    shrinkLoop cfg after cur_time (n + 1) s nr prev_nr circled =
      shrinkLoop cfg after cur_time n
        (sgv_shrink_pool cfg { s with sgv_cur_purge_pool := some q } p nr after cur_time).1
        (sgv_shrink_pool cfg { s with sgv_cur_purge_pool := some q } p nr after cur_time).2 prev_nr circled := by
  simp only [shrinkLoop, if_pos pos, sel, next]

theorem shrinkLoop_circled (pos : 0 < nr) (sel : cursorPool s = some p)
    (last : succOf p s.sgv_active_pools_list = none) (stop : circled = true ∧ prev_nr = nr) :
    shrinkLoop cfg after cur_time (n + 1) s nr prev_nr circled = (s, nr) := by
  unfold shrinkLoop; simp only [if_pos pos, sel, last, if_pos stop]

theorem shrinkLoop_wrap (pos : 0 < nr) (sel : cursorPool s = some p)
    (last : succOf p s.sgv_active_pools_list = none) (go_on : ¬(circled = true ∧ prev_nr = nr)) :
    shrinkLoop cfg after cur_time (n + 1) s nr prev_nr circled =
      shrinkLoop cfg after cur_time n
        (sgv_shrink_pool cfg { s with sgv_cur_purge_pool := s.sgv_active_pools_list.head? } p nr after cur_time).1
        (sgv_shrink_pool cfg { s with sgv_cur_purge_pool := s.sgv_active_pools_list.head? } p nr after cur_time).2
        nr true := by
  simp only [shrinkLoop, if_pos pos, sel, last, if_neg go_on]

theorem cursorPool_eq_none (sel : cursorPool s = none) : s.sgv_active_pools_list = [] := by
  unfold cursorPool at sel
  split at sel
  · cases sel
  · exact List.head?_eq_none_iff.1 sel

/-- How the loop of `__sgv_shrink` leaves the state: well formed, and with
pages still wanted only when no active pool can free. -/
def ShrinkEnds (cfg : Config) (after cur_time : Nat) (r : SgvState × Int) : Prop :=
  ShrinkInv r.1 ∧ (0 < r.2 → ∀ q ∈ r.1.sgv_active_pools_list, ShrinkStops cfg r.1 q after cur_time)

theorem ShrinkRun.circled_ends (run : ShrinkRun cfg after cur_time s nr prev_nr circled)
    (sel : cursorPool s = some p) (last : succOf p s.sgv_active_pools_list = none)
    (stop : circled = true ∧ prev_nr = nr) : ShrinkEnds cfg after cur_time (s, nr) := by
  have act := run.inv.active.cursorPool_mem sel
  have index := (succOf_indexOf run.inv.active.nodup act).2 last
  refine ⟨run.inv, fun _ q mem => run.idle stop.1 stop.2 q mem ?_⟩
  have := List.indexOf_lt_length.2 (show q ∈ s.sgv_active_pools_list from mem)
  rw [cursorIndex_of sel]
  omega

/-- The loop, given at least the rounds `shrinkRounds` counts, ends before
they run out: more rounds give the same result, and it ends as
`ShrinkEnds` says. -/
theorem shrinkLoop_enough :
    ∀ (fuel : Nat) (s : SgvState) (nr prev_nr : Int) (circled : Bool),
      ShrinkRun cfg after cur_time s nr prev_nr circled → shrinkRounds s nr prev_nr circled ≤ fuel →
      (∀ k, shrinkLoop cfg after cur_time (fuel + k) s nr prev_nr circled =
        shrinkLoop cfg after cur_time fuel s nr prev_nr circled) ∧
      ShrinkEnds cfg after cur_time (shrinkLoop cfg after cur_time fuel s nr prev_nr circled)
  | 0, s, nr, prev_nr, circled, run, few => by
    have stop : ¬0 < nr := fun pos => by have := shrinkRounds_pos (s := s) prev_nr circled pos; omega
    refine ⟨fun k => ?_, run.inv, fun pos => absurd pos stop⟩
    cases k with
    | zero => rfl
    | succ k => rw [Nat.zero_add, shrinkLoop_done stop]; rfl
  | fuel + 1, s, nr, prev_nr, circled, run, few => by
    have shift (k : Nat) : fuel + 1 + k = fuel + k + 1 := by omega
    by_cases pos : 0 < nr
    swap
    · exact ⟨fun k => by rw [shift, shrinkLoop_done pos, shrinkLoop_done pos],
        by rw [shrinkLoop_done pos]; exact ⟨run.inv, fun more => absurd more pos⟩⟩
    cases sel : cursorPool s with
    | none =>
      refine ⟨fun k => by rw [shift, shrinkLoop_empty pos sel, shrinkLoop_empty pos sel], ?_⟩
      rw [shrinkLoop_empty pos sel]
      exact ⟨run.inv, fun _ q mem => absurd mem (by rw [cursorPool_eq_none sel]; exact List.not_mem_nil q)⟩
    | some p =>
      cases next : succOf p s.sgv_active_pools_list with
      | some q =>
        obtain ⟨run', fewer⟩ := run.next_round pos sel next
        obtain ⟨more, ends⟩ := shrinkLoop_enough fuel _ _ _ _ run' (by omega)
        exact ⟨fun k => by rw [shift, shrinkLoop_next pos sel next, shrinkLoop_next pos sel next, more],
          by rw [shrinkLoop_next pos sel next]; exact ends⟩
      | none =>
        by_cases stop : circled = true ∧ prev_nr = nr
        · exact ⟨fun k => by rw [shift, shrinkLoop_circled pos sel next stop, shrinkLoop_circled pos sel next stop],
            by rw [shrinkLoop_circled pos sel next stop]; exact run.circled_ends sel next stop⟩
        · obtain ⟨run', fewer⟩ := run.wrap_round pos sel next stop
          obtain ⟨more, ends⟩ := shrinkLoop_enough fuel _ _ _ _ run' (by omega)
          exact ⟨fun k => by rw [shift, shrinkLoop_wrap pos sel next stop, shrinkLoop_wrap pos sel next stop, more],
            by rw [shrinkLoop_wrap pos sel next stop]; exact ends⟩

/-- Every round of the loop is the cursor section and a run of purge and
free sections, and drains the cache. -/
theorem shrinkLoop_steps (after cur_time fuel : Nat) (nr prev_nr : Int) (circled : Bool) (wf : ListsWf s) :
    ReflTransGen (PoolSection cfg) s (shrinkLoop cfg after cur_time fuel s nr prev_nr circled).1 ∧
      Drains s (shrinkLoop cfg after cur_time fuel s nr prev_nr circled).1 := by
  induction fuel generalizing s nr prev_nr circled with
  | zero => exact ⟨.refl, .refl⟩
  | succ fuel ih =>
    have round {p : Nat} (sel : cursorPool s = some p) (c : Option Nat)
        (moved : c = (succOf p s.sgv_active_pools_list).or s.sgv_active_pools_list.head?) (prev' : Int)
        (circled' : Bool) :
        ReflTransGen (PoolSection cfg) s (shrinkLoop cfg after cur_time fuel
            (sgv_shrink_pool cfg { s with sgv_cur_purge_pool := c } p nr after cur_time).1
            (sgv_shrink_pool cfg { s with sgv_cur_purge_pool := c } p nr after cur_time).2 prev' circled').1 ∧
          Drains s (shrinkLoop cfg after cur_time fuel
            (sgv_shrink_pool cfg { s with sgv_cur_purge_pool := c } p nr after cur_time).1
            (sgv_shrink_pool cfg { s with sgv_cur_purge_pool := c } p nr after cur_time).2 prev' circled').1 := by
      have steps : ReflTransGen (PoolSection cfg) s
          (sgv_shrink_pool cfg { s with sgv_cur_purge_pool := c } p nr after cur_time).1 :=
        round_steps wf sel moved nr
      obtain ⟨steps', drains'⟩ := ih _ prev' circled' (wf.steps steps)
      exact ⟨steps.trans steps', ((Drains.cursor c).trans (shrinkPoolLoop_drains _ _ _ _ _ _ _)).trans drains'⟩
    unfold shrinkLoop
    split
    · split
      · exact ⟨.refl, .refl⟩
      · next p sel =>
        split
        · next q next => exact round sel (some q) (by rw [next]; rfl) prev_nr circled
        · next last =>
          split
          · exact ⟨.refl, .refl⟩
          · exact round sel _ (by rw [last]; rfl) nr true
    · exact ⟨.refl, .refl⟩

theorem ShrinkRun.start (inv : ShrinkInv s) (nr : Int) : ShrinkRun cfg after cur_time s nr nr false :=
  ⟨inv, le_rfl, fun circ => absurd circ Bool.false_ne_true⟩

theorem sgv_shrink_ends (inv : ShrinkInv s) (nr : Int) (after : Nat) :
    (∀ k, shrinkLoop cfg after s.jiffies (shrinkFuel s + k) s nr nr false = __sgv_shrink cfg s nr after) ∧
      ShrinkEnds cfg after s.jiffies (__sgv_shrink cfg s nr after) :=
  shrinkLoop_enough _ _ _ _ _ (.start inv nr) (shrinkRounds_start nr)

/-- `__sgv_shrink` ends for every `nr`, from every state whose registry and
lists are well formed: rounds beyond the `shrinkFuel` it is given would not
change what it returns. When it returns with pages still wanted, no pool left
on the active list can free anything: shrinking any of them again changes
nothing. -/
theorem sgv_shrink_terminates {s : SgvState} (inv : ShrinkInv s) (nr : Int) (after : Nat) :
    let r := __sgv_shrink cfg s nr after
    (∀ k, shrinkLoop cfg after s.jiffies (shrinkFuel s + k) s nr nr false = r) ∧
      (0 < r.2 → ∀ q ∈ r.1.sgv_active_pools_list, sgv_shrink_pool cfg r.1 q r.2 after s.jiffies = r) := by
  obtain ⟨more, -, stuck⟩ := sgv_shrink_ends inv nr after
  exact ⟨more, fun short q mem => shrinkPoolLoop_stops (stuck short q mem) _ _ _⟩

/-- Shrinking 9 pages of objects 6000 jiffies old from the two active pools
frees object 0 of pool 0; objects 1 and 2 are younger, so a full circle
without progress ends the loop with 5 pages still wanted and both pools left
unable to free. -/
theorem twoPools_shrink_terminates :
    ShrinkInv twoPools ∧ twoPools.sgv_active_pools_list = [0, 1] ∧
      (__sgv_shrink x86Config twoPools 9 6000).2 = 5 ∧
      (__sgv_shrink x86Config twoPools 9 6000).1.sgv_active_pools_list = [0, 1] ∧
      let r := __sgv_shrink x86Config twoPools 9 6000
      (∀ k, shrinkLoop x86Config 6000 twoPools.jiffies (shrinkFuel twoPools + k) twoPools 9 9 false = r) ∧
        (0 < r.2 → ∀ q ∈ r.1.sgv_active_pools_list,
          sgv_shrink_pool x86Config r.1 q r.2 6000 twoPools.jiffies = r) :=
  have inv : ShrinkInv twoPools := ⟨twoPools_reach.inv.active, twoPools_reach.inv.lists⟩
  ⟨inv, by decide, by decide, by decide, sgv_shrink_terminates inv 9 6000⟩

end Loop

section Gate
variable {cfg : Config}

theorem sgv_shrink_steps {s : SgvState} (wf : ListsWf s) (nr : Int) (after : Nat) :
    ReflTransGen (PoolSection cfg) s (__sgv_shrink cfg s nr after).1 ∧ Drains s (__sgv_shrink cfg s nr after).1 :=
  shrinkLoop_steps _ _ _ _ _ _ wf

/-- `sgv_hiwmk_check(n)` in a reachable state. Under the high watermark it
adds `n`; above it, it shrinks by the excess with no age limit, passes exactly
when the request then fits, and adds `n` only then. A failure changes the total
only by what the shrink freed, and leaves the total at the low watermark or no
cached object in any pool: the shrink gave up on every pool of the active list,
and a pool off it counts no entries, so it caches none (`Counted`). -/
theorem hiwmk_check_gate {s : SgvState} (reach : SectionReach cfg s) (n : Int) :
    (n + s.sgv_pages_total ≤ cfg.sgv_hi_wmk →
      sgv_hiwmk_check cfg s n = ({ s with sgv_pages_total := s.sgv_pages_total + n }, true)) ∧
    (cfg.sgv_hi_wmk < n + s.sgv_pages_total →
      let shrunk := __sgv_shrink cfg { s with sgv_releases_on_hiwmk := s.sgv_releases_on_hiwmk + 1 }
        (n + s.sgv_pages_total - cfg.sgv_hi_wmk) 0
      ((sgv_hiwmk_check cfg s n).2 = true ↔ n + shrunk.1.sgv_pages_total ≤ cfg.sgv_hi_wmk) ∧
        (sgv_hiwmk_check cfg s n).1.sgv_pages_total =
          shrunk.1.sgv_pages_total + (if (sgv_hiwmk_check cfg s n).2 then n else 0) ∧
        shrunk.1.sgv_pages_total ≤ s.sgv_pages_total ∧
        ((sgv_hiwmk_check cfg s n).2 = false →
          shrunk.1.sgv_pages_total ≤ cfg.sgv_lo_wmk ∨ ∀ p, (shrunk.1.pools p).sorted_recycling_list = [])) := by
  refine ⟨fun fits => by simp only [sgv_hiwmk_check]; rw [if_neg (by omega)], fun over => ?_⟩
  have inv := reach.inv
  have inv1 : ShrinkInv { s with sgv_releases_on_hiwmk := s.sgv_releases_on_hiwmk + 1 } :=
    ⟨⟨inv.active.mem_iff, inv.active.nodup, inv.active.cursor⟩,
      ⟨inv.lists.owner, inv.lists.nodup, inv.lists.recycling_nodup, inv.lists.recycled, inv.lists.bucket⟩⟩
  obtain ⟨-, -, stuck⟩ := sgv_shrink_ends inv1 (n + s.sgv_pages_total - cfg.sgv_hi_wmk) 0
  obtain ⟨steps, drains⟩ := sgv_shrink_steps inv1.lists (n + s.sgv_pages_total - cfg.sgv_hi_wmk) 0
  have aged := AgeSorted.steps inv1.lists inv.age_sorted steps
  have active := (inv1.steps steps).active
  have counted := Counted.steps inv1.lists inv.counted steps
  obtain ⟨tracks, le⟩ := @sgv_shrink_shrinks cfg { s with sgv_releases_on_hiwmk := s.sgv_releases_on_hiwmk + 1 }
    (n + s.sgv_pages_total - cfg.sgv_hi_wmk) 0
  simp only [sgv_hiwmk_check, if_pos over]
  generalize __sgv_shrink cfg _ _ 0 = r at *
  dsimp only at tracks le drains
  by_cases short : 0 < r.2
  · simp only [if_pos short, Bool.false_eq_true, false_iff, if_false, add_zero]
    refine ⟨by omega, trivial, by omega, fun _ => ?_⟩
    by_cases low : r.1.sgv_pages_total ≤ cfg.sgv_lo_wmk
    · exact .inl low
    refine .inr fun p => ?_
    by_cases mem : p ∈ r.1.sgv_active_pools_list
    · have stops := stuck short p mem
      unfold ShrinkStops at stops
      split at stops
      · assumption
      · next id rest head =>
        have stamped := (aged p).2 id (by rw [head]; exact List.mem_cons_self _ _)
        rw [drains.jiffies] at stamped
        dsimp only at stamped stops
        omega
    · have uncounted := (active.mem_iff p).not.1 mem
      have := counted p
      exact List.eq_nil_of_length_eq_zero (by omega)
  · simp only [if_neg short, if_true, true_iff]
    exact ⟨by omega, trivial, by omega, nofun⟩

theorem cachedFresh_hiwmk_gate :
    SectionReach x86Config cachedFresh ∧
    (2000 + cachedFresh.sgv_pages_total ≤ x86Config.sgv_hi_wmk →
      sgv_hiwmk_check x86Config cachedFresh 2000 =
        ({ cachedFresh with sgv_pages_total := cachedFresh.sgv_pages_total + 2000 }, true)) ∧
    (x86Config.sgv_hi_wmk < 2000 + cachedFresh.sgv_pages_total →
      let shrunk := __sgv_shrink x86Config
        { cachedFresh with sgv_releases_on_hiwmk := cachedFresh.sgv_releases_on_hiwmk + 1 }
        (2000 + cachedFresh.sgv_pages_total - x86Config.sgv_hi_wmk) 0
      ((sgv_hiwmk_check x86Config cachedFresh 2000).2 = true ↔
          2000 + shrunk.1.sgv_pages_total ≤ x86Config.sgv_hi_wmk) ∧
        (sgv_hiwmk_check x86Config cachedFresh 2000).1.sgv_pages_total =
          shrunk.1.sgv_pages_total + (if (sgv_hiwmk_check x86Config cachedFresh 2000).2 then 2000 else 0) ∧
        shrunk.1.sgv_pages_total ≤ cachedFresh.sgv_pages_total ∧
        ((sgv_hiwmk_check x86Config cachedFresh 2000).2 = false →
          shrunk.1.sgv_pages_total ≤ x86Config.sgv_lo_wmk ∨
            ∀ p, (shrunk.1.pools p).sorted_recycling_list = [])) :=
  ⟨cachedFresh_reach, hiwmk_check_gate cachedFresh_reach 2000⟩

end Gate

end ScstMem
