import ScstMem.Layout

/-!
The slab caches of a pool. `sgv_pool_init` clears the pool with `memset`,
creates one cache per order with `kmem_cache_create`, and on a NULL result
goes to `out_free`, which destroys the caches from order 0 up to the first
NULL pointer. `sgv_pool_deinit` destroys every cache that is set. Whether
each `kmem_cache_create` succeeds is an input, and `kmem_cache_destroy`
faults on a cache that is not live. The names of the caches, the rest of the
pool and the locks are left to the other modules.

`out_free` stops at the first NULL pointer. That gives back every cache only
because the array starts cleared and the caches are made in order, so the
ones made are the orders below the one that failed. Each loop is solved in
closed form over such a prefix (`createLoop_range'`, `freeLoop_range'`,
`deinitLoop_range'`), and from these:
- `pool_init_caches`: for every outcome of the creations, `sgv_pool_init`
  makes no fault, and either sets up a new cache for each order or returns
  `-ENOMEM` with its pointers NULL and the live caches as before;
- `pool_caches_round_trip`: `sgv_pool_init` followed by `sgv_pool_deinit`
  gives back every cache it made.
-/

namespace ScstMem.Caches
open sgv_clustering_types

/-- The live slab caches, each with its object size, and the id the next
`kmem_cache_create` returns. -/
structure Slabs where
  live : List (Nat × Nat)
  next : Nat
  deriving DecidableEq, Repr

namespace Slabs
variable (sl : Slabs)

/-- `kmem_cache_create(name, size, ...)`: a new cache, or NULL when `ok` is
false. -/
def create (ok : Bool) (size : Nat) : Slabs × Option Nat :=
  if ok then (⟨(sl.next, size) :: sl.live, sl.next + 1⟩, some sl.next) else (sl, none)

/-- `kmem_cache_destroy(c)`; a cache that is not live is a fault. -/
def destroy (c : Nat) : Except Nat Slabs :=
  if sl.live.any (·.1 = c) then .ok { sl with live := sl.live.filter (·.1 ≠ c) } else .error c

/-- Every live cache is below `next`. -/
def Wf : Prop := ∀ e ∈ sl.live, e.1 < sl.next

instance : Decidable sl.Wf := inferInstanceAs (Decidable (∀ e ∈ sl.live, e.1 < sl.next))

end Slabs

/-- `pool->caches[]`, `none` for NULL. -/
abbrev CacheArray := Nat → Option Nat

/-- The loop of `sgv_pool_init` over the orders `is`: `pool->caches[i] =
kmem_cache_create(...)`, and to `out_free` when it is NULL. The flag says the
loop ran to its end. -/
def createLoop (size : Nat → Nat) (ok : Nat → Bool) :
    List Nat → Slabs → CacheArray → Slabs × CacheArray × Bool
  | [], sl, caches => (sl, caches, true)
  | i :: is, sl, caches =>
    let (sl, c) := sl.create (ok i) (size i)
    let caches := Function.update caches i c
    if c = none then (sl, caches, false) else createLoop size ok is sl caches

/-- The loop at `out_free`: from order 0, `kmem_cache_destroy(pool->caches[i])`
and `pool->caches[i] = NULL`, up to the first NULL. -/
def freeLoop : List Nat → Slabs → CacheArray → Except Nat (Slabs × CacheArray)
  | [], sl, caches => .ok (sl, caches)
  | i :: is, sl, caches =>
    match caches i with
    | some c => do freeLoop is (← sl.destroy c) (Function.update caches i none)
    | none => .ok (sl, caches)

/-- The loop of `sgv_pool_deinit`: `kmem_cache_destroy(pool->caches[i])` when
it is set, and `pool->caches[i] = NULL`, for every order. -/
def deinitLoop : List Nat → Slabs → CacheArray → Except Nat (Slabs × CacheArray)
  | [], sl, caches => .ok (sl, caches)
  | i :: is, sl, caches => do
    let sl ← match caches i with
      | some c => sl.destroy c
      | none => .ok sl
    deinitLoop is sl (Function.update caches i none)

/-- The error number `sgv_pool_init` returns negated. -/
def ENOMEM : Int := 12

section Init
variable (cfg : Config) (z : Sizes)

/-- The caches of `sgv_pool_init(pool, name, clustering_type)`, from the
pointers `memset` clears; the result is the slabs, `pool->caches` and `res`. -/
def sgv_pool_init (ct : sgv_clustering_types) (ok : Nat → Bool) (sl : Slabs) :
    Except Nat (Slabs × CacheArray × Int) :=
  match createLoop (sgv_pool_init_size cfg z ct) ok (List.range cfg.SGV_POOL_ELEMENTS) sl fun _ => none with
  | (sl, caches, true) => .ok (sl, caches, 0)
  | (sl, caches, false) => do
    let (sl, caches) ← freeLoop (List.range cfg.SGV_POOL_ELEMENTS) sl caches
    .ok (sl, caches, -ENOMEM)

/-- The caches of `sgv_pool_deinit(pool)`. -/
def sgv_pool_deinit (caches : CacheArray) (sl : Slabs) : Except Nat (Slabs × CacheArray) :=
  deinitLoop (List.range cfg.SGV_POOL_ELEMENTS) sl caches

end Init

/-! ### The loops over a prefix of the orders -/

/-- The caches of orders `j .. k - 1`, the one of order `i` numbered
`base + i`. -/
def madeCaches (base j k : Nat) : CacheArray := fun i => if j ≤ i ∧ i < k then some (base + i) else none

/-- The live entries of the caches of orders below `k`, newest first. -/
def madeLive (size : Nat → Nat) (base k : Nat) : List (Nat × Nat) :=
  ((List.range k).map fun i => (base + i, size i)).reverse

/-- The live caches without those numbered `lo .. hi - 1`. -/
def dropRange (live : List (Nat × Nat)) (lo hi : Nat) : List (Nat × Nat) :=
  live.filter fun e => ¬(lo ≤ e.1 ∧ e.1 < hi)

section Prefix
variable {size : Nat → Nat} {base : Nat}

theorem madeLive_succ (m : Nat) :
    madeLive size base (m + 1) = (base + m, size m) :: madeLive size base m := by
  simp [madeLive, List.range_succ]

@[simp] theorem madeLive_zero : madeLive size base 0 = [] := rfl

theorem mem_madeLive {e : Nat × Nat} {k : Nat} :
    e ∈ madeLive size base k ↔ ∃ i < k, e = (base + i, size i) := by
  simp [madeLive, eq_comm]

@[simp] theorem madeCaches_eq_some {j k i c : Nat} :
    madeCaches base j k i = some c ↔ (j ≤ i ∧ i < k) ∧ base + i = c := by
  unfold madeCaches; split <;> simp [*]

theorem madeCaches_empty {j k : Nat} (le : k ≤ j) : madeCaches base j k = fun _ => none := by
  funext i
  simp only [madeCaches]
  rw [if_neg (by omega)]

theorem update_madeCaches_made (m : Nat) :
    Function.update (madeCaches base 0 m) m (some (base + m)) = madeCaches base 0 (m + 1) := by
  funext i
  simp only [Function.update_apply, madeCaches]
  split_ifs <;> first | subst_vars; rfl | omega

theorem update_madeCaches_low (j k : Nat) :
    Function.update (madeCaches base j k) j none = madeCaches base (j + 1) k := by
  funext i
  simp only [Function.update_apply, madeCaches]
  split_ifs <;> first | rfl | omega

theorem update_madeCaches_high (j k : Nat) : Function.update (madeCaches base j k) k none = madeCaches base j k := by
  funext i
  by_cases same : i = k
  · subst same; simp [madeCaches]
  · rw [Function.update_noteq same]

theorem dropRange_empty (live : List (Nat × Nat)) {lo hi : Nat} (le : hi ≤ lo) : dropRange live lo hi = live :=
  List.filter_eq_self.mpr fun e _ => by simp only [decide_eq_true_eq]; omega

theorem dropRange_low (live : List (Nat × Nat)) {lo hi : Nat} (lt : lo < hi) :
    dropRange (live.filter (·.1 ≠ lo)) (lo + 1) hi = dropRange live lo hi := by
  simp only [dropRange, List.filter_filter]
  exact List.filter_congr fun e _ => by
    rw [Bool.eq_iff_iff]; simp only [Bool.and_eq_true, decide_eq_true_eq]; omega

theorem dropRange_step (live : List (Nat × Nat)) {lo hi : Nat} (le : hi ≤ lo) :
    dropRange live (lo + 1) hi = dropRange live lo hi := by
  rw [dropRange_empty live le, dropRange_empty live (by omega)]

theorem destroy_of_mem {sl : Slabs} {c : Nat} (live : ∃ e ∈ sl.live, e.1 = c) :
    sl.destroy c = .ok { sl with live := sl.live.filter (·.1 ≠ c) } := by
  obtain ⟨e, mem, rfl⟩ := live
  have found : sl.live.any (·.1 = e.1) := List.any_eq_true.mpr ⟨e, mem, by simp⟩
  simp only [Slabs.destroy, found, if_true]

theorem takeWhile_length_lt {l : List Nat} {p : Nat → Bool} (fails : l.all p = false) :
    (l.takeWhile p).length < l.length := by
  induction l with
  | nil => exact absurd fails (by simp only [List.all_nil, Bool.true_eq_false, not_false_eq_true])
  | cons a l ih =>
    by_cases pa : p a = true
    · simp only [List.all_cons, pa, Bool.true_and] at fails
      simp only [List.takeWhile_cons, pa, if_true, List.length_cons]
      exact Nat.succ_lt_succ (ih fails)
    · simp only [List.takeWhile_cons, pa, Bool.false_eq_true, if_false, List.length_nil, List.length_cons]
      exact Nat.succ_pos _

theorem createLoop_range' (ok : Nat → Bool) (old : List (Nat × Nat)) (n m : Nat) :
    createLoop size ok (List.range' m n) ⟨madeLive size base m ++ old, base + m⟩ (madeCaches base 0 m) =
      let k := m + ((List.range' m n).takeWhile ok).length
      (⟨madeLive size base k ++ old, base + k⟩, madeCaches base 0 k, (List.range' m n).all ok) := by
  induction n generalizing m with
  | zero => simp [createLoop]
  | succ n ih =>
    rw [List.range'_succ]
    by_cases made : ok m = true
    · have step : createLoop size ok (m :: List.range' (m + 1) n) ⟨madeLive size base m ++ old, base + m⟩
          (madeCaches base 0 m) = createLoop size ok (List.range' (m + 1) n)
            ⟨madeLive size base (m + 1) ++ old, base + (m + 1)⟩ (madeCaches base 0 (m + 1)) := by
        simp only [createLoop, Slabs.create, made, if_true, update_madeCaches_made, reduceCtorEq, if_false,
          madeLive_succ, List.cons_append, Nat.add_assoc]
      have len : ((m :: List.range' (m + 1) n).takeWhile ok).length =
          ((List.range' (m + 1) n).takeWhile ok).length + 1 := by simp [made]
      have all : (m :: List.range' (m + 1) n).all ok = (List.range' (m + 1) n).all ok := by simp [made]
      rw [step, ih (m + 1), len, all, show m + (((List.range' (m + 1) n).takeWhile ok).length + 1) =
        m + 1 + ((List.range' (m + 1) n).takeWhile ok).length by omega]
    · simp [createLoop, Slabs.create, made, update_madeCaches_high]

theorem freeLoop_range' (k : Nat) (n j : Nat) (sl : Slabs) (low : j ≤ k) (reaches : k < j + n)
    (live : ∀ i, j ≤ i → i < k → ∃ e ∈ sl.live, e.1 = base + i) :
    freeLoop (List.range' j n) sl (madeCaches base j k) =
      .ok ({ sl with live := dropRange sl.live (base + j) (base + k) }, fun _ => none) := by
  induction n generalizing j sl with
  | zero => omega
  | succ n ih =>
    rw [List.range'_succ]
    by_cases below : j < k
    · have first : madeCaches base j k j = some (base + j) := by simp [madeCaches, below]
      have rest := ih (j + 1) { sl with live := sl.live.filter (·.1 ≠ base + j) } below (by omega)
        fun i lo hi => by
          obtain ⟨e, mem, eq⟩ := live i (by omega) hi
          exact ⟨e, List.mem_filter.mpr ⟨mem, by simp only [decide_eq_true_eq]; omega⟩, eq⟩
      simp only [freeLoop, first, destroy_of_mem (live j le_rfl below), bind, Except.bind,
        update_madeCaches_low, rest, Nat.add_succ, ← Nat.succ_eq_add_one, Except.ok.injEq, Prod.mk.injEq,
        and_true]
      rw [show Nat.succ (base + j) = base + j + 1 from rfl, dropRange_low _ (by omega)]
    · have stop : j = k := by omega
      subst stop
      simp [freeLoop, madeCaches, dropRange_empty, madeCaches_empty le_rfl]

theorem deinitLoop_range' (k : Nat) (n j : Nat) (sl : Slabs) (reaches : k ≤ j + n)
    (live : ∀ i, j ≤ i → i < k → ∃ e ∈ sl.live, e.1 = base + i) :
    deinitLoop (List.range' j n) sl (madeCaches base j k) =
      .ok ({ sl with live := dropRange sl.live (base + j) (base + k) }, fun _ => none) := by
  induction n generalizing j sl with
  | zero => simp [deinitLoop, madeCaches_empty (show k ≤ j by omega), dropRange_empty _ (show base + k ≤ base + j by omega)]
  | succ n ih =>
    rw [List.range'_succ]
    by_cases below : j < k
    · have first : madeCaches base j k j = some (base + j) := by simp [madeCaches, below]
      have rest := ih (j + 1) { sl with live := sl.live.filter (·.1 ≠ base + j) } (by omega)
        fun i lo hi => by
          obtain ⟨e, mem, eq⟩ := live i (by omega) hi
          exact ⟨e, List.mem_filter.mpr ⟨mem, by simp only [decide_eq_true_eq]; omega⟩, eq⟩
      simp only [deinitLoop, first, destroy_of_mem (live j le_rfl below), bind, Except.bind,
        update_madeCaches_low, rest, Except.ok.injEq, Prod.mk.injEq, and_true]
      rw [show base + (j + 1) = base + j + 1 by omega, dropRange_low _ (by omega)]
    · have none : madeCaches base j k j = none := by simp [madeCaches, below]
      have rest := ih (j + 1) sl (by omega) fun i lo hi => by omega
      simp only [deinitLoop, none, bind, Except.bind, update_madeCaches_low, rest, Except.ok.injEq,
        Prod.mk.injEq, and_true]
      rw [show base + (j + 1) = base + j + 1 by omega, dropRange_step _ (by omega)]

theorem madeLive_live (old : List (Nat × Nat)) {k i : Nat} (lt : i < k) :
    ∃ e ∈ madeLive size base k ++ old, e.1 = base + i :=
  ⟨(base + i, size i), List.mem_append_left _ (mem_madeLive.mpr ⟨i, lt, rfl⟩), rfl⟩

theorem dropRange_made (old : List (Nat × Nat)) (k : Nat) (older : ∀ e ∈ old, e.1 < base) :
    dropRange (madeLive size base k ++ old) (base + 0) (base + k) = old := by
  simp only [dropRange, List.filter_append]
  rw [List.filter_eq_nil_iff.mpr, List.filter_eq_self.mpr, List.nil_append]
  · intro e mem; have := older e mem; simp only [decide_eq_true_eq]; omega
  · intro e mem
    obtain ⟨i, lt, rfl⟩ := mem_madeLive.mp mem
    simp only [decide_eq_true_eq, not_not]; omega

end Prefix

/-! ### `sgv_pool_init` and `sgv_pool_deinit` -/

section Pool
variable {cfg : Config} {z : Sizes}

/-- What a successful `sgv_pool_init` leaves: a new cache for each of the
`n` orders, no two the same, and as live caches the ones before and these,
each of the size computed for its order. -/
structure SetUp (size : Nat → Nat) (n : Nat) (old sl : Slabs) (caches : CacheArray) : Prop where
  made : ∀ i < n, ∃ c, caches i = some c ∧ c ∉ old.live.map Prod.fst
  distinct : ∀ i j c, caches i = some c → caches j = some c → i = j
  live : ∀ e, e ∈ sl.live ↔ e ∈ old.live ∨ ∃ i < n, caches i = some e.1 ∧ e.2 = size i

theorem sgv_pool_init_eq (ct : sgv_clustering_types) (ok : Nat → Bool) {sl : Slabs} (wf : sl.Wf) :
    sgv_pool_init cfg z ct ok sl =
      if (List.range cfg.SGV_POOL_ELEMENTS).all ok then
        .ok (⟨madeLive (sgv_pool_init_size cfg z ct) sl.next cfg.SGV_POOL_ELEMENTS ++ sl.live,
          sl.next + cfg.SGV_POOL_ELEMENTS⟩, madeCaches sl.next 0 cfg.SGV_POOL_ELEMENTS, 0)
      else .ok (⟨sl.live, sl.next + ((List.range cfg.SGV_POOL_ELEMENTS).takeWhile ok).length⟩,
        fun _ => none, -ENOMEM) := by
  have loop := @createLoop_range' (sgv_pool_init_size cfg z ct) sl.next ok sl.live
    cfg.SGV_POOL_ELEMENTS 0
  have cleared : madeCaches sl.next 0 0 = fun _ => none := madeCaches_empty le_rfl
  simp only [madeLive_zero, List.nil_append, Nat.add_zero, cleared, zero_add, ← List.range_eq_range'] at loop
  unfold sgv_pool_init
  rw [loop]
  by_cases all : (List.range cfg.SGV_POOL_ELEMENTS).all ok = true
  · have full : ((List.range cfg.SGV_POOL_ELEMENTS).takeWhile ok).length = cfg.SGV_POOL_ELEMENTS := by
      rw [List.takeWhile_eq_self_iff.mpr (by simpa using all), List.length_range]
    simp only [all, if_true, full]
  · have short := takeWhile_length_lt (Bool.eq_false_iff.mpr all)
    rw [List.length_range] at short
    have free := @freeLoop_range' sl.next ((List.range cfg.SGV_POOL_ELEMENTS).takeWhile ok).length
      cfg.SGV_POOL_ELEMENTS 0 ⟨madeLive (sgv_pool_init_size cfg z ct) sl.next
        ((List.range cfg.SGV_POOL_ELEMENTS).takeWhile ok).length ++ sl.live,
        sl.next + ((List.range cfg.SGV_POOL_ELEMENTS).takeWhile ok).length⟩ (Nat.zero_le _) (by omega)
      fun _ _ lt => madeLive_live sl.live lt
    rw [← List.range_eq_range'] at free
    simp only [Bool.eq_false_iff.mpr all, Bool.false_eq_true, if_false, free, dropRange_made _ _ wf,
      bind, Except.bind]

theorem pool_init_caches (ct : sgv_clustering_types) (ok : Nat → Bool) {sl : Slabs} (wf : sl.Wf) :
    ∃ sl' caches res, sgv_pool_init cfg z ct ok sl = .ok (sl', caches, res) ∧ sl'.Wf ∧
      if (List.range cfg.SGV_POOL_ELEMENTS).all ok then
        res = 0 ∧ SetUp (sgv_pool_init_size cfg z ct) cfg.SGV_POOL_ELEMENTS sl sl' caches
      else res = -ENOMEM ∧ caches = (fun _ => none) ∧ sl'.live = sl.live := by
  rw [sgv_pool_init_eq ct ok wf]
  by_cases all : (List.range cfg.SGV_POOL_ELEMENTS).all ok = true
  · simp only [all, if_true]
    refine ⟨_, _, _, rfl, fun e mem => ?_, rfl, fun i lt => ⟨sl.next + i, by simp [lt], ?_⟩,
      fun i j c ci cj => ?_, fun e => ?_⟩
    · rcases List.mem_append.mp mem with made | old
      · obtain ⟨i, lt, rfl⟩ := mem_madeLive.mp made
        exact Nat.add_lt_add_left lt _
      · exact (wf e old).trans_le (Nat.le_add_right _ _)
    · simp only [List.mem_map, not_exists, not_and]
      intro e mem same
      have := wf e mem
      omega
    · rw [madeCaches_eq_some] at ci cj
      omega
    · simp only [List.mem_append, mem_madeLive, madeCaches_eq_some, Nat.zero_le, true_and]
      constructor
      · rintro (⟨i, lt, rfl⟩ | old)
        · exact .inr ⟨i, lt, ⟨lt, rfl⟩, rfl⟩
        · exact .inl old
      · rintro (old | ⟨i, lt, ⟨-, set⟩, sized⟩)
        · exact .inr old
        · exact .inl ⟨i, lt, Prod.ext set.symm sized⟩
  · simp only [Bool.eq_false_iff.mpr all, Bool.false_eq_true, if_false]
    exact ⟨_, _, _, rfl, fun e mem => (wf e mem).trans_le (Nat.le_add_right _ _), rfl, rfl, rfl⟩

theorem pool_caches_round_trip (ct : sgv_clustering_types) (ok : Nat → Bool) {sl : Slabs} (wf : sl.Wf) :
    ∃ sl' caches res sl'', sgv_pool_init cfg z ct ok sl = .ok (sl', caches, res) ∧
      sgv_pool_deinit cfg caches sl' = .ok (sl'', fun _ => none) ∧ sl''.live = sl.live := by
  rw [sgv_pool_init_eq ct ok wf]
  by_cases all : (List.range cfg.SGV_POOL_ELEMENTS).all ok = true
  · simp only [all, if_true]
    have deinit := @deinitLoop_range' sl.next
      cfg.SGV_POOL_ELEMENTS cfg.SGV_POOL_ELEMENTS 0
      ⟨madeLive (sgv_pool_init_size cfg z ct) sl.next cfg.SGV_POOL_ELEMENTS ++ sl.live,
        sl.next + cfg.SGV_POOL_ELEMENTS⟩ (by omega)
      fun _ _ lt => madeLive_live sl.live lt
    rw [← List.range_eq_range', dropRange_made _ _ wf] at deinit
    exact ⟨_, _, _, _, rfl, deinit, rfl⟩
  · simp only [Bool.eq_false_iff.mpr all, Bool.false_eq_true, if_false]
    have deinit := @deinitLoop_range' 0 0 cfg.SGV_POOL_ELEMENTS 0
      ⟨sl.live, sl.next + ((List.range cfg.SGV_POOL_ELEMENTS).takeWhile ok).length⟩ (by omega)
      fun i _ lt => absurd lt (Nat.not_lt_zero i)
    rw [← List.range_eq_range', madeCaches_empty le_rfl, dropRange_empty _ le_rfl] at deinit
    exact ⟨_, _, _, _, rfl, deinit, rfl⟩

end Pool

end ScstMem.Caches
