import ScstMem.Stats

/-! What `sgv_do_proc_read` prints for a pool: the hits, the allocations and
the percentage of merged pages, over all orders and order by order, then the
big and the other (no-cached) allocations with their merged pages. The
counters are `atomic_t` and the printout computes in `int`, so both wrap
modulo `2 ^ 32`; the pool and cache names and the layout are left out.

While the counters are small enough for that arithmetic not to wrap, no line
shows more hits than allocations and every percentage is below 100. The
other column is `om/oa`, where the big column beside it is `merged*100/allocated`:
it prints 0 however many pages the no-cached allocations merged. -/
namespace ScstMem

/-- An `int` result: the exact result modulo `2 ^ 32`, in two's complement. -/
def i32 (x : Int) : Int := (x + 2 ^ 31) % 2 ^ 32 - 2 ^ 31

/-- `atomic_read` of a counter that was set to 0 and then added `n` to. -/
def atomic_read (n : Nat) : Int := i32 n

/-- `(allocated != 0) ? merged*100/allocated : 0`, with C's truncating `/`. -/
def mergedPercent (merged allocated : Int) : Int :=
  if allocated ≠ 0 then i32 ((i32 (merged * 100)).tdiv allocated) else 0

/-- `t * (1 << i)` with `t = total_alloc - hit_alloc`: the pages of the
allocations of order `i` that were not hits. -/
def missPages (a : CacheAcc) (i : Nat) : Int :=
  i32 (i32 (atomic_read a.total_alloc - atomic_read a.hit_alloc) * i32 (2 ^ i))

/-- The accumulators of the first loop of `sgv_do_proc_read`. -/
structure ProcSums where
  hit : Int
  total : Int
  merged : Int
  allocated : Int
  deriving DecidableEq, Repr

/-- One round of the first loop, over order `i`. -/
def procRound (pool : SgvPool) (acc : ProcSums) (i : Nat) : ProcSums :=
  let a := pool.cache_acc i
  ⟨i32 (acc.hit + atomic_read a.hit_alloc), i32 (acc.total + atomic_read a.total_alloc),
    i32 (acc.merged + atomic_read a.merged), i32 (acc.allocated + missPages a i)⟩

/-- The line of one order. -/
structure CacheLine where
  hit_alloc : Int
  total_alloc : Int
  merged : Int
  deriving DecidableEq, Repr

def cacheLine (pool : SgvPool) (i : Nat) : CacheLine :=
  let a := pool.cache_acc i
  ⟨atomic_read a.hit_alloc, atomic_read a.total_alloc, mergedPercent (atomic_read a.merged) (missPages a i)⟩

/-- The numbers of the pool's lines, in the order they are printed. -/
structure ProcRead where
  hit : Int
  total : Int
  merged : Int
  cached_pages : Int
  inactive_cached_pages : Int
  cached_entries : Int
  caches : List CacheLine
  big_alloc : Int
  other_alloc : Int
  big_merged : Int
  other_merged : Int
  deriving DecidableEq, Repr

def sgv_do_proc_read (cfg : Config) (pool : SgvPool) : ProcRead :=
  let sums := (List.range cfg.SGV_POOL_ELEMENTS).foldl (procRound pool) ⟨0, 0, 0, 0⟩
  let oa := atomic_read pool.other_pages
  let om := atomic_read pool.other_merged
  ⟨sums.hit, sums.total, mergedPercent sums.merged sums.allocated, pool.cached_pages,
    pool.inactive_cached_pages, pool.cached_entries, (List.range cfg.SGV_POOL_ELEMENTS).map (cacheLine pool),
    atomic_read pool.big_alloc, atomic_read pool.other_alloc,
    mergedPercent (atomic_read pool.big_merged) (atomic_read pool.big_pages),
    if oa ≠ 0 then i32 (om.tdiv oa) else 0⟩

/-- `∑ i < n, f i`. -/
def rangeSum (n : Nat) (f : Nat → Nat) : Nat := ((List.range n).map f).sum

/-- The counters fit the printout's arithmetic: a hundred times the pages the
bucket allocations and the big allocations stand for stay below `2 ^ 31`. -/
def ProcFits (cfg : Config) (pool : SgvPool) : Prop :=
  100 * rangeSum cfg.SGV_POOL_ELEMENTS (fun i => (pool.cache_acc i).total_alloc * 2 ^ i) < 2 ^ 31 ∧
    100 * pool.big_pages < 2 ^ 31

instance (cfg : Config) (pool : SgvPool) : Decidable (ProcFits cfg pool) := inferInstanceAs (Decidable (_ ∧ _))

/-- What a reader of the printout takes for granted: no line shows more hits
than allocations, and every merged percentage is between 0 and 99. -/
structure ProcSane (r : ProcRead) : Prop where
  hits : r.hit ≤ r.total
  merged : 0 ≤ r.merged ∧ r.merged < 100
  caches : ∀ line ∈ r.caches, line.hit_alloc ≤ line.total_alloc ∧ 0 ≤ line.merged ∧ line.merged < 100
  big_merged : 0 ≤ r.big_merged ∧ r.big_merged < 100

section Arithmetic

theorem i32_of_lt {x : Int} (lo : -2 ^ 31 ≤ x) (hi : x < 2 ^ 31) : i32 x = x := by
  unfold i32; omega

theorem atomic_read_of_lt {n : Nat} (lt : n < 2 ^ 31) : atomic_read n = n :=
  i32_of_lt (by omega) (by omega)

theorem i32_add {x y : Nat} (lt : x + y < 2 ^ 31) : i32 ((x : Int) + y) = ((x + y : Nat) : Int) := by
  rw [i32_of_lt (by omega) (by omega)]; push_cast; rfl

@[simp] theorem rangeSum_zero (f : Nat → Nat) : rangeSum 0 f = 0 := rfl

@[simp] theorem rangeSum_succ (n : Nat) (f : Nat → Nat) : rangeSum (n + 1) f = rangeSum n f + f n :=
  List.sum_range_succ f n

theorem rangeSum_le {f g : Nat → Nat} (n : Nat) (le : ∀ i, f i ≤ g i) : rangeSum n f ≤ rangeSum n g :=
  List.sum_le_sum fun i _ => le i

theorem le_rangeSum (f : Nat → Nat) {i n : Nat} (lt : i < n) : f i ≤ rangeSum n f := by
  induction n with
  | zero => omega
  | succ n ih =>
    rw [rangeSum_succ]
    rcases Nat.lt_succ_iff_lt_or_eq.mp lt with below | rfl
    · have := ih below; omega
    · omega

theorem mergedPercent_bounds {m a : Nat} (fits : 100 * a < 2 ^ 31) (below : m = 0 ∨ m < a) :
    0 ≤ mergedPercent m a ∧ mergedPercent m a < 100 := by
  unfold mergedPercent
  split
  · next nonzero =>
    have product : i32 ((m : Int) * 100) = ((m * 100 : Nat) : Int) := by
      rw [i32_of_lt (by omega) (by omega)]; push_cast; rfl
    have quotient : m * 100 / a < 100 := Nat.div_lt_of_lt_mul (by omega)
    rw [product, Int.tdiv_eq_ediv (by omega) (by omega), ← Int.natCast_div]
    generalize m * 100 / a = q at quotient
    rw [i32_of_lt (by omega) (by omega)]
    omega
  · omega

theorem CacheAcc.merged_below {a : CacheAcc} {i : Nat} (merged : a.merged + a.misses ≤ a.misses * 2 ^ i) :
    a.merged = 0 ∨ a.merged < a.misses * 2 ^ i := by
  rcases Nat.eq_zero_or_pos a.misses with none | some
  · rw [none] at merged; omega
  · omega

theorem missPages_eq {a : CacheAcc} {i : Nat} (hits : a.hit_alloc ≤ a.total_alloc)
    (fits : a.total_alloc * 2 ^ i < 2 ^ 31) : missPages a i = ((a.misses * 2 ^ i : Nat) : Int) := by
  have total : a.total_alloc ≤ a.total_alloc * 2 ^ i := Nat.le_mul_of_pos_right _ (Nat.two_pow_pos i)
  have below : a.misses * 2 ^ i < 2 ^ 31 := lt_of_le_of_lt (Nat.mul_le_mul_right _ (Nat.sub_le _ _)) fits
  have misses : i32 ((a.total_alloc : Int) - a.hit_alloc) = a.misses := by
    rw [i32_of_lt (by omega) (by omega), CacheAcc.misses, Nat.cast_sub hits]
  unfold missPages
  rw [atomic_read_of_lt (by omega), atomic_read_of_lt (by omega), misses]
  rcases Nat.eq_zero_or_pos a.misses with none | some
  · simp [none, i32]
  · have pow : (2 : Int) ^ i < 2 ^ 31 := by exact_mod_cast (Nat.le_mul_of_pos_left _ some).trans_lt below
    have whole : (a.misses : Int) * 2 ^ i < 2 ^ 31 := by exact_mod_cast below
    have nonneg : (0 : Int) ≤ a.misses * 2 ^ i := by positivity
    have two : (0 : Int) < 2 ^ i := by positivity
    rw [i32_of_lt (by omega) pow, i32_of_lt (by omega) whole]
    push_cast; rfl

end Arithmetic

section Read
variable {cfg : Config} {pool : SgvPool}

/-- The exact sums over the orders below `n` of what the first loop adds up. -/
def exactSums (pool : SgvPool) (n : Nat) : ProcSums :=
  ⟨rangeSum n fun i => (pool.cache_acc i).hit_alloc, rangeSum n fun i => (pool.cache_acc i).total_alloc,
    rangeSum n fun i => (pool.cache_acc i).merged, rangeSum n fun i => (pool.cache_acc i).misses * 2 ^ i⟩

theorem StatsOk.sums (ok : StatsOk pool.stats) (n : Nat) :
    rangeSum n (fun i => (pool.cache_acc i).hit_alloc) ≤ rangeSum n (fun i => (pool.cache_acc i).total_alloc) ∧
    rangeSum n (fun i => (pool.cache_acc i).total_alloc) ≤
      rangeSum n (fun i => (pool.cache_acc i).total_alloc * 2 ^ i) ∧
    (rangeSum n (fun i => (pool.cache_acc i).merged) = 0 ∨
      rangeSum n (fun i => (pool.cache_acc i).merged) < rangeSum n (fun i => (pool.cache_acc i).misses * 2 ^ i)) ∧
    rangeSum n (fun i => (pool.cache_acc i).misses * 2 ^ i) ≤
      rangeSum n (fun i => (pool.cache_acc i).total_alloc * 2 ^ i) := by
  induction n with
  | zero => simp
  | succ n ih =>
    have hits : (pool.cache_acc n).hit_alloc ≤ (pool.cache_acc n).total_alloc := ok.hits n
    have merged := CacheAcc.merged_below (a := pool.cache_acc n) (ok.merged n)
    have total : (pool.cache_acc n).total_alloc ≤ (pool.cache_acc n).total_alloc * 2 ^ n :=
      Nat.le_mul_of_pos_right _ (Nat.two_pow_pos n)
    have misses : (pool.cache_acc n).misses * 2 ^ n ≤ (pool.cache_acc n).total_alloc * 2 ^ n :=
      Nat.mul_le_mul_right _ (Nat.sub_le _ _)
    simp only [rangeSum_succ]
    omega

theorem procRounds_exact (ok : StatsOk pool.stats) (n : Nat)
    (fits : 100 * rangeSum n (fun i => (pool.cache_acc i).total_alloc * 2 ^ i) < 2 ^ 31) :
    (List.range n).foldl (procRound pool) ⟨0, 0, 0, 0⟩ = exactSums pool n := by
  induction n with
  | zero => rfl
  | succ n ih =>
    obtain ⟨hits, total, merged, misses⟩ := ok.sums (n + 1)
    have below := le_rangeSum (fun i => (pool.cache_acc i).total_alloc * 2 ^ i) (Nat.lt_succ_self n)
    simp only [rangeSum_succ] at hits total merged misses fits below
    rw [List.range_succ, List.foldl_append, List.foldl_cons, List.foldl_nil, ih (by omega)]
    simp only [procRound, exactSums, rangeSum_succ, ProcSums.mk.injEq]
    refine ⟨?_, ?_, ?_, ?_⟩
    · rw [atomic_read_of_lt (by omega), i32_add (by omega)]
    · rw [atomic_read_of_lt (by omega), i32_add (by omega)]
    · rw [atomic_read_of_lt (by omega), i32_add (by omega)]
    · rw [missPages_eq (a := pool.cache_acc n) (ok.hits n) (by omega), i32_add (by omega)]

theorem StatsOk.cacheLine_sane (ok : StatsOk pool.stats) {i : Nat}
    (fits : 100 * ((pool.cache_acc i).total_alloc * 2 ^ i) < 2 ^ 31) :
    (cacheLine pool i).hit_alloc ≤ (cacheLine pool i).total_alloc ∧ 0 ≤ (cacheLine pool i).merged ∧
      (cacheLine pool i).merged < 100 := by
  have hits : (pool.cache_acc i).hit_alloc ≤ (pool.cache_acc i).total_alloc := ok.hits i
  have merged : (pool.cache_acc i).merged + (pool.cache_acc i).misses ≤
      (pool.cache_acc i).misses * 2 ^ i := ok.merged i
  have total : (pool.cache_acc i).total_alloc ≤ (pool.cache_acc i).total_alloc * 2 ^ i :=
    Nat.le_mul_of_pos_right _ (Nat.two_pow_pos i)
  have misses : (pool.cache_acc i).misses * 2 ^ i ≤ (pool.cache_acc i).total_alloc * 2 ^ i :=
    Nat.mul_le_mul_right _ (Nat.sub_le _ _)
  simp only [cacheLine]
  rw [atomic_read_of_lt (by omega), atomic_read_of_lt (by omega), atomic_read_of_lt (by omega),
    missPages_eq hits (by omega)]
  exact ⟨by exact_mod_cast hits, mergedPercent_bounds (by omega) (CacheAcc.merged_below merged)⟩

theorem StatsOk.procSane (ok : StatsOk pool.stats) (fits : ProcFits cfg pool) :
    ProcSane (sgv_do_proc_read cfg pool) := by
  obtain ⟨buckets, big⟩ := fits
  obtain ⟨hits, -, merged, misses⟩ := ok.sums cfg.SGV_POOL_ELEMENTS
  have big_merged : pool.big_merged + pool.big_alloc ≤ pool.big_pages := ok.big_merged
  have big_counted : pool.big_pages = 0 ∨ 0 < pool.big_alloc := ok.big_counted
  simp only [sgv_do_proc_read, procRounds_exact ok _ buckets]
  refine ⟨?_, ?_, ?_, ?_⟩
  · dsimp only [exactSums]; exact_mod_cast hits
  · exact mergedPercent_bounds (by omega) merged
  · intro line mem
    obtain ⟨i, lt, rfl⟩ := List.mem_map.mp mem
    exact ok.cacheLine_sane ((Nat.mul_le_mul_left 100
      (le_rangeSum (fun i => (pool.cache_acc i).total_alloc * 2 ^ i) (List.mem_range.mp lt))).trans_lt buckets)
  · dsimp only
    rw [atomic_read_of_lt (by omega), atomic_read_of_lt (by omega)]
    exact mergedPercent_bounds big (by omega)

end Read

section Printout
variable {cfg : Config} {s : SgvState}

/-- In every state a run reaches, the printout of a pool whose counters fit the
`int` arithmetic shows no more hits than allocations and merged percentages
between 0 and 99. -/
theorem proc_read_sane (reach : Reachable cfg s) (p : Nat) (fits : ProcFits cfg (s.pools p)) :
    ProcSane (sgv_do_proc_read cfg (s.pools p)) :=
  (statsInv_of_reachable reach p).procSane fits

/-- The other column is `om/oa`: below `2 ^ 31` other pages it is 0 in every
state a run reaches, however many pages the no-cached allocations merged. -/
theorem other_merged_shown_zero (reach : Reachable cfg s) (p : Nat) (fits : (s.pools p).other_pages < 2 ^ 31) :
    (sgv_do_proc_read cfg (s.pools p)).other_merged = 0 := by
  have ok := statsInv_of_reachable reach p
  have merged : (s.pools p).other_merged + (s.pools p).other_alloc ≤ (s.pools p).other_pages := ok.other_merged
  have counted : (s.pools p).other_pages = 0 ∨ 0 < (s.pools p).other_alloc := ok.other_counted
  simp only [sgv_do_proc_read]
  rw [atomic_read_of_lt fits, atomic_read_of_lt (by omega)]
  split
  · rw [Int.tdiv_eq_ediv (by omega) (by omega), Int.ediv_eq_zero_of_lt (by omega) (by omega)]; rfl
  · rfl

end Printout

/-- A miss of two pages on adjacent frames, its free, a hit on the cached
object, and a no-cached allocation of two adjacent frames, all in a fully
clustered pool: each fill merges one of its two pages. -/
def statsRun : List Call :=
  [.alloc ⟨0, 2 * 4096, ⟨false, false, false⟩, 0, none, 0, 0⟩ ⟨true, true, true, true, [some 5, some 6]⟩,
   .free 0 0,
   .alloc ⟨0, 2 * 4096, ⟨false, false, false⟩, 0, none, 0, 0⟩ ⟨true, true, true, true, []⟩,
   .alloc ⟨0, 2 * 4096, ⟨true, false, false⟩, 0, none, 0, 0⟩ ⟨true, true, true, true, [some 7, some 8]⟩]

def statsState : SgvState :=
  runCalls x86Config (SgvState.initial (fun _ => .sgv_full_clustering) (fun _ => 100)) statsRun

theorem statsState_reachable : Reachable x86Config statsState :=
  reachable_runCalls x86Config statsRun (.init _ _) (by decide)

theorem statsState_printout_sane :
    ProcFits x86Config (statsState.pools 0) ∧ ProcSane (sgv_do_proc_read x86Config (statsState.pools 0)) :=
  ⟨by decide, proc_read_sane statsState_reachable 0 (by decide)⟩

/-- The no-cached allocation merged one of its two pages: the big column's
formula gives 50, the other column prints 0. -/
theorem statsState_other_shown_zero :
    (statsState.pools 0).other_pages < 2 ^ 31 ∧
      (sgv_do_proc_read x86Config (statsState.pools 0)).other_merged = 0 ∧
      mergedPercent (atomic_read (statsState.pools 0).other_merged)
        (atomic_read (statsState.pools 0).other_pages) = 50 :=
  ⟨by decide, other_merged_shown_zero statsState_reachable 0 (by decide), by decide⟩

end ScstMem
