import ScstMem.Whole

/-! Requests of `2 ^ 31` bytes or more. Frames that `alloc_pages` returns in
ascending order merge, in a clustered pool, into one entry holding the whole
request. `sgv_free_sys_sg_entries` reads its length into an `int`, which from
`2 ^ 31` on is negative, so the page count is not positive and none of the
frames reaches `__free_pages`: a big object of 2 GiB, freed with
`sgv_pool_free`, is never given back (`twoGiB_frames_leak`, on 64 KiB pages).
`frames_freed_once` keeps its requests below `2 ^ 31` bytes for this reason. -/
namespace ScstMem
open sgv_clustering_types

section Ascending
variable {cfg : Config} {ct : sgv_clustering_types}

theorem clusterPage_next (clustered : ct ≠ .sgv_no_clustering) (p k : Nat) (rest : List SgEntry)
    {merged : Option Nat} (hint : merged = none ∨ merged = some 0) :
    clusterPage cfg ct (⟨some p, k * cfg.PAGE_SIZE⟩ :: ⟨some (p + k), cfg.PAGE_SIZE⟩ :: rest) 1 merged =
      (⟨some p, (k + 1) * cfg.PAGE_SIZE⟩ :: sg_clear :: rest, some 0) := by
  have ppos := cfg.PAGE_SIZE_pos
  have tail : tailMergeable cfg ⟨some p, k * cfg.PAGE_SIZE⟩ ⟨some (p + k), cfg.PAGE_SIZE⟩ = true := by
    simp [tailMergeable, pfnOf, Nat.mul_div_cancel _ ppos]
  have head : headMergeable cfg ⟨some p, k * cfg.PAGE_SIZE⟩ ⟨some (p + k), cfg.PAGE_SIZE⟩ = false := by
    simp [headMergeable, pfnOf, Nat.div_self ppos]; omega
  have merge : applyMerge (⟨some p, k * cfg.PAGE_SIZE⟩ :: ⟨some (p + k), cfg.PAGE_SIZE⟩ :: rest) 1 0 .tail =
      ⟨some p, (k + 1) * cfg.PAGE_SIZE⟩ :: sg_clear :: rest := by
    simp only [applyMerge, List.getD_cons_zero, List.getD_cons_succ, List.set_cons_zero, List.set_cons_succ,
      Nat.succ_mul]
  have found : mergeWith cfg ⟨some p, k * cfg.PAGE_SIZE⟩ ⟨some (p + k), cfg.PAGE_SIZE⟩ = some .tail := by
    simp only [mergeWith, head, tail, Bool.false_eq_true, if_false, if_true]
  cases ct with
  | sgv_no_clustering => exact absurd rfl clustered
  | sgv_tail_clustering =>
    simp only [clusterPage, sgv_check_tail_clustering, List.getD_cons_zero, List.getD_cons_succ, tail, if_true,
      merge]
  | sgv_full_clustering =>
    rcases hint with rfl | rfl <;>
      simp only [clusterPage, sgv_check_full_clustering, fullCandidate, scanBack, List.getD_cons_zero,
        List.getD_cons_succ, found, merge]

theorem pageLoop_ascending (clustered : ct ≠ .sgv_no_clustering) (p : Nat) (rest : List SgEntry) :
    ∀ (left k : Nat) (merged : Option Nat), (merged = none ∨ merged = some 0) →
      pageLoop cfg ct left (⟨some p, k * cfg.PAGE_SIZE⟩ :: sg_clear :: rest) 1 merged
          ((List.range' (p + k) left).map some) =
        ⟨⟨some p, (k + left) * cfg.PAGE_SIZE⟩ :: sg_clear :: rest, 1, false, List.range' (p + k) left, []⟩
  | 0, k, _, _ => by simp [pageLoop]
  | left + 1, k, merged, hint => by
    simp only [pageLoop, List.range'_succ, List.map_cons, nextPage, sgv_alloc_sys_pages,
      List.set_cons_succ, List.set_cons_zero]
    rw [clusterPage_next clustered p k rest hint]
    simp only [reduceCtorEq, if_false]
    rw [show p + k + 1 = p + (k + 1) by omega, pageLoop_ascending clustered p rest left (k + 1) (some 0)
      (.inr rfl)]
    rw [show k + 1 + left = k + (left + 1) by omega]

theorem pageLoop_ascending_start (clustered : ct ≠ .sgv_no_clustering) (p n : Nat) (pos : 0 < n) :
    pageLoop cfg ct n (sg_init_table n) 0 none ((List.range' p n).map some) =
      ⟨⟨some p, n * cfg.PAGE_SIZE⟩ :: sg_init_table (n - 1), 1, false, List.range' p n, []⟩ := by
  obtain ⟨m, rfl⟩ : ∃ m, n = m + 1 := ⟨n - 1, by omega⟩
  have first : clusterPage cfg ct (⟨some p, cfg.PAGE_SIZE⟩ :: sg_init_table m) 0 none =
      (⟨some p, cfg.PAGE_SIZE⟩ :: sg_init_table m, none) := by
    cases ct <;> rfl
  have init : ∀ k, sg_init_table (k + 1) = sg_clear :: sg_init_table k := fun _ => rfl
  rw [pageLoop, List.range'_succ, List.map_cons, init]
  simp only [nextPage, sgv_alloc_sys_pages, List.set_cons_zero, first, if_true, Nat.zero_add]
  cases m with
  | zero => simp [pageLoop]
  | succ m =>
    have rest := @pageLoop_ascending cfg ct clustered p (sg_init_table m) (m + 1) 1 none (.inl rfl)
    rw [Nat.one_mul, Nat.add_comm 1] at rest
    rw [init, rest]
    simp [List.range'_succ, init]

theorem free_big_entry (p L : Nat) (rest : List SgEntry) (big : 2 ^ 31 ≤ L) (fits : L < 2 ^ 32) :
    sgv_free_sys_sg_entries cfg (⟨some p, L⟩ :: rest) 1 = [] ∧
      sgLeaked cfg (⟨some p, L⟩ :: rest) 1 = List.range' p (lenPages cfg L) := by
  have none := Int.toNat_of_nonpos (freePages_nonpos cfg (intLen_neg big fits))
  simp only [sgv_free_sys_sg_entries, sgLeaked, entryFreed, entryLeaked, none, List.range_succ, List.range_zero,
    List.nil_append, List.flatMap_singleton, List.getD_cons_zero, List.range'_zero, Nat.add_zero, Nat.sub_zero,
    and_self]

/-- A big `sgv_pool_alloc` of `n` pages, `2 ^ 31` bytes or more, on frames
`p, p + 1, ...` in a clustered pool, then `sgv_pool_free` of the object it
hands out: the `n` frames were allocated, and none of them is freed. -/
theorem big_alloc_free_leaks {t : SgvState} {a : AllocArgs} {env : AllocEnv} {n p : Nat}
    (size : a.size = n * cfg.PAGE_SIZE) (big : 2 ^ 31 ≤ a.size) (fits : a.size < 2 ^ 32)
    (path : a.sgv = none ∧ (cfg.SGV_POOL_ELEMENTS ≤ get_order cfg a.size ∨ a.flags.no_cached = true) ∧
      a.flags.no_alloc_on_cache_miss = false)
    (clustered : (t.pools a.pool).clustering_type ≠ .sgv_no_clustering)
    (quota : t.alloced_pages a.mem_lim + n ≤ t.max_allowed_pages a.mem_lim)
    (mark : n + t.sgv_pages_total ≤ cfg.sgv_hi_wmk)
    (frames : env.big_ok = true ∧ env.pages = (List.range' p n).map some) :
    (sgv_pool_alloc cfg t a env).2.sgv = some t.next_obj ∧
      (sgv_pool_alloc cfg t a env).1.pages_allocated = t.pages_allocated ++ List.range' p n ∧
      (sgv_pool_free cfg (sgv_pool_alloc cfg t a env).1 t.next_obj a.mem_lim).pages_freed =
        t.pages_freed ∧
      (sgv_pool_free cfg (sgv_pool_alloc cfg t a env).1 t.next_obj a.mem_lim).pages_leaked =
        t.pages_leaked ++ List.range' p n := by
  obtain ⟨sgv, order, miss⟩ := path
  obtain ⟨big_ok, pages⟩ := frames
  have pos : 0 < n := Nat.pos_of_ne_zero fun zero => by simp [zero] at size; omega
  have npages : (a.size + cfg.PAGE_SIZE - 1) / cfg.PAGE_SIZE = n := by
    rw [round_up_eq_lenPages, size, lenPages_mul]
  have not_cached : ¬(get_order cfg a.size < cfg.SGV_POOL_ELEMENTS ∧ ¬a.flags.no_cached = true) :=
    fun ⟨lt, nc⟩ => order.elim (fun le => absurd lt (not_lt.2 le)) nc
  have within : ¬(t.max_allowed_pages a.mem_lim < t.alloced_pages a.mem_lim + n) := not_lt.2 quota
  have below : ¬(cfg.sgv_hi_wmk < n + t.sgv_pages_total) := not_lt.2 mark
  have whole : a.size % cfg.PAGE_SIZE = 0 := by rw [size]; exact Nat.mul_mod_left _ _
  have loop := @pageLoop_ascending_start cfg _ clustered p n pos
  obtain ⟨free, leak⟩ := @free_big_entry cfg p (n * cfg.PAGE_SIZE) (sg_init_table (n - 1)) (size ▸ big)
    (size ▸ fits)
  unfold sgv_pool_alloc
  rw [if_neg (by omega)]
  simp only [sgv, npages, if_neg not_cached]
  simp [allocBig, sgv_check_allowed_mem, chargeAdd, within, miss, big_ok, sgv_hiwmk_check, below, allocFill,
    pages, loop, fill_freed, fill_leaked, allocSuccess, successObj, whole, sgv_pool_free, SgvState.obj, free,
    leak, sgv_uncheck_allowed_mem, sgv_hiwmk_uncheck, SgvState.newObj, SgvState.setObj, freshObj,
    SgvState.handOut, SgvState.setPool, pos.ne']

end Ascending

section Example

/-- Pages of 64 KiB, as arm64 and ppc64 kernels can be built; 11 buckets; the
embedding orders of `x86Config`; watermarks of `2 ^ 16` and `2 ^ 15` pages
(4 and 2 GiB of `scst_max_cmd_mem`); `HZ` 100. -/
def pages64kConfig : Config := ⟨16, 11, 3, 5, 2 ^ 16, 2 ^ 15, 100⟩

/-- A 2 GiB request to pool 0 with no flags. -/
def twoGiBArgs : AllocArgs := ⟨0, 2 ^ 31, ⟨false, false, false⟩, 0, none, 0, 0⟩

/-- Every allocation succeeds, and `alloc_pages` returns frames `0, 1, ...` in
order. -/
def ascendingEnv : AllocEnv := ⟨true, true, true, true, (List.range' 0 (2 ^ 15)).map some⟩

/-- Tail-clustered pools after init, every `scst_mem_lim` allowing `2 ^ 16`
pages. -/
def tailInit : SgvState := SgvState.initial (fun _ => .sgv_tail_clustering) (fun _ => 2 ^ 16)

theorem twoGiB_frames_leak :
    (sgv_pool_alloc pages64kConfig tailInit twoGiBArgs ascendingEnv).2.sgv = some tailInit.next_obj ∧
      (sgv_pool_alloc pages64kConfig tailInit twoGiBArgs ascendingEnv).1.pages_allocated =
        tailInit.pages_allocated ++ List.range' 0 (2 ^ 15) ∧
      (sgv_pool_free pages64kConfig (sgv_pool_alloc pages64kConfig tailInit twoGiBArgs ascendingEnv).1
        tailInit.next_obj twoGiBArgs.mem_lim).pages_freed = tailInit.pages_freed ∧
      (sgv_pool_free pages64kConfig (sgv_pool_alloc pages64kConfig tailInit twoGiBArgs ascendingEnv).1
        tailInit.next_obj twoGiBArgs.mem_lim).pages_leaked = tailInit.pages_leaked ++ List.range' 0 (2 ^ 15) :=
  big_alloc_free_leaks (n := 2 ^ 15) (p := 0) (by decide) (by decide) (by decide) (by decide) (by decide)
    (by decide) (by decide) ⟨rfl, rfl⟩

end Example

end ScstMem
