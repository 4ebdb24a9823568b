import ScstMem.Clustering

/-! What one fill by `sgv_alloc_sg_entries` produces, for any page sequence
and any clustering type: every entry in use holds a positive whole number of
pages, and the frames the entries in use span are the frames `alloc_pages`
returned. What `sgv_free_sys_sg_entries` gives back of them, and what its
`int len` makes it skip, together are the frames the entries span. The
entries past the count are whatever the array held before, so nothing here
assumes a cleared array. -/
namespace ScstMem
open sgv_clustering_types

section Lists
variable {α : Type}

theorem getD_set (l : List α) (i j : Nat) (a d : α) :
    (l.set i a).getD j d = if i = j ∧ i < l.length then a else l.getD j d := by
  simp only [List.getD_eq_getElem?_getD, List.getElem?_set]
  by_cases same : i = j
  · subst same
    by_cases inb : i < l.length
    · simp [inb]
    · simp [inb, List.getElem?_eq_none (Nat.le_of_not_lt inb)]
  · simp [same]

theorem getD_set_ne (l : List α) {i j : Nat} (a d : α) (ne : i ≠ j) :
    (l.set i a).getD j d = l.getD j d := by
  simp [getD_set, ne]

theorem sum_range_update {f g : Nat → Nat} {n i : Nat} (hi : i < n)
    (rest : ∀ j < n, j ≠ i → f j = g j) :
    ((List.range n).map g).sum + f i = ((List.range n).map f).sum + g i := by
  induction n with
  | zero => omega
  | succ n ih =>
      simp only [List.range_succ, List.map_append, List.sum_append, List.map_cons,
        List.map_nil, List.sum_cons, List.sum_nil]
      by_cases last : i = n
      · subst last
        have same : (List.range i).map g = (List.range i).map f :=
          List.map_congr_left fun j member => by
            simp at member; exact (rest j (by omega) (by omega)).symm
        rw [same]
        omega
      · have earlier := ih (by omega) fun j lt ne => rest j (by omega) ne
        rw [rest n (by omega) (Ne.symm last)]
        omega

theorem flatMap_range_perm {f g : Nat → List α} {n i : Nat} {x : List α} (hi : i < n)
    (rest : ∀ j < n, j ≠ i → f j = g j) (here : (g i).Perm (f i ++ x)) :
    ((List.range n).flatMap g).Perm ((List.range n).flatMap f ++ x) := by
  induction n with
  | zero => omega
  | succ n ih =>
      simp only [List.range_succ, List.flatMap_append, List.flatMap_cons, List.flatMap_nil,
        List.append_nil, List.append_assoc]
      by_cases last : i = n
      · subst last
        have same : (List.range i).flatMap g = (List.range i).flatMap f :=
          List.flatMap_congr fun j member => by
            simp at member; exact (rest j (by omega) (by omega)).symm
        rw [same]
        exact here.append_left _
      · rw [rest n (by omega) (Ne.symm last)]
        exact ((ih (by omega) fun j lt ne => rest j (by omega) ne).append_right _).trans
          (by simpa only [List.append_assoc] using (List.perm_append_comm.append_left _))

end Lists

section Step
variable (cfg : Config)

/-- An entry a fill leaves in use: a page and a positive whole number of pages. -/
def WholeEntry (e : SgEntry) : Prop :=
  e.page.isSome ∧ ∃ k, 0 < k ∧ e.length = k * cfg.PAGE_SIZE

def Filled (sg : List SgEntry) (n : Nat) : Prop :=
  ∀ i < n, WholeEntry cfg (sg.getD i sg_clear)

/-- What one clustering call does with the page `p` placed at slot `n`: either
nothing, or entry `i < n` grows by that page and slot `n` is cleared. -/
def Absorbs (placed : List SgEntry) (n p : Nat) (out : List SgEntry × Option Nat) : Prop :=
  out.1.length = placed.length ∧
  match out.2 with
  | none => out.1 = placed
  | some i => i < n ∧ out.1.getD n sg_clear = sg_clear ∧
      (∀ j, j ≠ i → j ≠ n → out.1.getD j sg_clear = placed.getD j sg_clear) ∧
      WholeEntry cfg (out.1.getD i sg_clear) ∧
      (out.1.getD i sg_clear).length = (placed.getD i sg_clear).length + cfg.PAGE_SIZE ∧
      (entryPfns cfg (out.1.getD i sg_clear)).Perm
        (entryPfns cfg (placed.getD i sg_clear) ++ [p])

variable {cfg}

theorem absorbs_none (placed : List SgEntry) (n p : Nat) :
    Absorbs cfg placed n p (placed, none) := ⟨rfl, rfl⟩

theorem applyMerge_absorbs {sg : List SgEntry} {cur i p : Nat} (m : Merge)
    (before : i < cur) (room : cur < sg.length)
    (placed : sg.getD cur sg_clear = ⟨some p, cfg.PAGE_SIZE⟩)
    (whole : WholeEntry cfg (sg.getD i sg_clear))
    (fits : m.fits cfg (sg.getD i sg_clear) (sg.getD cur sg_clear) = true) :
    Absorbs cfg sg cur p (applyMerge sg cur i m, some i) := by
  obtain ⟨hasPage, k, kpos, klen⟩ := whole
  obtain ⟨q, hq⟩ := Option.isSome_iff_exists.mp hasPage
  have ppos := cfg.PAGE_SIZE_pos
  have ne : i ≠ cur := by omega
  have result : (applyMerge sg cur i m).getD i sg_clear =
      ⟨(match m with | .head => some p | .tail => some q), (k + 1) * cfg.PAGE_SIZE⟩ := by
    simp only [applyMerge]
    rw [getD_set_ne _ _ _ (Ne.symm ne), getD_set, if_pos ⟨rfl, by omega⟩]
    cases m <;> simp only [placed, hq, klen, Nat.succ_mul]
  refine ⟨by simp [applyMerge], before, by simp [applyMerge, getD_set, room], ?_, ?_⟩
  · intro j ji jc
    simp only [applyMerge]
    rw [getD_set_ne _ _ _ (Ne.symm jc), getD_set_ne _ _ _ (Ne.symm ji)]
  · rw [result]
    refine ⟨⟨by cases m <;> rfl, k + 1, by omega, rfl⟩, by rw [klen, Nat.succ_mul], ?_⟩
    cases m with
    | head =>
        simp only [Merge.fits, headMergeable, placed, pfnOf, hq, klen, Option.getD_some,
          Nat.div_self ppos, Nat.mod_self, Bool.and_eq_true, beq_iff_eq] at fits
        simp only [entryPfns, hq, klen, lenPages_mul, List.range'_succ, fits.1]
        exact (List.perm_append_singleton _ _).symm
    | tail =>
        simp only [Merge.fits, tailMergeable, placed, pfnOf, hq, klen, Option.getD_some,
          Nat.mul_div_cancel _ ppos, Nat.mul_mod_left, Bool.and_eq_true, beq_iff_eq] at fits
        simp only [entryPfns, hq, klen, lenPages_mul, List.range'_concat, Nat.one_mul, fits.1]
        exact List.Perm.refl _

theorem mergeWith_fits {e c : SgEntry} {m : Merge} (found : mergeWith cfg e c = some m) :
    m.fits cfg e c = true := by
  unfold mergeWith at found
  split at found
  · cases found; assumption
  · split at found
    · cases found; assumption
    · cases found

theorem scanBack_found {sg : List SgEntry} {cur k i : Nat} {m : Merge}
    (found : scanBack cfg sg cur k = some (i, m)) :
    i < k ∧ mergeWith cfg (sg.getD i sg_clear) (sg.getD cur sg_clear) = some m := by
  induction k with
  | zero => simp [scanBack] at found
  | succ k ih =>
      simp only [scanBack] at found
      split at found
      · next hit => cases found; exact ⟨by omega, hit⟩
      · exact (ih found).imp (by omega) id

section Absorb
variable {sg : List SgEntry} {cur p : Nat} (room : cur < sg.length)
  (placed : sg.getD cur sg_clear = ⟨some p, cfg.PAGE_SIZE⟩) (filled : Filled cfg sg cur)
include room placed filled

theorem full_absorbs {hint : Option Nat} (hinted : ∀ j, hint = some j → j < cur) :
    Absorbs cfg sg cur p (sgv_check_full_clustering cfg sg cur hint) := by
  have found : ∀ i m, fullCandidate cfg sg cur hint = some (i, m) →
      i < cur ∧ mergeWith cfg (sg.getD i sg_clear) (sg.getD cur sg_clear) = some m := by
    intro i m hit
    unfold fullCandidate at hit
    split at hit
    · next j =>
        split at hit
        · next m' fits => cases hit; exact ⟨hinted i rfl, fits⟩
        · exact scanBack_found hit
    · exact scanBack_found hit
  unfold sgv_check_full_clustering
  split
  · next i m hit =>
      obtain ⟨before, fits⟩ := found i m hit
      exact applyMerge_absorbs m before room placed (filled i before) (mergeWith_fits fits)
  · exact absorbs_none _ _ _

theorem tail_absorbs : Absorbs cfg sg cur p (sgv_check_tail_clustering cfg sg cur) := by
  unfold sgv_check_tail_clustering
  split
  · exact absorbs_none _ _ _
  · next prev =>
      split
      · next fits => exact applyMerge_absorbs .tail (by omega) room placed (filled prev (by omega)) fits
      · exact absorbs_none _ _ _

theorem clusterPage_absorbs (ct : sgv_clustering_types) {merged : Option Nat}
    (hinted : ∀ j, merged = some j → j < cur) :
    Absorbs cfg sg cur p (clusterPage cfg ct sg cur merged) := by
  cases ct with
  | sgv_no_clustering => exact absorbs_none _ _ _
  | sgv_tail_clustering => exact tail_absorbs room placed filled
  | sgv_full_clustering => exact full_absorbs room placed filled hinted

end Absorb

end Step

section Loop
variable {cfg : Config}

theorem sgBytes_congr {a b : List SgEntry} {n : Nat}
    (same : ∀ i < n, a.getD i sg_clear = b.getD i sg_clear) : sgBytes a n = sgBytes b n := by
  unfold sgBytes
  rw [List.map_congr_left fun i member => by rw [same i (List.mem_range.mp member)]]

theorem pfns_congr {a b : List SgEntry} {n : Nat}
    (same : ∀ i < n, a.getD i sg_clear = b.getD i sg_clear) :
    sgPfns cfg a n = sgPfns cfg b n := by
  unfold sgPfns
  exact List.flatMap_congr fun i member => by rw [same i (List.mem_range.mp member)]

theorem sgBytes_succ (sg : List SgEntry) (n : Nat) :
    sgBytes sg (n + 1) = sgBytes sg n + (sg.getD n sg_clear).length := by
  simp [sgBytes, List.range_succ]

theorem pfns_succ (sg : List SgEntry) (n : Nat) :
    sgPfns cfg sg (n + 1) = sgPfns cfg sg n ++ entryPfns cfg (sg.getD n sg_clear) := by
  simp [sgPfns, List.range_succ]

theorem entryFreed_append_leaked (e : SgEntry) :
    entryFreed cfg e ++ entryLeaked cfg e = entryPfns cfg e := by
  unfold entryFreed entryLeaked entryPfns
  split
  · rw [List.range'_append_1, Nat.sub_add_cancel (toNat_freePages_intLen_le cfg e.length)]
  · rfl

theorem free_leaked_perm (sg : List SgEntry) (n : Nat) :
    (sgv_free_sys_sg_entries cfg sg n ++ sgLeaked cfg sg n).Perm (sgPfns cfg sg n) := by
  induction n with
  | zero => simp [sgv_free_sys_sg_entries, sgLeaked, sgPfns]
  | succ n ih =>
      simp only [sgv_free_sys_sg_entries, sgLeaked, sgPfns, List.range_succ, List.flatMap_append,
        List.flatMap_singleton, ← entryFreed_append_leaked (sg.getD n sg_clear)] at ih ⊢
      rw [← Multiset.coe_eq_coe] at ih ⊢
      simp only [← Multiset.coe_add] at ih ⊢
      rw [← ih]; abel

theorem entryLeaked_of_lt {e : SgEntry} (lt : e.length < 2 ^ 31) : entryLeaked cfg e = [] := by
  unfold entryLeaked
  split
  · rw [freePages_intLen_of_lt cfg lt, Int.toNat_ofNat, Nat.sub_self, List.range'_zero]
  · rfl

theorem sgLeaked_of_lt {sg : List SgEntry} {n : Nat}
    (lt : ∀ i < n, (sg.getD i sg_clear).length < 2 ^ 31) : sgLeaked cfg sg n = [] := by
  unfold sgLeaked
  exact List.flatMap_eq_nil_iff.2 fun i mem => entryLeaked_of_lt (lt i (List.mem_range.1 mem))

theorem length_le_sgBytes {sg : List SgEntry} {n i : Nat} (lt : i < n) :
    (sg.getD i sg_clear).length ≤ sgBytes sg n :=
  List.le_sum_of_mem (List.mem_map.2 ⟨i, List.mem_range.2 lt, rfl⟩)

/-- One page placed at slot `n` and clustered keeps the loop's invariant. -/
theorem absorbs_step {sg : List SgEntry} {n p : Nat} {out : List SgEntry × Option Nat}
    (room : n < sg.length) (filled : Filled cfg sg n)
    (absorbed : Absorbs cfg (sg.set n ⟨some p, cfg.PAGE_SIZE⟩) n p out) :
    let n' := if out.2 = none then n + 1 else n
    out.1.length = sg.length ∧ Filled cfg out.1 n' ∧
    sgBytes out.1 n' = sgBytes sg n + cfg.PAGE_SIZE ∧
    (sgPfns cfg out.1 n').Perm (sgPfns cfg sg n ++ [p]) ∧
    ∀ j, out.2 = some j → j < n' := by
  obtain ⟨len, absorbed⟩ := absorbed
  have below : ∀ i < n, (sg.set n ⟨some p, cfg.PAGE_SIZE⟩).getD i sg_clear = sg.getD i sg_clear :=
    fun i lt => getD_set_ne _ _ _ (by omega)
  have slot : (sg.set n ⟨some p, cfg.PAGE_SIZE⟩).getD n sg_clear = ⟨some p, cfg.PAGE_SIZE⟩ := by
    simp [getD_set, room]
  rw [List.length_set] at len
  obtain ⟨res, merged⟩ := out
  cases merged with
  | none =>
      simp only at absorbed
      subst absorbed
      refine ⟨len, ?_, ?_, ?_, by simp⟩
      · intro i lt
        by_cases last : i = n
        · subst last; rw [slot]; exact ⟨rfl, 1, by omega, by simp⟩
        · rw [below i (by simp at lt; omega)]; exact filled i (by simp at lt; omega)
      · simp only [if_pos, sgBytes_succ, slot, sgBytes_congr below]
      · simp only [if_pos, pfns_succ, slot, pfns_congr below, entryPfns, lenPages]
        simp [Nat.div_self cfg.PAGE_SIZE_pos]
  | some i =>
      obtain ⟨before, cleared, others, whole, grown, pfns⟩ := absorbed
      dsimp only at len others whole grown pfns
      simp only [reduceCtorEq, if_false]
      have unchanged : ∀ j, j ≠ i → j < n → res.getD j sg_clear = sg.getD j sg_clear :=
        fun j ji jn => (others j ji (by omega)).trans (below j jn)
      refine ⟨len, ?_, ?_, ?_, fun j same => by cases same; exact before⟩
      · intro j lt
        by_cases here : j = i
        · subst here; exact whole
        · rw [unchanged j here lt]; exact filled j lt
      · have sums := sum_range_update (f := fun j => (sg.getD j sg_clear).length)
          (g := fun j => (res.getD j sg_clear).length) before
          fun j jn ji => by simp only [unchanged j ji jn]
        rw [below i before] at grown
        simp only [sgBytes] at sums ⊢
        omega
      · rw [below i before] at pfns
        exact flatMap_range_perm before (fun j jn ji => by simp only [unchanged j ji jn]) pfns

/-- The page loop's invariant as the loop leaves it. -/
structure LoopSpec (cfg : Config) (sg : List SgEntry) (n left : Nat) (out : PageLoop) : Prop where
  length_eq : out.sg.length = sg.length
  filled : Filled cfg out.sg out.sg_count
  bytes_eq : sgBytes out.sg out.sg_count = sgBytes sg n + out.allocated.length * cfg.PAGE_SIZE
  pfns_perm : (sgPfns cfg out.sg out.sg_count).Perm (sgPfns cfg sg n ++ out.allocated)
  complete : out.failed = false → out.allocated.length = left

theorem pageLoop_spec (ct : sgv_clustering_types) :
    ∀ (left : Nat) (sg : List SgEntry) (n : Nat) (merged : Option Nat) (src : List (Option Nat)),
      n + left ≤ sg.length → Filled cfg sg n → (∀ j, merged = some j → j < n) →
      LoopSpec cfg sg n left (pageLoop cfg ct left sg n merged src)
  | 0, sg, n, _, _, _, filled, _ => ⟨rfl, filled, by simp [pageLoop], by simp [pageLoop],
      by simp [pageLoop]⟩
  | left + 1, sg, n, merged, src, room, filled, hinted => by
      simp only [pageLoop]
      split
      · next failed =>
          have same : ∀ i < n, (sgv_alloc_sys_pages cfg sg n (nextPage src).1).getD i sg_clear =
              sg.getD i sg_clear := fun i lt => getD_set_ne _ _ _ (by omega)
          exact ⟨by simp [sgv_alloc_sys_pages], fun i lt => (same i lt).symm ▸ filled i lt,
            by simp [sgBytes_congr same], by simp [pfns_congr same], by simp⟩
      · next pfn got =>
          simp only [got, sgv_alloc_sys_pages]
          have absorbed : Absorbs cfg (sg.set n ⟨some pfn, cfg.PAGE_SIZE⟩) n pfn _ :=
            clusterPage_absorbs (by simp; omega) (by rw [getD_set, if_pos ⟨rfl, by omega⟩])
            (fun i lt => by rw [getD_set_ne _ _ _ (show n ≠ i by omega)]; exact filled i lt)
            ct hinted
          obtain ⟨len, filled', bytes, pfns, hinted'⟩ := absorbs_step (by omega) filled absorbed
          have rest := pageLoop_spec ct left _ _ _ ((nextPage src).2)
            (by split <;> omega) filled' hinted'
          refine ⟨rest.length_eq.trans len, rest.filled, ?_, ?_, ?_⟩
          · rw [rest.bytes_eq, bytes]; simp [Nat.succ_mul]; omega
          · refine rest.pfns_perm.trans ?_
            simpa using pfns.append_right _
          · intro done
            simp [rest.complete done]

theorem pageLoop_failed_lt (ct : sgv_clustering_types) :
    ∀ (left : Nat) (sg : List SgEntry) (n : Nat) (merged : Option Nat) (src : List (Option Nat)),
      (pageLoop cfg ct left sg n merged src).failed = true →
      (pageLoop cfg ct left sg n merged src).allocated.length < left
  | 0, _, _, _, _ => by simp [pageLoop]
  | left + 1, sg, n, merged, src => by
      simp only [pageLoop]
      split
      · simp
      · intro failed
        simpa using pageLoop_failed_lt ct left _ _ _ _ failed

theorem pageLoop_spec_start (ct : sgv_clustering_types) {pages : Nat} {sg : List SgEntry}
    (src : List (Option Nat)) (room : pages ≤ sg.length) :
    LoopSpec cfg sg 0 pages (pageLoop cfg ct pages sg 0 none src) :=
  pageLoop_spec ct pages sg 0 none src (by omega) (fun _ lt => absurd lt (Nat.not_lt_zero _)) fun _ h => by cases h

end Loop

section Shape
variable (cfg : Config)

/-- What a successful fill of `N` pages leaves: `N` slots, the first `c` of
them whole entries holding the `N` pages. -/
structure FillShape (sg : List SgEntry) (c N : Nat) : Prop where
  length_eq : sg.length = N
  filled : Filled cfg sg c
  bytes_eq : sgBytes sg c = N * cfg.PAGE_SIZE

/-- The trans_tbl a fill of `N` pages leaves: page `q` lies in entry
`sg_num - 1`, which is in use and starts at byte `pg_count * PAGE_SIZE`. -/
def TransShape (sg : List SgEntry) (c N : Nat) (t : List TransEnt) : Prop :=
  t.length = N ∧ ∀ q < N, ∃ e < c, (transAt t q).sg_num = e + 1 ∧
    (transAt t e).pg_count * cfg.PAGE_SIZE = sgBytes sg e ∧
    sgBytes sg e ≤ q * cfg.PAGE_SIZE ∧ q * cfg.PAGE_SIZE < sgBytes sg (e + 1)

/-- Pages spanned by entries `0 .. k - 1`, as the trans_tbl loop counts them. -/
def pagesPrefix (es : List SgEntry) (k : Nat) : Nat :=
  ((List.range k).map fun j => lenPages cfg (es.getD j sg_clear).length).sum

variable {cfg}

theorem sgBytes_whole {sg : List SgEntry} {c : Nat} (filled : Filled cfg sg c) :
    c * cfg.PAGE_SIZE ≤ sgBytes sg c := by
  induction c with
  | zero => simp
  | succ c ih =>
      obtain ⟨_, k, kpos, klen⟩ := filled c (by omega)
      rw [sgBytes_succ, klen, Nat.succ_mul]
      have := ih fun i lt => filled i (by omega)
      have : cfg.PAGE_SIZE ≤ k * cfg.PAGE_SIZE := Nat.le_mul_of_pos_left _ kpos
      omega

theorem FillShape.count_le {sg : List SgEntry} {c N : Nat} (shape : FillShape cfg sg c N) :
    c ≤ N :=
  Nat.le_of_mul_le_mul_right (shape.bytes_eq ▸ sgBytes_whole shape.filled) cfg.PAGE_SIZE_pos

theorem pageLoop_no_clustering :
    ∀ (left : Nat) (sg : List SgEntry) (n : Nat) (merged : Option Nat) (src : List (Option Nat)),
      (pageLoop cfg .sgv_no_clustering left sg n merged src).sg_count =
        n + (pageLoop cfg .sgv_no_clustering left sg n merged src).allocated.length
  | 0, _, _, _, _ => by simp [pageLoop]
  | left + 1, sg, n, merged, src => by
      simp only [pageLoop]
      split
      · simp
      · simp only [clusterPage, if_true]
        rw [pageLoop_no_clustering left]
        simp
        omega

section FillResult
variable (sg : List SgEntry) (pages : Nat) (ct : sgv_clustering_types)
  (tt : Option (List TransEnt)) (src : List (Option Nat))

@[simp] theorem fill_sg : (sgv_alloc_sg_entries cfg sg pages ct tt src).sg = (pageLoop cfg ct pages sg 0 none src).sg := by
  unfold sgv_alloc_sg_entries; dsimp only; split <;> (try split) <;> rfl

@[simp] theorem fill_sg_count : (sgv_alloc_sg_entries cfg sg pages ct tt src).sg_count =
    if (pageLoop cfg ct pages sg 0 none src).failed then 0 else (pageLoop cfg ct pages sg 0 none src).sg_count := by
  unfold sgv_alloc_sg_entries; dsimp only; split <;> (try split) <;> simp [*]

@[simp] theorem fill_allocated :
    (sgv_alloc_sg_entries cfg sg pages ct tt src).allocated = (pageLoop cfg ct pages sg 0 none src).allocated := by
  unfold sgv_alloc_sg_entries; dsimp only; split <;> (try split) <;> rfl

theorem fill_freed : (sgv_alloc_sg_entries cfg sg pages ct tt src).freed =
    if (pageLoop cfg ct pages sg 0 none src).failed then sgv_free_sys_sg_entries cfg (pageLoop cfg ct pages sg 0 none src).sg (pageLoop cfg ct pages sg 0 none src).sg_count else [] := by
  unfold sgv_alloc_sg_entries; dsimp only; split <;> (try split) <;> simp [*]

variable {sg pages}

theorem fill_leaked : (sgv_alloc_sg_entries cfg sg pages ct tt src).leaked =
    if (pageLoop cfg ct pages sg 0 none src).failed then sgLeaked cfg (pageLoop cfg ct pages sg 0 none src).sg (pageLoop cfg ct pages sg 0 none src).sg_count else [] := by
  unfold sgv_alloc_sg_entries; dsimp only; split <;> (try split) <;> simp [*]

theorem fill_leaked_nil (room : pages ≤ sg.length)
    (small : (pages - 1) * cfg.PAGE_SIZE < 2 ^ 31) :
    (sgv_alloc_sg_entries cfg sg pages ct tt src).leaked = [] := by
  have spec := @pageLoop_spec_start cfg ct _ _ src room
  rw [fill_leaked]
  split
  · next failed =>
      have fewer : (pageLoop cfg ct pages sg 0 none src).allocated.length * cfg.PAGE_SIZE ≤
          (pages - 1) * cfg.PAGE_SIZE :=
        Nat.mul_le_mul_right _ (Nat.le_pred_of_lt (pageLoop_failed_lt ct pages sg 0 none src failed))
      refine sgLeaked_of_lt fun i lt => ?_
      have entry := @length_le_sgBytes (pageLoop cfg ct pages sg 0 none src).sg _ _ lt
      rw [spec.bytes_eq] at entry
      simp only [sgBytes, List.range_zero, List.map_nil, List.sum_nil, zero_add] at entry
      omega
  · rfl

theorem fill_pfns (room : pages ≤ sg.length) :
    ((sgv_alloc_sg_entries cfg sg pages ct tt src).freed ++
      (sgv_alloc_sg_entries cfg sg pages ct tt src).leaked ++
      sgPfns cfg (sgv_alloc_sg_entries cfg sg pages ct tt src).sg
        (sgv_alloc_sg_entries cfg sg pages ct tt src).sg_count).Perm
      (sgv_alloc_sg_entries cfg sg pages ct tt src).allocated := by
  have spec := @pageLoop_spec_start cfg ct _ _ src room
  have perm := spec.pfns_perm
  simp only [sgPfns, List.range_zero, List.flatMap_nil, List.nil_append] at perm
  rw [fill_freed, fill_leaked, fill_sg, fill_sg_count, fill_allocated]
  split
  · simpa [sgPfns] using (free_leaked_perm _ _).trans perm
  · simpa [sgPfns] using perm

theorem fill_shape (len : sg.length = pages)
    (used : (sgv_alloc_sg_entries cfg sg pages ct tt src).sg_count ≠ 0) :
    FillShape cfg (sgv_alloc_sg_entries cfg sg pages ct tt src).sg
      (sgv_alloc_sg_entries cfg sg pages ct tt src).sg_count pages := by
  have spec := @pageLoop_spec_start cfg ct _ _ src len.ge
  rw [fill_sg_count] at used ⊢
  split at used
  · exact absurd rfl used
  · next ok =>
      rw [if_neg ok, fill_sg]
      refine ⟨spec.length_eq.trans len, spec.filled, ?_⟩
      rw [spec.bytes_eq, spec.complete (by simpa using ok)]
      simp [sgBytes]

theorem fill_length (room : pages ≤ sg.length) :
    (sgv_alloc_sg_entries cfg sg pages ct tt src).sg.length = sg.length := by
  have spec := @pageLoop_spec_start cfg ct _ _ src room
  rw [fill_sg]; exact spec.length_eq

theorem fill_trans_tbl_of_empty (room : pages ≤ sg.length) (pos : 0 < pages)
    (empty : (sgv_alloc_sg_entries cfg sg pages ct tt src).sg_count = 0) :
    (sgv_alloc_sg_entries cfg sg pages ct tt src).trans_tbl = tt := by
  have spec := @pageLoop_spec_start cfg ct _ _ src room
  by_cases failed : (pageLoop cfg ct pages sg 0 none src).failed
  · unfold sgv_alloc_sg_entries; simp [failed]
  · rw [fill_sg_count, if_neg failed] at empty
    have bytes := spec.bytes_eq
    rw [empty, spec.complete (by simpa using failed)] at bytes
    have := Nat.mul_pos pos cfg.PAGE_SIZE_pos
    simp only [sgBytes, List.range_zero, List.map_nil, List.sum_nil, zero_add] at bytes
    omega

theorem fill_count_no_clustering (room : pages ≤ sg.length)
    (used : (sgv_alloc_sg_entries cfg sg pages .sgv_no_clustering tt src).sg_count ≠ 0) :
    (sgv_alloc_sg_entries cfg sg pages .sgv_no_clustering tt src).sg_count = pages := by
  have spec := @pageLoop_spec_start cfg .sgv_no_clustering _ _ src room
  rw [fill_sg_count] at used ⊢
  split at used
  · exact absurd rfl used
  · next ok =>
      rw [if_neg ok, pageLoop_no_clustering, spec.complete (by simpa using ok), Nat.zero_add]

end FillResult

end Shape

section Trans
variable {cfg : Config}

theorem pagesPrefix_succ (es : List SgEntry) (k : Nat) :
    pagesPrefix cfg es (k + 1) = pagesPrefix cfg es k + lenPages cfg (es.getD k sg_clear).length := by
  simp [pagesPrefix, List.range_succ]

theorem pagesPrefix_cons_succ (e : SgEntry) (es : List SgEntry) (k : Nat) :
    pagesPrefix cfg (e :: es) (k + 1) = lenPages cfg e.length + pagesPrefix cfg es k := by
  simp [pagesPrefix, List.range_succ_eq_map, List.map_map, Function.comp_def]

theorem pagesPrefix_mono (es : List SgEntry) {k k' : Nat} (le : k ≤ k') :
    pagesPrefix cfg es k ≤ pagesPrefix cfg es k' := by
  induction k' with
  | zero => simp [Nat.le_zero.mp le]
  | succ k' ih =>
      rcases Nat.lt_or_ge k (k' + 1) with lt | ge
      · rw [pagesPrefix_succ]; have := ih (by omega); omega
      · rw [Nat.le_antisymm le ge]

theorem pagesPrefix_mul {es : List SgEntry} {c : Nat} (filled : Filled cfg es c) :
    ∀ k ≤ c, pagesPrefix cfg es k * cfg.PAGE_SIZE = sgBytes es k
  | 0, _ => by simp [pagesPrefix, sgBytes]
  | k + 1, le => by
      obtain ⟨_, m, _, mlen⟩ := filled k (by omega)
      rw [pagesPrefix_succ, sgBytes_succ, Nat.add_mul, pagesPrefix_mul filled k (by omega), mlen,
        lenPages_mul]

theorem transAt_set (t : List TransEnt) (j q : Nat) (x : TransEnt) :
    transAt (t.set j x) q = if j = q ∧ j < t.length then x else transAt t q :=
  getD_set _ _ _ _ _

@[simp] theorem length_setPgCount (i pg : Nat) (t : List TransEnt) :
    (setPgCount i pg t).length = t.length := List.length_set _ _ _

@[simp] theorem length_setSgNum (v : Nat) :
    ∀ (n pg : Nat) (t : List TransEnt), (setSgNum v n pg t).length = t.length
  | 0, _, _ => rfl
  | n + 1, pg, t => by simp [setSgNum, length_setSgNum v n]

@[simp] theorem length_transFrom :
    ∀ (es : List SgEntry) (i pg : Nat) (t : List TransEnt), (transFrom cfg es i pg t).1.length = t.length
  | [], _, _, _ => rfl
  | e :: es, i, pg, t => by simp [transFrom, length_transFrom es, setPgCount]

theorem take_set_transAt {L t : List TransEnt} (pre : L.take t.length = t) (q : Nat)
    (f : TransEnt → TransEnt) :
    (L.set q (f (transAt L q))).take t.length = t.set q (f (transAt t q)) := by
  rw [List.set_take, pre]
  by_cases inb : q < t.length
  · rw [← pre]
    simp [transAt, List.getD_eq_getElem?_getD, List.getElem?_take, inb]
  · rw [List.set_eq_of_length_le (by omega), List.set_eq_of_length_le (by omega)]

theorem take_setSgNum (v : Nat) : ∀ (n pg : Nat) {L t : List TransEnt}, L.take t.length = t →
    (setSgNum v n pg L).take t.length = setSgNum v n pg t
  | 0, _, _, _, pre => pre
  | n + 1, pg, L, t, pre => by
    have step : (L.set pg { transAt L pg with sg_num := v }).take
        (t.set pg { transAt t pg with sg_num := v }).length = t.set pg { transAt t pg with sg_num := v } := by
      rw [List.length_set]; exact take_set_transAt pre pg fun e => { e with sg_num := v }
    simpa only [setSgNum, List.length_set] using take_setSgNum v n (pg + 1) step

theorem take_transFrom : ∀ (es : List SgEntry) (i pg : Nat) {L t : List TransEnt}, L.take t.length = t →
    (transFrom cfg es i pg L).1.take t.length = (transFrom cfg es i pg t).1
  | [], _, _, _, _, pre => pre
  | e :: es, i, pg, L, t, pre => by
    have round : (setSgNum (i + 1) (lenPages cfg e.length) pg (setPgCount i pg L)).take
        (setSgNum (i + 1) (lenPages cfg e.length) pg (setPgCount i pg t)).length =
          setSgNum (i + 1) (lenPages cfg e.length) pg (setPgCount i pg t) := by
      have count : (setPgCount i pg L).take (setPgCount i pg t).length = setPgCount i pg t := by
        rw [length_setPgCount]; exact take_set_transAt pre i fun e => { e with pg_count := pg }
      simpa only [length_setSgNum, length_setPgCount] using
        take_setSgNum (i + 1) (lenPages cfg e.length) pg count
    simpa only [transFrom, length_setSgNum, length_setPgCount] using
      take_transFrom es (i + 1) (pg + lenPages cfg e.length) round

/-- The trans_tbl loop run on the table followed by any memory `extra` leaves
the table's own entries as the model's loop does: the model drops exactly the
writes the loop makes past the table, which `transEnd` past the table's
length shows (`refill_trans_loop_overruns` is a refill that makes them). -/
theorem transFrom_drops_overrun (es : List SgEntry) (i pg : Nat) (t extra : List TransEnt) :
    (transFrom cfg es i pg (t ++ extra)).1.take t.length = (transFrom cfg es i pg t).1 :=
  take_transFrom es i pg (List.take_left t extra)

theorem setSgNum_pg_count (v q : Nat) :
    ∀ (n pg : Nat) (t : List TransEnt), (transAt (setSgNum v n pg t) q).pg_count = (transAt t q).pg_count
  | 0, _, _ => rfl
  | n + 1, pg, t => by
      rw [setSgNum, setSgNum_pg_count v q n, transAt_set]
      split <;> simp_all

theorem setSgNum_sg_num (v q : Nat) :
    ∀ (n pg : Nat) (t : List TransEnt), (transAt (setSgNum v n pg t) q).sg_num =
      if pg ≤ q ∧ q < pg + n ∧ q < t.length then v else (transAt t q).sg_num
  | 0, pg, t => by rw [if_neg (by omega)]; rfl
  | n + 1, pg, t => by
      rw [setSgNum, setSgNum_sg_num v q n, transAt_set, List.length_set]
      by_cases here : pg = q
      · subst here; by_cases inb : pg < t.length <;> simp [inb]
      · simp only [here, false_and, if_false]
        by_cases inside : pg + 1 ≤ q ∧ q < pg + 1 + n ∧ q < t.length
        · rw [if_pos inside, if_pos (by omega)]
        · rw [if_neg inside, if_neg (by omega)]

theorem setPgCount_pg_count (i pg q : Nat) (t : List TransEnt) :
    (transAt (setPgCount i pg t) q).pg_count =
      if i = q ∧ i < t.length then pg else (transAt t q).pg_count := by
  rw [setPgCount, transAt_set]; split <;> rfl

theorem setPgCount_sg_num (i pg q : Nat) (t : List TransEnt) :
    (transAt (setPgCount i pg t) q).sg_num = (transAt t q).sg_num := by
  rw [setPgCount, transAt_set]; split <;> simp_all

theorem transFrom_pg_count_below (q : Nat) :
    ∀ (es : List SgEntry) (i pg : Nat) (t : List TransEnt), q < i →
      (transAt (transFrom cfg es i pg t).1 q).pg_count = (transAt t q).pg_count
  | [], _, _, _, _ => rfl
  | e :: es, i, pg, t, lt => by
      rw [transFrom, transFrom_pg_count_below q es _ _ _ (by omega), setSgNum_pg_count,
        setPgCount_pg_count, if_neg (by omega)]

theorem transFrom_sg_num_below (q : Nat) :
    ∀ (es : List SgEntry) (i pg : Nat) (t : List TransEnt), q < pg →
      (transAt (transFrom cfg es i pg t).1 q).sg_num = (transAt t q).sg_num
  | [], _, _, _, _ => rfl
  | e :: es, i, pg, t, lt => by
      rw [transFrom, transFrom_sg_num_below q es _ _ _ (by omega), setSgNum_sg_num,
        if_neg (by omega), setPgCount_sg_num]

theorem transFrom_pg_count (q : Nat) :
    ∀ (es : List SgEntry) (i pg : Nat) (t : List TransEnt), i ≤ q → q < i + es.length →
      q < t.length → (transAt (transFrom cfg es i pg t).1 q).pg_count = pg + pagesPrefix cfg es (q - i)
  | [], _, _, _, _, above, _ => by simp at above; omega
  | e :: es, i, pg, t, from_i, below, inb => by
      rw [transFrom]
      by_cases here : q = i
      · subst here
        rw [transFrom_pg_count_below q es _ _ _ (by omega), setSgNum_pg_count,
          setPgCount_pg_count, if_pos ⟨rfl, inb⟩]
        simp [pagesPrefix]
      · rw [transFrom_pg_count q es _ _ _ (by omega) (by simp at below; omega) (by simp; omega),
          show q - i = (q - (i + 1)) + 1 by omega, pagesPrefix_cons_succ]
        omega

theorem transFrom_sg_num (q : Nat) :
    ∀ (es : List SgEntry) (i pg : Nat) (t : List TransEnt), pg ≤ q →
      q < pg + pagesPrefix cfg es es.length → q < t.length →
      ∃ e < es.length, pagesPrefix cfg es e ≤ q - pg ∧ q - pg < pagesPrefix cfg es (e + 1) ∧
        (transAt (transFrom cfg es i pg t).1 q).sg_num = i + e + 1
  | [], _, pg, _, _, above, _ => by simp [pagesPrefix] at above; omega
  | e :: es, i, pg, t, from_pg, below, inb => by
      rw [transFrom]
      rw [List.length_cons, pagesPrefix_cons_succ] at below
      by_cases first : q < pg + lenPages cfg e.length
      · refine ⟨0, by simp, by simp [pagesPrefix], ?_, ?_⟩
        · rw [pagesPrefix_cons_succ]; simp [pagesPrefix]
          omega
        · rw [transFrom_sg_num_below q es _ _ _ first, setSgNum_sg_num,
            if_pos ⟨from_pg, first, by simp; omega⟩]
      · obtain ⟨e', lt, lo, hi, num⟩ := transFrom_sg_num q es (i + 1) (pg + lenPages cfg e.length)
          (setSgNum (i + 1) (lenPages cfg e.length) pg (setPgCount i pg t)) (by omega) (by omega)
          (by simp; omega)
        refine ⟨e' + 1, by simp; omega, ?_, ?_, by rw [num]; omega⟩
        · rw [pagesPrefix_cons_succ]; omega
        · rw [pagesPrefix_cons_succ]; omega

end Trans

section FillTrans
variable {sg : List SgEntry} {pages : Nat} {ct : sgv_clustering_types} {t : List TransEnt}
  {src : List (Option Nat)}

theorem fill_trans_tbl (clustered : ct ≠ .sgv_no_clustering)
    (ok : (pageLoop cfg ct pages sg 0 none src).failed = false) :
    (sgv_alloc_sg_entries cfg sg pages ct (some t) src).trans_tbl =
      some (transFrom cfg ((pageLoop cfg ct pages sg 0 none src).sg.take pages) 0 0 t).1 := by
  unfold sgv_alloc_sg_entries
  cases ct <;> simp_all

/-- A clustered fill leaves a trans_tbl that maps each of its pages to the
entry holding it. -/
theorem fill_trans (len : sg.length = pages) (clustered : ct ≠ .sgv_no_clustering)
    (tlen : t.length = pages)
    (used : (sgv_alloc_sg_entries cfg sg pages ct (some t) src).sg_count ≠ 0) :
    ∃ t', (sgv_alloc_sg_entries cfg sg pages ct (some t) src).trans_tbl = some t' ∧
      TransShape cfg (sgv_alloc_sg_entries cfg sg pages ct (some t) src).sg
        (sgv_alloc_sg_entries cfg sg pages ct (some t) src).sg_count pages t' := by
  have shape := fill_shape ct (some t) src len used
  have ok : (pageLoop cfg ct pages sg 0 none src).failed = false := by
    rw [fill_sg_count] at used; split at used <;> simp_all
  rw [fill_trans_tbl clustered ok]
  refine ⟨_, rfl, by simp [tlen], ?_⟩
  rw [fill_sg_count, if_neg (by simp [ok]), fill_sg] at shape ⊢
  generalize (pageLoop cfg ct pages sg 0 none src).sg = es at shape ⊢
  generalize (pageLoop cfg ct pages sg 0 none src).sg_count = c at shape ⊢
  rw [← shape.length_eq, List.take_length]
  have toBytes := pagesPrefix_mul shape.filled
  have full : pagesPrefix cfg es c = pages :=
    Nat.eq_of_mul_eq_mul_right cfg.PAGE_SIZE_pos ((toBytes c le_rfl).trans shape.bytes_eq)
  have reach := @pagesPrefix_mono cfg es _ _ (shape.count_le.trans shape.length_eq.ge)
  intro q lt
  have elen := shape.length_eq
  obtain ⟨e, _, lo, hi, num⟩ := @transFrom_sg_num cfg q es 0 0 t (Nat.zero_le _)
    (by omega) (by omega)
  have inUse : e < c := by
    by_contra past
    have := @pagesPrefix_mono cfg es _ _ (Nat.le_of_not_lt past)
    omega
  refine ⟨e, inUse, by simpa using num, ?_, ?_, ?_⟩
  · rw [transFrom_pg_count e es 0 0 t (Nat.zero_le _) (by omega) (by omega), Nat.zero_add,
      Nat.sub_zero, toBytes e inUse.le]
  · rw [← toBytes e inUse.le]; exact Nat.mul_le_mul_right _ (by omega)
  · rw [← toBytes (e + 1) inUse]; exact Nat.mul_lt_mul_of_pos_right (by omega) cfg.PAGE_SIZE_pos

end FillTrans

end ScstMem
