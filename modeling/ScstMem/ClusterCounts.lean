import ScstMem.Fill

/-! A fill of a cleared array from a page source that does not fail. The
fill writes only slots of the array itself, every allocated page ends up in
an entry in use, and the slots past the count stay clear. Tail clustering
makes one entry per run of consecutive frames; full clustering merges every
page that tail clustering merges, so it makes no more entries. -/
namespace ScstMem
open sgv_clustering_types

section Frame
variable {cfg : Config} {sg extra : List SgEntry} {cur : Nat}

theorem applyMerge_append {i : Nat} (m : Merge) (hi : i < sg.length) (hc : cur < sg.length) :
    applyMerge (sg ++ extra) cur i m = applyMerge sg cur i m ++ extra := by
  simp only [applyMerge, List.getD_append _ _ _ _ hi, List.getD_append _ _ _ _ hc]
  rw [List.set_append_left _ _ hi, List.set_append_left _ _ (by simpa using hc)]

theorem scanBack_append (hc : cur < sg.length) :
    ∀ k, k ≤ cur → scanBack cfg (sg ++ extra) cur k = scanBack cfg sg cur k
  | 0, _ => rfl
  | k + 1, le => by
    simp only [scanBack, List.getD_append _ _ _ _ (Nat.lt_of_lt_of_le (Nat.lt_of_succ_le le) hc.le),
      List.getD_append _ _ _ _ hc, scanBack_append hc k (Nat.le_of_succ_le le)]

theorem fullCandidate_append {hint : Option Nat} (hinted : ∀ j, hint = some j → j < cur)
    (hc : cur < sg.length) : fullCandidate cfg (sg ++ extra) cur hint = fullCandidate cfg sg cur hint := by
  unfold fullCandidate
  split
  · next j =>
    rw [List.getD_append _ _ _ _ ((hinted j rfl).trans hc), List.getD_append _ _ _ _ hc,
      scanBack_append hc cur le_rfl]
  · exact scanBack_append hc cur le_rfl

theorem fullCandidate_lt {hint : Option Nat} (hinted : ∀ j, hint = some j → j < cur) {i : Nat}
    {m : Merge} (found : fullCandidate cfg sg cur hint = some (i, m)) : i < cur := by
  unfold fullCandidate at found
  split at found
  · split at found
    · cases found; exact hinted _ rfl
    · exact (scanBack_found found).1
  · exact (scanBack_found found).1

theorem clusterPage_lt (ct : sgv_clustering_types) {merged : Option Nat}
    (hinted : ∀ j, merged = some j → j < cur) {i : Nat} (found : (clusterPage cfg ct sg cur merged).2 = some i) :
    i < cur := by
  cases ct with
  | sgv_no_clustering => cases found
  | sgv_tail_clustering =>
    simp only [clusterPage, sgv_check_tail_clustering] at found
    split at found
    · cases found
    · split at found
      · cases found; omega
      · cases found
  | sgv_full_clustering =>
    simp only [clusterPage, sgv_check_full_clustering] at found
    split at found
    · next i' m hit => cases found; exact fullCandidate_lt hinted hit
    · cases found

@[simp] theorem clusterPage_length (ct : sgv_clustering_types) (merged : Option Nat) :
    (clusterPage cfg ct sg cur merged).1.length = sg.length := by
  cases ct with
  | sgv_no_clustering => rfl
  | sgv_tail_clustering =>
    simp only [clusterPage, sgv_check_tail_clustering]
    split
    · rfl
    · split <;> simp [applyMerge]
  | sgv_full_clustering =>
    simp only [clusterPage, sgv_check_full_clustering]
    split <;> simp [applyMerge]

theorem clusterPage_append (ct : sgv_clustering_types) {merged : Option Nat}
    (hinted : ∀ j, merged = some j → j < cur) (hc : cur < sg.length) :
    clusterPage cfg ct (sg ++ extra) cur merged =
      ((clusterPage cfg ct sg cur merged).1 ++ extra, (clusterPage cfg ct sg cur merged).2) := by
  cases ct with
  | sgv_no_clustering => rfl
  | sgv_tail_clustering =>
    simp only [clusterPage, sgv_check_tail_clustering]
    split
    · rfl
    · next prev =>
      rw [List.getD_append _ _ _ _ hc, List.getD_append _ _ _ _ (by omega)]
      split
      · rw [applyMerge_append .tail (by omega) hc]
      · rfl
  | sgv_full_clustering =>
    simp only [clusterPage, sgv_check_full_clustering, fullCandidate_append hinted hc]
    split
    · next i m hit => rw [applyMerge_append m ((fullCandidate_lt hinted hit).trans hc) hc]
    · rfl

theorem pageLoop_append (ct : sgv_clustering_types) :
    ∀ (left : Nat) (sg : List SgEntry) (n : Nat) (merged : Option Nat) (src : List (Option Nat)),
      n + left ≤ sg.length → (∀ j, merged = some j → j < n) →
      pageLoop cfg ct left (sg ++ extra) n merged src =
        { pageLoop cfg ct left sg n merged src with sg := (pageLoop cfg ct left sg n merged src).sg ++ extra }
  | 0, _, _, _, _, _, _ => rfl
  | left + 1, sg, n, merged, src, room, hinted => by
    have slot : n < sg.length := by omega
    simp only [pageLoop, sgv_alloc_sys_pages, List.set_append_left _ _ slot]
    split
    · rfl
    · next pfn got =>
      have len : (sg.set n ⟨(nextPage src).1, cfg.PAGE_SIZE⟩).length = sg.length := List.length_set ..
      rw [clusterPage_append ct hinted (len ▸ slot)]
      dsimp only
      rw [pageLoop_append ct left _ _ _ _ (by rw [clusterPage_length, len]; split <;> omega)
        fun j found => by
          have := clusterPage_lt ct hinted found
          split <;> omega]

end Frame

section Supplied
variable {cfg : Config}

theorem pageLoop_supplied (ct : sgv_clustering_types) :
    ∀ (pfns : List Nat) (sg : List SgEntry) (n : Nat) (merged : Option Nat) (more : List (Option Nat)),
      (pageLoop cfg ct pfns.length sg n merged (pfns.map some ++ more)).failed = false ∧
        (pageLoop cfg ct pfns.length sg n merged (pfns.map some ++ more)).allocated = pfns
  | [], _, _, _, _ => ⟨rfl, rfl⟩
  | p :: ps, sg, n, merged, more => by
    simp only [List.length_cons, pageLoop, List.map_cons, List.cons_append, nextPage]
    exact ⟨(pageLoop_supplied ct ps _ _ _ more).1, by rw [(pageLoop_supplied ct ps _ _ _ more).2]⟩

theorem supplied_count (ct : sgv_clustering_types) (pfns : List Nat) (sg : List SgEntry)
    (more : List (Option Nat)) (tt : Option (List TransEnt)) :
    (sgv_alloc_sg_entries cfg sg pfns.length ct tt (pfns.map some ++ more)).sg_count =
      (pageLoop cfg ct pfns.length sg 0 none (pfns.map some ++ more)).sg_count := by
  rw [fill_sg_count, (pageLoop_supplied ct pfns sg 0 none more).1, if_neg Bool.false_ne_true]

theorem absorbs_clear_above {sg : List SgEntry} {n p : Nat} {out : List SgEntry × Option Nat}
    (absorbed : Absorbs cfg (sg.set n ⟨some p, cfg.PAGE_SIZE⟩) n p out)
    (clear : ∀ j, n ≤ j → sg.getD j sg_clear = sg_clear) :
    ∀ j, (if out.2 = none then n + 1 else n) ≤ j → out.1.getD j sg_clear = sg_clear := by
  obtain ⟨-, absorbed⟩ := absorbed
  obtain ⟨res, merged⟩ := out
  intro j above
  cases merged with
  | none =>
    simp only at absorbed
    rw [if_pos rfl] at above
    subst absorbed
    rw [getD_set_ne _ _ _ (by omega)]; exact clear j (by omega)
  | some i =>
    obtain ⟨before, cleared, others, -⟩ := absorbed
    rw [if_neg nofun] at above
    by_cases at_n : j = n
    · subst at_n; exact cleared
    · rw [others j (by omega) at_n, getD_set_ne _ _ _ (Ne.symm at_n)]; exact clear j above

theorem pageLoop_clear_above (ct : sgv_clustering_types) :
    ∀ (pfns : List Nat) (sg : List SgEntry) (n : Nat) (merged : Option Nat) (more : List (Option Nat)),
      n + pfns.length ≤ sg.length → Filled cfg sg n → (∀ j, merged = some j → j < n) →
      (∀ j, n ≤ j → sg.getD j sg_clear = sg_clear) →
      ∀ j, (pageLoop cfg ct pfns.length sg n merged (pfns.map some ++ more)).sg_count ≤ j →
        (pageLoop cfg ct pfns.length sg n merged (pfns.map some ++ more)).sg.getD j sg_clear = sg_clear
  | [], _, _, _, _, _, _, _, clear => clear
  | p :: ps, sg, n, merged, more, room, filled, hinted, clear => by
    simp only [List.length_cons] at room
    simp only [List.length_cons, pageLoop, List.map_cons, List.cons_append, nextPage,
      sgv_alloc_sys_pages]
    have absorbed : Absorbs cfg (sg.set n ⟨some p, cfg.PAGE_SIZE⟩) n p _ :=
      clusterPage_absorbs (by simp; omega) (by rw [getD_set, if_pos ⟨rfl, by omega⟩])
        (fun i lt => by rw [getD_set_ne _ _ _ (show n ≠ i by omega)]; exact filled i lt) ct hinted
    obtain ⟨len, filled', -, -, hinted'⟩ := absorbs_step (by omega) filled absorbed
    exact pageLoop_clear_above ct ps _ _ _ more (by split <;> omega)
      filled' hinted' (absorbs_clear_above absorbed clear)

theorem WholeEntry.exists_eq {e : SgEntry} (whole : WholeEntry cfg e) :
    ∃ q k, 0 < k ∧ e = ⟨some q, k * cfg.PAGE_SIZE⟩ := by
  obtain ⟨has_page, k, kpos, klen⟩ := whole
  obtain ⟨q, page⟩ := Option.isSome_iff_exists.1 has_page
  obtain ⟨pg, ln⟩ := e
  exact ⟨q, k, kpos, by simp_all⟩

theorem sg_init_table_getD (pages j : Nat) : (sg_init_table pages).getD j sg_clear = sg_clear := by
  simp only [sg_init_table, List.getD_eq_getElem?_getD, List.getElem?_replicate]
  split <;> rfl

/-- `sgv_alloc_sg_entries` on `sg_init_table(pages)` with a source of `pages`
distinct frames: between one and `pages` entries, `pages` of them without
clustering; each entry in use holds a run of whole pages from its frame on;
the runs hold each allocated page once and nothing else; the slots past the
count are clear; and an array with more slots is filled the same way, its
extra slots untouched. -/
theorem fill_clusters_sound (ct : sgv_clustering_types) {pfns : List Nat} (pos : 0 < pfns.length)
    (distinct : pfns.Nodup) (more : List (Option Nat)) (tt : Option (List TransEnt)) :
    let fill := sgv_alloc_sg_entries cfg (sg_init_table pfns.length) pfns.length ct tt (pfns.map some ++ more)
    (1 ≤ fill.sg_count ∧ fill.sg_count ≤ pfns.length ∧
        (ct = .sgv_no_clustering → fill.sg_count = pfns.length)) ∧
      (∀ i < fill.sg_count, ∃ pfn k, 0 < k ∧ fill.sg.getD i sg_clear = ⟨some pfn, k * cfg.PAGE_SIZE⟩ ∧
        entryPfns cfg (fill.sg.getD i sg_clear) = List.range' pfn k) ∧
      fill.allocated = pfns ∧
      (sgPfns cfg fill.sg fill.sg_count).Perm pfns ∧
      (sgPfns cfg fill.sg fill.sg_count).Nodup ∧
      (∀ j, fill.sg_count ≤ j → fill.sg.getD j sg_clear = sg_clear) ∧
      ∀ extra, (sgv_alloc_sg_entries cfg (sg_init_table pfns.length ++ extra) pfns.length ct tt
          (pfns.map some ++ more)).sg = fill.sg ++ extra ∧
        (sgv_alloc_sg_entries cfg (sg_init_table pfns.length ++ extra) pfns.length ct tt
          (pfns.map some ++ more)).sg_count = fill.sg_count := by
  intro fill
  have room : pfns.length ≤ (sg_init_table pfns.length).length := by simp [sg_init_table]
  have spec := @pageLoop_spec_start cfg ct _ _ (pfns.map some ++ more) room
  obtain ⟨ok, allocated⟩ := @pageLoop_supplied cfg ct pfns (sg_init_table pfns.length) 0 none more
  have count : fill.sg_count = (pageLoop cfg ct pfns.length (sg_init_table pfns.length) 0 none
      (pfns.map some ++ more)).sg_count := supplied_count ct pfns _ more tt
  have used : fill.sg_count ≠ 0 := by
    have bytes := spec.bytes_eq
    rw [allocated, ← count] at bytes
    intro zero
    rw [zero] at bytes
    have := Nat.mul_pos pos cfg.PAGE_SIZE_pos
    simp only [sgBytes, List.range_zero, List.map_nil, List.sum_nil, zero_add] at bytes
    omega
  have shape := fill_shape ct tt (pfns.map some ++ more) (by simp [sg_init_table]) used
  have freed : fill.freed = [] := by simp [fill, fill_freed, ok]
  have leaked : fill.leaked = [] := by simp [fill, fill_leaked, ok]
  have perm : (sgPfns cfg fill.sg fill.sg_count).Perm pfns := by
    have := @fill_pfns cfg _ _ ct tt (pfns.map some ++ more) room
    rwa [freed, leaked, List.nil_append, List.nil_append, fill_allocated, allocated] at this
  refine ⟨⟨Nat.one_le_iff_ne_zero.2 used, shape.count_le, fun none_ct => ?_⟩, fun i lt => ?_,
    by simp [fill, allocated], perm, perm.nodup_iff.2 distinct, fun j above => ?_, fun extra => ?_⟩
  · subst none_ct; exact fill_count_no_clustering tt _ room used
  · obtain ⟨q, k, kpos, entry⟩ := (shape.filled i lt).exists_eq
    exact ⟨q, k, kpos, entry, by rw [entry]; simp [entryPfns]⟩
  · have clear := @pageLoop_clear_above cfg ct pfns (sg_init_table pfns.length) 0 none more
      (by simpa using room) (fun _ lt => absurd lt (Nat.not_lt_zero _)) (fun _ h => by cases h)
      (fun j _ => sg_init_table_getD _ j) j (count ▸ above)
    simpa [fill] using clear
  · rw [fill_sg, fill_sg_count, pageLoop_append ct _ _ _ _ _ (by simpa using room) (fun _ h => by cases h)]
    simp [fill, ok]

/-- Three pages, the first two frame-adjacent, under full clustering. -/
theorem fill_clusters_sound_three :
    0 < [5, 6, 9].length ∧ [5, 6, 9].Nodup ∧
      let fill := sgv_alloc_sg_entries x86Config (sg_init_table 3) 3 .sgv_full_clustering none
        ([5, 6, 9].map some ++ [])
      (1 ≤ fill.sg_count ∧ fill.sg_count ≤ [5, 6, 9].length ∧
          (sgv_full_clustering = .sgv_no_clustering → fill.sg_count = [5, 6, 9].length)) ∧
        (∀ i < fill.sg_count, ∃ pfn k, 0 < k ∧ fill.sg.getD i sg_clear = ⟨some pfn, k * x86Config.PAGE_SIZE⟩ ∧
          entryPfns x86Config (fill.sg.getD i sg_clear) = List.range' pfn k) ∧
        fill.allocated = [5, 6, 9] ∧
        (sgPfns x86Config fill.sg fill.sg_count).Perm [5, 6, 9] ∧
        (sgPfns x86Config fill.sg fill.sg_count).Nodup ∧
        (∀ j, fill.sg_count ≤ j → fill.sg.getD j sg_clear = sg_clear) ∧
        ∀ extra, (sgv_alloc_sg_entries x86Config (sg_init_table 3 ++ extra) 3 .sgv_full_clustering none
            ([5, 6, 9].map some ++ [])).sg = fill.sg ++ extra ∧
          (sgv_alloc_sg_entries x86Config (sg_init_table 3 ++ extra) 3 .sgv_full_clustering none
            ([5, 6, 9].map some ++ [])).sg_count = fill.sg_count :=
  ⟨by decide, by decide, @fill_clusters_sound x86Config .sgv_full_clustering [5, 6, 9] (by decide) (by decide) [] none⟩

end Supplied

section Counts
variable {cfg : Config}

@[simp] theorem clusterPage_first (ct : sgv_clustering_types) (sg : List SgEntry) :
    clusterPage cfg ct sg 0 none = (sg, none) := by
  cases ct <;> rfl

theorem countP_breaks_cons (prev q : Nat) (qs : List Nat) :
    ((prev :: q :: qs).zip (q :: qs)).countP (fun x => x.2 ≠ x.1 + 1) =
      (if q = prev + 1 then 0 else 1) + ((q :: qs).zip qs).countP (fun x => x.2 ≠ x.1 + 1) := by
  rw [List.zip_cons_cons, List.countP_cons]
  split <;> simp_all; omega

/-- Tail clustering with its last entry at slot `n`, ending where page
`prev + 1` would start: a page that follows the previous one extends that
entry, any other opens a new one. -/
theorem pageLoop_tail_runs :
    ∀ (qs : List Nat) (sg : List SgEntry) (n prev : Nat) (merged : Option Nat) (more : List (Option Nat)),
      n + 1 + qs.length ≤ sg.length → (sg.getD n sg_clear).length % cfg.PAGE_SIZE = 0 →
      pfnOf (sg.getD n sg_clear) + (sg.getD n sg_clear).length / cfg.PAGE_SIZE = prev + 1 →
      (pageLoop cfg .sgv_tail_clustering qs.length sg (n + 1) merged (qs.map some ++ more)).sg_count =
        n + 1 + ((prev :: qs).zip qs).countP fun x => x.2 ≠ x.1 + 1
  | [], _, _, _, _, _, _, _, _ => rfl
  | q :: qs, sg, n, prev, merged, more, room, whole, ends => by
    simp only [List.length_cons] at room
    have ppos := cfg.PAGE_SIZE_pos
    have last : (sg.set (n + 1) ⟨some q, cfg.PAGE_SIZE⟩).getD n sg_clear = sg.getD n sg_clear :=
      getD_set_ne _ _ _ (by omega)
    have slot : (sg.set (n + 1) ⟨some q, cfg.PAGE_SIZE⟩).getD (n + 1) sg_clear = ⟨some q, cfg.PAGE_SIZE⟩ := by
      rw [getD_set, if_pos ⟨rfl, by omega⟩]
    have test : tailMergeable cfg (sg.getD n sg_clear) ⟨some q, cfg.PAGE_SIZE⟩ = decide (q = prev + 1) := by
      rw [tailMergeable, ends, whole]
      simp only [pfnOf, Option.getD_some, beq_self_eq_true, Bool.and_true]
      rw [Bool.eq_iff_iff, beq_iff_eq, decide_eq_true_iff]; exact eq_comm
    simp only [List.length_cons, pageLoop, List.map_cons, List.cons_append, nextPage, sgv_alloc_sys_pages,
      clusterPage, sgv_check_tail_clustering, last, slot, countP_breaks_cons]
    by_cases follows : q = prev + 1
    · have fits : tailMergeable cfg (sg.getD n sg_clear) ⟨some q, cfg.PAGE_SIZE⟩ = true := by
        rw [test]; exact decide_eq_true follows
      have grown : (applyMerge (sg.set (n + 1) ⟨some q, cfg.PAGE_SIZE⟩) (n + 1) n .tail).getD n sg_clear =
          ⟨(sg.getD n sg_clear).page, (sg.getD n sg_clear).length + cfg.PAGE_SIZE⟩ := by
        simp only [applyMerge]
        rw [getD_set_ne _ _ _ (by omega), getD_set, if_pos ⟨rfl, by simp; omega⟩, last, slot]
      simp only [fits, if_true, reduceCtorEq, if_false, if_pos follows]
      rw [pageLoop_tail_runs qs _ n q _ more (by simp [applyMerge]; omega)
        (by rw [grown]; simpa [Nat.add_mod_right] using whole)
        (by rw [grown]; simp only [pfnOf] at ends ⊢; rw [Nat.add_div_right _ ppos]; omega)]
      omega
    · have fits : tailMergeable cfg (sg.getD n sg_clear) ⟨some q, cfg.PAGE_SIZE⟩ = false := by
        rw [test]; exact decide_eq_false follows
      simp only [fits, Bool.false_eq_true, if_false, if_true, if_neg follows]
      rw [pageLoop_tail_runs qs _ (n + 1) q _ more (by simp; omega) (by rw [slot]; simp)
        (by rw [slot]; simp [pfnOf, Nat.div_self ppos])]
      omega

theorem scanBack_some {sg : List SgEntry} {cur i : Nat}
    (fits : mergeWith cfg (sg.getD i sg_clear) (sg.getD cur sg_clear) ≠ none) :
    ∀ k, i < k → scanBack cfg sg cur k ≠ none
  | 0, lt => absurd lt (Nat.not_lt_zero _)
  | k + 1, lt => by
    simp only [scanBack]
    split
    · exact nofun
    · next miss =>
      by_cases at_k : i = k
      · subst at_k; exact absurd miss fits
      · exact scanBack_some fits k (by omega)

theorem check_full_merges {sg : List SgEntry} {cur i : Nat} (hint : Option Nat) (lt : i < cur)
    (fits : mergeWith cfg (sg.getD i sg_clear) (sg.getD cur sg_clear) ≠ none) :
    (sgv_check_full_clustering cfg sg cur hint).2 ≠ none := by
  have found : fullCandidate cfg sg cur hint ≠ none := by
    unfold fullCandidate
    split
    · split
      · exact nofun
      · exact scanBack_some fits cur lt
    · exact scanBack_some fits cur lt
  unfold sgv_check_full_clustering
  split
  · exact nofun
  · contradiction

theorem mergeWith_of_tail {e c : SgEntry} (fits : tailMergeable cfg e c = true) : mergeWith cfg e c ≠ none := by
  unfold mergeWith
  split <;> simp [fits]

theorem follower_fits {sg : List SgEntry} {n prev : Nat} {done : List Nat} (filled : Filled cfg sg n)
    (held : (sgPfns cfg sg n).Perm done) (last : prev ∈ done) (fresh : prev + 1 ∉ done) :
    ∃ i < n, tailMergeable cfg (sg.getD i sg_clear) ⟨some (prev + 1), cfg.PAGE_SIZE⟩ = true := by
  obtain ⟨i, range, mem⟩ := List.mem_flatMap.1 (held.mem_iff.2 last)
  have lt := List.mem_range.1 range
  obtain ⟨a, k, -, entry⟩ := (filled i lt).exists_eq
  simp only [entry, entryPfns, lenPages_mul, List.mem_range'_1] at mem
  have ends : a + k = prev + 1 := by
    by_contra beyond
    have inside : prev + 1 ∈ entryPfns cfg (sg.getD i sg_clear) := by
      simp only [entry, entryPfns, lenPages_mul, List.mem_range'_1]; omega
    exact fresh (held.mem_iff.1 (List.mem_flatMap.2 ⟨i, range, inside⟩))
  refine ⟨i, lt, ?_⟩
  rw [tailMergeable, entry]
  simp [pfnOf, Nat.mul_div_cancel _ cfg.PAGE_SIZE_pos, ends]

/-- Full clustering from `n` entries holding the pages `done`, the last of
them `prev`: every page that follows the previous one is merged, so it opens
no more entries than tail clustering. -/
theorem pageLoop_full_merges :
    ∀ (qs : List Nat) (sg : List SgEntry) (n prev : Nat) (merged : Option Nat) (done : List Nat)
      (more : List (Option Nat)),
      n + qs.length ≤ sg.length → Filled cfg sg n → (∀ j, merged = some j → j < n) →
      (sgPfns cfg sg n).Perm done → prev ∈ done → (done ++ qs).Nodup →
      (pageLoop cfg .sgv_full_clustering qs.length sg n merged (qs.map some ++ more)).sg_count ≤
        n + ((prev :: qs).zip qs).countP fun x => x.2 ≠ x.1 + 1
  | [], _, _, _, _, _, _, _, _, _, _, _, _ => by simp [pageLoop]
  | q :: qs, sg, n, prev, merged, done, more, room, filled, hinted, held, last, distinct => by
    simp only [List.length_cons] at room
    simp only [List.length_cons, pageLoop, List.map_cons, List.cons_append, nextPage, sgv_alloc_sys_pages,
      countP_breaks_cons]
    have placed_below : ∀ i < n, (sg.set n ⟨some q, cfg.PAGE_SIZE⟩).getD i sg_clear = sg.getD i sg_clear :=
      fun i lt => getD_set_ne _ _ _ (by omega)
    have slot : (sg.set n ⟨some q, cfg.PAGE_SIZE⟩).getD n sg_clear = ⟨some q, cfg.PAGE_SIZE⟩ := by
      rw [getD_set, if_pos ⟨rfl, by omega⟩]
    have absorbed := clusterPage_absorbs (by simp; omega) slot
      (fun i lt => (placed_below i lt).symm ▸ filled i lt) .sgv_full_clustering hinted
    obtain ⟨len, filled', -, held', hinted'⟩ := absorbs_step (by omega) filled absorbed
    have fresh : q ∉ done := fun mem => List.disjoint_of_nodup_append distinct mem (List.mem_cons_self q qs)
    have rest := pageLoop_full_merges qs _ _ q _ (done ++ [q]) more (by rw [len]; split <;> omega) filled'
      hinted' (held'.trans (held.append_right [q])) (List.mem_append_right _ (List.mem_singleton_self q))
      (by simpa using distinct)
    have opened : (if (clusterPage cfg .sgv_full_clustering (sg.set n ⟨some q, cfg.PAGE_SIZE⟩) n merged).2 = none
        then n + 1 else n) ≤ n + if q = prev + 1 then 0 else 1 := by
      split
      · next joined =>
        rw [if_neg]
        rintro rfl
        obtain ⟨i, lt, fits⟩ := follower_fits filled held last fresh
        exact check_full_merges merged lt (by rw [placed_below i lt, slot]; exact mergeWith_of_tail fits) joined
      · omega
    omega

/-- The pages `p_k`, `1 ≤ k < n`, whose frame does not follow the frame of
`p_(k-1)`: each starts a new run of frame-adjacent pages. -/
def pfnBreaks (pfns : List Nat) : Nat :=
  (pfns.zip pfns.tail).countP fun x => x.2 ≠ x.1 + 1

theorem pageLoop_first_count (ct : sgv_clustering_types) (p : Nat) (ps : List Nat) (sg : List SgEntry)
    (more : List (Option Nat)) :
    (pageLoop cfg ct (p :: ps).length sg 0 none ((p :: ps).map some ++ more)).sg_count =
      (pageLoop cfg ct ps.length (sg.set 0 ⟨some p, cfg.PAGE_SIZE⟩) 1 none (ps.map some ++ more)).sg_count := by
  simp [pageLoop, nextPage, sgv_alloc_sys_pages]

/-- The three clustering types on one supply of distinct pages, of the one
or more that every caller asks for: tail clustering makes one entry per run of
frame-adjacent pages, full clustering no more than that, and no clustering one
entry per page. -/
theorem clustering_modes_ordered {pfns : List Nat} (pos : 0 < pfns.length) (distinct : pfns.Nodup)
    (more : List (Option Nat)) (tt : Option (List TransEnt)) :
    let count := fun ct => (sgv_alloc_sg_entries cfg (sg_init_table pfns.length) pfns.length ct tt
      (pfns.map some ++ more)).sg_count
    count .sgv_tail_clustering = 1 + pfnBreaks pfns ∧
      count .sgv_full_clustering ≤ count .sgv_tail_clustering ∧
      count .sgv_tail_clustering ≤ count .sgv_no_clustering ∧
      count .sgv_no_clustering = pfns.length := by
  intro count
  obtain ⟨p, ps, rfl⟩ := List.exists_cons_of_length_pos pos
  have ppos := cfg.PAGE_SIZE_pos
  have first : (sg_init_table (p :: ps).length).set 0 ⟨some p, cfg.PAGE_SIZE⟩ =
      ⟨some p, cfg.PAGE_SIZE⟩ :: sg_init_table ps.length := by
    simp [sg_init_table, List.replicate_succ]
  have tail : count .sgv_tail_clustering = 1 + pfnBreaks (p :: ps) := by
    simp only [count, supplied_count, pageLoop_first_count, first]
    rw [pageLoop_tail_runs ps _ 0 p none more (by simp [sg_init_table]; omega) (by simp) (by simp [pfnOf, Nat.div_self ppos])]
    simp [pfnBreaks, Nat.add_comm]
  have full : count .sgv_full_clustering ≤ 1 + pfnBreaks (p :: ps) := by
    simp only [count, supplied_count, pageLoop_first_count, first]
    refine pageLoop_full_merges ps _ 1 p none [p] more (by simp [sg_init_table]; omega) ?_ (fun _ h => by cases h) ?_
      (List.mem_singleton_self p) distinct
    · intro i lt
      obtain rfl : i = 0 := by omega
      exact ⟨rfl, 1, Nat.one_pos, (Nat.one_mul _).symm⟩
    · simp [sgPfns, List.range_succ, entryPfns, lenPages, Nat.div_self ppos]
  have none_count : count .sgv_no_clustering = (p :: ps).length := by
    simp only [count, supplied_count, pageLoop_no_clustering, (pageLoop_supplied _ _ _ _ _ more).2, Nat.zero_add]
  have breaks_le : pfnBreaks (p :: ps) ≤ ps.length := by
    simpa [pfnBreaks] using List.countP_le_length (fun x : Nat × Nat => decide (x.2 ≠ x.1 + 1)) (l := (p :: ps).zip ps)
  refine ⟨tail, tail ▸ full, ?_, none_count⟩
  rw [tail, none_count, List.length_cons]
  omega

/-- Frames 5, 6, 9: two runs. -/
theorem clustering_modes_ordered_three :
    0 < [5, 6, 9].length ∧ [5, 6, 9].Nodup ∧
      let count := fun ct => (sgv_alloc_sg_entries x86Config (sg_init_table [5, 6, 9].length) [5, 6, 9].length
        ct none ([5, 6, 9].map some ++ [])).sg_count
      count .sgv_tail_clustering = 1 + pfnBreaks [5, 6, 9] ∧
        count .sgv_full_clustering ≤ count .sgv_tail_clustering ∧
        count .sgv_tail_clustering ≤ count .sgv_no_clustering ∧
        count .sgv_no_clustering = [5, 6, 9].length :=
  ⟨by decide, by decide, @clustering_modes_ordered x86Config [5, 6, 9] (by decide) (by decide) [] none⟩

end Counts

end ScstMem
