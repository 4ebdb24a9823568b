import ScstMem.ClusterCounts

/-! The trans_tbl that `sgv_alloc_sg_entries` writes after a clustered fill of
a cleared array. Its loop walks all `pages` entries, but on a cleared array
those past `sg_count` are empty, so it stops at page `pages` and writes only
inside the table. Every page then names the entry that holds it, and every
entry's `pg_count` counts the pages of the entries before it. -/
namespace ScstMem
open sgv_clustering_types

section Table
variable {cfg : Config}

theorem transFrom_end : ∀ (es : List SgEntry) (i pg : Nat) (t : List TransEnt),
    (transFrom cfg es i pg t).2 = pg + pagesPrefix cfg es es.length
  | [], _, _, _ => by simp [transFrom, pagesPrefix]
  | e :: es, i, pg, t => by
      rw [transFrom, transFrom_end es, List.length_cons, pagesPrefix_cons_succ]; omega

theorem setPgCount_append (i pg : Nat) {t : List TransEnt} (x : List TransEnt) (lt : i < t.length) :
    setPgCount i pg (t ++ x) = setPgCount i pg t ++ x := by
  simp only [setPgCount, transAt, List.getD_append _ _ _ _ lt, List.set_append_left _ _ lt]

theorem setSgNum_append (v : Nat) (x : List TransEnt) :
    ∀ (n pg : Nat) (t : List TransEnt), pg + n ≤ t.length →
      setSgNum v n pg (t ++ x) = setSgNum v n pg t ++ x
  | 0, _, _, _ => rfl
  | n + 1, pg, t, fits => by
      have lt : pg < t.length := by omega
      simp only [setSgNum, transAt, List.getD_append _ _ _ _ lt, List.set_append_left _ _ lt]
      exact setSgNum_append v x n (pg + 1) _ (by simp; omega)

theorem transFrom_append (x : List TransEnt) :
    ∀ (es : List SgEntry) (i pg : Nat) (t : List TransEnt), i + es.length ≤ t.length →
      pg + pagesPrefix cfg es es.length ≤ t.length →
      transFrom cfg es i pg (t ++ x) = ((transFrom cfg es i pg t).1 ++ x, (transFrom cfg es i pg t).2)
  | [], _, _, _, _, _ => rfl
  | e :: es, i, pg, t, rows, pgs => by
      rw [List.length_cons] at rows
      rw [List.length_cons, pagesPrefix_cons_succ] at pgs
      rw [transFrom, transFrom, setPgCount_append _ _ _ (by omega),
        setSgNum_append _ _ _ _ _ (by simp; omega), transFrom_append x es _ _ _ (by simp; omega)
          (by simp; omega)]

theorem pagesPrefix_clear {es : List SgEntry} {c : Nat}
    (clear : ∀ j, c ≤ j → es.getD j sg_clear = sg_clear) :
    ∀ k, c ≤ k → pagesPrefix cfg es k = pagesPrefix cfg es c
  | 0, le => by rw [Nat.le_zero.1 le]
  | k + 1, le => by
      rcases Nat.lt_or_ge k c with lt | ge
      · rw [Nat.le_antisymm le lt]
      · rw [pagesPrefix_succ, clear k ge, pagesPrefix_clear clear k ge]
        simp [sg_clear, lenPages]

theorem pagesPrefix_eq_div {es : List SgEntry} {c : Nat} (filled : Filled cfg es c) {k : Nat}
    (le : k ≤ c) :
    pagesPrefix cfg es k = ((List.range k).map fun j => (es.getD j sg_clear).length / cfg.PAGE_SIZE).sum := by
  unfold pagesPrefix
  congr 1
  refine List.map_congr_left fun j mem => ?_
  obtain ⟨_, m, _, mlen⟩ := filled j (by simp at mem; omega)
  rw [mlen, lenPages_mul, Nat.mul_div_cancel _ cfg.PAGE_SIZE_pos]

theorem transFrom_locates {es : List SgEntry} {c N : Nat} (t : List TransEnt)
    (full : pagesPrefix cfg es c = N) (elen : es.length = N) (tlen : t.length = N) (c_le : c ≤ N)
    {p : Nat} (lt : p < N) :
    ∃ e < c, (transAt (transFrom cfg es 0 0 t).1 p).sg_num = e + 1 ∧
      (transAt (transFrom cfg es 0 0 t).1 e).pg_count = pagesPrefix cfg es e ∧
      pagesPrefix cfg es e ≤ p ∧ p < pagesPrefix cfg es (e + 1) := by
  have reach := @pagesPrefix_mono cfg es _ _ (c_le.trans elen.ge)
  obtain ⟨e, _, lo, hi, num⟩ := @transFrom_sg_num cfg p es 0 0 t (Nat.zero_le _)
    (by omega) (by omega)
  have inUse : e < c := by
    by_contra past
    have := @pagesPrefix_mono cfg es _ _ (Nat.le_of_not_lt past)
    omega
  refine ⟨e, inUse, by simpa using num, ?_, by simpa using lo, by simpa using hi⟩
  rw [transFrom_pg_count e es 0 0 t (Nat.zero_le _) (by omega) (by omega)]
  simp

theorem transFrom_locates_div {es : List SgEntry} {c N : Nat} (t : List TransEnt)
    (filled : Filled cfg es c) (full : pagesPrefix cfg es c = N) (elen : es.length = N)
    (tlen : t.length = N) (c_le : c ≤ N) {p : Nat} (lt : p < N) :
    ∃ e < c, (transAt (transFrom cfg es 0 0 t).1 p).sg_num = e + 1 ∧
      (transAt (transFrom cfg es 0 0 t).1 e).pg_count =
        ((List.range e).map fun k => (es.getD k sg_clear).length / cfg.PAGE_SIZE).sum ∧
      (transAt (transFrom cfg es 0 0 t).1 e).pg_count ≤ p ∧
      p < (transAt (transFrom cfg es 0 0 t).1 e).pg_count + (es.getD e sg_clear).length / cfg.PAGE_SIZE := by
  obtain ⟨e, inUse, num, pg, lo, hi⟩ := transFrom_locates t full elen tlen c_le lt
  obtain ⟨_, m, _, mlen⟩ := filled e inUse
  rw [pagesPrefix_succ, mlen, lenPages_mul] at hi
  rw [pagesPrefix_eq_div filled inUse.le] at pg lo hi
  refine ⟨e, inUse, num, pg, pg ▸ lo, ?_⟩
  rw [pg, mlen, Nat.mul_div_cancel _ cfg.PAGE_SIZE_pos]
  exact hi

theorem transFrom_last {es : List SgEntry} {c N : Nat} (t : List TransEnt) (filled : Filled cfg es c)
    (full : pagesPrefix cfg es c = N) (elen : es.length = N) (tlen : t.length = N) (c_le : c ≤ N)
    (used : c ≠ 0) : (transAt (transFrom cfg es 0 0 t).1 (N - 1)).sg_num = c := by
  obtain ⟨e, inUse, num, -, -, hi⟩ := transFrom_locates t full elen tlen c_le (show N - 1 < N by omega)
  rw [num]
  by_contra ne
  have before : e + 1 ≤ c - 1 := by omega
  have last := @pagesPrefix_succ cfg es (c - 1)
  rw [Nat.sub_add_cancel (by omega), full] at last
  obtain ⟨_, m, mpos, mlen⟩ := filled (c - 1) (by omega)
  rw [mlen, lenPages_mul] at last
  have := @pagesPrefix_mono cfg es _ _ before
  omega

end Table

section Fill
variable {cfg : Config} {pages : Nat} {ct : sgv_clustering_types} {t : List TransEnt}
  {src : List (Option Nat)}

theorem pageLoop_src (ct : sgv_clustering_types) :
    ∀ (left : Nat) (sg : List SgEntry) (n : Nat) (merged : Option Nat) (src : List (Option Nat)),
      (pageLoop cfg ct left sg n merged src).failed = false →
      ∃ (pfns : List Nat) (more : List (Option Nat)), src = pfns.map some ++ more ∧ pfns.length = left
  | 0, _, _, _, src, _ => ⟨[], src, rfl, rfl⟩
  | left + 1, sg, n, merged, src, ok => by
      rcases src with _ | ⟨_ | p, rest⟩
      · simp [pageLoop, nextPage] at ok
      · simp [pageLoop, nextPage] at ok
      · simp only [pageLoop, nextPage] at ok
        obtain ⟨pfns, more, eq, len⟩ := pageLoop_src ct left _ _ _ rest ok
        exact ⟨p :: pfns, more, by simp [eq], by simp [len]⟩

theorem fill_transEnd (clustered : ct ≠ .sgv_no_clustering) {sg : List SgEntry}
    (ok : (pageLoop cfg ct pages sg 0 none src).failed = false) :
    (sgv_alloc_sg_entries cfg sg pages ct (some t) src).transEnd =
      (transFrom cfg ((pageLoop cfg ct pages sg 0 none src).sg.take pages) 0 0 t).2 := by
  unfold sgv_alloc_sg_entries
  cases ct <;> simp_all

/-- A clustered fill of `sg_init_table(pages)` that succeeds, with a table of
`pages` rows: the trans_tbl loop ends at page `pages` and writes nothing past
the table; each page `p` names an entry `e` in use whose `pg_count` is the
pages of the entries before it and whose pages include `p`; and the last page
names the last entry. -/
theorem trans_tbl_locates_pages (clustered : ct ≠ .sgv_no_clustering) (tlen : t.length = pages)
    (used : (sgv_alloc_sg_entries cfg (sg_init_table pages) pages ct (some t) src).sg_count ≠ 0) :
    let fill := sgv_alloc_sg_entries cfg (sg_init_table pages) pages ct (some t) src
    fill.transEnd = pages ∧
      (∀ extra, (sgv_alloc_sg_entries cfg (sg_init_table pages) pages ct (some (t ++ extra)) src).trans_tbl =
        fill.trans_tbl.map fun t' => t' ++ extra) ∧
      ∃ t', fill.trans_tbl = some t' ∧ t'.length = pages ∧
        (∀ p < pages, ∃ e < fill.sg_count, (transAt t' p).sg_num = e + 1 ∧
          (transAt t' e).pg_count =
            ((List.range e).map fun k => (fill.sg.getD k sg_clear).length / cfg.PAGE_SIZE).sum ∧
          (transAt t' e).pg_count ≤ p ∧
          p < (transAt t' e).pg_count + (fill.sg.getD e sg_clear).length / cfg.PAGE_SIZE) ∧
        (transAt t' (pages - 1)).sg_num = fill.sg_count := by
  dsimp only
  have ok : (pageLoop cfg ct pages (sg_init_table pages) 0 none src).failed = false := by
    rw [fill_sg_count] at used; split at used <;> simp_all
  have shape := fill_shape ct (some t) src (by simp [sg_init_table]) used
  rw [fill_sg_count, if_neg (by simp [ok]), fill_sg] at shape
  simp only [fill_sg, fill_sg_count, ok, fill_transEnd clustered ok, fill_trans_tbl clustered ok,
    Option.map_some', Option.some.injEq, exists_eq_left', Bool.false_eq_true, if_false]
  have used' : (pageLoop cfg ct pages (sg_init_table pages) 0 none src).sg_count ≠ 0 := by
    simpa [ok] using used
  obtain ⟨pfns, more, rfl, rfl⟩ := pageLoop_src ct _ _ _ _ src ok
  have cleared := @pageLoop_clear_above cfg ct pfns (sg_init_table pfns.length) 0 none more
    (by simp [sg_init_table]) (fun _ lt => absurd lt (Nat.not_lt_zero _)) (fun _ h => by cases h)
    (fun j _ => sg_init_table_getD _ j)
  generalize pageLoop cfg ct pfns.length (sg_init_table pfns.length) 0 none (pfns.map some ++ more) = loop
    at cleared shape used' ⊢
  generalize loop.sg = es at cleared shape ⊢
  generalize loop.sg_count = c at cleared shape used' ⊢
  generalize pfns.length = N at shape tlen ⊢
  have elen := shape.length_eq
  have c_le := shape.count_le
  rw [List.take_of_length_le elen.le]
  have full : pagesPrefix cfg es c = N :=
    Nat.eq_of_mul_eq_mul_right cfg.PAGE_SIZE_pos
      ((pagesPrefix_mul shape.filled c le_rfl).trans shape.bytes_eq)
  have total : pagesPrefix cfg es N = N := (pagesPrefix_clear cleared N c_le).trans full
  refine ⟨by rw [transFrom_end, elen, total, Nat.zero_add], fun extra => ?_, by simp [tlen],
    fun p lt => transFrom_locates_div t shape.filled full elen tlen c_le lt,
    transFrom_last t shape.filled full elen tlen c_le used'⟩
  rw [transFrom_append extra es 0 0 t (by omega) (by rw [elen, total]; omega)]

/-- Frames 7, 8 and 20 under full clustering, with a table never cleared. -/
theorem fullThree_trans_tbl :
    sgv_full_clustering ≠ .sgv_no_clustering ∧ [(⟨9, 9⟩ : TransEnt), ⟨9, 9⟩, ⟨9, 9⟩].length = 3 ∧
      (sgv_alloc_sg_entries x86Config (sg_init_table 3) 3 .sgv_full_clustering
        (some [⟨9, 9⟩, ⟨9, 9⟩, ⟨9, 9⟩]) [some 7, some 8, some 20]).sg_count ≠ 0 ∧
      let fill := sgv_alloc_sg_entries x86Config (sg_init_table 3) 3 .sgv_full_clustering
        (some [⟨9, 9⟩, ⟨9, 9⟩, ⟨9, 9⟩]) [some 7, some 8, some 20]
      fill.transEnd = 3 ∧
        (∀ extra, (sgv_alloc_sg_entries x86Config (sg_init_table 3) 3 .sgv_full_clustering
            (some ([⟨9, 9⟩, ⟨9, 9⟩, ⟨9, 9⟩] ++ extra)) [some 7, some 8, some 20]).trans_tbl =
          fill.trans_tbl.map fun t' => t' ++ extra) ∧
        ∃ t', fill.trans_tbl = some t' ∧ t'.length = 3 ∧
          (∀ p < 3, ∃ e < fill.sg_count, (transAt t' p).sg_num = e + 1 ∧
            (transAt t' e).pg_count =
              ((List.range e).map fun k => (fill.sg.getD k sg_clear).length / x86Config.PAGE_SIZE).sum ∧
            (transAt t' e).pg_count ≤ p ∧
            p < (transAt t' e).pg_count + (fill.sg.getD e sg_clear).length / x86Config.PAGE_SIZE) ∧
          (transAt t' (3 - 1)).sg_num = fill.sg_count :=
  ⟨by decide, rfl, by decide, trans_tbl_locates_pages (by decide) rfl (by decide)⟩

end Fill

end ScstMem
