import ScstMem.Alloc

/-! The `success:` label of `sgv_pool_alloc` on an object whose entries are a
successful fill of `N` pages. The count it returns covers the request: the
entries before the last are whole pages, and the last entry is cut so that the
lengths add up to `size`. Every write goes to entry `cnt - 1`, and
`orig_length` is that entry's length before them, so the restore in
`sgv_pool_free` gives back the entries as they were; a big object, which is
never restored, still frees the same frames, since the cut stays within the
last page. -/
namespace ScstMem
open sgv_clustering_types

section Lists
variable {α : Type}

theorem set_getD_self (l : List α) (i : Nat) (d : α) : l.set i (l.getD i d) = l := by
  apply List.ext_getElem?
  intro j
  by_cases same : i = j
  · subst same
    by_cases inb : i < l.length
    · simp [List.getElem?_set, inb]
    · simp [List.getElem?_set, inb, List.getElem?_eq_none (Nat.le_of_not_lt inb)]
  · simp [List.getElem?_set, same]

end Lists

/-- Entry `e` of `E` cut to length `L`. -/
def cutAt (E : List SgEntry) (e L : Nat) : List SgEntry := E.set e (setLength (E.getD e sg_clear) L)

theorem set_setLength_eq_cutAt (E : List SgEntry) (e L : Nat) :
    E.set e (setLength (E.getD e sg_clear) L) = cutAt E e L := rfl

theorem cutAt_cutAt_same (E : List SgEntry) (e L L' : Nat) : cutAt (cutAt E e L) e L' = cutAt E e L' := by
  unfold cutAt
  by_cases inb : e < E.length
  · rw [getD_set, if_pos ⟨rfl, inb⟩, List.set_set]; rfl
  · simp only [List.set_eq_of_length_le (Nat.le_of_not_lt inb)]

theorem cutAt_cutAt (E : List SgEntry) (e L d : Nat) :
    cutAt (cutAt E e L) e (((cutAt E e L).getD e sg_clear).length - d) = cutAt E e (L - d) := by
  by_cases inb : e < E.length
  · have cut : (cutAt E e L).getD e sg_clear = setLength (E.getD e sg_clear) L := by
      rw [cutAt, getD_set, if_pos ⟨rfl, inb⟩]
    rw [cut]
    exact cutAt_cutAt_same E e L (L - d)
  · simp only [cutAt, List.set_eq_of_length_le (Nat.le_of_not_lt inb)]

theorem cutAt_length (E : List SgEntry) (e : Nat) : cutAt E e (E.getD e sg_clear).length = E :=
  set_getD_self E e sg_clear

theorem entryPfns_setLength {cfg : Config} (x : SgEntry) (L : Nat)
    (same : lenPages cfg L = lenPages cfg x.length) : entryPfns cfg (setLength x L) = entryPfns cfg x := by
  simp [entryPfns, setLength, same]

/-- What a caller of `sgv_pool_alloc` gets: `cnt` entries, each non-empty,
all but the last whole pages, adding up to `size`. -/
def RoundTrip (cfg : Config) (size cnt : Nat) (sg : List SgEntry) : Prop :=
  1 ≤ cnt ∧ (∀ i < cnt, 0 < (sg.getD i sg_clear).length) ∧
    (∀ i, i + 1 < cnt → (sg.getD i sg_clear).length % cfg.PAGE_SIZE = 0) ∧ sgBytes sg cnt = size

section Success
variable {cfg : Config}

theorem round_trip_of_cut {E : List SgEntry} {e L size : Nat} (room : e < E.length)
    (whole : ∀ i < e, WholeEntry cfg (E.getD i sg_clear)) (wide : cfg.PAGE_SIZE ≤ L)
    (sum : sgBytes E e + L = lenPages cfg size * cfg.PAGE_SIZE) :
    RoundTrip cfg size (e + 1) (cutAt E e
      (if size % cfg.PAGE_SIZE ≠ 0 then L - (cfg.PAGE_SIZE - size % cfg.PAGE_SIZE) else L)) := by
  have below : ∀ L' i, i < e → (cutAt E e L').getD i sg_clear = E.getD i sg_clear :=
    fun _ i lt => getD_set_ne _ _ _ (by omega)
  have at_e : ∀ L', ((cutAt E e L').getD e sg_clear).length = L' := fun L' => by
    rw [cutAt, getD_set, if_pos ⟨rfl, room⟩]; rfl
  have parts := size_eq_pages_sub cfg size
  have rlt := Nat.mod_lt size cfg.PAGE_SIZE_pos
  refine ⟨by omega, fun i lt => ?_, fun i lt => ?_, ?_⟩
  · by_cases last : i = e
    · subst last; rw [at_e]; split <;> omega
    · obtain ⟨-, k, kpos, klen⟩ := whole i (by omega)
      rw [below _ i (by omega), klen]
      exact Nat.mul_pos kpos cfg.PAGE_SIZE_pos
  · obtain ⟨-, k, -, klen⟩ := whole i (by omega)
    rw [below _ i (by omega), klen, Nat.mul_mod_left]
  · rw [sgBytes_succ, at_e, sgBytes_congr (below _)]
    split <;> split at parts <;> omega

theorem single_pages {E : List SgEntry} {n : Nat} (filled : Filled cfg E n)
    (bytes : sgBytes E n = n * cfg.PAGE_SIZE) :
    ∀ i < n, (E.getD i sg_clear).length = cfg.PAGE_SIZE := by
  induction n with
  | zero => intro i lt; omega
  | succ n ih =>
    have before : n * cfg.PAGE_SIZE ≤ sgBytes E n := sgBytes_whole fun i lt => filled i (by omega)
    obtain ⟨-, k, kpos, klen⟩ := filled n (by omega)
    rw [sgBytes_succ, klen, Nat.add_mul, Nat.one_mul] at bytes
    have one : k * cfg.PAGE_SIZE = cfg.PAGE_SIZE := by
      have : cfg.PAGE_SIZE ≤ k * cfg.PAGE_SIZE := Nat.le_mul_of_pos_left _ kpos
      omega
    intro i lt
    by_cases last : i = n
    · subst last; rw [klen, one]
    · exact ih (fun i lt => filled i (by omega)) (by omega) i (by omega)

theorem sgBytes_single {E : List SgEntry} {n : Nat}
    (single : ∀ i < n, (E.getD i sg_clear).length = cfg.PAGE_SIZE) :
    sgBytes E n = n * cfg.PAGE_SIZE := by
  induction n with
  | zero => simp [sgBytes]
  | succ n ih =>
    rw [sgBytes_succ, ih fun i lt => single i (by omega), single n (by omega), Nat.add_mul,
      Nat.one_mul]

/-- The length `success` leaves in entry `cnt - 1`. -/
def successLength (cfg : Config) (c : AllocCtx) (clust : Bool) (o : SgvObj) : Nat :=
  let e := (successObj cfg c clust o).1 - 1
  let L := if c.cache ∧ clust then
      (c.pages - (transAt (o.trans_tbl.getD []) e).pg_count) * cfg.PAGE_SIZE
    else (o.sg_entries.getD e sg_clear).length
  if c.args.size % cfg.PAGE_SIZE ≠ 0 then L - (cfg.PAGE_SIZE - c.args.size % cfg.PAGE_SIZE) else L

theorem successObj_eq (c : AllocCtx) (clust : Bool) (o : SgvObj) :
    (successObj cfg c clust o).2 =
      { o with
        sg_entries := cutAt o.sg_entries ((successObj cfg c clust o).1 - 1)
          (successLength cfg c clust o)
        orig_sg := if c.cache then (successObj cfg c clust o).1 - 1 else o.orig_sg
        orig_length := if c.cache then
            (o.sg_entries.getD ((successObj cfg c clust o).1 - 1) sg_clear).length
          else o.orig_length } := by
  unfold successLength successObj
  dsimp only
  simp only [set_setLength_eq_cutAt]
  by_cases hc : c.cache <;> by_cases hk : clust <;> by_cases hr : c.args.size % cfg.PAGE_SIZE = 0 <;>
    simp only [hc, hk, hr, Bool.false_eq_true, if_true, if_false, and_true, and_false, ne_eq,
      not_true_eq_false, not_false_eq_true, cutAt_cutAt, cutAt_length]

section Frame
variable (c : AllocCtx) (clust : Bool) (o : SgvObj)

@[simp] theorem successObj_sg_count : (successObj cfg c clust o).2.sg_count = o.sg_count := by
  rw [successObj_eq]

@[simp] theorem successObj_order : (successObj cfg c clust o).2.order_or_pages = o.order_or_pages := by
  rw [successObj_eq]

@[simp] theorem successObj_trans_tbl : (successObj cfg c clust o).2.trans_tbl = o.trans_tbl := by
  rw [successObj_eq]

@[simp] theorem successObj_filled : (successObj cfg c clust o).2.filled = o.filled := by
  rw [successObj_eq]

@[simp] theorem successObj_owner : (successObj cfg c clust o).2.owner_pool = o.owner_pool := by
  rw [successObj_eq]

theorem successObj_count : (successObj cfg c clust o).1 =
    if c.cache then (if clust then (transAt (o.trans_tbl.getD []) (c.pages - 1)).sg_num else c.pages)
    else o.sg_count := rfl

theorem successObj_count_of_big (big : c.cache = false) : (successObj cfg c clust o).1 = o.sg_count := by
  simp only [successObj_count, big, Bool.false_eq_true, if_false]

@[simp] theorem successObj_pages : (successObj cfg c clust o).2.pages = o.pages := by
  simp [SgvObj.pages]

@[simp] theorem successObj_heldPages : (successObj cfg c clust o).2.heldPages = o.heldPages := by
  simp [SgvObj.heldPages]

end Frame

theorem successObj_restore {c : AllocCtx} (clust : Bool) (o : SgvObj) (cached : c.cache = true) :
    (successObj cfg c clust o).2.restoreOrig.sg_entries = o.sg_entries := by
  rw [successObj_eq]
  simp only [SgvObj.restoreOrig, cached, if_true, set_setLength_eq_cutAt, cutAt_cutAt_same,
    cutAt_length]

theorem round_trip_success {c : AllocCtx} {clust : Bool} {o : SgvObj} {e L : Nat}
    (cnt : (successObj cfg c clust o).1 = e + 1)
    (len : successLength cfg c clust o = if c.args.size % cfg.PAGE_SIZE ≠ 0 then
      L - (cfg.PAGE_SIZE - c.args.size % cfg.PAGE_SIZE) else L)
    (room : e < o.sg_entries.length) (whole : ∀ i < e, WholeEntry cfg (o.sg_entries.getD i sg_clear))
    (wide : cfg.PAGE_SIZE ≤ L)
    (sum : sgBytes o.sg_entries e + L = lenPages cfg c.args.size * cfg.PAGE_SIZE) :
    RoundTrip cfg c.args.size (successObj cfg c clust o).1 (successObj cfg c clust o).2.sg_entries := by
  rw [successObj_eq]
  dsimp only
  rw [cnt, len, Nat.add_sub_cancel]
  exact round_trip_of_cut room whole wide sum

/-- `success` on a fill of `N` pages returns a count within the object and
entries that add up to the request, on each of its three paths. -/
theorem successObj_round_trip (c : AllocCtx) (clust : Bool) (o : SgvObj) {N : Nat}
    (shape : FillShape cfg o.sg_entries o.sg_count N) (pos : 0 < c.args.size)
    (pages : c.pages = lenPages cfg c.args.size)
    (fits : c.cache = true → c.pages ≤ N)
    (trans : c.cache = true → clust = true →
      TransShape cfg o.sg_entries o.sg_count N (o.trans_tbl.getD []))
    (single : c.cache = true → clust = false → o.sg_count = N)
    (exact : c.cache = false → c.pages = N) :
    (successObj cfg c clust o).1 ≤ o.sg_count ∧
      RoundTrip cfg c.args.size (successObj cfg c clust o).1 (successObj cfg c clust o).2.sg_entries := by
  have some_page : 0 < c.pages := pages ▸ lenPages_pos cfg pos
  have ppos := cfg.PAGE_SIZE_pos
  have count_le := shape.count_le
  have lenE := shape.length_eq
  cases hc : c.cache
  · -- a big or no-cached object: all of its entries
    have N_eq := exact hc
    have cnt : (successObj cfg c clust o).1 = o.sg_count := successObj_count_of_big c clust o hc
    have used : o.sg_count ≠ 0 := fun zero => by
      have bytes := shape.bytes_eq
      have := Nat.mul_pos (N_eq ▸ some_page) ppos
      rw [zero] at bytes
      exact absurd bytes (by change 0 ≠ _; omega)
    obtain ⟨-, k, kpos, klen⟩ := shape.filled (o.sg_count - 1) (by omega)
    have step := sgBytes_succ o.sg_entries (o.sg_count - 1)
    rw [Nat.sub_add_cancel (by omega), shape.bytes_eq] at step
    have len : successLength cfg c clust o = if c.args.size % cfg.PAGE_SIZE ≠ 0 then
        (o.sg_entries.getD (o.sg_count - 1) sg_clear).length -
          (cfg.PAGE_SIZE - c.args.size % cfg.PAGE_SIZE)
        else (o.sg_entries.getD (o.sg_count - 1) sg_clear).length := by
      simp only [successLength, hc, cnt, Bool.false_eq_true, false_and, if_false]
    refine ⟨by omega, round_trip_success (e := o.sg_count - 1) (by omega) len (by omega)
      (fun i lt => shape.filled i (by omega)) ?_ ?_⟩
    · rw [klen]; exact Nat.le_mul_of_pos_left _ kpos
    · rw [← pages, N_eq]; omega
  · cases clust
    · -- an unclustered pool: one page per entry
      have n_eq := single hc rfl
      have ones := single_pages shape.filled (by rw [shape.bytes_eq, n_eq])
      have cnt : (successObj cfg c false o).1 = c.pages := by
        simp only [successObj_count, hc, Bool.false_eq_true, if_true, if_false]
      have le := fits hc
      have len : successLength cfg c false o = if c.args.size % cfg.PAGE_SIZE ≠ 0 then
          cfg.PAGE_SIZE - (cfg.PAGE_SIZE - c.args.size % cfg.PAGE_SIZE) else cfg.PAGE_SIZE := by
        simp only [successLength, cnt, hc, Bool.false_eq_true, and_false, if_false,
          ones (c.pages - 1) (by omega)]
      refine ⟨by omega, round_trip_success (e := c.pages - 1) (by omega) len (by omega)
        (fun i lt => shape.filled i (by omega)) le_rfl ?_⟩
      rw [sgBytes_single fun i lt => ones i (by omega), ← pages, ← Nat.succ_mul,
        Nat.succ_eq_add_one, Nat.sub_add_cancel some_page]
    · -- a clustered pool: the entry trans_tbl names for the last page
      obtain ⟨e, lt, num, pg, lo, -⟩ := (trans hc rfl).2 (c.pages - 1) (by have := fits hc; omega)
      have cnt : (successObj cfg c true o).1 = e + 1 := by simp only [successObj_count, hc, num, if_true]
      have below : (transAt (o.trans_tbl.getD []) e).pg_count ≤ c.pages - 1 :=
        Nat.le_of_mul_le_mul_right (pg ▸ lo) ppos
      have len : successLength cfg c true o = if c.args.size % cfg.PAGE_SIZE ≠ 0 then
          (c.pages - (transAt (o.trans_tbl.getD []) e).pg_count) * cfg.PAGE_SIZE -
            (cfg.PAGE_SIZE - c.args.size % cfg.PAGE_SIZE)
          else (c.pages - (transAt (o.trans_tbl.getD []) e).pg_count) * cfg.PAGE_SIZE := by
        simp only [successLength, hc, cnt, and_self, if_true, Nat.add_sub_cancel]
      refine ⟨by omega, round_trip_success cnt len (by omega)
        (fun i lt' => shape.filled i (by omega)) (Nat.le_mul_of_pos_left _ (by omega)) ?_⟩
      rw [← pg, ← Nat.add_mul, ← pages, Nat.add_sub_cancel' (by omega)]

theorem successObj_frees {c : AllocCtx} (clust : Bool) (o : SgvObj) (big : c.cache = false)
    (filled : Filled cfg o.sg_entries o.sg_count) :
    sgPfns cfg (successObj cfg c clust o).2.sg_entries o.sg_count =
      sgPfns cfg o.sg_entries o.sg_count := by
  have cnt : (successObj cfg c clust o).1 = o.sg_count := successObj_count_of_big c clust o big
  rw [successObj_eq, cnt]
  dsimp only
  cases n : o.sg_count with
  | zero => simp [sgPfns]
  | succ e =>
    rw [n] at filled
    obtain ⟨-, k, kpos, klen⟩ := filled e (by omega)
    have room : e < o.sg_entries.length := by
      by_contra past
      have := Nat.mul_pos kpos cfg.PAGE_SIZE_pos
      simp only [sg_clear, List.getD_eq_getElem?_getD, List.getElem?_eq_none (Nat.le_of_not_lt past),
        Option.getD_none] at klen
      omega
    have below : ∀ i < e, (cutAt o.sg_entries e (successLength cfg c clust o)).getD i sg_clear =
        o.sg_entries.getD i sg_clear := fun i lt => getD_set_ne _ _ _ (by omega)
    rw [pfns_succ, pfns_succ, Nat.add_sub_cancel, pfns_congr below]
    congr 1
    rw [cutAt, getD_set, if_pos ⟨rfl, room⟩]
    apply entryPfns_setLength
    have rlt := Nat.mod_lt c.args.size cfg.PAGE_SIZE_pos
    simp only [successLength, cnt, n, big, Bool.false_eq_true, false_and, if_false,
      Nat.add_sub_cancel, klen, lenPages_mul]
    split
    · exact lenPages_trunc cfg k _ kpos (by omega) rlt
    · exact lenPages_mul cfg k

end Success

end ScstMem
