import ScstMem.Basic

/-!
The object sizes `sgv_pool_init` gives its slab caches, and the orders up to
which `sgv_evaluate_local_order` lets an object keep its entries and its
trans_tbl in `sg_entries_data`, the array at its end.

The three structure sizes come from headers outside scst_mem.c and are
parameters. The rest of the model reads the two embedding orders from
`Config`; here they are computed the way `sgv_evaluate_local_order` computes
them, and every bucket whose objects embed an array then has objects that fit
in one page.
-/

namespace ScstMem
open sgv_clustering_types

/-- `sizeof(struct sgv_pool_obj)`, `sizeof(struct scatterlist)` and
`sizeof(struct trans_tbl_ent)`. -/
structure Sizes where
  obj : Nat
  sg : Nat
  tt : Nat
  deriving DecidableEq, Repr

section Layout
variable (cfg : Config) (z : Sizes)

/-- `x & PAGE_MASK`: `x` rounded down to whole pages. -/
def pageMask (x : Nat) : Nat := x / cfg.PAGE_SIZE * cfg.PAGE_SIZE

/-- `sgv_evaluate_local_order()`: `sgv_max_local_order` and
`sgv_max_trans_order`. The `int space4sgv_ttbl` is read as a natural number,
which it is while the object header fits in a page. -/
def sgv_evaluate_local_order : Int × Int :=
  let space4sgv_ttbl := cfg.PAGE_SIZE - z.obj
  ((get_order cfg (pageMask cfg (space4sgv_ttbl / (z.tt + z.sg) * cfg.PAGE_SIZE)) : Int) - 1,
   (get_order cfg (pageMask cfg (space4sgv_ttbl / z.tt * cfg.PAGE_SIZE)) : Int) - 1)

/-- The configuration's embedding orders are the ones `sgv_evaluate_local_order`
computes from the structure sizes. -/
def Evaluated : Prop :=
  sgv_evaluate_local_order cfg z = (cfg.sgv_max_local_order, cfg.sgv_max_trans_order)

instance : Decidable (Evaluated cfg z) := inferInstanceAs (Decidable (_ = _))

/-- `sizeof(obj->trans_tbl[0])` in a clustered pool, nothing otherwise. -/
def ttblSize (ct : sgv_clustering_types) : Nat := if ct ≠ sgv_no_clustering then z.tt else 0

/-- The `size` that `sgv_pool_init` gives `kmem_cache_create` for bucket `i`:
entries and trans_tbl embedded, trans_tbl alone, or neither. -/
def sgv_pool_init_size (ct : sgv_clustering_types) (i : Nat) : Nat :=
  if (i : Int) ≤ cfg.sgv_max_local_order then z.obj + 2 ^ i * (z.sg + ttblSize z ct)
  else if (i : Int) ≤ cfg.sgv_max_trans_order then z.obj + 2 ^ i * ttblSize z ct
  else z.obj

theorem ttblSize_le (ct : sgv_clustering_types) : ttblSize z ct ≤ z.tt := by
  unfold ttblSize; split <;> omega

theorem pageMask_mul (n : Nat) : pageMask cfg (n * cfg.PAGE_SIZE) = n * cfg.PAGE_SIZE := by
  simp [pageMask, Nat.mul_div_cancel _ cfg.PAGE_SIZE_pos]

theorem fls_zero (fuel : Nat) : fls fuel 0 = 0 := by
  cases fuel <;> simp [fls]

theorem two_pow_fls_le (fuel x : Nat) (pos : 0 < x) (enough : x ≤ fuel) :
    2 ^ fls fuel x ≤ 2 * x := by
  induction fuel generalizing x with
  | zero => omega
  | succ fuel ih =>
      simp only [fls, Nat.pos_iff_ne_zero.mp pos, if_false, Nat.pow_succ]
      by_cases one : x / 2 = 0
      · rw [one, fls_zero]; omega
      · have half := ih (x / 2) (by omega) (by omega)
        omega

theorem get_order_mul (n : Nat) : get_order cfg (n * cfg.PAGE_SIZE) = fls (n - 1) (n - 1) := by
  have ppos := cfg.PAGE_SIZE_pos
  have pages : (n * cfg.PAGE_SIZE - 1) / cfg.PAGE_SIZE = n - 1 := by
    rcases n with _ | n
    · simp
    · rw [Nat.succ_mul, show n * cfg.PAGE_SIZE + cfg.PAGE_SIZE - 1 =
        (cfg.PAGE_SIZE - 1) + cfg.PAGE_SIZE * n by rw [Nat.mul_comm]; omega,
        Nat.add_mul_div_left _ _ ppos, Nat.div_eq_of_lt (by omega)]
      omega
  simp only [get_order, pages]

theorem room_of_le_order (e i : Nat)
    (le : (i : Int) ≤ (get_order cfg (pageMask cfg ((cfg.PAGE_SIZE - z.obj) / e *
      cfg.PAGE_SIZE)) : Int) - 1) :
    z.obj + 2 ^ i * e + e ≤ cfg.PAGE_SIZE := by
  set n := (cfg.PAGE_SIZE - z.obj) / e
  rw [pageMask_mul, get_order_mul] at le
  have below : i + 1 ≤ fls (n - 1) (n - 1) := by omega
  have two : 2 ≤ n := by
    by_contra few
    rw [show n - 1 = 0 by omega, fls_zero] at below
    omega
  have grows : 2 ^ (i + 1) ≤ 2 * (n - 1) :=
    (Nat.pow_le_pow_right (by omega) below).trans (two_pow_fls_le _ _ (by omega) le_rfl)
  have entries : 2 ^ i * e ≤ (n - 1) * e :=
    Nat.mul_le_mul_right e (by rw [Nat.pow_succ] at grows; omega)
  have whole : (n - 1) * e + e = n * e := by
    rw [← Nat.succ_mul]; congr 1; omega
  have fits : n * e ≤ cfg.PAGE_SIZE - z.obj := Nat.div_mul_le_self _ _
  have header : n ≤ cfg.PAGE_SIZE - z.obj := Nat.div_le_self _ _
  omega

/-- Every bucket whose objects embed their entries or their trans_tbl has
objects of at most a page, for the orders `sgv_evaluate_local_order`
computes. -/
theorem init_size_le_page (evaluated : Evaluated cfg z) (ct : sgv_clustering_types) (i : Nat)
    (embeds : (i : Int) ≤ cfg.sgv_max_local_order ∨ (i : Int) ≤ cfg.sgv_max_trans_order) :
    sgv_pool_init_size cfg z ct i ≤ cfg.PAGE_SIZE := by
  simp only [Evaluated, sgv_evaluate_local_order, Prod.mk.injEq] at evaluated
  obtain ⟨local_order, trans_order⟩ := evaluated
  have tt := ttblSize_le z ct
  unfold sgv_pool_init_size
  by_cases low : (i : Int) ≤ cfg.sgv_max_local_order
  · have room := room_of_le_order cfg z (z.tt + z.sg) i (local_order ▸ low)
    have : 2 ^ i * (z.sg + ttblSize z ct) ≤ 2 ^ i * (z.tt + z.sg) :=
      Nat.mul_le_mul_left _ (by omega)
    rw [if_pos low]; omega
  · have mid : (i : Int) ≤ cfg.sgv_max_trans_order := embeds.resolve_left low
    have room := room_of_le_order cfg z z.tt i (trans_order ▸ mid)
    have : 2 ^ i * ttblSize z ct ≤ 2 ^ i * z.tt := Nat.mul_le_mul_left _ tt
    rw [if_neg low, if_pos mid]; omega

/-- An object header of 80 bytes, scatterlist entries of 32 bytes and
trans_tbl entries of 4: 111 entries with their trans_tbl fit beside the header
in a 4 KiB page, 1004 trans_tbl entries alone. -/
def sizes80 : Sizes := ⟨80, 32, 4⟩

/-- The orders `sgv_evaluate_local_order` gives these sizes on 4 KiB pages:
64 entries with their trans_tbl fit in an object, 512 trans_tbl entries
alone. -/
def evaluatedConfig : Config := { x86Config with sgv_max_local_order := 6, sgv_max_trans_order := 9 }

theorem evaluatedConfig_bucket_six :
    Evaluated evaluatedConfig sizes80 ∧ sgv_pool_init_size evaluatedConfig sizes80 sgv_full_clustering 6 ≤
      evaluatedConfig.PAGE_SIZE :=
  ⟨by decide, init_size_le_page evaluatedConfig sizes80 (by decide) sgv_full_clustering 6 (by decide)⟩

end Layout

end ScstMem
