import Mathlib

/-! Platform constants and the scatterlist entry of scst/src/scst_mem.c.
Lengths and frame numbers are `Nat`. A length is the byte count the code
builds; the 32-bit `unsigned int` field holds it modulo `2 ^ 32`, which no
code path reads before it is below `2 ^ 32` again, so `len >> PAGE_SHIFT` and
`len & ~PAGE_MASK` are division and remainder by `PAGE_SIZE`. The one place
the width shows is `sgv_free_sys_sg_entries`, which reads the length into an
`int` (`intLen`, `freePages`). The entry's offset is always 0 in this file and
is left out. -/
namespace ScstMem

/-- The constants scst_mem.c reads but does not define: `PAGE_SHIFT` and `HZ`
from the kernel, `SGV_POOL_ELEMENTS` from scst_mem.h, the two embedding orders
that `sgv_evaluate_local_order` derives from structure sizes, and the
watermarks `scst_sgv_pools_init` stores. All are fixed after init. -/
structure Config where
  PAGE_SHIFT : Nat
  SGV_POOL_ELEMENTS : Nat
  sgv_max_local_order : Int
  sgv_max_trans_order : Int
  sgv_hi_wmk : Int
  sgv_lo_wmk : Int
  HZ : Nat

namespace Config
variable (cfg : Config)

def PAGE_SIZE : Nat := 2 ^ cfg.PAGE_SHIFT
def PURGE_INTERVAL : Nat := 60 * cfg.HZ
def PURGE_TIME_AFTER : Nat := cfg.PURGE_INTERVAL
def SHRINK_TIME_AFTER : Nat := 1 * cfg.HZ

theorem PAGE_SIZE_pos : 0 < cfg.PAGE_SIZE := Nat.two_pow_pos _

end Config

/-- 4 KiB pages, 11 buckets, watermarks of 1024 and 512 pages, `HZ` 100. -/
def x86Config : Config := ⟨12, 11, 3, 5, 1024, 512, 100⟩

def MAX_PAGES_PER_POOL : Int := 50

theorem two_pow_int_pos (k : Nat) : (0 : Int) < 2 ^ k := by exact_mod_cast Nat.two_pow_pos k

inductive sgv_clustering_types where
  | sgv_no_clustering
  | sgv_tail_clustering
  | sgv_full_clustering
  deriving DecidableEq, Repr

open sgv_clustering_types

/-- A `struct scatterlist`: the page as its frame number (`none` is NULL) and
the length in bytes. -/
structure SgEntry where
  page : Option Nat
  length : Nat
  deriving DecidableEq, Repr

/-- One `struct trans_tbl_ent`. -/
structure TransEnt where
  pg_count : Nat
  sg_num : Nat
  deriving DecidableEq, Repr

def sg_clear : SgEntry := ⟨none, 0⟩

def sg_init_table (n : Nat) : List SgEntry := List.replicate n sg_clear

/-- `page_to_pfn(sg_page(e))`; only read for entries that hold a page. -/
def pfnOf (e : SgEntry) : Nat := e.page.getD 0

/-- The bytes of entries `0 .. n - 1`: the sum of `sg[i].length` for `i < n`. -/
def sgBytes (sg : List SgEntry) (n : Nat) : Nat :=
  ((List.range n).map fun i => (sg.getD i sg_clear).length).sum

section Pages
variable (cfg : Config)

/-- `(len >> PAGE_SHIFT) + ((len & ~PAGE_MASK) != 0)`: the pages a length
spans, as the trans_tbl loop computes it on the `unsigned int` field and
`scst_alloc` on its `int` size. -/
def lenPages (len : Nat) : Nat :=
  len / cfg.PAGE_SIZE + if len % cfg.PAGE_SIZE = 0 then 0 else 1

/-- `int len = sg[i].length`: the `unsigned int` field, which holds the length
modulo `2 ^ 32`, read into an `int`. Above `INT_MAX` the conversion is
implementation-defined; the compilers the kernel is built with wrap it. -/
def intLen (length : Nat) : Int :=
  if length % 2 ^ 32 < 2 ^ 31 then ((length % 2 ^ 32 : Nat) : Int) else ((length % 2 ^ 32 : Nat) : Int) - 2 ^ 32

/-- `(len >> PAGE_SHIFT) + ((len & ~PAGE_MASK) != 0)` on an `int`: the shift is
arithmetic and `len & ~PAGE_MASK` keeps the low bits of `len` sign-extended,
so both read the floor division by `PAGE_SIZE`. -/
def freePages (len : Int) : Int :=
  len / (cfg.PAGE_SIZE : Int) + if len % (cfg.PAGE_SIZE : Int) = 0 then 0 else 1

/-- The kernel's `fls` on a word, by repeated halving. -/
def fls : Nat → Nat → Nat
  | 0, _ => 0
  | fuel + 1, x => if x = 0 then 0 else fls fuel (x / 2) + 1

/-- The kernel's `get_order(size)` for `size ≥ 1`: `fls((size - 1) >> PAGE_SHIFT)`.
Halving needs at most as many rounds as the value itself. -/
def get_order (size : Nat) : Nat :=
  fls ((size - 1) / cfg.PAGE_SIZE) ((size - 1) / cfg.PAGE_SIZE)

theorem lt_two_pow_fls (fuel x : Nat) (enough : x ≤ fuel) : x < 2 ^ fls fuel x := by
  induction fuel generalizing x with
  | zero => simp [fls]; omega
  | succ fuel ih =>
      by_cases zero : x = 0
      · simp [zero, fls]
      · have half := ih (x / 2) (by omega)
        simp only [fls, zero, if_false, Nat.pow_succ]
        omega

@[simp] theorem lenPages_mul (k : Nat) : lenPages cfg (k * cfg.PAGE_SIZE) = k := by
  simp [lenPages, Nat.mul_div_cancel _ cfg.PAGE_SIZE_pos]

theorem lenPages_pos {size : Nat} (pos : 0 < size) : 0 < lenPages cfg size := by
  unfold lenPages
  split
  · next exact =>
    exact Nat.div_pos (Nat.le_of_dvd pos (Nat.dvd_of_mod_eq_zero exact)) cfg.PAGE_SIZE_pos
  · exact Nat.succ_pos _

theorem lenPages_trunc (k r : Nat) (pos : 0 < k) (rpos : 0 < r) (rlt : r < cfg.PAGE_SIZE) :
    lenPages cfg (k * cfg.PAGE_SIZE - (cfg.PAGE_SIZE - r)) = k := by
  have whole : k * cfg.PAGE_SIZE = (k - 1) * cfg.PAGE_SIZE + cfg.PAGE_SIZE := by
    rw [← Nat.succ_mul, Nat.succ_eq_add_one, Nat.sub_add_cancel pos]
  have split : k * cfg.PAGE_SIZE - (cfg.PAGE_SIZE - r) = r + (k - 1) * cfg.PAGE_SIZE := by
    omega
  rw [split, lenPages, Nat.add_mul_div_right _ _ cfg.PAGE_SIZE_pos, Nat.div_eq_of_lt rlt,
    Nat.add_mul_mod_self_right, Nat.mod_eq_of_lt rlt, if_neg (by omega)]
  omega

theorem round_up_eq_lenPages (size : Nat) :
    (size + cfg.PAGE_SIZE - 1) / cfg.PAGE_SIZE = lenPages cfg size := by
  have ppos := cfg.PAGE_SIZE_pos
  have parts := Nat.div_add_mod size cfg.PAGE_SIZE
  have rlt := Nat.mod_lt size ppos
  unfold lenPages
  split
  · next exact =>
    have : size + cfg.PAGE_SIZE - 1 = (cfg.PAGE_SIZE - 1) + cfg.PAGE_SIZE * (size / cfg.PAGE_SIZE) := by
      omega
    rw [this, Nat.add_mul_div_left _ _ ppos, Nat.div_eq_of_lt (by omega)]
    omega
  · next inexact =>
    have : size + cfg.PAGE_SIZE - 1 =
        (size % cfg.PAGE_SIZE - 1) + cfg.PAGE_SIZE * (size / cfg.PAGE_SIZE + 1) := by
      rw [Nat.mul_add]; omega
    rw [this, Nat.add_mul_div_left _ _ ppos, Nat.div_eq_of_lt (by omega)]
    omega

theorem lenPages_le_order (size : Nat) (pos : 0 < size) :
    lenPages cfg size ≤ 2 ^ get_order cfg size := by
  have fits := lt_two_pow_fls ((size - 1) / cfg.PAGE_SIZE) ((size - 1) / cfg.PAGE_SIZE) le_rfl
  rw [← round_up_eq_lenPages]
  have ppos := cfg.PAGE_SIZE_pos
  have : (size + cfg.PAGE_SIZE - 1) / cfg.PAGE_SIZE = (size - 1) / cfg.PAGE_SIZE + 1 := by
    rw [show size + cfg.PAGE_SIZE - 1 = (size - 1) + cfg.PAGE_SIZE * 1 by omega,
      Nat.add_mul_div_left _ _ ppos]
  unfold get_order
  omega

theorem size_eq_pages_sub (size : Nat) :
    size = lenPages cfg size * cfg.PAGE_SIZE -
      (if size % cfg.PAGE_SIZE = 0 then 0 else cfg.PAGE_SIZE - size % cfg.PAGE_SIZE) := by
  have parts := Nat.div_add_mod size cfg.PAGE_SIZE
  have rlt := Nat.mod_lt size cfg.PAGE_SIZE_pos
  unfold lenPages
  split <;> rw [Nat.add_mul, Nat.mul_comm] <;> simp <;> omega

theorem lenPages_pred_mul_le (size : Nat) : (lenPages cfg size - 1) * cfg.PAGE_SIZE ≤ size := by
  have eq := size_eq_pages_sub cfg size
  have ppos := cfg.PAGE_SIZE_pos
  have rlt := Nat.mod_lt size ppos
  rw [Nat.sub_one_mul]
  split at eq <;> omega

theorem lenPages_mono {a b : Nat} (le : a ≤ b) : lenPages cfg a ≤ lenPages cfg b := by
  rw [← round_up_eq_lenPages, ← round_up_eq_lenPages]
  exact Nat.div_le_div_right (by omega)

theorem freePages_natCast (len : Nat) : freePages cfg len = lenPages cfg len := by
  have ppos := cfg.PAGE_SIZE_pos
  unfold freePages lenPages
  rw [← Int.natCast_mod, ← Int.ofNat_ediv]
  by_cases exact : len % cfg.PAGE_SIZE = 0
  · rw [if_pos (by exact_mod_cast exact), if_pos exact]; rfl
  · rw [if_neg (by exact_mod_cast exact), if_neg exact]; push_cast; rfl

theorem freePages_nonpos {len : Int} (neg : len < 0) : freePages cfg len ≤ 0 := by
  have ppos : (0 : Int) < cfg.PAGE_SIZE := by exact_mod_cast cfg.PAGE_SIZE_pos
  have parts := Int.ediv_add_emod len cfg.PAGE_SIZE
  have rem := Int.emod_lt_of_pos len ppos
  have quot : len / (cfg.PAGE_SIZE : Int) < 0 := by
    by_contra nonneg
    have := Int.mul_nonneg ppos.le (not_lt.1 nonneg)
    have := Int.emod_nonneg len ppos.ne'
    omega
  unfold freePages
  split <;> omega

theorem intLen_of_lt {len : Nat} (lt : len < 2 ^ 31) : intLen len = len := by
  have : len % 2 ^ 32 = len := Nat.mod_eq_of_lt (by omega)
  rw [intLen, this, if_pos lt]

theorem intLen_neg {len : Nat} (ge : 2 ^ 31 ≤ len) (lt : len < 2 ^ 32) : intLen len < 0 := by
  have : len % 2 ^ 32 = len := Nat.mod_eq_of_lt lt
  rw [intLen, this, if_neg (show ¬len < 2 ^ 31 by omega)]
  omega

theorem freePages_intLen_of_lt {len : Nat} (lt : len < 2 ^ 31) :
    freePages cfg (intLen len) = lenPages cfg len := by
  rw [intLen_of_lt lt, freePages_natCast]

theorem toNat_freePages_intLen_le (len : Nat) : (freePages cfg (intLen len)).toNat ≤ lenPages cfg len := by
  unfold intLen
  split
  · rw [freePages_natCast, Int.toNat_ofNat]
    exact lenPages_mono cfg (Nat.mod_le _ _)
  · rw [Int.toNat_of_nonpos (freePages_nonpos cfg (by omega))]
    exact Nat.zero_le _

end Pages

end ScstMem
