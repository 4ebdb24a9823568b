import ScstMem.Basic

/-! The page loop of `sgv_alloc_sg_entries` with its two clustering helpers,
the trans_tbl loop that follows it, and `sgv_free_sys_sg_entries`.
The page source is the list of `alloc_pages` outcomes, `none` for a failed
allocation. `sgv_alloc_sys_pages` stores the page with length `PAGE_SIZE`
before it tests for NULL, so a failed slot keeps a length. A write to
`trans_tbl` past its end is dropped (`List.set`): it lands past the object
and leaves the object's own arrays as they were. -/
namespace ScstMem
open sgv_clustering_types

section Clustering
variable (cfg : Config)

/-- The head-merge test: the new page `cur` ends where entry `e` starts and
is a whole number of pages. -/
def headMergeable (e cur : SgEntry) : Bool :=
  pfnOf e == pfnOf cur + cur.length / cfg.PAGE_SIZE && cur.length % cfg.PAGE_SIZE == 0

/-- The tail-merge test: entry `e` ends where `cur` starts and is a whole
number of pages. -/
def tailMergeable (e cur : SgEntry) : Bool :=
  pfnOf e + e.length / cfg.PAGE_SIZE == pfnOf cur && e.length % cfg.PAGE_SIZE == 0

inductive Merge where
  | head
  | tail
  deriving DecidableEq, Repr

/-- The test a merge of kind `m` passed. -/
def Merge.fits (m : Merge) (e cur : SgEntry) : Bool :=
  match m with
  | .head => headMergeable cfg e cur
  | .tail => tailMergeable cfg e cur

/-- The two tests in the order `sgv_check_full_clustering` makes them. -/
def mergeWith (e cur : SgEntry) : Option Merge :=
  if headMergeable cfg e cur then some .head
  else if tailMergeable cfg e cur then some .tail
  else none

/-- `out_head` and `out_tail`: entry `i` takes the new page's length (and, at
the head, its page), and slot `cur` is cleared. -/
def applyMerge (sg : List SgEntry) (cur i : Nat) (m : Merge) : List SgEntry :=
  let c := sg.getD cur sg_clear
  let e := sg.getD i sg_clear
  let page := match m with
    | .head => c.page
    | .tail => e.page
  (sg.set i ⟨page, e.length + c.length⟩).set cur sg_clear

/-- `for (i = cur - 1; i >= 0; i--)`, entered with `k = cur`. -/
def scanBack (sg : List SgEntry) (cur : Nat) : Nat → Option (Nat × Merge)
  | 0 => none
  | i + 1 =>
      match mergeWith cfg (sg.getD i sg_clear) (sg.getD cur sg_clear) with
      | some m => some (i, m)
      | none => scanBack sg cur i

/-- The entry `sgv_check_full_clustering` merges with: the hint if it fits,
else the first hit of the backward scan. -/
def fullCandidate (sg : List SgEntry) (cur : Nat) (hint : Option Nat) : Option (Nat × Merge) :=
  match hint with
  | some i =>
      match mergeWith cfg (sg.getD i sg_clear) (sg.getD cur sg_clear) with
      | some m => some (i, m)
      | none => scanBack cfg sg cur cur
  | none => scanBack cfg sg cur cur

/-- Returns the array and the merged index (`none` is -1). -/
def sgv_check_full_clustering (sg : List SgEntry) (cur : Nat) (hint : Option Nat) :
    List SgEntry × Option Nat :=
  match fullCandidate cfg sg cur hint with
  | some (i, m) => (applyMerge sg cur i m, some i)
  | none => (sg, none)

/-- The hint argument of the source is unused and left out. -/
def sgv_check_tail_clustering (sg : List SgEntry) (cur : Nat) : List SgEntry × Option Nat :=
  match cur with
  | 0 => (sg, none)
  | prev + 1 =>
      if tailMergeable cfg (sg.getD prev sg_clear) (sg.getD (prev + 1) sg_clear) then
        (applyMerge sg (prev + 1) prev .tail, some prev)
      else (sg, none)

/-- The clustering dispatch inside the page loop. -/
def clusterPage (ct : sgv_clustering_types) (sg : List SgEntry) (cur : Nat)
    (merged : Option Nat) : List SgEntry × Option Nat :=
  match ct with
  | .sgv_full_clustering => sgv_check_full_clustering cfg sg cur merged
  | .sgv_tail_clustering => sgv_check_tail_clustering cfg sg cur
  | .sgv_no_clustering => (sg, none)

end Clustering

section Fill
variable (cfg : Config)

/-- The next `alloc_pages` outcome and those left; an exhausted source fails. -/
def nextPage : List (Option Nat) → Option Nat × List (Option Nat)
  | [] => (none, [])
  | page :: rest => (page, rest)

/-- `sgv_alloc_sys_pages(&sg[n], ...)`: `sg_set_page(sg, page, PAGE_SIZE, 0)`,
also when `page` is NULL. -/
def sgv_alloc_sys_pages (sg : List SgEntry) (n : Nat) (page : Option Nat) : List SgEntry :=
  sg.set n ⟨page, cfg.PAGE_SIZE⟩

structure PageLoop where
  sg : List SgEntry
  sg_count : Nat
  failed : Bool
  allocated : List Nat
  rest : List (Option Nat)

/-- `for (pg = 0; pg < pages; pg++)` with `left` rounds to go, `n` entries in
use and `merged` the last merge target. `allocated` records the frame numbers
`alloc_pages` returned. -/
def pageLoop (ct : sgv_clustering_types) :
    Nat → List SgEntry → Nat → Option Nat → List (Option Nat) → PageLoop
  | 0, sg, n, _, src => ⟨sg, n, false, [], src⟩
  | left + 1, sg, n, merged, src =>
      let placed := sgv_alloc_sys_pages cfg sg n (nextPage src).1
      match (nextPage src).1 with
      | none => ⟨placed, n, true, [], (nextPage src).2⟩
      | some pfn =>
          let step := clusterPage cfg ct placed n merged
          let out := pageLoop ct left step.1 (if step.2 = none then n + 1 else n) step.2
            (nextPage src).2
          { out with allocated := pfn :: out.allocated }

/-- The frames an entry spans: its length in pages from its first frame on
(a flat memory map). -/
def entryPfns (e : SgEntry) : List Nat :=
  match e.page with
  | some p => List.range' p (lenPages cfg e.length)
  | none => []

/-- The frames the first `n` entries span. -/
def sgPfns (sg : List SgEntry) (n : Nat) : List Nat :=
  (List.range n).flatMap fun i => entryPfns cfg (sg.getD i sg_clear)

/-- The frames `__free_pages` receives for one entry: `pages` of them from its
first page on, with `pages` counted from `int len`; none when that count is
not positive. -/
def entryFreed (e : SgEntry) : List Nat :=
  match e.page with
  | some p => List.range' p (freePages cfg (intLen e.length)).toNat
  | none => []

/-- `sgv_free_sys_sg_entries(sg, sg_count, priv)`: the frame numbers handed to
`__free_pages`, in order. -/
def sgv_free_sys_sg_entries (sg : List SgEntry) (sg_count : Nat) : List Nat :=
  (List.range sg_count).flatMap fun i => entryFreed cfg (sg.getD i sg_clear)

/-- Auxiliary, not in the source: the frames of an entry past those its free
reaches. -/
def entryLeaked (e : SgEntry) : List Nat :=
  match e.page with
  | some p => List.range' (p + (freePages cfg (intLen e.length)).toNat)
      (lenPages cfg e.length - (freePages cfg (intLen e.length)).toNat)
  | none => []

/-- Auxiliary: the frames of the first `n` entries that their free skips. -/
def sgLeaked (sg : List SgEntry) (n : Nat) : List Nat :=
  (List.range n).flatMap fun i => entryLeaked cfg (sg.getD i sg_clear)

/-- `trans_tbl[q]`, read in bounds. -/
def transAt (t : List TransEnt) (q : Nat) : TransEnt := t.getD q ⟨0, 0⟩

def setPgCount (i pg : Nat) (t : List TransEnt) : List TransEnt :=
  t.set i { transAt t i with pg_count := pg }

/-- `for (j = 0; j < n; j++) trans_tbl[pg++].sg_num = v;` -/
def setSgNum (v : Nat) : Nat → Nat → List TransEnt → List TransEnt
  | 0, _, t => t
  | n + 1, pg, t => setSgNum v n (pg + 1) (t.set pg { transAt t pg with sg_num := v })

/-- The trans_tbl loop over the entries from index `i` on, with running page
index `pg`. Returns the table and the final `pg`. -/
def transFrom : List SgEntry → Nat → Nat → List TransEnt → List TransEnt × Nat
  | [], _, pg, t => (t, pg)
  | e :: rest, i, pg, t =>
      let n := lenPages cfg e.length
      transFrom rest (i + 1) (pg + n) (setSgNum (i + 1) n pg (setPgCount i pg t))

structure FillResult where
  sg : List SgEntry
  sg_count : Nat
  trans_tbl : Option (List TransEnt)
  /-- `pg` after the trans_tbl loop: every `sg_num` write is below it. -/
  transEnd : Nat
  allocated : List Nat
  freed : List Nat
  /-- Auxiliary: the frames of a failed fill that `freed` leaves out. -/
  leaked : List Nat
  rest : List (Option Nat)

/-- `sgv_alloc_sg_entries(sg, pages, gfp_mask, clustering_type, trans_tbl, alloc_fns, priv)`
with the default page allocator. A write the trans_tbl loop makes past the
table is dropped (`List.set` past the end), and `transEnd` past the table's
length says that one was made (`transFrom_drops_overrun`). -/
def sgv_alloc_sg_entries (sg : List SgEntry) (pages : Nat) (ct : sgv_clustering_types)
    (trans_tbl : Option (List TransEnt)) (src : List (Option Nat)) : FillResult :=
  let loop := pageLoop cfg ct pages sg 0 none src
  if loop.failed then
    -- out_no_mem: free the entries filled so far and return 0
    { sg := loop.sg, sg_count := 0, trans_tbl, transEnd := 0, allocated := loop.allocated,
      freed := sgv_free_sys_sg_entries cfg loop.sg loop.sg_count,
      leaked := sgLeaked cfg loop.sg loop.sg_count, rest := loop.rest }
  else
    match ct, trans_tbl with
    | .sgv_no_clustering, _ | _, none =>
        { sg := loop.sg, sg_count := loop.sg_count, trans_tbl, transEnd := 0,
          allocated := loop.allocated, freed := [], leaked := [], rest := loop.rest }
    | _, some t =>
        let tt := transFrom cfg (loop.sg.take pages) 0 0 t
        { sg := loop.sg, sg_count := loop.sg_count, trans_tbl := some tt.1, transEnd := tt.2,
          allocated := loop.allocated, freed := [], leaked := [], rest := loop.rest }

end Fill

end ScstMem
