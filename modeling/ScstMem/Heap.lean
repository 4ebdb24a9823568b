import ScstMem.Layout
import ScstMem.Alloc

/-!
The heap under scst_mem.c: the slab objects of the pools' caches, the big
objects `kmalloc` gives, the arrays `sgv_alloc_arrays` allocates outside an
object, and the vectors of `scst_alloc`. A block records its allocator and
its size. `kfree` and `kmem_cache_free` fault on a block that is not live, on
a block of another allocator, and on a pointer into an object.

Each fragment of the code that allocates or frees is a function of the heap
and the object it works on, under the source's name or the label it follows.
The memory operations of the file are the steps of a system whose state is
the heap, the live objects and the vectors handed out. An object's claims are
its own block and the arrays outside it; the invariant says the claims of all
owners are distinct live blocks. From every reachable state every operation
the code can make goes through without a fault, and every array lies inside
its block. The live blocks are exactly the claims as long as the array setup
and the bare `out_fail_free` only meet objects whose arrays are not on the
heap; a zero-count object that comes back from its cache breaks that, and its
arrays are lost. What can be lost is only `kmalloc` arrays: in every run the
live blocks of a slab cache are exactly the blocks of its live objects.

Pages are left to the rest of the model: only the object memory is followed
here. An object is the record of its memory; its block id is its address.
-/

namespace ScstMem.Memory
open sgv_clustering_types

/-- What allocated a heap block. -/
inductive Allocator where
  | kmalloc
  /-- `pool->caches[order]` of pool `pool`. -/
  | cache (pool order : Nat)
  deriving DecidableEq, Repr

structure Block where
  id : Nat
  allocator : Allocator
  size : Nat
  deriving DecidableEq, Repr

/-- The live blocks and the id the next allocation gets. -/
structure Heap where
  live : List Block
  next : Nat
  deriving DecidableEq, Repr

inductive HeapFault where
  /-- `kfree` of a pointer into `sg_entries_data`, inside an object. -/
  | interior
  /-- A free of a block that is not live: a double free. -/
  | not_live (b : Nat)
  /-- A free through another allocator than the block's. -/
  | wrong_allocator (b : Nat)
  deriving DecidableEq, Repr

namespace Heap
variable (h : Heap)

def alloc (a : Allocator) (size : Nat) : Heap × Nat :=
  (⟨⟨h.next, a, size⟩ :: h.live, h.next + 1⟩, h.next)

def drop (b : Nat) : Heap := { h with live := h.live.filter (·.id ≠ b) }

/-- `kfree` or `kmem_cache_free` of block `b` through allocator `a`. -/
def free (a : Allocator) (b : Nat) : Except HeapFault Heap :=
  if h.live.any fun blk => blk.id = b ∧ blk.allocator = a then .ok (h.drop b)
  else if h.live.any (·.id = b) then .error (.wrong_allocator b)
  else .error (.not_live b)

/-- Every live block is below `next`. -/
def Wf : Prop := ∀ blk ∈ h.live, blk.id < h.next

variable {h}

@[simp] theorem alloc_live (a : Allocator) (n : Nat) :
    (h.alloc a n).1.live = ⟨h.next, a, n⟩ :: h.live := rfl

@[simp] theorem alloc_next (a : Allocator) (n : Nat) : (h.alloc a n).1.next = h.next + 1 := rfl

@[simp] theorem alloc_snd (a : Allocator) (n : Nat) : (h.alloc a n).2 = h.next := rfl

@[simp] theorem mem_drop {b : Nat} {blk : Block} :
    blk ∈ (h.drop b).live ↔ blk ∈ h.live ∧ blk.id ≠ b := by
  simp [drop]

@[simp] theorem drop_next (b : Nat) : (h.drop b).next = h.next := rfl

theorem free_of_mem {blk : Block} (mem : blk ∈ h.live) :
    h.free blk.allocator blk.id = .ok (h.drop blk.id) := by
  have found : h.live.any fun b => b.id = blk.id ∧ b.allocator = blk.allocator :=
    List.any_eq_true.mpr ⟨blk, mem, by simp⟩
  simp only [free, found, if_true]

end Heap

/-- A pointer the code stores or frees: NULL, into the object's own
`sg_entries_data` at a byte offset, or a heap block. -/
inductive Ptr where
  | null
  | data (off : Nat)
  | heap (b : Nat)
  deriving DecidableEq, Repr

namespace Ptr

def onHeap : Ptr → Bool
  | .heap _ => true
  | _ => false

/-- The block a `kmalloc`ed array of `len` bytes at the pointer is. -/
def claim (len : Nat) : Ptr → List Block
  | .heap b => [⟨b, .kmalloc, len⟩]
  | _ => []

@[simp] theorem claim_null (len : Nat) : claim len .null = [] := rfl
@[simp] theorem claim_data (len off : Nat) : claim len (.data off) = [] := rfl
@[simp] theorem claim_heap (len b : Nat) : claim len (.heap b) = [⟨b, .kmalloc, len⟩] := rfl

end Ptr

/-- `kfree(p)`: nothing for NULL, a fault for a pointer into an object. -/
def kfree (h : Heap) : Ptr → Except HeapFault Heap
  | .null => .ok h
  | .data _ => .error .interior
  | .heap b => h.free .kmalloc b

/-- The memory of a `struct sgv_pool_obj`: its block, the fields the free
paths read, the clustering type of its pool (fixed at init, read through
`sgv_pool_clustered`) and the two array pointers. -/
structure ObjMem where
  block : Nat
  owner_pool : Nat
  order_or_pages : Int
  clustering_type : sgv_clustering_types
  sg_entries : Ptr
  trans_tbl : Ptr
  deriving DecidableEq, Repr

namespace ObjMem
variable (o : ObjMem)

/-- `sgv_pool_clustered(obj->owner_pool)`. -/
def clustered : Bool := o.clustering_type ≠ sgv_no_clustering

/-- The pages the object has entries for: `1 << order` in a bucket,
`-order_or_pages` for a big object. -/
def pages : Nat := if 0 ≤ o.order_or_pages then 2 ^ o.order_or_pages.toNat else o.order_or_pages.natAbs

end ObjMem

section Objects
variable (cfg : Config) (z : Sizes)

/-- The block the object lives in, from the allocator and of the size its
path gave it. -/
def ObjMem.own (o : ObjMem) : Block :=
  if 0 ≤ o.order_or_pages then
    ⟨o.block, .cache o.owner_pool o.order_or_pages.toNat,
      sgv_pool_init_size cfg z o.clustering_type o.order_or_pages.toNat⟩
  else ⟨o.block, .kmalloc, z.obj + o.pages * z.sg⟩

/-- The arrays of the object that are blocks of their own. -/
def ObjMem.arrays (o : ObjMem) : List Block :=
  o.sg_entries.claim (o.pages * z.sg) ++ o.trans_tbl.claim (o.pages * z.tt)

/-- The blocks the object holds. -/
def ObjMem.claims (o : ObjMem) : List Block := o.own cfg z :: o.arrays z

/-- The arrays the "Brand new obj" block of `sgv_pool_alloc` sets up for
order `k`: in `sg_entries_data` up to `sgv_max_local_order`, the entries in a
block of their own above it, the trans_tbl of a clustered pool in
`sg_entries_data` up to `sgv_max_trans_order` and in a block above it. -/
def SetUp (o : ObjMem) (k : Nat) : Prop :=
  (if (k : Int) ≤ cfg.sgv_max_local_order then o.sg_entries = .data 0 else o.sg_entries.onHeap) ∧
  (if !o.clustered then o.trans_tbl = .null
   else if (k : Int) ≤ cfg.sgv_max_local_order then o.trans_tbl = .data (2 ^ k * z.sg)
   else if (k : Int) ≤ cfg.sgv_max_trans_order then o.trans_tbl = .data 0
   else o.trans_tbl.onHeap)

/-- The pointers an object can have: a bucketed object has none yet or those
of its order, a big object has its entries in `sg_entries_data`. -/
def Shaped (o : ObjMem) : Prop :=
  if 0 ≤ o.order_or_pages then
    (o.sg_entries = .null ∧ o.trans_tbl = .null) ∨ SetUp cfg z o o.order_or_pages.toNat
  else o.sg_entries = .data 0 ∧ o.trans_tbl = .null

/-! ### The fragments of the code that allocate and free -/

/-- `sgv_get_obj` on an empty recycling list: `kmem_cache_alloc(pool->caches[order])`,
cleared, with `order_or_pages` and `owner_pool` set. -/
def newCachedObj (h : Heap) (pool order : Nat) (ct : sgv_clustering_types) : Heap × ObjMem :=
  let r := h.alloc (.cache pool order) (sgv_pool_init_size cfg z ct order)
  (r.1, ⟨r.2, pool, order, ct, .null, .null⟩)

/-- `sgv_alloc_arrays(obj, pages_to_alloc, order)`, `true` on success; `sg_ok`
and `tt_ok` are the outcomes of its `kmalloc` and `kzalloc`. -/
def sgv_alloc_arrays (h : Heap) (o : ObjMem) (pages_to_alloc order : Nat) (sg_ok tt_ok : Bool) :
    Except HeapFault (Heap × ObjMem × Bool) :=
  if !sg_ok then .ok (h, { o with sg_entries := .null }, false)
  else
    let r := h.alloc .kmalloc (pages_to_alloc * z.sg)
    let o := { o with sg_entries := .heap r.2 }
    if !o.clustered then .ok (r.1, o, true)
    else if (order : Int) ≤ cfg.sgv_max_trans_order then .ok (r.1, { o with trans_tbl := .data 0 }, true)
    else if tt_ok then
      let t := r.1.alloc .kmalloc (pages_to_alloc * z.tt)
      .ok (t.1, { o with trans_tbl := .heap t.2 }, true)
    else (kfree r.1 o.sg_entries).map fun h => (h, { o with trans_tbl := .null, sg_entries := .null }, false)

/-- The array part of `out_fail_free_sg_entries` and of `sgv_dtor_and_free`:
the arrays outside `sg_entries_data` are freed. The pointers it clears die
with the object. -/
def freeArrays (h : Heap) (o : ObjMem) : Except HeapFault Heap :=
  if o.sg_entries ≠ .data 0 then
    (if o.trans_tbl ≠ .data 0 then kfree h o.trans_tbl else .ok h) >>= fun h => kfree h o.sg_entries
  else .ok h

/-- `out_fail_free`: `kmem_cache_free(pool->caches[obj->order_or_pages], obj)`
on the paths that have a cache, which are those of bucketed objects, and
`kfree(obj)` on the big path. -/
def outFailFree (h : Heap) (o : ObjMem) : Except HeapFault Heap :=
  if 0 ≤ o.order_or_pages then h.free (.cache o.owner_pool o.order_or_pages.toNat) o.block
  else kfree h (.heap o.block)

/-- `out_fail_free_sg_entries`, which falls through to `out_fail_free`. -/
def outFailFreeSgEntries (h : Heap) (o : ObjMem) : Except HeapFault Heap :=
  freeArrays h o >>= fun h => outFailFree h o

def sgv_dtor_and_free (h : Heap) (o : ObjMem) : Except HeapFault Heap :=
  freeArrays h o >>= fun h => h.free (.cache o.owner_pool o.order_or_pages.toNat) o.block

/-- The "Brand new obj" block of `sgv_pool_alloc`: arrays in `sg_entries_data`
up to `sgv_max_local_order`, else from `sgv_alloc_arrays`, whose failure goes
to `out_fail_free`. `none` when the object was freed. -/
def brandNew (h : Heap) (o : ObjMem) (sg_ok tt_ok : Bool) : Except HeapFault (Heap × Option ObjMem) :=
  let order := o.order_or_pages.toNat
  let pages_to_alloc := 2 ^ order
  if (order : Int) ≤ cfg.sgv_max_local_order then
    .ok (h, some { o with sg_entries := .data 0
                          trans_tbl := if o.clustered then .data (pages_to_alloc * z.sg) else o.trans_tbl })
  else
    sgv_alloc_arrays cfg z h o pages_to_alloc order sg_ok tt_ok >>= fun r =>
      if r.2.2 then .ok (r.1, some r.2.1) else (outFailFree r.1 r.2.1).map fun h => (h, none)

/-- The big path's `kmalloc(sizeof(*obj) + pages*sizeof(obj->sg_entries[0]))`,
cleared, with the entries in `sg_entries_data`. -/
def newBigObj (h : Heap) (pool pages : Nat) (ct : sgv_clustering_types) : Heap × ObjMem :=
  let r := h.alloc .kmalloc (z.obj + pages * z.sg)
  (r.1, ⟨r.2, pool, -(pages : Int), ct, .data 0, .null⟩)

/-! ### The system of memory operations -/

structure MemState where
  heap : Heap
  objs : List ObjMem
  /-- The vectors `scst_alloc` handed out. -/
  vectors : List Block
  deriving Repr

def MemState.initial : MemState := ⟨⟨[], 0⟩, [], []⟩

/-- The blocks held by the live objects and the callers of `scst_alloc`. -/
def MemState.claims (m : MemState) : List Block := m.objs.flatMap (ObjMem.claims cfg z) ++ m.vectors

/-- The blocks held by every owner but object `o`. -/
def MemState.others (m : MemState) (o : ObjMem) : List Block :=
  (m.objs.erase o).flatMap (ObjMem.claims cfg z) ++ m.vectors

/-- Object `o` becomes what a fragment left of it. -/
def MemState.update (m : MemState) (h : Heap) (o : ObjMem) (r : Option ObjMem) : MemState :=
  { m with heap := h, objs := r.toList ++ m.objs.erase o }

/-- The memory operations of scst_mem.c, each the fragments one path runs on
one object: `get_obj` is `sgv_get_obj` making an object, `brand_new` the array
setup of a cache miss, `fail_free` and `fail_free_sg_entries` the exits of
`sgv_pool_alloc`, `dtor_and_free` a purge, `alloc_big` and `free_big` the big
path and its `sgv_pool_free`, `scst_alloc` and `scst_free` the vectors. The
outcomes of the allocations that can fail are arguments; a failed
`kmem_cache_alloc` or `kmalloc` of the object or vector changes no memory. -/
inductive MemOp where
  | get_obj (pool order : Nat) (ct : sgv_clustering_types)
  | brand_new (o : ObjMem) (sg_ok tt_ok : Bool)
  | fail_free (o : ObjMem)
  | fail_free_sg_entries (o : ObjMem)
  | dtor_and_free (o : ObjMem)
  | alloc_big (pool pages : Nat) (ct : sgv_clustering_types)
  | free_big (o : ObjMem)
  | scst_alloc (pages : Nat) (fill_ok : Bool)
  | scst_free (sg : Block)
  deriving Repr

def memStep (m : MemState) : MemOp → Except HeapFault MemState
  | .get_obj p k ct =>
      let r := newCachedObj cfg z m.heap p k ct
      .ok { m with heap := r.1, objs := r.2 :: m.objs }
  | .brand_new o sg_ok tt_ok => (brandNew cfg z m.heap o sg_ok tt_ok).map fun r => m.update r.1 o r.2
  | .fail_free o => (outFailFree m.heap o).map fun h => m.update h o none
  | .fail_free_sg_entries o => (outFailFreeSgEntries m.heap o).map fun h => m.update h o none
  | .dtor_and_free o => (sgv_dtor_and_free m.heap o).map fun h => m.update h o none
  | .alloc_big p pages ct =>
      let r := newBigObj z m.heap p pages ct
      .ok { m with heap := r.1, objs := r.2 :: m.objs }
  | .free_big o => (kfree m.heap (.heap o.block)).map fun h => m.update h o none
  | .scst_alloc pages fill_ok =>
      let r := m.heap.alloc .kmalloc (pages * z.sg)
      if fill_ok then .ok { m with heap := r.1, vectors := ⟨r.2, .kmalloc, pages * z.sg⟩ :: m.vectors }
      else (kfree r.1 (.heap r.2)).map fun h => { m with heap := h }
  | .scst_free v => (kfree m.heap (.heap v.id)).map fun h => { m with heap := h, vectors := m.vectors.erase v }

/-- The operations the code makes: on a live object of the right kind, a big
object of at least one page, a vector it handed out. `brand_new` meets any
bucketed object: the code runs it on every object `sgv_get_obj` gives with no
entries, and a cached object can have none. -/
def Allowed (m : MemState) : MemOp → Prop
  | .brand_new o _ _ | .dtor_and_free o => o ∈ m.objs ∧ 0 ≤ o.order_or_pages
  | .fail_free o | .fail_free_sg_entries o => o ∈ m.objs
  | .free_big o => o ∈ m.objs ∧ o.order_or_pages < 0
  | .alloc_big _ pages _ => 0 < pages
  | .scst_free v => v ∈ m.vectors
  | _ => True

/-- The array setup and the bare `out_fail_free` meet an object whose arrays
are not on the heap. -/
def Tidy : MemOp → Prop
  | .brand_new o _ _ | .fail_free o => o.arrays z = []
  | _ => True

/-- The blocks an operation can lose: the arrays on the heap of the object
that the array setup or the bare `out_fail_free` meets. -/
def lostBy : MemOp → List Block
  | .brand_new o _ _ | .fail_free o => o.arrays z
  | _ => []

/-- The operations that set object `o` up again or free it bare. -/
def Reuses (o : ObjMem) : MemOp → Prop
  | .brand_new o' _ _ | .fail_free o' => o' = o
  | _ => False

/-- The states reached from the empty heap by steps that `ok` lets through. -/
inductive MemReach (ok : MemState → MemOp → Prop) : MemState → Prop
  | initial : MemReach ok .initial
  | step {m m' : MemState} {op : MemOp} :
      MemReach ok m → ok m op → memStep cfg z m op = .ok m' → MemReach ok m'

/-! ### Ownership -/

/-- Claims `c` are live blocks with distinct ids, in a heap whose blocks are
below `next`. -/
structure Owns (h : Heap) (c : List Block) : Prop where
  wf : h.Wf
  live : c ⊆ h.live
  nodup : (c.map Block.id).Nodup

/-- A heap step `h → h'` after which an owner that held `c` holds `c'`: only
blocks of `c` are freed, and every block of `c'` was in `c` or is new. -/
structure Local (h h' : Heap) (c c' : List Block) : Prop where
  owns : Owns h' c'
  next_le : h.next ≤ h'.next
  keep : ∀ blk ∈ h.live, blk.id ∉ c.map Block.id → blk ∈ h'.live
  fresh : ∀ blk ∈ c', blk ∈ c ∨ h.next ≤ blk.id

/-- No block is lost in a step: every block live after it is held by the
owner, or was live and held by no one else's claim `c` before. -/
def Ledger (h h' : Heap) (c c' : List Block) : Prop :=
  ∀ blk ∈ h'.live, blk ∈ c' ∨ (blk ∈ h.live ∧ blk ∉ c)

structure Safe (m : MemState) : Prop where
  owns : Owns m.heap (m.claims cfg z)
  shaped : ∀ o ∈ m.objs, Shaped cfg z o
  vectors : ∀ v ∈ m.vectors, v.allocator = .kmalloc

/-- Every live block is held. -/
def NoLeak (m : MemState) : Prop := m.heap.live ⊆ m.claims cfg z

/-- Every live block of a slab cache is held. -/
def SlabHeld (m : MemState) : Prop := ∀ blk ∈ m.heap.live, blk.allocator ≠ .kmalloc → blk ∈ m.claims cfg z

/-- A step loses no block but those of `lost`: every block live after it is
held, or was live and held by no one before, or is one of `lost`. -/
def StepLedger (m m' : MemState) (lost : List Block) : Prop :=
  ∀ blk ∈ m'.heap.live, blk ∈ m'.claims cfg z ∨ (blk ∈ m.heap.live ∧ blk ∉ m.claims cfg z) ∨ blk ∈ lost

/-- The `len` bytes an array pointer of object `o` addresses lie in one live
block. -/
def Ptr.Within (h : Heap) (o : ObjMem) (len : Nat) : Ptr → Prop
  | .null => True
  | .data off => ∃ blk ∈ h.live, blk.id = o.block ∧ z.obj + off + len ≤ blk.size
  | .heap b => ∃ blk ∈ h.live, blk.id = b ∧ len ≤ blk.size

/-- Both arrays hold the object's `pages` entries inside live blocks, the
trans_tbl after the entries when both are in the object. -/
structure InBounds (h : Heap) (o : ObjMem) : Prop where
  sg_entries : o.sg_entries.Within z h o (o.pages * z.sg)
  trans_tbl : o.trans_tbl.Within z h o (o.pages * z.tt)
  apart : ∀ a c, o.sg_entries = .data a → o.trans_tbl = .data c → a + o.pages * z.sg ≤ c


/-! ### Heap steps -/

@[simp] theorem ok_bind {ε α β : Type} (a : α) (f : α → Except ε β) : (Except.ok a >>= f) = f a := rfl

@[simp] theorem ok_map {ε α β : Type} (a : α) (f : α → β) :
    (Except.ok a : Except ε α).map f = .ok (f a) := rfl

section Steps
variable {h h' h1 h2 : Heap} {c c' c1 c2 rest : List Block}

theorem Owns.mem_lt (own : Owns h c) {blk : Block} (mem : blk ∈ c) : blk.id < h.next :=
  own.wf blk (own.live mem)

theorem Owns.perm (own : Owns h c) (p : c.Perm c') : Owns h c' :=
  ⟨own.wf, fun _ mem => own.live (p.symm.subset mem), (p.map Block.id).nodup own.nodup⟩

theorem Owns.sublist (own : Owns h c) (sub : List.Sublist c' c) : Owns h c' :=
  ⟨own.wf, sub.subset.trans own.live, own.nodup.sublist (sub.map Block.id)⟩

theorem Owns.nil (wf : h.Wf) : Owns h [] := ⟨wf, List.nil_subset _, List.nodup_nil⟩

theorem Local.refl (own : Owns h c) : Local h h c c :=
  ⟨own, le_rfl, fun _ mem _ => mem, fun _ mem => .inl mem⟩

theorem Local.trans (own : Owns h c) (l1 : Local h h1 c c1) (l2 : Local h1 h2 c1 c2) :
    Local h h2 c c2 where
  owns := l2.owns
  next_le := l1.next_le.trans l2.next_le
  keep blk mem out := l2.keep blk (l1.keep blk mem out) fun mem1 => by
    obtain ⟨b1, in1, same⟩ := List.mem_map.mp mem1
    rcases l1.fresh b1 in1 with old | new
    · exact out (List.mem_map.mpr ⟨b1, old, same⟩)
    · have := own.wf blk mem; omega
  fresh blk mem := (l2.fresh blk mem).elim (l1.fresh blk) fun new => .inr (l1.next_le.trans new)

theorem Local.alloc (own : Owns h c) (a : Allocator) (n : Nat) :
    Local h (h.alloc a n).1 c (⟨h.next, a, n⟩ :: c) where
  owns := by
    refine ⟨fun blk mem => ?_, List.cons_subset_cons _ own.live, List.nodup_cons.mpr ⟨?_, own.nodup⟩⟩
    · rcases List.mem_cons.mp mem with rfl | old
      · simp
      · have := own.wf blk old; simp only [Heap.alloc_next]; omega
    · intro mem
      obtain ⟨b, inb, same⟩ := List.mem_map.mp mem
      have := own.mem_lt inb; simp only at same; omega
  next_le := by simp
  keep blk mem _ := List.mem_cons_of_mem _ mem
  fresh blk mem := (List.mem_cons.mp mem).elim (fun same => .inr (by simp [same])) .inl

theorem Local.drop (own : Owns h c) {blk : Block} (mem : blk ∈ c) :
    Local h (h.drop blk.id) c (c.filter (·.id ≠ blk.id)) where
  owns := ⟨fun b inb => own.wf b (Heap.mem_drop.mp inb).1,
    fun b inb => by
      rw [List.mem_filter] at inb
      exact Heap.mem_drop.mpr ⟨own.live inb.1, by simpa using inb.2⟩,
    List.Nodup.sublist ((List.filter_sublist c).map Block.id) own.nodup⟩
  next_le := le_rfl
  keep b inb out := Heap.mem_drop.mpr ⟨inb, fun same => out (List.mem_map.mpr ⟨blk, mem, same.symm⟩)⟩
  fresh b inb := .inl (List.mem_filter.mp inb).1

theorem Local.forget {c'' : List Block} (l : Local h h' c c') (sub : c'' ⊆ c')
    (nodup : (c''.map Block.id).Nodup) : Local h h' c c'' where
  owns := ⟨l.owns.wf, sub.trans l.owns.live, nodup⟩
  next_le := l.next_le
  keep := l.keep
  fresh blk mem := l.fresh blk (sub mem)

theorem Ledger.refl : Ledger h h c c := fun blk mem => by
  by_cases inc : blk ∈ c
  · exact .inl inc
  · exact .inr ⟨mem, inc⟩

theorem Ledger.trans (g1 : Ledger h h1 c c1) (g2 : Ledger h1 h2 c1 c2) : Ledger h h2 c c2 :=
  fun blk mem => (g2 blk mem).elim .inl fun ⟨mem1, out1⟩ =>
    (g1 blk mem1).elim (fun in1 => absurd in1 out1) .inr

theorem Ledger.alloc (a : Allocator) (n : Nat) : Ledger h (h.alloc a n).1 c (⟨h.next, a, n⟩ :: c) :=
  fun blk mem => by
    rcases List.mem_cons.mp mem with rfl | old
    · exact .inl (List.mem_cons_self _ _)
    · by_cases inc : blk ∈ c
      · exact .inl (List.mem_cons_of_mem _ inc)
      · exact .inr ⟨old, inc⟩

theorem Ledger.drop (b : Nat) : Ledger h (h.drop b) c (c.filter (·.id ≠ b)) := fun blk mem => by
  rw [Heap.mem_drop] at mem
  by_cases inc : blk ∈ c
  · exact .inl (List.mem_filter.mpr ⟨inc, by simpa using mem.2⟩)
  · exact .inr ⟨mem.1, inc⟩

theorem Ledger.forget {c'' : List Block} (g : Ledger h h' c c')
    (dead : ∀ blk ∈ c', blk ∈ h'.live → blk ∈ c'') : Ledger h h' c c'' :=
  fun blk mem => (g blk mem).imp_left fun inc => dead blk inc mem

theorem Owns.replace (own : Owns h (c ++ rest)) (l : Local h h' c c') : Owns h' (c' ++ rest) := by
  have whole := own.nodup
  rw [List.map_append, List.nodup_append] at whole
  refine ⟨l.owns.wf, List.append_subset.mpr ⟨l.owns.live, fun blk mem => ?_⟩, ?_⟩
  · exact l.keep blk (own.live (List.mem_append_right _ mem))
      fun inc => whole.2.2 inc (List.mem_map_of_mem _ mem)
  · rw [List.map_append, List.nodup_append]
    refine ⟨l.owns.nodup, whole.2.1, fun id in' inr => ?_⟩
    obtain ⟨b', mem', rfl⟩ := List.mem_map.mp in'
    obtain ⟨b, mem, same⟩ := List.mem_map.mp inr
    rcases l.fresh b' mem' with old | new
    · exact whole.2.2 (List.mem_map_of_mem _ old) (List.mem_map.mpr ⟨b, mem, same⟩)
    · have := own.mem_lt (List.mem_append_right _ mem); omega

end Steps

/-! ### The fragments on one object -/

section Fragments
variable {cfg z} {h : Heap} {o : ObjMem}

theorem Ptr.onHeap_iff {p : Ptr} : p.onHeap ↔ ∃ b, p = .heap b := by
  cases p <;> simp [Ptr.onHeap]

@[simp] theorem own_id (o : ObjMem) : (o.own cfg z).id = o.block := by
  unfold ObjMem.own; split <;> rfl

@[simp] theorem own_mk (o : ObjMem) (sg tt : Ptr) :
    (ObjMem.mk o.block o.owner_pool o.order_or_pages o.clustering_type sg tt).own cfg z = o.own cfg z :=
  rfl

@[simp] theorem pages_mk (o : ObjMem) (sg tt : Ptr) :
    (ObjMem.mk o.block o.owner_pool o.order_or_pages o.clustering_type sg tt).pages = o.pages := rfl

@[simp] theorem clustered_mk (o : ObjMem) (sg tt : Ptr) :
    (ObjMem.mk o.block o.owner_pool o.order_or_pages o.clustering_type sg tt).clustered = o.clustered :=
  rfl

theorem own_bucketed (bucketed : 0 ≤ o.order_or_pages) :
    o.own cfg z = ⟨o.block, .cache o.owner_pool o.order_or_pages.toNat,
      sgv_pool_init_size cfg z o.clustering_type o.order_or_pages.toNat⟩ := if_pos bucketed

theorem own_big (big : o.order_or_pages < 0) :
    o.own cfg z = ⟨o.block, .kmalloc, z.obj + o.pages * z.sg⟩ := if_neg (by omega)

theorem pages_bucketed (bucketed : 0 ≤ o.order_or_pages) : o.pages = 2 ^ o.order_or_pages.toNat :=
  if_pos bucketed

theorem Shaped.of_setUp {k : Nat} (order : o.order_or_pages = k) (set : SetUp cfg z o k) : Shaped cfg z o := by
  unfold Shaped; rw [order, if_pos (Int.natCast_nonneg k), Int.toNat_ofNat]; exact .inr set

theorem Shaped.trans_null (shaped : Shaped cfg z o) (plain : o.clustered = false) :
    o.trans_tbl = .null := by
  unfold Shaped SetUp at shaped
  split at shaped
  · rcases shaped with ⟨-, tt⟩ | ⟨-, tt⟩
    · exact tt
    · simpa [plain] using tt
  · exact shaped.2

theorem Shaped.cases (shaped : Shaped cfg z o) :
    (o.sg_entries = .data 0 ∧ o.trans_tbl.onHeap = false) ∨
    (o.sg_entries = .null ∧ o.trans_tbl = .null) ∨
    (∃ s, o.sg_entries = .heap s ∧ (o.trans_tbl = .null ∨ o.trans_tbl = .data 0)) ∨
    (∃ s t, o.sg_entries = .heap s ∧ o.trans_tbl = .heap t) := by
  unfold Shaped SetUp at shaped
  split at shaped
  · rcases shaped with fresh | ⟨sg, tt⟩
    · exact .inr (.inl fresh)
    · split at sg
      · refine .inl ⟨sg, ?_⟩
        split at tt <;> first | contradiction | simp [tt, Ptr.onHeap]
      · obtain ⟨s, sg⟩ := Ptr.onHeap_iff.mp sg
        split at tt
        · exact .inr (.inr (.inl ⟨s, sg, .inl tt⟩))
        · split at tt
          · exact .inr (.inr (.inl ⟨s, sg, .inr tt⟩))
          · obtain ⟨t, tt⟩ := Ptr.onHeap_iff.mp tt
            exact .inr (.inr (.inr ⟨s, t, sg, tt⟩))
  · exact .inl ⟨shaped.1, by simp [shaped.2, Ptr.onHeap]⟩

theorem Local.drop_to {h : Heap} {c c' : List Block} (own : Owns h c) {blk : Block} (mem : blk ∈ c)
    (sub : c' ⊆ c) (gone : ∀ b ∈ c', b.id ≠ blk.id) (nodup : (c'.map Block.id).Nodup) :
    Local h (h.drop blk.id) c c' :=
  (Local.drop own mem).forget (fun b inb => List.mem_filter.mpr ⟨sub inb, by simpa using gone b inb⟩)
    nodup

theorem Ledger.drop_to {h : Heap} {c c' : List Block} (blk : Block)
    (cover : ∀ b ∈ c, b.id ≠ blk.id → b ∈ c') : Ledger h (h.drop blk.id) c c' :=
  (Ledger.drop blk.id).forget fun b inb _ => by
    rw [List.mem_filter] at inb
    exact cover b inb.1 (by simpa using inb.2)

theorem Local.drop_last {h : Heap} {c : List Block} {blk : Block} (own : Owns h (c ++ [blk])) :
    Local h (h.drop blk.id) (c ++ [blk]) c := by
  have nodup := own.nodup
  rw [List.map_append, List.nodup_append] at nodup
  exact Local.drop_to own (by simp) (List.subset_append_left _ _)
    (fun b inb same => nodup.2.2 (List.mem_map_of_mem _ inb) (List.mem_singleton.mpr same)) nodup.1

theorem Ledger.drop_last {h : Heap} {c : List Block} (blk : Block) : Ledger h (h.drop blk.id) (c ++ [blk]) c :=
  Ledger.drop_to blk fun _ inb ne =>
    (List.mem_append.mp inb).resolve_right fun last => ne (by rw [List.mem_singleton.mp last])

theorem Local.alloc_to {h : Heap} {c c' : List Block} (own : Owns h c) {a : Allocator} {n : Nat}
    (sub : c' ⊆ ⟨h.next, a, n⟩ :: c) (nodup : (c'.map Block.id).Nodup) :
    Local h (h.alloc a n).1 c c' :=
  (Local.alloc own a n).forget sub nodup

theorem Ledger.alloc_to {h : Heap} {c c' : List Block} {a : Allocator} {n : Nat}
    (cover : c ⊆ c') (new : ⟨h.next, a, n⟩ ∈ c') : Ledger h (h.alloc a n).1 c c' :=
  (Ledger.alloc a n).forget fun b inb _ => (List.mem_cons.mp inb).elim (fun same => same ▸ new) (@cover b)

theorem Local.widen {h h' : Heap} {c c' rest : List Block} (own : Owns h (c ++ rest))
    (l : Local h h' c c') : Local h h' (c ++ rest) (c' ++ rest) where
  owns := own.replace l
  next_le := l.next_le
  keep blk mem out := l.keep blk mem fun inc => out (by rw [List.map_append]; exact List.mem_append_left _ inc)
  fresh blk mem := (List.mem_append.mp mem).elim
    (fun inc => (l.fresh blk inc).imp_left (List.mem_append_left _)) (.inl ∘ List.mem_append_right _)

theorem Ledger.widen {h h' : Heap} {c c' rest : List Block} (g : Ledger h h' c c') :
    Ledger h h' (c ++ rest) (c' ++ rest) := fun blk mem =>
  (g blk mem).elim (.inl ∘ List.mem_append_left _) fun ⟨old, out⟩ => by
    by_cases inr : blk ∈ rest
    · exact .inl (List.mem_append_right _ inr)
    · exact .inr ⟨old, by simp [out, inr]⟩

theorem outFailFree_eq (live : o.own cfg z ∈ h.live) : outFailFree h o = .ok (h.drop o.block) := by
  unfold outFailFree
  by_cases bucketed : 0 ≤ o.order_or_pages
  · rw [if_pos bucketed]; rw [own_bucketed bucketed] at live; exact Heap.free_of_mem live
  · rw [if_neg bucketed]; rw [own_big (by omega)] at live; exact Heap.free_of_mem live

theorem drop_own (own : Owns h [o.own cfg z]) :
    Local h (h.drop o.block) [o.own cfg z] [] ∧ Ledger h (h.drop o.block) [o.own cfg z] [] := by
  rw [← @own_id cfg z o]
  exact ⟨Local.drop_last (c := []) own, Ledger.drop_last (c := []) _⟩

/-- `out_fail_free_sg_entries` and `sgv_dtor_and_free` give back the arrays
outside the object and leave it its own block. -/
theorem freeArrays_spec (shaped : Shaped cfg z o) (own : Owns h (o.claims cfg z)) :
    ∃ h', freeArrays h o = .ok h' ∧ Local h h' (o.claims cfg z) [o.own cfg z] ∧
      Ledger h h' (o.claims cfg z) [o.own cfg z] := by
  rcases shaped.cases with ⟨sg, tt⟩ | ⟨sg, tt⟩ | ⟨s, sg, tt⟩ | ⟨s, t, sg, tt⟩
  · have none : o.claims cfg z = [o.own cfg z] := by
      cases p : o.trans_tbl <;> simp_all [ObjMem.claims, ObjMem.arrays, Ptr.onHeap]
    rw [none] at own ⊢
    exact ⟨h, by simp [freeArrays, sg], Local.refl own, Ledger.refl⟩
  · have none : o.claims cfg z = [o.own cfg z] := by simp [ObjMem.claims, ObjMem.arrays, sg, tt]
    rw [none] at own ⊢
    exact ⟨h, by simp [freeArrays, sg, tt, kfree], Local.refl own, Ledger.refl⟩
  · let sBlk : Block := ⟨s, .kmalloc, o.pages * z.sg⟩
    have claims : o.claims cfg z = [o.own cfg z, sBlk] := by
      rcases tt with tt | tt <;> simp [ObjMem.claims, ObjMem.arrays, sg, tt, sBlk]
    rw [claims] at own ⊢
    have freed : h.free .kmalloc s = .ok (h.drop s) := Heap.free_of_mem (own.live (by simp : sBlk ∈ _))
    refine ⟨h.drop s, ?_, Local.drop_last (c := [o.own cfg z]) own, Ledger.drop_last sBlk⟩
    rcases tt with tt | tt <;> simp [freeArrays, sg, tt, kfree, freed]
  · let sBlk : Block := ⟨s, .kmalloc, o.pages * z.sg⟩
    let tBlk : Block := ⟨t, .kmalloc, o.pages * z.tt⟩
    have claims : o.claims cfg z = [o.own cfg z, sBlk, tBlk] := by
      simp [ObjMem.claims, ObjMem.arrays, sg, tt, sBlk, tBlk]
    rw [claims] at own ⊢
    have l1 : Local h (h.drop t) [o.own cfg z, sBlk, tBlk] [o.own cfg z, sBlk] :=
      Local.drop_last (c := [o.own cfg z, sBlk]) own
    have freedT : h.free .kmalloc t = .ok (h.drop t) := Heap.free_of_mem (own.live (by simp : tBlk ∈ _))
    have freedS : (h.drop t).free .kmalloc s = .ok ((h.drop t).drop s) :=
      Heap.free_of_mem (l1.owns.live (by simp : sBlk ∈ _))
    refine ⟨(h.drop t).drop s, ?_, Local.trans own l1 (Local.drop_last (c := [o.own cfg z]) l1.owns),
      Ledger.trans (Ledger.drop_last (c := [o.own cfg z, sBlk]) tBlk) (Ledger.drop_last sBlk)⟩
    simp [freeArrays, sg, tt, kfree, freedT, freedS]

/-- `sgv_alloc_arrays` on an object of an order above `sgv_max_local_order`:
on success the object holds its block and the new arrays, set up for its
order; on failure nothing new stays allocated. The arrays the object held
before are not touched either way. -/
theorem sgv_alloc_arrays_spec (shaped : Shaped cfg z o) (bucketed : 0 ≤ o.order_or_pages)
    (high : ¬(o.order_or_pages.toNat : Int) ≤ cfg.sgv_max_local_order) (own : Owns h [o.own cfg z])
    (sg_ok tt_ok : Bool) :
    ∃ h' o' ok, sgv_alloc_arrays cfg z h o (2 ^ o.order_or_pages.toNat) o.order_or_pages.toNat
        sg_ok tt_ok = .ok (h', o', ok) ∧ o'.own cfg z = o.own cfg z ∧ o'.block = o.block ∧
      Local h h' [o.own cfg z] (if ok then o'.claims cfg z else [o.own cfg z]) ∧
      Ledger h h' [o.own cfg z] (if ok then o'.claims cfg z else [o.own cfg z]) ∧
      (ok → Shaped cfg z o') := by
  have below : o.block < h.next := by simpa using own.mem_lt (List.mem_singleton_self _)
  obtain ⟨k, hk⟩ := Int.eq_ofNat_of_zero_le bucketed
  have pages : o.pages = 2 ^ k := by simp [ObjMem.pages, hk]
  simp only [hk, Int.toNat_ofNat] at high ⊢
  cases sg_ok
  · exact ⟨h, { o with sg_entries := .null }, false, by simp [sgv_alloc_arrays], rfl, rfl,
      by simpa using Local.refl own, by simpa using Ledger.refl, by simp⟩
  let sBlk : Block := ⟨h.next, .kmalloc, 2 ^ k * z.sg⟩
  let h1 := (h.alloc .kmalloc (2 ^ k * z.sg)).1
  have lS : Local h h1 [o.own cfg z] [sBlk, o.own cfg z] := Local.alloc own .kmalloc _
  have entries : Local h h1 [o.own cfg z] [o.own cfg z, sBlk] ∧
      Ledger h h1 [o.own cfg z] [o.own cfg z, sBlk] :=
    ⟨Local.alloc_to own (by simp) (by simp [sBlk]; omega), Ledger.alloc_to (by simp) (by simp)⟩
  cases plain : o.clustered
  · have tt := shaped.trans_null plain
    refine ⟨h1, { o with sg_entries := .heap h.next }, true, by simp [sgv_alloc_arrays, plain, h1], rfl, rfl,
      ?_, ?_, fun _ => ?_⟩
    · simpa [ObjMem.claims, ObjMem.arrays, tt, pages, sBlk] using entries.1
    · simpa [ObjMem.claims, ObjMem.arrays, tt, pages, sBlk] using entries.2
    · exact Shaped.of_setUp hk ⟨by rw [if_neg high]; rfl, by simp only [clustered_mk, plain]; exact tt⟩
  by_cases mid : (k : Int) ≤ cfg.sgv_max_trans_order
  · refine ⟨h1, { o with sg_entries := .heap h.next, trans_tbl := .data 0 }, true,
      by simp [sgv_alloc_arrays, plain, mid, h1], rfl, rfl, ?_, ?_, fun _ => ?_⟩
    · simpa [ObjMem.claims, ObjMem.arrays, pages, sBlk] using entries.1
    · simpa [ObjMem.claims, ObjMem.arrays, pages, sBlk] using entries.2
    · exact Shaped.of_setUp hk ⟨by rw [if_neg high]; rfl, by simp only [clustered_mk, plain, Bool.not_true, Bool.false_eq_true, if_false, if_neg high, if_pos mid]⟩
  cases tt_ok
  · have sMem : sBlk ∈ [sBlk, o.own cfg z] := List.mem_cons_self _ _
    have freed : h1.free .kmalloc h.next = .ok (h1.drop h.next) := Heap.free_of_mem (lS.owns.live sMem)
    refine ⟨h1.drop h.next, { o with sg_entries := .null, trans_tbl := .null }, false,
      by simp [sgv_alloc_arrays, plain, mid, kfree, h1, freed], rfl, rfl, ?_, ?_, by simp⟩
    · simpa using Local.trans own lS (Local.drop_to lS.owns sMem (by simp) (by simp [sBlk]; omega) (by simp))
    · simpa using Ledger.trans (Ledger.alloc .kmalloc _) (Ledger.drop_to sBlk (by simp [sBlk]))
  · let tBlk : Block := ⟨h.next + 1, .kmalloc, 2 ^ k * z.tt⟩
    have next : h1.next = h.next + 1 := rfl
    have both : Local h (h1.alloc .kmalloc (2 ^ k * z.tt)).1 [o.own cfg z] [o.own cfg z, sBlk, tBlk] :=
      Local.trans own lS (Local.alloc_to lS.owns (List.reverse_perm _).symm.subset (by simp [sBlk, tBlk]; omega))
    have bothLedger : Ledger h (h1.alloc .kmalloc (2 ^ k * z.tt)).1 [o.own cfg z] [o.own cfg z, sBlk, tBlk] :=
      Ledger.trans (Ledger.alloc .kmalloc _) (Ledger.alloc_to (by simp [sBlk])
        (List.mem_cons_of_mem _ (List.mem_cons_of_mem _ (List.mem_singleton_self _))))
    refine ⟨(h1.alloc .kmalloc (2 ^ k * z.tt)).1,
      { o with sg_entries := .heap h.next, trans_tbl := .heap (h.next + 1) }, true,
      by simp [sgv_alloc_arrays, plain, mid, h1], rfl, rfl, ?_, ?_, fun _ => ?_⟩
    · simpa [ObjMem.claims, ObjMem.arrays, pages, sBlk, tBlk] using both
    · simpa [ObjMem.claims, ObjMem.arrays, pages, sBlk, tBlk] using bothLedger
    · exact Shaped.of_setUp hk ⟨by rw [if_neg high]; rfl, by simp only [clustered_mk, plain, Bool.not_true, Bool.false_eq_true, if_false, if_neg high, if_neg mid]; rfl⟩

/-- The "Brand new obj" block works on the object's own block only: it ends
holding that block and the arrays it set up, or with the object freed. -/
theorem brandNew_spec (shaped : Shaped cfg z o) (bucketed : 0 ≤ o.order_or_pages)
    (own : Owns h [o.own cfg z]) (sg_ok tt_ok : Bool) :
    ∃ h' r, brandNew cfg z h o sg_ok tt_ok = .ok (h', r) ∧
      Local h h' [o.own cfg z] (r.toList.flatMap (ObjMem.claims cfg z)) ∧
      Ledger h h' [o.own cfg z] (r.toList.flatMap (ObjMem.claims cfg z)) ∧
      ∀ o' ∈ r, Shaped cfg z o' := by
  unfold brandNew
  by_cases low : (o.order_or_pages.toNat : Int) ≤ cfg.sgv_max_local_order
  · rw [if_pos low]
    refine ⟨h, _, rfl, ?_⟩
    obtain ⟨k, hk⟩ := Int.eq_ofNat_of_zero_le bucketed
    simp only [hk, Int.toNat_ofNat] at low
    cases plain : o.clustered
    · have tt := shaped.trans_null plain
      refine ⟨by simpa [ObjMem.claims, ObjMem.arrays, plain, tt] using Local.refl own,
        by simpa [ObjMem.claims, ObjMem.arrays, plain, tt] using Ledger.refl, ?_⟩
      rintro _ ⟨⟩
      exact Shaped.of_setUp hk ⟨by rw [if_pos low], by simp only [clustered_mk, plain]; simpa using tt⟩
    · refine ⟨by simpa [ObjMem.claims, ObjMem.arrays, plain] using Local.refl own,
        by simpa [ObjMem.claims, ObjMem.arrays, plain] using Ledger.refl, ?_⟩
      rintro _ ⟨⟩
      exact Shaped.of_setUp hk ⟨by rw [if_pos low], by
        simp only [clustered_mk, plain, Bool.not_true, Bool.false_eq_true, if_false, if_true]
        simp only [hk, Int.toNat_ofNat, if_pos low]⟩
  · rw [if_neg low]
    obtain ⟨h', o', ok, run, same, block, l, g, shp⟩ :=
      sgv_alloc_arrays_spec shaped bucketed low own sg_ok tt_ok
    rw [run, ok_bind]
    cases ok
    · simp only [Bool.false_eq_true, if_false] at l g
      have live : o'.own cfg z ∈ h'.live := same ▸ l.owns.live (List.mem_singleton_self _)
      obtain ⟨l2, g2⟩ := drop_own l.owns
      exact ⟨h'.drop o.block, none, by simp [outFailFree_eq live, block], by simpa using l.trans own l2,
        by simpa using g.trans g2, by simp⟩
    · simp only [if_true] at l g
      exact ⟨h', some o', rfl, by simpa using l, by simpa using g, by simpa using shp rfl⟩

theorem newCachedObj_claims (h : Heap) (p k : Nat) (ct : sgv_clustering_types) :
    (newCachedObj cfg z h p k ct).2.claims cfg z = [⟨h.next, .cache p k, sgv_pool_init_size cfg z ct k⟩] := by
  simp [newCachedObj, ObjMem.claims, ObjMem.arrays, ObjMem.own]

theorem newCachedObj_shaped (h : Heap) (p k : Nat) (ct : sgv_clustering_types) :
    Shaped cfg z (newCachedObj cfg z h p k ct).2 := by
  simp [newCachedObj, Shaped]

theorem newBigObj_claims (h : Heap) (p : Nat) {pages : Nat} (pos : 0 < pages) (ct : sgv_clustering_types) :
    (newBigObj z h p pages ct).2.claims cfg z = [⟨h.next, .kmalloc, z.obj + pages * z.sg⟩] := by
  have : ¬(0 : Int) ≤ -(pages : Int) := by omega
  simp [newBigObj, ObjMem.claims, ObjMem.arrays, ObjMem.own, ObjMem.pages, this]

theorem newBigObj_shaped (h : Heap) (p : Nat) {pages : Nat} (pos : 0 < pages) (ct : sgv_clustering_types) :
    Shaped cfg z (newBigObj z h p pages ct).2 := by
  have : ¬(0 : Int) ≤ -(pages : Int) := by omega
  simp [newBigObj, Shaped, this]

theorem outFailFreeSgEntries_spec (shaped : Shaped cfg z o) (own : Owns h (o.claims cfg z)) :
    ∃ h', outFailFreeSgEntries h o = .ok h' ∧ Local h h' (o.claims cfg z) [] ∧
      Ledger h h' (o.claims cfg z) [] := by
  obtain ⟨h1, run, l1, g1⟩ := freeArrays_spec shaped own
  obtain ⟨l2, g2⟩ := drop_own l1.owns
  exact ⟨h1.drop o.block, by simp [outFailFreeSgEntries, run, outFailFree_eq (l1.owns.live
    (List.mem_singleton_self _))], l1.trans own l2, g1.trans g2⟩

theorem sgv_dtor_and_free_spec (shaped : Shaped cfg z o) (bucketed : 0 ≤ o.order_or_pages)
    (own : Owns h (o.claims cfg z)) :
    ∃ h', sgv_dtor_and_free h o = .ok h' ∧ Local h h' (o.claims cfg z) [] ∧
      Ledger h h' (o.claims cfg z) [] := by
  obtain ⟨h1, run, l1, g1⟩ := freeArrays_spec shaped own
  obtain ⟨l2, g2⟩ := drop_own l1.owns
  have live := l1.owns.live (List.mem_singleton_self _)
  rw [own_bucketed bucketed] at live
  exact ⟨h1.drop o.block, by simp [sgv_dtor_and_free, run, Heap.free_of_mem live], l1.trans own l2, g1.trans g2⟩

end Fragments

/-! ### The system -/

section System
variable {cfg z} {m : MemState} {o : ObjMem}

theorem claims_perm (mem : o ∈ m.objs) :
    (m.claims cfg z).Perm (o.claims cfg z ++ m.others cfg z o) := by
  have := ((List.perm_cons_erase mem).flatMap_right (ObjMem.claims cfg z)).append_right m.vectors
  simpa [MemState.claims, MemState.others, List.append_assoc] using this

theorem update_claims (h : Heap) (r : Option ObjMem) :
    (m.update h o r).claims cfg z = r.toList.flatMap (ObjMem.claims cfg z) ++ m.others cfg z o := by
  simp [MemState.update, MemState.claims, MemState.others, List.append_assoc]

theorem Safe.owns_object (safe : Safe cfg z m) (mem : o ∈ m.objs) :
    Owns m.heap (o.claims cfg z ++ m.others cfg z o) :=
  safe.owns.perm (claims_perm mem)

theorem Safe.update (safe : Safe cfg z m) (mem : o ∈ m.objs) {h' : Heap} {r : Option ObjMem}
    {c' : List Block} (l : Local m.heap h' (o.claims cfg z) c')
    (kept : List.Sublist (r.toList.flatMap (ObjMem.claims cfg z)) c') (shaped : ∀ o' ∈ r, Shaped cfg z o') :
    Safe cfg z (m.update h' o r) where
  owns := by
    rw [update_claims]
    exact ((safe.owns_object mem).replace l).sublist (kept.append_right _)
  shaped o' mem' := (List.mem_append.mp mem').elim (fun new => shaped o' (by simpa using new))
    fun old => safe.shaped o' (List.mem_of_mem_erase old)
  vectors := safe.vectors

theorem Safe.add (safe : Safe cfg z m) {h' : Heap} {o' : ObjMem} (l : Local m.heap h' [] (o'.claims cfg z))
    (shaped : Shaped cfg z o') : Safe cfg z { m with heap := h', objs := o' :: m.objs } where
  owns := by simpa [MemState.claims, List.append_assoc] using safe.owns.replace (c := []) l
  shaped o'' mem := (List.mem_cons.mp mem).elim (fun same => same ▸ shaped) (safe.shaped o'')
  vectors := safe.vectors

theorem Safe.owns_own (safe : Safe cfg z m) (mem : o ∈ m.objs) :
    Owns m.heap ([o.own cfg z] ++ o.arrays z) :=
  (safe.owns_object mem).sublist (List.sublist_append_left _ _)

theorem Ptr.claim_kmalloc (len : Nat) (p : Ptr) : ∀ b ∈ p.claim len, b.allocator = .kmalloc := by
  cases p <;> simp [Ptr.claim]

theorem arrays_kmalloc (o : ObjMem) : ∀ b ∈ o.arrays z, b.allocator = .kmalloc := fun b inb =>
  (List.mem_append.mp inb).elim (Ptr.claim_kmalloc _ _ b) (Ptr.claim_kmalloc _ _ b)

theorem lostBy_kmalloc (op : MemOp) : ∀ b ∈ lostBy z op, b.allocator = .kmalloc := by
  cases op <;> first | exact arrays_kmalloc _ | simp [lostBy]

theorem lostBy_of_tidy {op : MemOp} (tidy : Tidy z op) : lostBy z op = [] := by
  cases op <;> first | exact tidy | rfl

theorem stepLedger_of {m' : MemState} {c c' rest lost : List Block} (g : Ledger m.heap m'.heap c c')
    (before : ∀ b ∈ m.claims cfg z, b ∈ c ∨ b ∈ lost ∨ b ∈ rest) (after : c' ++ rest ⊆ m'.claims cfg z) :
    StepLedger cfg z m m' lost := fun blk mem =>
  (g blk mem).elim (fun inc => .inl (after (List.mem_append_left _ inc))) fun ⟨old, out⟩ => by
    by_cases held : blk ∈ m.claims cfg z
    · rcases before blk held with inc | lost | kept
      · exact absurd inc out
      · exact .inr (.inr lost)
      · exact .inl (after (List.mem_append_right _ kept))
    · exact .inr (.inl ⟨old, held⟩)

theorem stepLedger_update (mem : o ∈ m.objs) {h' : Heap} {r : Option ObjMem} {c lost : List Block}
    (g : Ledger m.heap h' c (r.toList.flatMap (ObjMem.claims cfg z)))
    (before : ∀ b ∈ o.claims cfg z, b ∈ c ∨ b ∈ lost) : StepLedger cfg z m (m.update h' o r) lost :=
  stepLedger_of g (fun b held => (List.mem_append.mp ((claims_perm mem).subset held)).elim
    (fun inc => (before b inc).imp_right .inl) (.inr ∘ .inr)) (by rw [update_claims]; exact List.Subset.refl _)

theorem stepLedger_add {h' : Heap} {o' : ObjMem} (g : Ledger m.heap h' [] (o'.claims cfg z)) :
    StepLedger cfg z m { m with heap := h', objs := o' :: m.objs } [] :=
  stepLedger_of g (fun _ held => .inr (.inr held)) fun b inb => by
    simpa [MemState.claims, or_assoc] using inb

theorem StepLedger.noLeak {m' : MemState} (step : StepLedger cfg z m m' []) (held : NoLeak cfg z m) :
    NoLeak cfg z m' := fun blk mem =>
  (step blk mem).elim id fun rest =>
    rest.elim (fun ⟨old, out⟩ => absurd (held old) out) fun lost => absurd lost (List.not_mem_nil _)

theorem StepLedger.slabHeld {m' : MemState} {lost : List Block} (step : StepLedger cfg z m m' lost)
    (arrays : ∀ b ∈ lost, b.allocator = .kmalloc) (held : SlabHeld cfg z m) : SlabHeld cfg z m' :=
  fun blk mem cache => (step blk mem).elim id fun rest =>
    rest.elim (fun ⟨old, out⟩ => absurd (held blk old cache) out) fun lost => absurd (arrays blk lost) cache

/-- Every operation the code can make from a safe state goes through and
leaves the state safe; it loses no block but the arrays on the heap of an
object that the array setup or the bare `out_fail_free` meets. -/
theorem memStep_safe (safe : Safe cfg z m) {op : MemOp} (allowed : Allowed m op) :
    ∃ m', memStep cfg z m op = .ok m' ∧ Safe cfg z m' ∧ StepLedger cfg z m m' (lostBy z op) := by
  have wf := safe.owns.wf
  cases op with
  | get_obj p k ct =>
    refine ⟨_, rfl, safe.add ?_ (newCachedObj_shaped _ _ _ _), stepLedger_add ?_⟩
    · rw [newCachedObj_claims]; exact Local.alloc (Owns.nil wf) _ _
    · rw [newCachedObj_claims]; exact Ledger.alloc _ _
  | alloc_big p pages ct =>
    refine ⟨_, rfl, safe.add ?_ (newBigObj_shaped _ _ allowed _), stepLedger_add ?_⟩
    · rw [newBigObj_claims _ _ allowed]; exact Local.alloc (Owns.nil wf) _ _
    · rw [newBigObj_claims _ _ allowed]; exact Ledger.alloc _ _
  | brand_new o sg_ok tt_ok =>
    obtain ⟨mem, bucketed⟩ := allowed
    have whole := safe.owns_own mem
    obtain ⟨h', r, run, l, g, shaped⟩ :=
      brandNew_spec (safe.shaped o mem) bucketed (whole.sublist (List.sublist_append_left _ _)) sg_ok tt_ok
    exact ⟨_, by simp [memStep, run], safe.update mem (Local.widen whole l) (List.sublist_append_left _ _)
      shaped, stepLedger_update mem g fun b inb => (List.mem_cons.mp inb).imp_left List.mem_singleton.mpr⟩
  | fail_free o =>
    have whole := safe.owns_own allowed
    have own := whole.sublist (List.sublist_append_left _ _)
    obtain ⟨l, g⟩ := drop_own own
    exact ⟨_, by simp [memStep, outFailFree_eq (own.live (List.mem_singleton_self _))],
      safe.update allowed (r := none) (Local.widen whole l) (by simp) (by simp),
      stepLedger_update (r := none) allowed g fun b inb => (List.mem_cons.mp inb).imp_left List.mem_singleton.mpr⟩
  | fail_free_sg_entries o =>
    obtain ⟨h', run, l, g⟩ := outFailFreeSgEntries_spec (safe.shaped o allowed)
      ((safe.owns_object allowed).sublist (List.sublist_append_left _ _))
    exact ⟨_, by simp [memStep, run], safe.update allowed (r := none) l (by simp) (by simp),
      stepLedger_update (r := none) allowed g fun _ => .inl⟩
  | dtor_and_free o =>
    obtain ⟨mem, bucketed⟩ := allowed
    obtain ⟨h', run, l, g⟩ := sgv_dtor_and_free_spec (safe.shaped o mem) bucketed
      ((safe.owns_object mem).sublist (List.sublist_append_left _ _))
    exact ⟨_, by simp [memStep, run], safe.update mem (r := none) l (by simp) (by simp),
      stepLedger_update (r := none) mem g fun _ => .inl⟩
  | free_big o =>
    obtain ⟨mem, big⟩ := allowed
    have shaped := safe.shaped o mem
    simp only [Shaped, show ¬0 ≤ o.order_or_pages by omega, if_false] at shaped
    have bare : o.claims cfg z = [o.own cfg z] := by simp [ObjMem.claims, ObjMem.arrays, shaped.1, shaped.2]
    have own : Owns m.heap [o.own cfg z] := bare ▸ (safe.owns_object mem).sublist (List.sublist_append_left _ _)
    have live := own.live (List.mem_singleton_self _)
    rw [own_big big] at live
    obtain ⟨l, g⟩ := drop_own own
    refine ⟨_, by simp [memStep, kfree, Heap.free_of_mem live], safe.update mem (r := none) (bare ▸ l)
      (by simp) (by simp), stepLedger_update (r := none) mem g fun b inb => .inl (bare ▸ inb)⟩
  | scst_alloc pages fill_ok =>
    let v : Block := ⟨m.heap.next, .kmalloc, pages * z.sg⟩
    have lv := Local.alloc (Owns.nil wf) .kmalloc (pages * z.sg)
    cases fill_ok
    · have gone := Local.drop_last (c := []) lv.owns
      have freed : (m.heap.alloc .kmalloc (pages * z.sg)).1.free .kmalloc m.heap.next =
          .ok ((m.heap.alloc .kmalloc (pages * z.sg)).1.drop m.heap.next) :=
        Heap.free_of_mem (lv.owns.live (List.mem_singleton_self v))
      exact ⟨{ m with heap := (m.heap.alloc .kmalloc (pages * z.sg)).1.drop m.heap.next },
        by simp [memStep, kfree, freed], ⟨safe.owns.replace (c := []) (lv.trans (Owns.nil wf) gone),
        safe.shaped, safe.vectors⟩, stepLedger_of ((Ledger.alloc .kmalloc _).trans (Ledger.drop_last (c := []) v))
          (fun _ held => .inr (.inr held)) fun _ inb => inb⟩
    · have moved : (m.objs.flatMap (ObjMem.claims cfg z) ++ v :: m.vectors).Perm ([v] ++ m.claims cfg z) :=
        List.perm_middle
      refine ⟨{ m with heap := (m.heap.alloc .kmalloc (pages * z.sg)).1, vectors := v :: m.vectors },
        by simp [memStep], ⟨(safe.owns.replace (c := []) lv).perm moved.symm, safe.shaped, ?_⟩,
        stepLedger_of (Ledger.alloc _ _) (fun _ held => .inr (.inr held)) moved.symm.subset⟩
      intro w inw
      exact (List.mem_cons.mp inw).elim (fun same => same ▸ rfl) (safe.vectors w)
  | scst_free v =>
    have moved : (m.claims cfg z).Perm ([v] ++ (m.objs.flatMap (ObjMem.claims cfg z) ++ m.vectors.erase v)) :=
      ((List.perm_cons_erase allowed).append_left _).trans List.perm_middle
    have whole := safe.owns.perm moved
    have own := whole.sublist (List.sublist_append_left _ _)
    have live : v ∈ m.heap.live := own.live (List.mem_singleton_self v)
    have alloc := safe.vectors v allowed
    have freed : m.heap.free .kmalloc v.id = .ok (m.heap.drop v.id) := alloc ▸ Heap.free_of_mem live
    have l := Local.drop_last (c := []) own
    exact ⟨{ m with heap := m.heap.drop v.id, vectors := m.vectors.erase v },
      by simp [memStep, kfree, freed], ⟨whole.replace l, safe.shaped,
      fun w inw => safe.vectors w (List.mem_of_mem_erase inw)⟩,
      stepLedger_of (Ledger.drop_last (c := []) v) (fun b held => List.mem_append.mp (moved.subset held) |>.imp_right .inr)
        fun _ inb => inb⟩

end System

/-- An object of bucket 7 of a clustered pool, above the local order of
`evaluatedConfig`: its 128 entries get a block of their own, its trans_tbl
stays in the object. -/
def order7 : ObjMem := ⟨0, 0, 7, .sgv_full_clustering, .null, .null⟩

def order7Fresh : MemState := ⟨⟨[⟨0, .cache 0 7, 80 + 128 * 4⟩], 1⟩, [order7], []⟩

def order7Set : ObjMem := { order7 with sg_entries := .heap 1, trans_tbl := .data 0 }

/-- After `sgv_get_obj` made `order7` and the cache-miss path set up its
arrays. -/
def order7State : MemState := ⟨⟨[⟨1, .kmalloc, 128 * 32⟩, ⟨0, .cache 0 7, 80 + 128 * 4⟩], 2⟩, [order7Set], []⟩

theorem order7State_reached : MemReach evaluatedConfig sizes80 Allowed order7State :=
  have fresh : MemReach evaluatedConfig sizes80 Allowed order7Fresh :=
    .step .initial (show Allowed _ (.get_obj 0 7 .sgv_full_clustering) from trivial) rfl
  .step fresh (show Allowed _ (.brand_new order7 true true) from ⟨List.mem_singleton_self _, by decide⟩) rfl

theorem order7State_tidy :
    MemReach evaluatedConfig sizes80 (fun m op => Allowed m op ∧ Tidy sizes80 op) order7State :=
  have fresh : MemReach evaluatedConfig sizes80 (fun m op => Allowed m op ∧ Tidy sizes80 op) order7Fresh :=
    .step .initial (show Allowed _ (.get_obj 0 7 .sgv_full_clustering) ∧ Tidy sizes80 _ from ⟨trivial, trivial⟩) rfl
  .step fresh (show Allowed _ (.brand_new order7 true true) ∧ Tidy sizes80 _ from
    ⟨⟨List.mem_singleton_self _, by decide⟩, rfl⟩) rfl


/-! ### Runs -/

section Runs
variable {cfg z} {m : MemState} {o : ObjMem}

theorem initial_safe : Safe cfg z .initial :=
  ⟨⟨fun _ mem => by simp [MemState.initial] at mem, by simp [MemState.initial, MemState.claims],
    by simp [MemState.initial, MemState.claims]⟩, by simp [MemState.initial], by simp [MemState.initial]⟩

theorem MemReach.safe {ok : MemState → MemOp → Prop} (code : ∀ m op, ok m op → Allowed m op)
    (reach : MemReach cfg z ok m) : Safe cfg z m := by
  induction reach with
  | initial => exact initial_safe
  | step _ allowed run safe =>
    obtain ⟨m'', run', safe', -⟩ := memStep_safe safe (code _ _ allowed)
    rw [run] at run'
    cases run'
    exact safe'

/-- From every reachable state, every memory operation the code can make
goes through: no block is freed twice, none through another allocator than
its own, and no pointer into an object is passed to `kfree`. -/
theorem memory_ops_never_fault (reach : MemReach cfg z Allowed m) {op : MemOp} (allowed : Allowed m op) :
    ∃ m', memStep cfg z m op = .ok m' :=
  (memStep_safe (reach.safe fun _ _ a => a) allowed).imp fun _ r => r.1

theorem order7_arrays_set_again :
    MemReach evaluatedConfig sizes80 Allowed order7State ∧
      Allowed order7State (.brand_new order7Set true true) ∧
      ∃ m', memStep evaluatedConfig sizes80 order7State (.brand_new order7Set true true) = .ok m' :=
  have allowed : Allowed order7State (.brand_new order7Set true true) :=
    ⟨List.mem_singleton_self _, by decide⟩
  ⟨order7State_reached, allowed, memory_ops_never_fault order7State_reached allowed⟩

/-- The arrays of a shaped object whose blocks are live hold its entries. -/
theorem Shaped.inBounds {h : Heap} (shaped : Shaped cfg z o) (live : o.claims cfg z ⊆ h.live) :
    InBounds z h o := by
  have ownLive : o.own cfg z ∈ h.live := live (List.mem_cons_self _ _)
  have arrLive : ∀ b ∈ o.arrays z, b ∈ h.live := fun b inb => live (List.mem_cons_of_mem _ inb)
  unfold Shaped at shaped
  split at shaped
  · next bucketed =>
    obtain ⟨k, hk⟩ := Int.eq_ofNat_of_zero_le bucketed
    have pages : o.pages = 2 ^ k := by simp [ObjMem.pages, hk]
    rw [own_bucketed bucketed] at ownLive
    have ttbl : ttblSize z o.clustering_type = if o.clustered then z.tt else 0 := by
      simp [ttblSize, ObjMem.clustered]
    simp only [hk, Int.toNat_ofNat, sgv_pool_init_size, ttbl] at shaped ownLive
    rcases shaped with ⟨sg, tt⟩ | ⟨sg, tt⟩
    · exact ⟨by simp [sg, Ptr.Within], by simp [tt, Ptr.Within], by simp [sg]⟩
    by_cases low : (k : Int) ≤ cfg.sgv_max_local_order
    · rw [if_pos low] at sg ownLive
      have entries : o.sg_entries.Within z h o (o.pages * z.sg) := by
        rw [sg, pages]
        exact ⟨_, ownLive, rfl, by dsimp only; rw [Nat.mul_add]; omega⟩
      cases plain : o.clustered
      · simp only [plain, Bool.not_false, if_true] at tt
        exact ⟨entries, by simp [tt, Ptr.Within], by simp [tt]⟩
      · simp only [plain, Bool.not_true, if_true, if_false, low, Bool.false_eq_true] at tt ownLive
        refine ⟨entries, ?_, by rw [sg, tt, pages]; rintro _ _ ⟨⟩ ⟨⟩; omega⟩
        rw [tt, pages]
        exact ⟨_, ownLive, rfl, by dsimp only; rw [Nat.mul_add]; omega⟩
    · rw [if_neg low] at sg ownLive
      obtain ⟨s, sg⟩ := Ptr.onHeap_iff.mp sg
      have sLive := arrLive ⟨s, .kmalloc, 2 ^ k * z.sg⟩ (by simp [ObjMem.arrays, sg, pages])
      refine ⟨by rw [sg, pages]; exact ⟨_, sLive, rfl, le_rfl⟩, ?_, by simp [sg]⟩
      cases plain : o.clustered
      · simp only [plain, Bool.not_false, if_true] at tt
        simp [tt, Ptr.Within]
      · by_cases mid : (k : Int) ≤ cfg.sgv_max_trans_order
        · simp only [plain, Bool.not_true, if_true, if_false, low, mid, Bool.false_eq_true] at tt ownLive
          rw [tt, pages]
          exact ⟨_, ownLive, rfl, by dsimp only; omega⟩
        · simp only [plain, Bool.not_true, if_false, low, mid, Bool.false_eq_true] at tt
          obtain ⟨t, tt⟩ := Ptr.onHeap_iff.mp tt
          have tLive := arrLive ⟨t, .kmalloc, 2 ^ k * z.tt⟩ (by simp [ObjMem.arrays, tt, pages])
          rw [tt, pages]
          exact ⟨_, tLive, rfl, le_rfl⟩
  · next big =>
    rw [own_big (by omega)] at ownLive
    exact ⟨by rw [shaped.1]; exact ⟨_, ownLive, rfl, le_rfl⟩, by rw [shaped.2]; trivial, by simp [shaped.2]⟩

/-- In every reachable state each live object's arrays hold the entries of
all its pages inside live blocks: the entries and the trans_tbl it keeps in
`sg_entries_data` fit in its slab object, the trans_tbl after the entries,
and the arrays it keeps outside are blocks of their size. -/
theorem arrays_in_bounds (reach : MemReach cfg z Allowed m) (mem : o ∈ m.objs) : InBounds z m.heap o :=
  have safe := reach.safe fun _ _ a => a
  (safe.shaped o mem).inBounds fun _ inb =>
    safe.owns.live (List.mem_append_left _ (List.mem_flatMap.mpr ⟨o, mem, inb⟩))

theorem order7Set_in_bounds :
    MemReach evaluatedConfig sizes80 Allowed order7State ∧ order7Set ∈ order7State.objs ∧
      InBounds sizes80 order7State.heap order7Set :=
  ⟨order7State_reached, List.mem_singleton_self _,
    arrays_in_bounds order7State_reached (List.mem_singleton_self _)⟩

theorem initial_noLeak : NoLeak cfg z .initial := by
  simp [NoLeak, MemState.initial]

/-- As long as the array setup and the bare `out_fail_free` only meet
objects whose arrays are not on the heap, the live blocks are exactly the
blocks the live objects and the vector holders hold. -/
theorem tidy_runs_leak_nothing (reach : MemReach cfg z (fun m op => Allowed m op ∧ Tidy z op) m) :
    ∀ blk, blk ∈ m.heap.live ↔ blk ∈ m.claims cfg z := by
  have safe := reach.safe fun _ _ a => a.1
  have held : NoLeak cfg z m := by
    induction reach with
    | initial => exact initial_noLeak
    | step before allowed run held =>
      obtain ⟨m'', run', -, step⟩ := memStep_safe (before.safe fun _ _ a => a.1) allowed.1
      rw [run] at run'
      cases run'
      rw [lostBy_of_tidy allowed.2] at step
      exact step.noLeak (held (before.safe fun _ _ a => a.1))
  exact fun blk => ⟨fun inb => held inb, fun inb => safe.owns.live inb⟩

theorem order7State_holds_all :
    MemReach evaluatedConfig sizes80 (fun m op => Allowed m op ∧ Tidy sizes80 op) order7State ∧
      ∀ blk, blk ∈ order7State.heap.live ↔ blk ∈ order7State.claims evaluatedConfig sizes80 :=
  ⟨order7State_tidy, tidy_runs_leak_nothing order7State_tidy⟩

theorem Owns.orphan {h : Heap} {c arr rest : List Block} (own : Owns h ((c ++ arr) ++ rest)) {blk : Block}
    (held : blk ∈ arr) : blk ∈ h.live ∧ blk ∉ c ++ rest := by
  refine ⟨own.live (by simp [held]), fun inb => ?_⟩
  have nodup := own.nodup
  simp only [List.map_append, List.nodup_append] at nodup
  rcases List.mem_append.mp inb with old | other
  · exact nodup.1.2.2 (List.mem_map_of_mem _ old) (List.mem_map_of_mem _ held)
  · exact nodup.2.2 (List.mem_append_right _ (List.mem_map_of_mem _ held)) (List.mem_map_of_mem _ other)

/-- The leak: the array setup and the bare `out_fail_free` on an object
that holds arrays on the heap, as a zero-count object does when it comes back
from its cache, lose those arrays. The step goes through, the blocks stay
allocated, and no object or vector holds them. -/
theorem reuse_orphans_arrays (reach : MemReach cfg z Allowed m) (mem : o ∈ m.objs)
    (bucketed : 0 ≤ o.order_or_pages) {blk : Block} (held : blk ∈ o.arrays z) {op : MemOp}
    (reuse : Reuses o op) :
    ∃ m', memStep cfg z m op = .ok m' ∧ blk ∈ m'.heap.live ∧ blk ∉ m'.claims cfg z := by
  have safe := reach.safe fun _ _ a => a
  have whole := safe.owns_own mem
  have own := whole.sublist (List.sublist_append_left _ _)
  cases op <;> simp only [Reuses] at reuse <;> subst reuse
  · rename_i o sg_ok tt_ok
    obtain ⟨h', r, run, l, -, -⟩ := brandNew_spec (safe.shaped o mem) bucketed own sg_ok tt_ok
    refine ⟨m.update h' o r, by simp [memStep, run], ?_⟩
    rw [update_claims]
    exact ((safe.owns_object mem).replace (Local.widen whole l)).orphan held
  · rename_i o
    obtain ⟨l, -⟩ := drop_own own
    refine ⟨m.update (m.heap.drop o.block) o none,
      by simp [memStep, outFailFree_eq (own.live (List.mem_singleton_self _))], ?_⟩
    rw [update_claims]
    exact ((safe.owns_object mem).replace (Local.widen whole l)).orphan held

/-- `order7Set` back from its cache with no pages: the array setup loses its
4 KiB entries block. -/
theorem order7_entries_orphaned :
    MemReach evaluatedConfig sizes80 Allowed order7State ∧ order7Set ∈ order7State.objs ∧
      0 ≤ order7Set.order_or_pages ∧ (⟨1, .kmalloc, 4096⟩ : Block) ∈ order7Set.arrays sizes80 ∧
      Reuses order7Set (.brand_new order7Set true true) ∧
      ∃ m', memStep evaluatedConfig sizes80 order7State (.brand_new order7Set true true) = .ok m' ∧
        (⟨1, .kmalloc, 4096⟩ : Block) ∈ m'.heap.live ∧
        (⟨1, .kmalloc, 4096⟩ : Block) ∉ m'.claims evaluatedConfig sizes80 :=
  have mem : order7Set ∈ order7State.objs := List.mem_singleton_self _
  have held : (⟨1, .kmalloc, 4096⟩ : Block) ∈ order7Set.arrays sizes80 := by decide
  ⟨order7State_reached, mem, by decide, held, rfl,
    reuse_orphans_arrays order7State_reached mem (by decide) held rfl⟩

theorem initial_slabHeld : SlabHeld cfg z .initial := fun _ mem => by simp [MemState.initial] at mem

theorem MemReach.slabHeld (reach : MemReach cfg z Allowed m) : SlabHeld cfg z m := by
  induction reach with
  | initial => exact initial_slabHeld
  | step before allowed run held =>
    obtain ⟨m'', run', -, step⟩ := memStep_safe (before.safe fun _ _ a => a) allowed
    rw [run] at run'
    cases run'
    exact step.slabHeld (lostBy_kmalloc _) held

/-- Objects never leak from their slab caches: in every state the memory
operations reach, whatever arrays were lost on the way, the live blocks of
the cache of order `k` of pool `p` are exactly the blocks of its live
objects. The blocks the code loses are `kmalloc` arrays, never a slab
object, so a cache holds nothing once its objects are freed, which is what
`kmem_cache_destroy` in `sgv_pool_deinit` needs. -/
theorem slab_blocks_are_objects (reach : MemReach cfg z Allowed m) (p k : Nat) {blk : Block}
    (cache : blk.allocator = .cache p k) : blk ∈ m.heap.live ↔ ∃ o ∈ m.objs, o.own cfg z = blk := by
  have safe := reach.safe fun _ _ a => a
  have slab : blk.allocator ≠ .kmalloc := by simp [cache]
  constructor
  · intro live
    rcases List.mem_append.mp (reach.slabHeld blk live slab) with objs | vector
    · obtain ⟨o, mem, inc⟩ := List.mem_flatMap.mp objs
      rcases List.mem_cons.mp inc with own | array
      · exact ⟨o, mem, own.symm⟩
      · exact absurd (arrays_kmalloc o blk array) slab
    · exact absurd (safe.vectors blk vector) slab
  · rintro ⟨o, mem, rfl⟩
    exact safe.owns.live (List.mem_append_left _ (List.mem_flatMap.mpr ⟨o, mem, List.mem_cons_self _ _⟩))

/-- `order7State` after the array setup met `order7Set` again: block 1, its
old entries, is lost, and block 2 holds its entries now. -/
def order7Orphaned : MemState :=
  ⟨⟨[⟨2, .kmalloc, 128 * 32⟩, ⟨1, .kmalloc, 128 * 32⟩, ⟨0, .cache 0 7, 80 + 128 * 4⟩], 3⟩,
    [{ order7Set with sg_entries := .heap 2 }], []⟩

theorem order7Orphaned_reached : MemReach evaluatedConfig sizes80 Allowed order7Orphaned :=
  .step order7State_reached (show Allowed _ (.brand_new order7Set true true) from
    ⟨List.mem_singleton_self _, by decide⟩) rfl

/-- With its old entries lost, the object's slab block is still the one
block of its cache, and it is held. -/
theorem order7Orphaned_slab_blocks :
    MemReach evaluatedConfig sizes80 Allowed order7Orphaned ∧
      (⟨0, .cache 0 7, 80 + 128 * 4⟩ : Block).allocator = .cache 0 7 ∧
      ((⟨0, .cache 0 7, 80 + 128 * 4⟩ : Block) ∈ order7Orphaned.heap.live ↔
        ∃ o ∈ order7Orphaned.objs, o.own evaluatedConfig sizes80 = ⟨0, .cache 0 7, 80 + 128 * 4⟩) :=
  ⟨order7Orphaned_reached, rfl, slab_blocks_are_objects order7Orphaned_reached 0 7 rfl⟩

end Runs

end Objects

end ScstMem.Memory
