import ScstMem.Basic

/-! Pool names on `sgv_pools_list`. `sgv_pool_init` keeps the first
`sizeof(pool->name) - 1` characters of the name it is given, and
`sgv_pool_create` looks for a pool by comparing the name it is given with each
kept name. The size of `pool->name` is set in scst_mem.h, which is not part of
the source here, so it is the parameter `nameSize`. A C string is the list of
its characters before the NUL; pools are named by their index in `pools`, in
the order `sgv_pool_init` adds them to the tail of the list, and
`sgv_pool_destroy` takes a pool off the list when its last reference goes. -/
namespace ScstMem

/-- What `sgv_pools_list` reads of a pool. -/
structure NamedPool where
  name : List Char
  owner_mm : Nat
  sgv_pool_ref : Nat
  /-- On `sgv_pools_list`. -/
  listed : Bool
  deriving DecidableEq, Repr, Inhabited

structure NameSys where
  pools : List NamedPool
  deriving DecidableEq, Repr

/-- `strncpy(pool->name, name, sizeof(pool->name)-1)` with the NUL written at
the end of the buffer. -/
def storedName (nameSize : Nat) (name : List Char) : List Char := name.take (nameSize - 1)

namespace NameSys
variable (sys : NameSys)

def pool (q : Nat) : NamedPool := sys.pools.getD q default

def setPool (q : Nat) (f : NamedPool → NamedPool) : NameSys :=
  { sys with pools := sys.pools.set q (f (sys.pool q)) }

/-- The three pools `scst_sgv_pools_init` makes, by a thread of `mm`. -/
def initial (nameSize mm : Nat) : NameSys :=
  ⟨[⟨storedName nameSize "sgv".toList, mm, 1, true⟩,
    ⟨storedName nameSize "sgv-clust".toList, mm, 1, true⟩,
    ⟨storedName nameSize "sgv-dma".toList, mm, 1, true⟩]⟩

/-- The first pool on `sgv_pools_list` with `strcmp(pool->name, name) == 0`. -/
def lookup (name : List Char) : Option Nat :=
  (List.range sys.pools.length).find? fun q => (sys.pool q).listed && (sys.pool q).name == name

/-- `sgv_pool_create(name, clustering_type, shared)` by a thread of `mm`; `init_ok`
is whether `kzalloc` and `sgv_pool_init` succeed. A pool of that name is
shared when asked and owned by `mm`, else the call fails; with none, a new
pool keeps the name as `sgv_pool_init` stores it. -/
def sgv_pool_create (nameSize : Nat) (name : List Char) (mm : Nat) (shared init_ok : Bool) :
    NameSys × Option Nat :=
  match sys.lookup name with
  | some q =>
      if shared then
        if (sys.pool q).owner_mm ≠ mm then (sys, none)
        else (sys.setPool q fun p => { p with sgv_pool_ref := p.sgv_pool_ref + 1 }, some q)
      else (sys, none)
  | none =>
      if init_ok then
        ({ sys with pools := sys.pools ++ [⟨storedName nameSize name, mm, 1, true⟩] }, some sys.pools.length)
      else (sys, none)

/-- `sgv_pool_del`: the last reference takes the pool off `sgv_pools_list`. -/
def sgv_pool_del (q : Nat) : NameSys :=
  let sys1 := sys.setPool q fun p => { p with sgv_pool_ref := p.sgv_pool_ref - 1 }
  if (sys1.pool q).sgv_pool_ref = 0 then sys1.setPool q fun p => { p with listed := false } else sys1

end NameSys

inductive NameStep (nameSize : Nat) : NameSys → NameSys → Prop
  | create (sys : NameSys) (name : List Char) (mm : Nat) (shared init_ok : Bool) :
      NameStep nameSize sys (sys.sgv_pool_create nameSize name mm shared init_ok).1
  | del (sys : NameSys) (q : Nat) : (sys.pool q).listed → 0 < (sys.pool q).sgv_pool_ref →
      NameStep nameSize sys (sys.sgv_pool_del q)

/-- From `scst_sgv_pools_init`. -/
inductive NameReach (nameSize mm : Nat) : NameSys → Prop
  | init : NameReach nameSize mm (NameSys.initial nameSize mm)
  | step {sys sys' : NameSys} : NameReach nameSize mm sys → NameStep nameSize sys sys' →
      NameReach nameSize mm sys'

section Names
variable {nameSize : Nat}

theorem storedName_length_lt (pos : 0 < nameSize) (name : List Char) :
    (storedName nameSize name).length < nameSize := by
  simp only [storedName, List.length_take]; omega

@[simp] theorem NamedPool.default_name : (default : NamedPool).name = [] := rfl

theorem NameSys.setPool_name (sys : NameSys) (q r : Nat) {f : NamedPool → NamedPool}
    (keep : ∀ p, (f p).name = p.name) : ((sys.setPool q f).pool r).name = (sys.pool r).name := by
  simp only [NameSys.setPool, NameSys.pool, List.getD_eq_getElem?_getD, List.getElem?_set]
  split
  · next same =>
    subst same
    split
    · next lt => simp [List.getElem?_eq_getElem lt, keep]
    · next ge => simp [List.getElem?_eq_none (Nat.le_of_not_lt ge)]
  · rfl

theorem NameSys.push_pool (l : List NamedPool) (p : NamedPool) (q : Nat) :
    (NameSys.mk (l ++ [p])).pool q =
      if q < l.length then (NameSys.mk l).pool q else if q = l.length then p else default := by
  simp only [NameSys.pool, List.getD_eq_getElem?_getD]
  split
  · next lt => rw [List.getElem?_append_left lt]
  · next ge =>
    rw [List.getElem?_append_right (Nat.le_of_not_lt ge)]
    split
    · next same => subst same; simp
    · next other => rw [List.getElem?_eq_none (by simp; omega)]; rfl

/-- Every name a pool keeps is shorter than the buffer. -/
def NamesFit (nameSize : Nat) (sys : NameSys) : Prop := ∀ q, (sys.pool q).name.length < nameSize

theorem NamesFit.setPool {sys : NameSys} (fit : NamesFit nameSize sys) (q : Nat)
    {f : NamedPool → NamedPool} (keep : ∀ p, (f p).name = p.name) : NamesFit nameSize (sys.setPool q f) :=
  fun r => by rw [NameSys.setPool_name _ _ _ keep]; exact fit r

theorem NamesFit.step (pos : 0 < nameSize) {sys sys' : NameSys} (fit : NamesFit nameSize sys)
    (step : NameStep nameSize sys sys') : NamesFit nameSize sys' := by
  cases step with
  | create name mm shared init_ok =>
    unfold NameSys.sgv_pool_create
    split
    · split
      · split
        · exact fit
        · exact fit.setPool _ (by intro _; rfl)
      · exact fit
    · split
      · intro q
        rw [NameSys.push_pool]
        split
        · exact fit q
        · split
          · exact storedName_length_lt pos name
          · simpa using pos
      · exact fit
  | del q _ _ =>
    unfold NameSys.sgv_pool_del
    dsimp only
    split
    · exact (fit.setPool _ (by intro _; rfl)).setPool _ (by intro _; rfl)
    · exact fit.setPool _ (by intro _; rfl)

theorem NameReach.fit {mm : Nat} (pos : 0 < nameSize) {sys : NameSys} (reach : NameReach nameSize mm sys) :
    NamesFit nameSize sys := by
  induction reach with
  | init =>
    intro q
    simp only [NameSys.initial, NameSys.pool, List.getD_eq_getElem?_getD]
    match q with
    | 0 | 1 | 2 => exact storedName_length_lt pos _
    | _ + 3 => simpa using pos
  | step _ step ih => exact ih.step pos step

theorem NamesFit.lookup_long {sys : NameSys} (fit : NamesFit nameSize sys) {name : List Char}
    (long : nameSize ≤ name.length) : sys.lookup name = none := by
  refine List.find?_eq_none.2 fun q _ => ?_
  have := fit q
  simp only [Bool.and_eq_true, beq_iff_eq, not_and]
  intro _ same
  rw [same] at this; omega

theorem NameSys.create_new (sys : NameSys) {name : List Char} (none_kept : sys.lookup name = none)
    (mm : Nat) (shared : Bool) :
    sys.sgv_pool_create nameSize name mm shared true =
      ({ sys with pools := sys.pools ++ [⟨storedName nameSize name, mm, 1, true⟩] }, some sys.pools.length) := by
  simp [NameSys.sgv_pool_create, none_kept]

/-- Two `sgv_pool_create` calls with one name, at least as long as
`pool->name`, from any state after `scst_sgv_pools_init`: `strcmp` never
finds the full name among the kept ones, so both calls make a pool, and the
two pools on `sgv_pools_list` keep the same name. -/
theorem long_name_kept_twice {mm0 : Nat} (pos : 0 < nameSize) {sys : NameSys}
    (reach : NameReach nameSize mm0 sys) {name : List Char} (long : nameSize ≤ name.length)
    (mm : Nat) (shared : Bool) :
    let first := sys.sgv_pool_create nameSize name mm shared true
    let second := first.1.sgv_pool_create nameSize name mm shared true
    NameReach nameSize mm0 second.1 ∧ first.2 = some sys.pools.length ∧
      second.2 = some (sys.pools.length + 1) ∧
      (second.1.pool sys.pools.length).listed = true ∧
      (second.1.pool (sys.pools.length + 1)).listed = true ∧
      (second.1.pool sys.pools.length).name = (second.1.pool (sys.pools.length + 1)).name := by
  intro first second
  have reach1 : NameReach nameSize mm0 first.1 := .step reach (.create _ name mm shared true)
  have made1 : first = ({ sys with pools := sys.pools ++ [⟨storedName nameSize name, mm, 1, true⟩] },
      some sys.pools.length) := sys.create_new ((reach.fit pos).lookup_long long) mm shared
  have made2 : second = ({ first.1 with pools := first.1.pools ++ [⟨storedName nameSize name, mm, 1, true⟩] },
      some first.1.pools.length) := first.1.create_new ((reach1.fit pos).lookup_long long) mm shared
  refine ⟨.step reach1 (.create _ name mm shared true), by rw [made1], ?_⟩
  rw [made2, made1]
  simp only [NameSys.push_pool, List.length_append, List.length_singleton]
  simp

theorem long_name_kept_twice_after_init :
    0 < 16 ∧ NameReach 16 0 (NameSys.initial 16 0) ∧ 16 ≤ "scst_user_dev_pool_0".toList.length ∧
      let first := (NameSys.initial 16 0).sgv_pool_create 16 "scst_user_dev_pool_0".toList 0 true true
      let second := first.1.sgv_pool_create 16 "scst_user_dev_pool_0".toList 0 true true
      NameReach 16 0 second.1 ∧ first.2 = some (NameSys.initial 16 0).pools.length ∧
        second.2 = some ((NameSys.initial 16 0).pools.length + 1) ∧
        (second.1.pool (NameSys.initial 16 0).pools.length).listed = true ∧
        (second.1.pool ((NameSys.initial 16 0).pools.length + 1)).listed = true ∧
        (second.1.pool (NameSys.initial 16 0).pools.length).name =
          (second.1.pool ((NameSys.initial 16 0).pools.length + 1)).name :=
  ⟨by decide, .init, by decide, long_name_kept_twice (by decide) .init (by decide) 0 true⟩

end Names

end ScstMem
