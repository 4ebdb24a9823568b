import ScstMem.Alloc

/-! The allocator as a sequential system: every call of the interface runs to
its end before the next starts. `Call.allowed` is what the callers promise:
a size that fits `unsigned int`, freeing only what they hold with the
`scst_mem_lim` they charged, handing back through `*sgv` only an object
returned with `sg_count = 0` for a size of its order, and never letting a
`__GFP_NOFAIL` allocation fail. The purge work runs only while scheduled. -/
namespace ScstMem
open sgv_clustering_types

inductive Call where
  | alloc (a : AllocArgs) (env : AllocEnv)
  | free (id m : Nat)
  | scstAlloc (size : Nat) (no_fail : Bool) (count : Nat) (env : ScstAllocEnv)
  | scstFree (k : Nat)
  | shrink (nr : Int)
  | purge (p : Nat)
  | flush (p : Nat)
  | tick (dt : Nat)
  deriving DecidableEq, Repr

section Run
variable (cfg : Config)

def Call.run (s : SgvState) : Call → SgvState
  | .alloc a env => (sgv_pool_alloc cfg s a env).1
  | .free id m => sgv_pool_free cfg s id m
  | .scstAlloc size no_fail count env => (scst_alloc cfg s size no_fail count env).1
  | .scstFree k => scst_free cfg s k
  | .shrink nr => (sgv_shrink cfg s nr).1
  | .purge p => sgv_purge_work_fn cfg s p
  | .flush p => sgv_pool_flush cfg s p
  | .tick dt => { s with jiffies := s.jiffies + dt }

def Call.allowed (s : SgvState) : Call → Bool
  | .alloc a _ =>
      decide (a.size < 2 ^ 32) &&
        match a.sgv with
        | none => true
        | some id =>
            s.handed.any (·.1 == id) && (s.obj id).sg_count == 0 &&
              (s.obj id).order_or_pages == (get_order cfg a.size : Int) &&
              (s.obj id).owner_pool == a.pool
  | .free id m => s.handed.contains (id, m)
  | .scstAlloc size no_fail _ env =>
      decide (size < 2 ^ 31) &&
        (!no_fail || env.kmalloc_ok && (List.range (lenPages cfg size)).all fun i =>
          (env.pages.getD i none).isSome)
  | .scstFree k => decide (k < s.vectors.length)
  | .purge p => (s.pools p).purge_work_scheduled
  | .shrink _ | .flush _ | .tick _ => true

/-- The states a run from `scst_sgv_pools_init` reaches. -/
inductive Reachable : SgvState → Prop
  | init (ct : Nat → sgv_clustering_types) (limits : Nat → Int) :
      Reachable (SgvState.initial ct limits)
  | step {s : SgvState} {c : Call} : Reachable s → c.allowed cfg s = true → Reachable (c.run cfg s)

def runCalls : SgvState → List Call → SgvState
  | s, [] => s
  | s, c :: cs => runCalls (c.run cfg s) cs

/-- Every call allowed in the state it runs in. -/
def allAllowed : SgvState → List Call → Bool
  | _, [] => true
  | s, c :: cs => c.allowed cfg s && allAllowed (c.run cfg s) cs

theorem reachable_runCalls :
    ∀ {s : SgvState} (cs : List Call), Reachable cfg s → allAllowed cfg s cs = true →
      Reachable cfg (runCalls cfg s cs)
  | _, [], reach, _ => reach
  | _, c :: cs, reach, ok => by
      simp only [allAllowed, Bool.and_eq_true] at ok
      exact reachable_runCalls cs (.step reach ok.1) ok.2

end Run

end ScstMem
