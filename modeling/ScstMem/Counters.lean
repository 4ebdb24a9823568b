import ScstMem.Reclaim

/-! The two counters scst_mem.c updates without a lock, under concurrent
callers: `mem_lim->alloced_pages`, charged by `sgv_check_allowed_mem`, and
`sgv_pages_total`, gated by `sgv_hiwmk_check`. Threads are not named: a
charge or a check under way is an entry of a list, and a step may finish any
of them. Each model's steps are the source's atomic operations, and a lemma
shows the sequential functions of the model below are those steps run back to
back. -/
namespace ScstMem

/-! ### `scst_mem_lim` -/

/-- One `scst_mem_lim` with the charges under way: `failed` holds the charges
whose `atomic_add_return` found the limit exceeded and whose compensating
`atomic_sub` has not run, `held` the successful charges not given back. -/
structure MemLimSys where
  alloced_pages : Int
  max_allowed_pages : Int
  failed : List Int
  held : List Int
  deriving DecidableEq, Repr

namespace MemLimSys
variable (l : MemLimSys) (pages : Int)

/-- The `atomic_add_return` of `sgv_check_allowed_mem` with its comparison. -/
def charge : MemLimSys :=
  let r := chargeAdd l.alloced_pages l.max_allowed_pages pages
  if r.2 then { l with alloced_pages := r.1, held := pages :: l.held }
  else { l with alloced_pages := r.1, failed := pages :: l.failed }

/-- The `atomic_sub` after a failed charge. -/
def compensate : MemLimSys :=
  { l with alloced_pages := l.alloced_pages - pages, failed := l.failed.erase pages }

/-- `sgv_uncheck_allowed_mem` of a successful charge. -/
def uncharge : MemLimSys :=
  { l with alloced_pages := l.alloced_pages - pages, held := l.held.erase pages }

end MemLimSys

inductive MemLimStep : MemLimSys → MemLimSys → Prop
  | charge (l : MemLimSys) (pages : Int) : 0 ≤ pages → MemLimStep l (l.charge pages)
  | compensate (l : MemLimSys) (pages : Int) : pages ∈ l.failed → MemLimStep l (l.compensate pages)
  | uncharge (l : MemLimSys) (pages : Int) : pages ∈ l.held → MemLimStep l (l.uncharge pages)

/-- Runs from a use within the limit with no charge under way; the charges
held at the start are any of non-negative size. -/
inductive MemLimReach : MemLimSys → Prop
  | init (alloced max_allowed : Int) (held : List Int) :
      alloced ≤ max_allowed → (∀ p ∈ held, 0 ≤ p) → MemLimReach ⟨alloced, max_allowed, [], held⟩
  | step {l l' : MemLimSys} : MemLimReach l → MemLimStep l l' → MemLimReach l'

theorem sgv_check_allowed_mem_steps (s : SgvState) (m : Nat) (pages : Int) (held : List Int) :
    (sgv_check_allowed_mem s m pages).1.alloced_pages m =
      (if (sgv_check_allowed_mem s m pages).2 then
        (MemLimSys.charge ⟨s.alloced_pages m, s.max_allowed_pages m, [], held⟩ pages)
      else (MemLimSys.charge ⟨s.alloced_pages m, s.max_allowed_pages m, [], held⟩ pages).compensate
        pages).alloced_pages := by
  unfold sgv_check_allowed_mem MemLimSys.charge
  by_cases ok : (chargeAdd (s.alloced_pages m) (s.max_allowed_pages m) pages).2 <;>
    simp [ok, MemLimSys.compensate]

structure MemLimInv (l : MemLimSys) : Prop where
  within : l.alloced_pages - l.failed.sum ≤ l.max_allowed_pages
  failed_nonneg : ∀ p ∈ l.failed, 0 ≤ p
  held_nonneg : ∀ p ∈ l.held, 0 ≤ p

theorem MemLimInv.step {l l' : MemLimSys} (inv : MemLimInv l) : MemLimStep l l' → MemLimInv l'
  | .charge _ pages nonneg => by
      have := List.sum_nonneg inv.failed_nonneg
      have := inv.within
      unfold MemLimSys.charge chargeAdd
      dsimp only
      split <;> rename_i ok <;> simp only [Bool.not_eq_true', decide_eq_false_iff_not] at ok
      · exact ⟨by simp only; omega, inv.failed_nonneg, by simpa [nonneg] using inv.held_nonneg⟩
      · exact ⟨by simp only [List.sum_cons]; omega, by simpa [nonneg] using inv.failed_nonneg,
          inv.held_nonneg⟩
  | .compensate _ pages mem => by
      have := List.sum_erase mem
      have := inv.within
      exact ⟨by simp only [MemLimSys.compensate]; omega,
        fun p h => inv.failed_nonneg p (List.mem_of_mem_erase h), inv.held_nonneg⟩
  | .uncharge _ pages mem => by
      have := inv.held_nonneg pages mem
      have := inv.within
      exact ⟨by simp only [MemLimSys.uncharge]; omega, inv.failed_nonneg,
        fun p h => inv.held_nonneg p (List.mem_of_mem_erase h)⟩

theorem MemLimReach.inv {l : MemLimSys} (reach : MemLimReach l) : MemLimInv l := by
  induction reach with
  | init _ _ _ within nonneg => exact ⟨by simpa using within, by simp, nonneg⟩
  | step _ step inv => exact inv.step step

theorem mem_lim_within_after_failed {l : MemLimSys} (reach : MemLimReach l) :
    l.alloced_pages - l.failed.sum ≤ l.max_allowed_pages ∧
      (l.failed = [] → l.alloced_pages ≤ l.max_allowed_pages) := by
  have within := reach.inv.within
  exact ⟨within, fun none => by simpa [none] using within⟩

/-- A failing charge of 5 pages at 8 of 10 leaves 13 pages counted, 10 once
its own 5 are set aside. -/
theorem mem_lim_overshoot_within :
    MemLimReach ((MemLimSys.mk 8 10 [] []).charge 5) ∧
      (((MemLimSys.mk 8 10 [] []).charge 5).alloced_pages -
          ((MemLimSys.mk 8 10 [] []).charge 5).failed.sum ≤
        ((MemLimSys.mk 8 10 [] []).charge 5).max_allowed_pages ∧
      (((MemLimSys.mk 8 10 [] []).charge 5).failed = [] →
        ((MemLimSys.mk 8 10 [] []).charge 5).alloced_pages ≤
          ((MemLimSys.mk 8 10 [] []).charge 5).max_allowed_pages)) :=
  have reach := MemLimReach.step (.init 8 10 [] (by decide) (by simp)) (.charge _ 5 (by decide))
  ⟨reach, mem_lim_within_after_failed reach⟩

/-! ### `sgv_pages_total` and the high watermark -/

/-- `sgv_pages_total` with the checks under way: `windows` holds the
`pages_to_alloc` of every `sgv_hiwmk_check` that has read the total and
decided to go ahead, and whose `atomic_add` has not run. -/
structure WmkSys where
  total : Int
  windows : List Int
  deriving DecidableEq, Repr

namespace WmkSys
variable (cfg : Config) (w : WmkSys) (pages : Int)

/-- The read of `sgv_pages_total` and the decision. Over the mark the shrink
runs by the excess; it is left open how many pages it frees (`freed`), and the
check goes ahead when they cover the excess. -/
def check (freed : Int) : WmkSys :=
  let want := pages + w.total
  if want > cfg.sgv_hi_wmk then
    if want - cfg.sgv_hi_wmk - freed > 0 then { w with total := w.total - freed }
    else ⟨w.total - freed, pages :: w.windows⟩
  else { w with windows := pages :: w.windows }

/-- The `atomic_add` that ends a check. -/
def add : WmkSys := ⟨w.total + pages, w.windows.erase pages⟩

/-- A `sgv_hiwmk_uncheck` of pages charged before, or a purge. -/
def release : WmkSys := { w with total := w.total - pages }

theorem check_cases {freed : Int} (nonneg : 0 ≤ freed) :
    ∃ f, 0 ≤ f ∧
      (w.check cfg pages freed = ⟨w.total - f, w.windows⟩ ∧ cfg.sgv_hi_wmk < pages + (w.total - f) ∨
        w.check cfg pages freed = ⟨w.total - f, pages :: w.windows⟩ ∧
          pages + (w.total - f) ≤ cfg.sgv_hi_wmk) := by
  unfold check
  by_cases over : pages + w.total > cfg.sgv_hi_wmk
  · by_cases short : pages + w.total - cfg.sgv_hi_wmk - freed > 0
    · exact ⟨freed, nonneg, .inl ⟨by simp only [if_pos over, if_pos short], by omega⟩⟩
    · exact ⟨freed, nonneg, .inr ⟨by simp only [if_pos over, if_neg short], by omega⟩⟩
  · exact ⟨0, le_rfl, .inr ⟨by simp [if_neg over], by omega⟩⟩

end WmkSys

/-- The steps of the callers; with `serial`, a check reads the total only when
no other check is between its read and its add. -/
inductive WmkStep (cfg : Config) (serial : Bool) : WmkSys → WmkSys → Prop
  | check (w : WmkSys) (pages freed : Int) : 0 ≤ pages → 0 ≤ freed →
      (serial = true → w.windows = []) → WmkStep cfg serial w (w.check cfg pages freed)
  | add (w : WmkSys) (pages : Int) : pages ∈ w.windows → WmkStep cfg serial w (w.add pages)
  | release (w : WmkSys) (pages : Int) : 0 ≤ pages → WmkStep cfg serial w (w.release pages)

inductive WmkReach (cfg : Config) (serial : Bool) : WmkSys → Prop
  | init (total : Int) : total ≤ cfg.sgv_hi_wmk → WmkReach cfg serial ⟨total, []⟩
  | step {w w' : WmkSys} : WmkReach cfg serial w → WmkStep cfg serial w w' → WmkReach cfg serial w'

theorem sgv_hiwmk_check_steps (cfg : Config) (s : SgvState) (pages : Int) :
    ∃ freed, 0 ≤ freed ∧
      let w := WmkSys.check cfg ⟨s.sgv_pages_total, []⟩ pages freed
      if (sgv_hiwmk_check cfg s pages).2 then
        w.windows = [pages] ∧ (sgv_hiwmk_check cfg s pages).1.sgv_pages_total = (w.add pages).total
      else w.windows = [] ∧ (sgv_hiwmk_check cfg s pages).1.sgv_pages_total = w.total := by
  obtain ⟨freed, nonneg, zero, pass, total⟩ := @sgv_hiwmk_check_spec cfg s pages
  refine ⟨freed, nonneg, ?_⟩
  generalize sgv_hiwmk_check cfg s pages = r at pass total ⊢
  unfold WmkSys.check WmkSys.add
  dsimp only
  by_cases over : pages + s.sgv_pages_total > cfg.sgv_hi_wmk
  · rw [if_pos over]
    cases ok : r.2 <;>
      simp only [ok, Bool.false_eq_true, false_iff, true_iff, if_true, if_false] at pass total ⊢
    · rw [if_pos (by omega)]
      exact ⟨rfl, by simpa using total⟩
    · rw [if_neg (by omega)]
      simp only [List.erase_cons_head, true_and]
      omega
  · obtain rfl := zero (by omega)
    rw [if_neg over]
    cases ok : r.2 <;>
      simp only [ok, Bool.false_eq_true, false_iff, true_iff, if_true, if_false] at pass total ⊢
    · omega
    · simp only [List.erase_cons_head, true_and]
      omega

/-- Two checks that read the total before either adds: 600 pages each under a
mark of 1024. -/
theorem overlapping_checks_pass_hi_wmk :
    WmkReach x86Config false
        ((((WmkSys.mk 0 []).check x86Config 600 0).check x86Config 600 0).add 600 |>.add 600) ∧
      ((((WmkSys.mk 0 []).check x86Config 600 0).check x86Config 600 0).add 600 |>.add 600).windows
        = [] ∧
      x86Config.sgv_hi_wmk <
        ((((WmkSys.mk 0 []).check x86Config 600 0).check x86Config 600 0).add 600 |>.add 600).total :=
  ⟨.step (.step (.step (.step (.init 0 (by decide)) (.check _ 600 0 (by decide) le_rfl nofun))
    (.check _ 600 0 (by decide) le_rfl nofun)) (.add _ 600 (by decide))) (.add _ 600 (by decide)),
    by decide, by decide⟩

/-- With the checks serialized, a total within the mark and at most one check
under way, whose add keeps it within. -/
def WmkInv (cfg : Config) (w : WmkSys) : Prop :=
  match w.windows with
  | [] => w.total ≤ cfg.sgv_hi_wmk
  | [pages] => w.total + pages ≤ cfg.sgv_hi_wmk
  | _ :: _ :: _ => False

theorem WmkInv.step {cfg : Config} {w w' : WmkSys} (inv : WmkInv cfg w) :
    WmkStep cfg true w w' → WmkInv cfg w'
  | .check _ pages freed _ nonneg idle => by
      rw [WmkInv, idle rfl] at inv
      obtain ⟨f, fnn, ⟨eq, -⟩ | ⟨eq, fits⟩⟩ := WmkSys.check_cases cfg w pages nonneg <;>
        simp only [eq, WmkInv, idle rfl] <;> omega
  | .add _ pages mem => by
      unfold WmkInv at inv
      rcases windows : w.windows with _ | ⟨p, _ | ⟨q, rest⟩⟩ <;>
        simp only [windows, List.mem_singleton, List.not_mem_nil] at inv mem
      simpa [WmkInv, WmkSys.add, windows, mem] using inv
  | .release _ pages nonneg => by
      unfold WmkInv at inv ⊢
      rcases windows : w.windows with _ | ⟨p, _ | ⟨q, rest⟩⟩ <;>
        simp only [windows, WmkSys.release] at inv ⊢ <;> omega

theorem WmkReach.inv {cfg : Config} {w : WmkSys} (reach : WmkReach cfg true w) : WmkInv cfg w := by
  induction reach with
  | init _ within => exact within
  | step _ step inv => exact inv.step step

theorem serial_checks_within_hi_wmk {cfg : Config} {w : WmkSys} (reach : WmkReach cfg true w)
    (idle : w.windows = []) : w.total ≤ cfg.sgv_hi_wmk := by
  have inv := reach.inv
  rwa [WmkInv, idle] at inv

/-- One check of 600 pages from 500 under a mark of 1024, its shrink freeing
100, then its add. -/
theorem serial_check_within_hi_wmk :
    WmkReach x86Config true (((WmkSys.mk 500 []).check x86Config 600 100).add 600) ∧
      (((WmkSys.mk 500 []).check x86Config 600 100).add 600).windows = [] ∧
      (((WmkSys.mk 500 []).check x86Config 600 100).add 600).total ≤ x86Config.sgv_hi_wmk :=
  have reach := WmkReach.step (.step (.init 500 (by decide))
    (.check _ 600 100 (by decide) (by decide) fun _ => rfl)) (.add _ 600 (by decide))
  ⟨reach, by decide, serial_checks_within_hi_wmk reach (by decide)⟩

end ScstMem
