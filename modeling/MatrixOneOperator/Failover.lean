import MatrixOneOperator.Go

/-!
# The failover tracker

`FailoverStatus.StoresFailedFor`; `clock i` is what the loop's `i`-th call of `time.Now()` returns.
-/

namespace MatrixOneOperator

/-- `v1alpha1.Store`, with the one field the query reads. -/
structure Store where
  lastTransitionTime : Time
  deriving DecidableEq, Repr

structure FailoverStatus where
  failedStores : List Store := []
  deriving DecidableEq, Repr

/-- The loop of `StoresFailedFor` over `stores`, from the `i`-th reading of the clock on. -/
def storesFailedFrom (clock : Nat → Time) (d : Duration) : Nat → List Store → List Store
  | _, [] => []
  | i, store :: stores =>
    if (clock i).sub store.lastTransitionTime ≥ d then store :: storesFailedFrom clock d (i + 1) stores
    else storesFailedFrom clock d (i + 1) stores

def FailoverStatus.storesFailedFor (clock : Nat → Time) (s : FailoverStatus) (d : Duration) :
    List Store :=
  storesFailedFrom clock d 0 s.failedStores

/-- The stores of `stores` failed for at least `d` at the instant `now`. -/
def failedAt (now : Time) (d : Duration) (stores : List Store) : List Store :=
  stores.filter fun store => now.sub store.lastTransitionTime ≥ d

theorem storesFailedFrom_eq (clock : Nat → Time) (d : Duration) (i : Nat) (stores : List Store) :
    storesFailedFrom clock d i stores =
      ((stores.enumFrom i).filter fun p => (clock p.1).sub p.2.lastTransitionTime ≥ d).map (·.2) := by
  induction stores generalizing i with
  | nil => rfl
  | cons store stores ih =>
    by_cases h : (clock i).sub store.lastTransitionTime ≥ d <;>
      simp [storesFailedFrom, List.enumFrom_cons, List.filter_cons, ih, h]

theorem storesFailedFor_eq (clock : Nat → Time) (s : FailoverStatus) (d : Duration) :
    s.storesFailedFor clock d =
      ((s.failedStores.enum).filter fun p => (clock p.1).sub p.2.lastTransitionTime ≥ d).map (·.2) :=
  storesFailedFrom_eq clock d 0 s.failedStores

theorem mem_failedAt_of_le {now : Time} {d : Duration} {stores : List Store} {a b : Store}
    (hb : b ∈ failedAt now d stores) (ha : a ∈ stores)
    (hle : a.lastTransitionTime.ns ≤ b.lastTransitionTime.ns) : a ∈ failedAt now d stores := by
  simp only [failedAt, List.mem_filter, decide_eq_true_eq] at hb ⊢
  exact ⟨ha, le_trans hb.2 (Time.sub_mono (le_refl now.ns) hle)⟩

/-- A clock that reads the same instant at every call gives the stores failed for `d`
at that instant, in list order, and with each of them every store that failed no later. -/
theorem storesFailedFor_of_const (now : Time) (s : FailoverStatus) (d : Duration) :
    s.storesFailedFor (fun _ => now) d = failedAt now d s.failedStores ∧
    ∀ a b, b ∈ s.storesFailedFor (fun _ => now) d → a ∈ s.failedStores →
      a.lastTransitionTime.ns ≤ b.lastTransitionTime.ns → a ∈ s.storesFailedFor (fun _ => now) d := by
  have h : s.storesFailedFor (fun _ => now) d = failedAt now d s.failedStores := by
    unfold FailoverStatus.storesFailedFor failedAt
    generalize 0 = i
    induction s.failedStores generalizing i with
    | nil => rfl
    | cons store stores ih =>
      by_cases h : now.sub store.lastTransitionTime ≥ d <;>
        simp [storesFailedFrom, List.filter_cons, ih, h]
  rw [h]
  exact ⟨rfl, fun a b hb ha hle => mem_failedAt_of_le hb ha hle⟩

/-- A clock that never runs backwards. -/
def ClockMonotone (clock : Nat → Time) : Prop := ∀ i j, i ≤ j → (clock i).ns ≤ (clock j).ns

/-- Two stores failed at 0 ns and 1 ns, a threshold of 5 ns and a clock that reads 4 ns
then 6 ns: the query returns the later failure only, which no single instant does. -/
theorem storesFailedFor_skips_earlier_failure :
    ClockMonotone (fun i => ⟨4 + 2 * i⟩) ∧
    ({ failedStores := [⟨⟨0⟩⟩, ⟨⟨1⟩⟩] } : FailoverStatus).storesFailedFor
      (fun i => ⟨4 + 2 * i⟩) 5 = [⟨⟨1⟩⟩] ∧
    ∀ now : Time, failedAt now 5 [⟨⟨0⟩⟩, ⟨⟨1⟩⟩] ≠ [⟨⟨1⟩⟩] := by
  refine ⟨fun i j h => by simp only; omega, by decide, fun now h => ?_⟩
  have h0 := mem_failedAt_of_le (h ▸ List.mem_singleton_self _ : (⟨⟨1⟩⟩ : Store) ∈ failedAt now 5 _)
    (List.mem_cons_self ⟨⟨0⟩⟩ _) (by decide)
  rw [h] at h0
  simp at h0

/-! ## A clock that never runs backwards -/

theorem failedAt_cons (now : Time) (d : Duration) (store : Store) (stores : List Store) :
    failedAt now d (store :: stores) =
      if now.sub store.lastTransitionTime ≥ d then store :: failedAt now d stores
      else failedAt now d stores := by
  by_cases h : now.sub store.lastTransitionTime ≥ d <;> simp [failedAt, List.filter_cons, h]

/-- A clock that reads no earlier at each of the loop's calls keeps every store the
other clock keeps. -/
theorem storesFailedFrom_mono {clock clock' : Nat → Time} {d : Duration} {i : Nat}
    {stores : List Store} (h : ∀ j, i ≤ j → j < i + stores.length → (clock j).ns ≤ (clock' j).ns) :
    (storesFailedFrom clock d i stores).Sublist (storesFailedFrom clock' d i stores) := by
  induction stores generalizing i with
  | nil => exact List.Sublist.slnil
  | cons store stores ih =>
    have ih' := @ih (i + 1) fun j hj hj' => h j (by omega) (by simp only [List.length_cons]; omega)
    rw [storesFailedFrom, storesFailedFrom]
    by_cases hf : (clock i).sub store.lastTransitionTime ≥ d
    · have hi : (clock i).ns ≤ (clock' i).ns := h i le_rfl (by simp)
      rw [if_pos hf, if_pos (le_trans hf (Time.sub_mono hi le_rfl))]
      exact ih'.cons₂ store
    · rw [if_neg hf]
      split
      · exact ih'.cons store
      · exact ih'

theorem storesFailedFrom_const (now : Time) (d : Duration) (i : Nat) (stores : List Store) :
    storesFailedFrom (fun _ => now) d i stores = failedAt now d stores := by
  induction stores generalizing i with
  | nil => rfl
  | cons store stores ih => rw [storesFailedFrom, failedAt_cons, ih]

/-- With a clock that never runs backwards, the query returns every store already failed
for `d` at its first reading, and only stores failed for `d` at its last. -/
theorem storesFailedFor_between {clock : Nat → Time} (hc : ClockMonotone clock)
    (s : FailoverStatus) (d : Duration) :
    (failedAt (clock 0) d s.failedStores).Sublist (s.storesFailedFor clock d) ∧
      (s.storesFailedFor clock d).Sublist
        (failedAt (clock (s.failedStores.length - 1)) d s.failedStores) :=
  ⟨storesFailedFrom_const (clock 0) d 0 s.failedStores ▸
      storesFailedFrom_mono fun j _ _ => hc 0 j (Nat.zero_le j),
    storesFailedFrom_const _ d 0 s.failedStores ▸
      storesFailedFrom_mono fun j _ hj => hc j _ (by omega)⟩

theorem storesFailedFor_between_ticking :
    let clock : Nat → Time := fun i => ⟨4 + 2 * i⟩
    let s : FailoverStatus := { failedStores := [⟨⟨0⟩⟩, ⟨⟨1⟩⟩] }
    ClockMonotone clock ∧
      (failedAt (clock 0) 5 s.failedStores).Sublist (s.storesFailedFor clock 5) ∧
      (s.storesFailedFor clock 5).Sublist
        (failedAt (clock (s.failedStores.length - 1)) 5 s.failedStores) := by
  intro clock s
  have hc : ClockMonotone clock := fun i j h => by simp only [clock]; omega
  exact ⟨hc, storesFailedFor_between hc s 5⟩

end MatrixOneOperator
