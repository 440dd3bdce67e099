import MatrixOneOperator.Go

/-!
# Status conditions

`ConditionalStatus.SetCondition` and the `meta.SetStatusCondition` it calls; `now` is the
reading of `time.Now()` each call makes, and a nil slice is the empty list.
-/

namespace MatrixOneOperator

/-- `metav1.Condition`. -/
structure Condition where
  type : String
  status : String
  observedGeneration : Int := 0
  lastTransitionTime : Time := ⟨0⟩
  reason : String := ""
  message : String := ""
  deriving DecidableEq, Repr

/-- The reason `SetCondition` writes in place of an empty one. -/
def reasonEmpty : String := "empty"

/-- The in-place update `SetStatusCondition` makes to the existing entry of the new
condition's type. -/
def updateCondition (now : Time) (existing new : Condition) : Condition :=
  { existing with
    status := new.status
    lastTransitionTime :=
      if existing.status ≠ new.status then
        if new.lastTransitionTime.isZero then now else new.lastTransitionTime
      else existing.lastTransitionTime
    reason := new.reason
    message := new.message
    observedGeneration := new.observedGeneration }

/-- The entry `SetStatusCondition` appends for a new type, stamped `now` unless the
condition carries its own transition time. -/
def appendedCondition (now : Time) (new : Condition) : Condition :=
  { new with
    lastTransitionTime := if new.lastTransitionTime.isZero then now else new.lastTransitionTime }

/-- `meta.SetStatusCondition`. -/
def setStatusCondition (now : Time) : List Condition → Condition → List Condition
  | [], new => [appendedCondition now new]
  | c :: cs, new =>
    if c.type = new.type then updateCondition now c new :: cs
    else c :: setStatusCondition now cs new

structure ConditionalStatus where
  conditions : List Condition := []
  deriving DecidableEq, Repr

/-- `reason`, or the sentinel `empty` when it is unset. -/
def defaultReason (reason : String) : String := if reason = "" then reasonEmpty else reason

def ConditionalStatus.setCondition (now : Time) (s : ConditionalStatus) (condition : Condition) :
    ConditionalStatus :=
  { s with conditions :=
      setStatusCondition now s.conditions { condition with reason := defaultReason condition.reason } }

/-- `(*ConditionalStatus).GetConditions`, nil-safe. -/
def ConditionalStatus.getConditions : Option ConditionalStatus → List Condition
  | none => []
  | some s => s.conditions

/-- The entry a call leaves for its own type carries the call's fields. -/
structure Condition.Carries (e new : Condition) : Prop where
  type : e.type = new.type
  status : e.status = new.status
  reason : e.reason = new.reason
  message : e.message = new.message
  observedGeneration : e.observedGeneration = new.observedGeneration

theorem Condition.carries_appendedCondition (now : Time) (new : Condition) :
    (appendedCondition now new).Carries new :=
  ⟨rfl, rfl, rfl, rfl, rfl⟩

theorem Condition.carries_updateCondition (now : Time) (e new : Condition)
    (h : e.type = new.type) : (updateCondition now e new).Carries new :=
  ⟨h, rfl, rfl, rfl, rfl⟩

theorem updateCondition_of_carries {e new : Condition} (h : e.Carries new) (now : Time) :
    updateCondition now e new = e := by
  obtain ⟨_, hs, hr, hm, hg⟩ := h
  cases e
  simp_all [updateCondition]

theorem updateCondition_lastTransitionTime {e new : Condition} (h : e.status = new.status)
    (now : Time) : (updateCondition now e new).lastTransitionTime = e.lastTransitionTime := by
  simp [updateCondition, h]

/-! ## One call -/

theorem map_type_setStatusCondition (now : Time) (cs : List Condition) (new : Condition) :
    (setStatusCondition now cs new).map (·.type) =
      if new.type ∈ cs.map (·.type) then cs.map (·.type) else cs.map (·.type) ++ [new.type] := by
  induction cs with
  | nil => simp [setStatusCondition, appendedCondition]
  | cons c cs ih =>
    by_cases h : c.type = new.type
    · simp [setStatusCondition, h, updateCondition]
    · by_cases hn : new.type ∈ cs.map (·.type) <;>
        simp [setStatusCondition, h, ih, hn, Ne.symm h]

theorem mem_setStatusCondition {now : Time} {cs : List Condition} {new e : Condition}
    (h : e ∈ setStatusCondition now cs new) : e ∈ cs ∨ e.Carries new := by
  induction cs with
  | nil =>
    simp only [setStatusCondition, List.mem_singleton] at h
    exact .inr (h ▸ Condition.carries_appendedCondition now new)
  | cons c cs ih =>
    simp only [setStatusCondition] at h
    split at h
    · rcases List.mem_cons.1 h with rfl | h
      · exact .inr (Condition.carries_updateCondition now c new ‹_›)
      · exact .inl (List.mem_cons_of_mem c h)
    · rcases List.mem_cons.1 h with rfl | h
      · exact .inl (List.mem_cons_self _ _)
      · exact (ih h).imp_left (List.mem_cons_of_mem c)

theorem findKey_setStatusCondition (now : Time) (cs : List Condition) (new : Condition)
    (t : String) :
    (∃ e, findKey (·.type) (setStatusCondition now cs new) new.type = some e ∧ e.Carries new) ∧
    (t ≠ new.type →
      findKey (·.type) (setStatusCondition now cs new) t = findKey (·.type) cs t) := by
  induction cs with
  | nil =>
    refine ⟨⟨appendedCondition now new, by simp [setStatusCondition, findKey_cons, appendedCondition],
      Condition.carries_appendedCondition now new⟩, fun ht => ?_⟩
    simp [setStatusCondition, findKey_cons, appendedCondition, Ne.symm ht]
  | cons c cs ih =>
    by_cases h : c.type = new.type
    · refine ⟨⟨_, by simp [setStatusCondition, findKey_cons, h, updateCondition],
        Condition.carries_updateCondition now c new h⟩, fun ht => ?_⟩
      simp [setStatusCondition, findKey_cons, h, updateCondition, Ne.symm ht]
    · obtain ⟨⟨e, he, hc⟩, hne⟩ := ih
      refine ⟨⟨e, by simp [setStatusCondition, findKey_cons, h, he], hc⟩, fun ht => ?_⟩
      simp [setStatusCondition, findKey_cons, h, hne ht]

theorem getElem?_setStatusCondition (now : Time) (cs : List Condition) (new : Condition)
    {i : Nat} (hi : i < cs.length) :
    (setStatusCondition now cs new)[i]? = some cs[i] ∨
      (cs[i].type = new.type ∧ (setStatusCondition now cs new)[i]? = some (updateCondition now cs[i] new)) := by
  induction cs generalizing i with
  | nil => simp at hi
  | cons c cs ih =>
    by_cases h : c.type = new.type
    · cases i <;> simp [setStatusCondition, h]
    · cases i with
      | zero => simp [setStatusCondition, h]
      | succ i => simpa [setStatusCondition, h] using ih (Nat.lt_of_succ_lt_succ hi)

theorem setStatusCondition_idem (now now' : Time) (cs : List Condition) (new : Condition) :
    setStatusCondition now' (setStatusCondition now cs new) new = setStatusCondition now cs new := by
  induction cs with
  | nil =>
    simp only [setStatusCondition, appendedCondition, if_true]
    exact congrArg (· :: [])
      (updateCondition_of_carries (Condition.carries_appendedCondition now new) now')
  | cons c cs ih =>
    by_cases h : c.type = new.type
    · simp only [setStatusCondition, h, if_true, updateCondition_of_carries
        (Condition.carries_updateCondition now c new h)]
      simp [updateCondition, h]
    · simp [setStatusCondition, h, ih]

/-- One `SetCondition` call moves no entry of another type, keeps the transition time of
every entry whose status it does not change, and a second identical call changes
nothing, whatever the clock reads then. -/
theorem setCondition_frame (now : Time) (s : ConditionalStatus) (c : Condition) :
    (∀ i (hi : i < s.conditions.length), s.conditions[i].type ≠ c.type →
      (s.setCondition now c).conditions[i]? = some s.conditions[i]) ∧
    (∀ i (hi : i < s.conditions.length), s.conditions[i].status = c.status →
      ((s.setCondition now c).conditions[i]?).map (·.lastTransitionTime) =
        some s.conditions[i].lastTransitionTime) ∧
    (∀ now', (s.setCondition now c).setCondition now' c = s.setCondition now c) := by
  refine ⟨fun i hi ht => ?_, fun i hi hs => ?_, fun now' => ?_⟩
  · rcases getElem?_setStatusCondition now s.conditions
      { c with reason := defaultReason c.reason } hi with h | ⟨h, -⟩
    · exact h
    · exact absurd h ht
  · rcases getElem?_setStatusCondition now s.conditions
      { c with reason := defaultReason c.reason } hi with h | ⟨-, h⟩
    · simp [ConditionalStatus.setCondition, h]
    · simp only [ConditionalStatus.setCondition, h, Option.map_some']
      exact congrArg some
        (@updateCondition_lastTransitionTime _ { c with reason := defaultReason c.reason } hs now)
  · simp only [ConditionalStatus.setCondition, defaultReason]
    split_ifs <;> simp [reasonEmpty, setStatusCondition_idem]

/-! ## Runs of calls -/

/-- A run of `SetCondition` calls, each with the clock reading it makes. -/
def ConditionalStatus.setConditions (s : ConditionalStatus) (calls : List (Time × Condition)) :
    ConditionalStatus :=
  calls.foldl (fun s call => s.setCondition call.1 call.2) s

/-- One entry per condition type, and none without a reason. -/
structure ConditionalStatus.WellFormed (s : ConditionalStatus) : Prop where
  nodup : (s.conditions.map (·.type)).Nodup
  reasons : ∀ e ∈ s.conditions, e.reason ≠ ""

theorem defaultReason_ne_empty (reason : String) : defaultReason reason ≠ "" := by
  unfold defaultReason reasonEmpty
  split <;> simp_all

theorem ConditionalStatus.WellFormed.setCondition {s : ConditionalStatus} (hs : s.WellFormed)
    (now : Time) (c : Condition) : (s.setCondition now c).WellFormed where
  nodup := by
    simp only [ConditionalStatus.setCondition, map_type_setStatusCondition]
    split
    · exact hs.nodup
    · exact List.nodup_append.2 ⟨hs.nodup, List.nodup_singleton _, by simp_all⟩
  reasons e he := by
    rcases mem_setStatusCondition he with he | he
    · exact hs.reasons e he
    · rw [he.reason]; exact defaultReason_ne_empty c.reason

theorem ConditionalStatus.WellFormed.setConditions {s : ConditionalStatus} (hs : s.WellFormed)
    (calls : List (Time × Condition)) : (s.setConditions calls).WellFormed := by
  induction calls generalizing s with
  | nil => exact hs
  | cons call calls ih => exact ih (hs.setCondition call.1 call.2)

theorem findKey_setConditions (s : ConditionalStatus) (calls : List (Time × Condition))
    (t : String) (c : Condition) (hc : findKey (·.type) (calls.map (·.2)).reverse t = some c) :
    ∃ e, findKey (·.type) (s.setConditions calls).conditions t = some e ∧
      e.Carries { c with reason := defaultReason c.reason } := by
  induction calls using List.reverseRecOn with
  | nil => simp at hc
  | append_singleton calls call ih =>
    simp only [List.map_append, List.map_cons, List.map_nil, List.reverse_append,
      List.reverse_cons, List.reverse_nil, List.nil_append, List.singleton_append,
      findKey_cons] at hc
    simp only [ConditionalStatus.setConditions, List.foldl_append, List.foldl_cons,
      List.foldl_nil, ConditionalStatus.setCondition] at ih ⊢
    split at hc
    · rename_i ht
      cases hc
      rw [← ht]
      exact (findKey_setStatusCondition call.1 _ _ call.2.type).1
    · rw [(findKey_setStatusCondition call.1 _ _ t).2 (Ne.symm ‹_›)]
      exact ih hc

/-- Every run from a well-formed status keeps one entry per type, each with a reason,
and leaves each type set during the run with the fields of its latest call. -/
theorem setCondition_run (s : ConditionalStatus) (hs : s.WellFormed)
    (calls : List (Time × Condition)) :
    (s.setConditions calls).WellFormed ∧
    ∀ t c, findKey (·.type) (calls.map (·.2)).reverse t = some c →
      ∃ e, findKey (·.type) (s.setConditions calls).conditions t = some e ∧
        e.Carries { c with reason := defaultReason c.reason } :=
  ⟨hs.setConditions calls, findKey_setConditions s calls⟩

theorem setCondition_run_from_empty :
    ({} : ConditionalStatus).WellFormed ∧
    (({} : ConditionalStatus).setConditions
      [(⟨1⟩, { type := "Ready", status := "False" }),
       (⟨2⟩, { type := "Ready", status := "True", reason := "Up" })]).WellFormed :=
  have h : ({} : ConditionalStatus).WellFormed := ⟨List.nodup_nil, by simp⟩
  ⟨h, (setCondition_run {} h _).1⟩

/-! ## What a run shows of one type

`view` reads a status through one condition type; seen so, a run is `viewStep` folded over
the calls of that type alone.
-/

/-- The transition time a call writes when it changes a status or adds a type: its own,
or `now` when it carries none. -/
def transitionStamp (now : Time) (c : Condition) : Time :=
  if c.lastTransitionTime.isZero then now else c.lastTransitionTime

/-- The status and transition time a status shows for type `t`. -/
def ConditionalStatus.view (s : ConditionalStatus) (t : String) : Option (String × Time) :=
  (findKey (·.type) s.conditions t).map fun e => (e.status, e.lastTransitionTime)

/-- One call, seen through its own type: the status becomes the call's, and the
transition time moves to the call's stamp when the status changes or the type is new. -/
def viewStep : Option (String × Time) → Time × Condition → Option (String × Time)
  | some (status, ltt), call =>
    if status = call.2.status then some (status, ltt)
    else some (call.2.status, transitionStamp call.1 call.2)
  | none, call => some (call.2.status, transitionStamp call.1 call.2)

theorem viewStep_status (v : Option (String × Time)) (call : Time × Condition) :
    (viewStep v call).map Prod.fst = some call.2.status := by
  unfold viewStep
  split
  · split_ifs <;> simp_all
  · rfl

theorem viewStep_of_ne {v : Option (String × Time)} {call : Time × Condition}
    (h : v.map Prod.fst ≠ some call.2.status) :
    viewStep v call = some (call.2.status, transitionStamp call.1 call.2) := by
  unfold viewStep
  split
  · simp_all
  · rfl

theorem findKey_setStatusCondition_self (now : Time) (cs : List Condition) (new : Condition) :
    findKey (·.type) (setStatusCondition now cs new) new.type =
      some ((findKey (·.type) cs new.type).elim (appendedCondition now new)
        (updateCondition now · new)) := by
  induction cs with
  | nil => simp [setStatusCondition, findKey_cons, appendedCondition]
  | cons c cs ih =>
    by_cases h : c.type = new.type
    · simp [setStatusCondition, findKey_cons, h, updateCondition]
    · simp [setStatusCondition, findKey_cons, h, ih]

theorem view_setCondition (s : ConditionalStatus) (now : Time) (c : Condition) (t : String) :
    (s.setCondition now c).view t = if c.type = t then viewStep (s.view t) (now, c) else s.view t := by
  unfold ConditionalStatus.view ConditionalStatus.setCondition
  split
  · subst t
    rw [findKey_setStatusCondition_self now s.conditions { c with reason := defaultReason c.reason }]
    cases findKey (·.type) s.conditions c.type with
    | none => rfl
    | some e =>
      simp only [Option.elim, Option.map_some', Option.map_some, viewStep, updateCondition,
        transitionStamp]
      split_ifs <;> simp_all
  · rw [(findKey_setStatusCondition now _ _ t).2 (Ne.symm ‹_›)]

/-- Seen through one type, a run is `viewStep` over the calls of that type alone: calls
of other types never change what a status shows for it. -/
theorem view_setConditions (s : ConditionalStatus) (calls : List (Time × Condition)) (t : String) :
    (s.setConditions calls).view t = (calls.filter (·.2.type = t)).foldl viewStep (s.view t) := by
  induction calls generalizing s with
  | nil => rfl
  | cons call calls ih =>
    show ((s.setCondition call.1 call.2).setConditions calls).view t = _
    rw [ih, view_setCondition]
    by_cases h : call.2.type = t <;> simp [List.filter_cons, h]

theorem foldl_viewStep_of_status {ts : List (Time × Condition)} {status : String}
    (h : ∀ call ∈ ts, call.2.status = status) (ltt : Time) :
    ts.foldl viewStep (some (status, ltt)) = some (status, ltt) := by
  induction ts with
  | nil => rfl
  | cons call ts ih =>
    rw [List.foldl_cons, viewStep, if_pos (h call (List.mem_cons_self _ _)).symm]
    exact ih fun c hc => h c (List.mem_cons_of_mem _ hc)

theorem foldl_viewStep_status (ts : List (Time × Condition)) (v : Option (String × Time)) :
    (ts.foldl viewStep v).map Prod.fst = (ts.getLast?.map (·.2.status)).or (v.map Prod.fst) := by
  rcases List.eq_nil_or_concat ts with rfl | ⟨ts, call, rfl⟩
  · rfl
  · simp [viewStep_status]

/-- After a run, a type's transition time is the stamp of the last call of that type whose
status differs from the one before it, and is unchanged when no call changes the status. -/
theorem setConditions_lastTransitionTime (s : ConditionalStatus) (calls : List (Time × Condition))
    (t : String) :
    (∀ pre now c post, calls.filter (·.2.type = t) = pre ++ (now, c) :: post →
      (pre.getLast?.map (·.2.status)).or ((s.view t).map Prod.fst) ≠ some c.status →
      (∀ call ∈ post, call.2.status = c.status) →
      (s.setConditions calls).view t = some (c.status, transitionStamp now c)) ∧
    (∀ status ltt, s.view t = some (status, ltt) →
      (∀ call ∈ calls, call.2.type = t → call.2.status = status) →
      (s.setConditions calls).view t = some (status, ltt)) := by
  refine ⟨fun pre now c post hsplit hchange hsame => ?_, fun status ltt hv hsame => ?_⟩
  · rw [view_setConditions, hsplit, List.foldl_append, List.foldl_cons,
      viewStep_of_ne (by rwa [foldl_viewStep_status])]
    exact foldl_viewStep_of_status hsame _
  · rw [view_setConditions, hv]
    exact foldl_viewStep_of_status (fun call hc => by
      rw [List.mem_filter, decide_eq_true_eq] at hc
      exact hsame call hc.1 hc.2) _

/-- `Ready` turns `True` at 3 ns; the later `True` call at 4 ns and the call of another
type keep that time. -/
theorem setConditions_lastTransitionTime_ready :
    let ready : Condition := { type := "Ready", status := "True" }
    let calls : List (Time × Condition) := [(⟨1⟩, { type := "Ready", status := "False" }),
      (⟨2⟩, { type := "Synced", status := "True" }), (⟨3⟩, ready), (⟨4⟩, ready)]
    calls.filter (·.2.type = "Ready") =
        [(⟨1⟩, { type := "Ready", status := "False" })] ++ (⟨3⟩, ready) :: [(⟨4⟩, ready)] ∧
      (some "False").or ((({} : ConditionalStatus).view "Ready").map Prod.fst) ≠ some ready.status ∧
      (∀ call ∈ [((⟨4⟩ : Time), ready)], call.2.status = ready.status) ∧
      (({} : ConditionalStatus).setConditions calls).view "Ready" =
        some (ready.status, transitionStamp ⟨3⟩ ready) := by
  intro ready calls
  have h : calls.filter (·.2.type = "Ready") =
        [(⟨1⟩, { type := "Ready", status := "False" })] ++ (⟨3⟩, ready) :: [(⟨4⟩, ready)] ∧
      (some "False").or ((({} : ConditionalStatus).view "Ready").map Prod.fst) ≠ some ready.status ∧
      (∀ call ∈ [((⟨4⟩ : Time), ready)], call.2.status = ready.status) := by decide
  exact ⟨h.1, h.2.1, h.2.2,
    (setConditions_lastTransitionTime {} calls "Ready").1 _ _ _ _ h.1 h.2.1 h.2.2⟩

/-- A run never reorders or repeats types: the old types in their order, then each new
type once, at its first call. -/
theorem map_type_setConditions (s : ConditionalStatus) (calls : List (Time × Condition)) :
    (s.setConditions calls).conditions.map (·.type) =
      s.conditions.map (·.type) ++ dedupFrom (s.conditions.map (·.type)) (calls.map (·.2.type)) := by
  induction calls generalizing s with
  | nil => simp [ConditionalStatus.setConditions, dedupFrom]
  | cons call calls ih =>
    show ((s.setCondition call.1 call.2).setConditions calls).conditions.map (·.type) = _
    rw [ih, ConditionalStatus.setCondition, map_type_setStatusCondition, List.map_cons, dedupFrom]
    by_cases h : call.2.type ∈ s.conditions.map (·.type)
    · simp only [h, if_true]
    · simp only [h, if_false, List.append_assoc, List.singleton_append]
      exact congrArg _ (congrArg _ (dedupFrom_congr (fun k => by simp [or_comm]) _))

end MatrixOneOperator
