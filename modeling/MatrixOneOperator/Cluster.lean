import MatrixOneOperator.Api
import MatrixOneOperator.Conditions

/-!
# Cluster helpers

`setDefaultServiceArgs`, the keys of a cluster's sets and `(*MatrixOneCluster).SetCondition`;
`ServiceDefaultArgs` is a parameter.
-/

namespace MatrixOneOperator

/-! ## Default service arguments -/

structure DefaultArgs where
  logService : List String := []
  dn : List String := []
  cn : List String := []
  deriving DecidableEq, Repr

/-- What `setDefaultServiceArgs` is called with: a `*LogSetBasic`, `*DNSetBasic` or
`*CNSetBasic` by its service arguments, or a value of any other type. -/
inductive ServiceObject where
  | logSetBasic (serviceArgs : List String)
  | dnSetBasic (serviceArgs : List String)
  | cnSetBasic (serviceArgs : List String)
  | other
  deriving DecidableEq, Repr

/-- The service arguments an object carries; a value of another type has none. -/
def ServiceObject.serviceArgs : ServiceObject → List String
  | logSetBasic args | dnSetBasic args | cnSetBasic args => args
  | other => []

/-- The branch of each service kind: the default only when the user set no argument. -/
def defaultServiceArgs (serviceArgs defaults : List String) : List String :=
  if serviceArgs.length = 0 then defaults else serviceArgs

/-- `setDefaultServiceArgs`; the error it logs for another type is not modelled. -/
def setDefaultServiceArgs (serviceDefaultArgs : Option DefaultArgs) (object : ServiceObject) :
    ServiceObject :=
  match serviceDefaultArgs, object with
  | none, object => object
  | some d, .logSetBasic args => .logSetBasic (defaultServiceArgs args d.logService)
  | some d, .dnSetBasic args => .dnSetBasic (defaultServiceArgs args d.dn)
  | some d, .cnSetBasic args => .cnSetBasic (defaultServiceArgs args d.cn)
  | some _, .other => .other

theorem defaultServiceArgs_of_ne_nil {args : List String} (h : args ≠ []) (defaults : List String) :
    defaultServiceArgs args defaults = args := by
  simp [defaultServiceArgs, h]

@[simp] theorem defaultServiceArgs_idem (args defaults : List String) :
    defaultServiceArgs (defaultServiceArgs args defaults) defaults = defaultServiceArgs args defaults := by
  unfold defaultServiceArgs
  split_ifs <;> simp_all

theorem setDefaultServiceArgs_keeps_user_args (d : Option DefaultArgs) (o : ServiceObject) :
    (o.serviceArgs ≠ [] → setDefaultServiceArgs d o = o) ∧
    setDefaultServiceArgs d (setDefaultServiceArgs d o) = setDefaultServiceArgs d o := by
  rcases d with _ | d
  · exact ⟨fun _ => rfl, rfl⟩
  · cases o <;> refine ⟨fun h => ?_, by simp [setDefaultServiceArgs]⟩ <;>
      simp only [ServiceObject.serviceArgs] at h <;>
      simp [setDefaultServiceArgs, defaultServiceArgs_of_ne_nil h]

/-! ## The cluster -/

/-- `MatrixOneClusterStatus`, with the conditions it embeds. -/
structure MatrixOneClusterStatus where
  conditionalStatus : ConditionalStatus := {}
  deriving DecidableEq, Repr

/-- `MatrixOneCluster`, with the fields its helpers read. -/
structure MatrixOneCluster where
  objectMeta : ObjectMeta
  status : MatrixOneClusterStatus := {}

def MatrixOneCluster.setCondition (now : Time) (mo : MatrixOneCluster) (condition : Condition) :
    MatrixOneCluster :=
  { mo with status.conditionalStatus := mo.status.conditionalStatus.setCondition now condition }

def MatrixOneCluster.getConditions (mo : MatrixOneCluster) : List Condition :=
  ConditionalStatus.getConditions (some mo.status.conditionalStatus)

theorem MatrixOneCluster.wellFormed_setCondition {mo : MatrixOneCluster}
    (h : mo.status.conditionalStatus.WellFormed) (now : Time) (c : Condition) :
    (mo.setCondition now c).status.conditionalStatus.WellFormed :=
  h.setCondition now c

/-! ## Keys of the owned sets -/

/-- The cluster's own name and namespace. -/
def clusterKey (mo : MatrixOneCluster) : ObjectMeta :=
  { name := mo.objectMeta.name, «namespace» := mo.objectMeta.«namespace» }

def logSetKey (mo : MatrixOneCluster) : ObjectMeta := clusterKey mo

def dnSetKey (mo : MatrixOneCluster) : ObjectMeta := clusterKey mo

def webUIKey (mo : MatrixOneCluster) : ObjectMeta := clusterKey mo

/-- The cluster's name with `suffix` appended, in its namespace. -/
def suffixedKey (suffix : String) (mo : MatrixOneCluster) : ObjectMeta :=
  { name := mo.objectMeta.name ++ suffix, «namespace» := mo.objectMeta.«namespace» }

def tpSetKey (mo : MatrixOneCluster) : ObjectMeta := suffixedKey "-tp" mo

def apSetKey (mo : MatrixOneCluster) : ObjectMeta := suffixedKey "-ap" mo

theorem suffixedKey_eq_iff {s t : String} (hl : s.length = t.length) (mo mo' : MatrixOneCluster) :
    suffixedKey s mo = suffixedKey t mo' ↔ s = t ∧ clusterKey mo = clusterKey mo' := by
  simp only [suffixedKey, clusterKey, ObjectMeta.mk.injEq, and_true]
  constructor
  · rintro ⟨hn, hns⟩
    have hd := congrArg String.data hn
    rw [String.data_append, String.data_append] at hd
    obtain ⟨hname, hs⟩ := List.append_inj' hd hl
    exact ⟨String.ext hs, String.ext hname, hns⟩
  · rintro ⟨rfl, hname, hns⟩
    exact ⟨hname ▸ rfl, hns⟩

/-- A TP set never takes an AP set's key, and each kind's key names one cluster. -/
theorem cnSetKeys_distinct (mo mo' : MatrixOneCluster) :
    tpSetKey mo ≠ apSetKey mo' ∧
    (tpSetKey mo = tpSetKey mo' ↔ clusterKey mo = clusterKey mo') ∧
    (apSetKey mo = apSetKey mo' ↔ clusterKey mo = clusterKey mo') := by
  refine ⟨fun h => ?_, ?_, ?_⟩
  · exact absurd ((suffixedKey_eq_iff (s := "-tp") (t := "-ap") rfl mo mo').1 h).1 (by decide)
  · simpa using suffixedKey_eq_iff rfl mo mo' (s := "-tp")
  · simpa using suffixedKey_eq_iff rfl mo mo' (s := "-ap")

end MatrixOneOperator
