import MatrixOneOperator.Upsert

/-!
# The Go runtime the controller relies on

`time.Time` and `map[string]string`; an assignment into a nil map is the runtime panic, returned
as an error, and a `range` visits the entries in list order.
-/

namespace MatrixOneOperator

/-- A Kubernetes value that the modelled code only copies from one field to another. -/
structure Blob where
  repr : String
  deriving DecidableEq, Repr

/-- `time.Time`, as nanoseconds after Go's zero instant. -/
structure Time where
  ns : Int
  deriving DecidableEq, Repr

/-- `time.Duration`: a count of nanoseconds. -/
abbrev Duration := Int

namespace Time

/-- `t.IsZero()`. -/
def isZero (t : Time) : Bool := t.ns == 0

/-- `minDuration`, the least `int64`. -/
def minDuration : Duration := -9223372036854775808

/-- `maxDuration`, the greatest `int64`. -/
def maxDuration : Duration := 9223372036854775807

/-- `t.Sub(u)`: the duration `t - u`, or `minDuration` or `maxDuration` when it
overflows an `int64`. -/
def sub (t u : Time) : Duration :=
  if t.ns - u.ns < minDuration then minDuration
  else if maxDuration < t.ns - u.ns then maxDuration
  else t.ns - u.ns

theorem sub_mono {t t' u u' : Time} (h : t.ns ≤ t'.ns) (hu : u'.ns ≤ u.ns) :
    t.sub u ≤ t'.sub u' := by
  unfold sub minDuration maxDuration Duration
  split_ifs <;> omega

end Time

/-- A Go `map[string]string`: its entries, with distinct keys. -/
@[ext] structure GoMap where
  entries : List (String × String)
  nodup : (entries.map Prod.fst).Nodup

/-- The message of Go's runtime panic on an assignment into a nil map. -/
def nilMapPanic : String := "assignment to entry in nil map"

namespace GoMap

instance : DecidableEq GoMap := fun a b =>
  decidable_of_iff (a.entries = b.entries) GoMap.ext_iff.symm

def empty : GoMap := ⟨[], List.nodup_nil⟩

/-- `map[string]string{k: v}`. -/
def singleton (k v : String) : GoMap := ⟨[(k, v)], List.nodup_singleton _⟩

/-- `v, ok := m[k]`. -/
def lookup (m : GoMap) (k : String) : Option String := (findKey Prod.fst m.entries k).map Prod.snd

@[simp] theorem lookup_singleton (k v k' : String) :
    (singleton k v).lookup k' = if k = k' then some v else none := by
  unfold lookup singleton
  rw [findKey_cons, findKey_nil]
  split <;> rfl

/-- `m[k] = v` on a map that is not nil. -/
def assign (m : GoMap) (k v : String) : GoMap :=
  ⟨upsertByKey Prod.fst m.entries (k, v), by
    rw [map_key_upsertByKey]
    split
    · exact m.nodup
    · exact List.nodup_append.2 ⟨m.nodup, List.nodup_singleton _, by simp_all⟩⟩

/-- `for k, v := range src { m[k] = v }` on a map that is not nil. -/
def assignAll (m src : GoMap) : GoMap := src.entries.foldl (fun m kv => m.assign kv.1 kv.2) m

theorem assignAll_entries (m src : GoMap) :
    (m.assignAll src).entries = upsertListByKey Prod.fst m.entries src.entries := by
  unfold assignAll upsertListByKey
  generalize src.entries = es
  induction es generalizing m with
  | nil => rfl
  | cons kv es ih => exact ih (m.assign kv.1 kv.2)

theorem findKey_reverse_of_nodup {l : List (String × String)} (h : (l.map Prod.fst).Nodup)
    (k : String) : findKey Prod.fst l.reverse k = findKey Prod.fst l k := by
  induction l with
  | nil => rfl
  | cons y l ih =>
    obtain ⟨hy, hl⟩ := List.nodup_cons.1 h
    rw [List.reverse_cons, findKey_append, ih hl, findKey_cons, findKey_cons, findKey_nil]
    by_cases hk : y.1 = k
    · subst hk
      rw [(findKey_eq_none_iff _ _).2 hy]
      simp
    · simp [hk]

theorem lookup_assignAll (m src : GoMap) (k : String) :
    (m.assignAll src).lookup k = (src.lookup k).or (m.lookup k) := by
  simp only [lookup, assignAll_entries, findKey_upsertListByKey,
    findKey_reverse_of_nodup src.nodup]
  cases findKey Prod.fst src.entries k <;> rfl

theorem assignAll_idem (m src : GoMap) : (m.assignAll src).assignAll src = m.assignAll src := by
  ext1
  simp only [assignAll_entries, upsertListByKey_idem]

end GoMap

/-- A nil map reads as empty. -/
def lookupIn : Option GoMap → String → Option String
  | none, _ => none
  | some m, k => m.lookup k

/-- `m[k] = v` where `m` may be nil. -/
def assignInto : Option GoMap → String → String → Except String (Option GoMap)
  | none, _, _ => .error nilMapPanic
  | some m, k, v => .ok (some (m.assign k v))

/-- `for k, v := range src { dst[k] = v }` where `dst` may be nil. -/
def rangeAssign (src : GoMap) (dst : Option GoMap) : Except String (Option GoMap) :=
  src.entries.foldlM (fun d kv => assignInto d kv.1 kv.2) dst

theorem rangeAssign_some (src m : GoMap) : rangeAssign src (some m) = .ok (some (m.assignAll src)) := by
  unfold rangeAssign GoMap.assignAll
  generalize src.entries = es
  induction es generalizing m with
  | nil => rfl
  | cons kv es ih => exact ih (m.assign kv.1 kv.2)

theorem rangeAssign_none (src : GoMap) :
    rangeAssign src none = if src.entries = [] then .ok none else .error nilMapPanic := by
  unfold rangeAssign
  cases src.entries <;> rfl

end MatrixOneOperator
