import Mathlib.Data.List.Nodup

/-!
# Keyed upsert of lists

`util.UpsertByKey` and `util.UpsertListByKey` of controller-runtime, modelled from the spec:
an element replaces the first one of its key, or is appended.
-/

namespace MatrixOneOperator

variable {α κ : Type} [DecidableEq κ] (key : α → κ)

/-- Modelled from the spec: `util.UpsertByKey` replaces the first element with
`x`'s key by `x`, or appends `x` when there is none. -/
def upsertByKey : List α → α → List α
  | [], x => [x]
  | y :: ys, x => if key y = key x then x :: ys else y :: upsertByKey ys x

/-- Modelled from the spec: `util.UpsertListByKey(l, n, key)` upserts the elements
of `n` into `l`, one after another. -/
def upsertListByKey (l n : List α) : List α := n.foldl (upsertByKey key) l

/-- The elements of `ks` that are not in `seen`, each at its first occurrence. -/
def dedupFrom : List κ → List κ → List κ
  | _, [] => []
  | seen, k :: ks => if k ∈ seen then dedupFrom seen ks else k :: dedupFrom (k :: seen) ks

/-- The first element of `l` whose key is `k`. -/
def findKey (l : List α) (k : κ) : Option α := l.find? fun y => key y = k

variable {key}

@[simp] theorem upsertListByKey_nil (l : List α) : upsertListByKey key l [] = l := rfl

@[simp] theorem upsertListByKey_cons (l : List α) (x : α) (n : List α) :
    upsertListByKey key l (x :: n) = upsertListByKey key (upsertByKey key l x) n := rfl

@[simp] theorem findKey_nil (k : κ) : findKey key ([] : List α) k = none := rfl

theorem findKey_cons (y : α) (l : List α) (k : κ) :
    findKey key (y :: l) k = if key y = k then some y else findKey key l k := by
  by_cases h : key y = k <;> simp [findKey, List.find?_cons, h]

theorem findKey_append (l l' : List α) (k : κ) :
    findKey key (l ++ l') k = (findKey key l k).or (findKey key l' k) := List.find?_append

theorem findKey_eq_none_iff (l : List α) (k : κ) : findKey key l k = none ↔ k ∉ l.map key := by
  simp [findKey, List.find?_eq_none]

theorem dedupFrom_congr {s s' : List κ} (h : ∀ k, k ∈ s ↔ k ∈ s') (ks : List κ) :
    dedupFrom s ks = dedupFrom s' ks := by
  induction ks generalizing s s' with
  | nil => rfl
  | cons k ks ih =>
    simp only [dedupFrom, h k]
    split
    · exact ih h
    · exact congrArg _ (ih (by simp [h]))

/-! ## One upsert -/

theorem map_key_upsertByKey (l : List α) (x : α) :
    (upsertByKey key l x).map key =
      if key x ∈ l.map key then l.map key else l.map key ++ [key x] := by
  induction l with
  | nil => simp [upsertByKey]
  | cons y ys ih =>
    by_cases h : key y = key x
    · simp [upsertByKey, h]
    · by_cases hx : key x ∈ ys.map key <;>
        simp [upsertByKey, h, ih, hx, Ne.symm h]

theorem mem_map_key_upsertByKey {l : List α} {k : κ} (x : α) (h : k ∈ l.map key) :
    k ∈ (upsertByKey key l x).map key := by
  rw [map_key_upsertByKey]; split <;> simp [h]

theorem findKey_upsertByKey (l : List α) (x : α) (k : κ) :
    findKey key (upsertByKey key l x) k = if key x = k then some x else findKey key l k := by
  induction l with
  | nil => simp [upsertByKey, findKey_cons]
  | cons y ys ih =>
    by_cases h : key y = key x
    · by_cases hk : key x = k <;> simp [upsertByKey, findKey_cons, h, hk]
    · simp only [upsertByKey, h, if_false, findKey_cons, ih]
      by_cases hk : key x = k
      · subst hk; simp [h]
      · simp [hk]

theorem upsertByKey_upsertByKey_of_key_eq (l : List α) {x y : α} (h : key x = key y) :
    upsertByKey key (upsertByKey key l x) y = upsertByKey key l y := by
  induction l with
  | nil => simp [upsertByKey, h]
  | cons z zs ih =>
    by_cases hz : key z = key x
    · simp [upsertByKey, hz, h]
    · simp [upsertByKey, hz, ← h, ih]

/-- Upserts of two keys commute once the first key is present: it is then written
in place, and only the other can be appended. -/
theorem upsertByKey_comm {l : List α} {x y : α} (hne : key x ≠ key y)
    (hx : key x ∈ l.map key) :
    upsertByKey key (upsertByKey key l x) y = upsertByKey key (upsertByKey key l y) x := by
  induction l with
  | nil => simp at hx
  | cons z zs ih =>
    by_cases hzx : key z = key x
    · simp [upsertByKey, hzx, hne]
    · by_cases hzy : key z = key y
      · simp [upsertByKey, hzx, hzy, Ne.symm hne]
      · simp only [List.map_cons, List.mem_cons, Ne.symm hzx, false_or] at hx
        simp [upsertByKey, hzx, hzy, ih hx]

theorem upsertByKey_of_findKey {l : List α} {x : α} (h : findKey key l (key x) = some x) :
    upsertByKey key l x = l := by
  induction l with
  | nil => simp at h
  | cons y ys ih =>
    rw [findKey_cons] at h
    by_cases hy : key y = key x
    · simp only [hy, if_true, Option.some.injEq] at h
      simp [upsertByKey, hy, h]
    · simp only [hy, if_false] at h
      simp [upsertByKey, hy, ih h]

/-! ## A list of upserts -/

/-- The keys after an upsert: the old ones in place, then the new keys of `n` in the
order of their first occurrence. -/
theorem map_key_upsertListByKey (l n : List α) :
    (upsertListByKey key l n).map key = l.map key ++ dedupFrom (l.map key) (n.map key) := by
  induction n generalizing l with
  | nil => simp [dedupFrom]
  | cons x n ih =>
    rw [upsertListByKey_cons, ih, map_key_upsertByKey, List.map_cons, dedupFrom]
    by_cases h : key x ∈ l.map key
    · simp only [h, if_true]
    · simp only [h, if_false, List.append_assoc, List.singleton_append]
      exact congrArg _ (congrArg _ (dedupFrom_congr (fun k => by simp [or_comm]) _))

/-- After the upsert a key reads the last element of `n` with that key, if any, and
otherwise what it read in `l`. -/
theorem findKey_upsertListByKey (l n : List α) (k : κ) :
    findKey key (upsertListByKey key l n) k = (findKey key n.reverse k).or (findKey key l k) := by
  induction n generalizing l with
  | nil => simp
  | cons x n ih =>
    rw [upsertListByKey_cons, ih, findKey_upsertByKey, List.reverse_cons, findKey_append,
      Option.or_assoc, findKey_cons]
    congr 1
    split <;> rfl

theorem mem_map_key_upsertListByKey {l : List α} {k : κ} (n : List α) (h : k ∈ l.map key) :
    k ∈ (upsertListByKey key l n).map key := by
  rw [map_key_upsertListByKey]; exact List.mem_append_left _ h

theorem upsertListByKey_upsertByKey {C : List α} {x : α} (hx : key x ∈ C.map key)
    (n : List α) :
    upsertListByKey key (upsertByKey key C x) n =
      if key x ∈ n.map key then upsertListByKey key C n
      else upsertByKey key (upsertListByKey key C n) x := by
  induction n generalizing C with
  | nil => simp
  | cons y n ih =>
    by_cases hxy : key x = key y
    · simp [upsertByKey_upsertByKey_of_key_eq _ hxy, hxy]
    · rw [upsertListByKey_cons, upsertByKey_comm hxy hx,
        ih (mem_map_key_upsertByKey y hx)]
      simp [hxy]

theorem upsertListByKey_idem (l n : List α) :
    upsertListByKey key (upsertListByKey key l n) n = upsertListByKey key l n := by
  induction n generalizing l with
  | nil => rfl
  | cons x n ih =>
    have hx : key x ∈ (upsertListByKey key (upsertByKey key l x) n).map key :=
      mem_map_key_upsertListByKey n (by rw [map_key_upsertByKey]; split <;> simp_all)
    rw [upsertListByKey_cons, upsertListByKey_cons, upsertListByKey_upsertByKey hx]
    split
    · exact ih _
    · rename_i hn
      rw [ih]
      apply upsertByKey_of_findKey
      rw [findKey_upsertListByKey, findKey_upsertByKey, if_pos rfl,
        (findKey_eq_none_iff _ _).2 (by simpa using hn)]
      rfl

/-! ## What the spec promises -/

end MatrixOneOperator
