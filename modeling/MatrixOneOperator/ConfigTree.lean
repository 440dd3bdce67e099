import MatrixOneOperator.Upsert

/-!
# Configuration trees

`v1alpha1.TomlConfig`'s `Set` and `Merge`, modelled from the spec: a lookup reads the first
entry of its key, and every operation acts on that entry.
-/

namespace MatrixOneOperator

inductive ConfigTree (α : Type) where
  | leaf (v : α)
  | table (entries : List (String × ConfigTree α))

namespace ConfigTree

variable {α : Type}

/-- The entries of a table; a leaf has none. -/
def entries : ConfigTree α → List (String × ConfigTree α)
  | leaf _ => []
  | table es => es

/-- The subtree under key `k` of a table's entries. -/
def lookupEntry (es : List (String × ConfigTree α)) (k : String) : Option (ConfigTree α) :=
  (findKey Prod.fst es k).map Prod.snd

/-- The subtree at `path`. -/
def get? : ConfigTree α → List String → Option (ConfigTree α)
  | t, [] => some t
  | t, k :: ks => (lookupEntry t.entries k).bind (get? · ks)

/-- Modelled from the spec: `Set(path, value)`. -/
def set (t : ConfigTree α) : List String → α → ConfigTree α
  | [], v => leaf v
  | k :: ks, v =>
    table (upsertByKey Prod.fst t.entries (k, ((lookupEntry t.entries k).getD (table [])).set ks v))

/-- Modelled from the spec: `Merge(other)`, the receiver first. -/
def merge : ConfigTree α → ConfigTree α → ConfigTree α
  | table es, table os => table (mergeEntries es os ++ os.filter fun e => e.1 ∉ es.map Prod.fst)
  | t, _ => t
where
  /-- Each receiver entry, merged with the other's entry of its key if there is one. -/
  mergeEntries : List (String × ConfigTree α) → List (String × ConfigTree α) →
      List (String × ConfigTree α)
  | [], _ => []
  | (k, x) :: es, os =>
    (k, match lookupEntry os k with
      | some y => merge x y
      | none => x) :: mergeEntries es os

@[simp] theorem get?_nil (t : ConfigTree α) : t.get? [] = some t := rfl

theorem get?_cons (t : ConfigTree α) (k : String) (ks : List String) :
    t.get? (k :: ks) = (lookupEntry t.entries k).bind (get? · ks) := rfl

theorem lookupEntry_upsertByKey (es : List (String × ConfigTree α)) (k k' : String)
    (x : ConfigTree α) :
    lookupEntry (upsertByKey Prod.fst es (k, x)) k' = if k = k' then some x else lookupEntry es k' := by
  unfold lookupEntry
  rw [findKey_upsertByKey]
  split <;> rfl

theorem lookupEntry_append (es es' : List (String × ConfigTree α)) (k : String) :
    lookupEntry (es ++ es') k = (lookupEntry es k).or (lookupEntry es' k) := by
  unfold lookupEntry
  rw [findKey_append]
  cases findKey Prod.fst es k <;> rfl

/-! ## `Set` -/

theorem get?_set_self (t : ConfigTree α) (path : List String) (v : α) :
    (t.set path v).get? path = some (leaf v) := by
  induction path generalizing t with
  | nil => rfl
  | cons k ks ih =>
    rw [set, get?_cons, entries, lookupEntry_upsertByKey, if_pos rfl, Option.some_bind, ih]

theorem get?_set_of_diverge (t : ConfigTree α) {p q : List String} (hpq : ¬ p <+: q)
    (hqp : ¬ q <+: p) (v : α) : (t.set p v).get? q = t.get? q := by
  induction p generalizing t q with
  | nil => exact absurd List.nil_prefix hpq
  | cons k ks ih =>
    cases q with
    | nil => exact absurd List.nil_prefix hqp
    | cons k' ks' =>
      rw [set, get?_cons, entries, lookupEntry_upsertByKey, get?_cons]
      split
      · subst k'
        simp only [List.cons_prefix_cons, true_and] at hpq hqp
        rw [Option.some_bind, ih _ hpq hqp]
        cases hl : lookupEntry t.entries k with
        | some c => rfl
        | none =>
          cases ks' with
          | nil => exact absurd List.nil_prefix hqp
          | cons _ _ => rfl
      · rfl

/-! ## `Merge` -/

theorem lookupEntry_mergeEntries (es os : List (String × ConfigTree α)) (k : String) :
    lookupEntry (merge.mergeEntries es os) k =
      (lookupEntry es k).map fun x => match lookupEntry os k with
        | some y => merge x y
        | none => x := by
  induction es with
  | nil => rfl
  | cons e es ih =>
    obtain ⟨k', x⟩ := e
    simp only [merge.mergeEntries, lookupEntry, findKey_cons] at ih ⊢
    split
    · subst k'; rfl
    · exact ih

theorem get?_merge_of_leaf {a : ConfigTree α} {path : List String} {v : α}
    (h : a.get? path = some (leaf v)) (b : ConfigTree α) : (a.merge b).get? path = some (leaf v) := by
  induction path generalizing a b with
  | nil =>
    cases h
    rfl
  | cons k ks ih =>
    cases a with
    | leaf => cases h
    | table es =>
      cases b with
      | leaf => exact h
      | table os =>
        rw [get?_cons, entries] at h
        obtain ⟨x, hx, hxv⟩ := Option.bind_eq_some.1 h
        have hl : lookupEntry (merge.mergeEntries es os ++ os.filter fun e => e.1 ∉ es.map Prod.fst) k =
            some (match lookupEntry os k with | some y => x.merge y | none => x) := by
          rw [lookupEntry_append, lookupEntry_mergeEntries, hx]
          rfl
        rw [merge, get?_cons, entries, hl, Option.some_bind]
        split
        · exact ih hxv _
        · exact hxv

/-! ## Merging into a tree that already holds the other -/

/-- Every table of the tree has distinct keys, as the maps of a TOML document do. -/
inductive Distinct : ConfigTree α → Prop
  | leaf (v : α) : Distinct (ConfigTree.leaf v)
  | table {es : List (String × ConfigTree α)} :
      (es.map Prod.fst).Nodup → (∀ e ∈ es, Distinct e.2) → Distinct (ConfigTree.table es)

theorem lookupEntry_cons (k' : String) (x : ConfigTree α) (es : List (String × ConfigTree α))
    (k : String) : lookupEntry ((k', x) :: es) k = if k' = k then some x else lookupEntry es k := by
  unfold lookupEntry
  rw [findKey_cons]
  split <;> rfl

theorem mem_of_lookupEntry {es : List (String × ConfigTree α)} {k : String} {x : ConfigTree α}
    (h : lookupEntry es k = some x) : (k, x) ∈ es := by
  induction es with
  | nil => cases h
  | cons e es ih =>
    obtain ⟨k', x'⟩ := e
    rw [lookupEntry_cons] at h
    split at h
    · cases h; subst k'; exact List.mem_cons_self _ _
    · exact List.mem_cons_of_mem _ (ih h)

theorem lookupEntry_of_mem {es : List (String × ConfigTree α)} (hnd : (es.map Prod.fst).Nodup)
    {k : String} {x : ConfigTree α} (h : (k, x) ∈ es) : lookupEntry es k = some x := by
  induction es with
  | nil => cases h
  | cons e es ih =>
    obtain ⟨k', x'⟩ := e
    rw [List.map_cons, List.nodup_cons] at hnd
    rw [lookupEntry_cons]
    rcases List.mem_cons.1 h with h | h
    · cases h; simp
    · have hk : k' ≠ k := by
        rintro rfl
        exact hnd.1 (List.mem_map.2 ⟨_, h, rfl⟩)
      rw [if_neg hk, ih hnd.2 h]

theorem exists_lookupEntry {es : List (String × ConfigTree α)} {k : String}
    (h : k ∈ es.map Prod.fst) : ∃ x, lookupEntry es k = some x := by
  induction es with
  | nil => cases h
  | cons e es ih =>
    obtain ⟨k', x'⟩ := e
    rw [lookupEntry_cons]
    by_cases hk : k' = k
    · exact ⟨x', if_pos hk⟩
    · rw [if_neg hk]
      exact ih (by simpa [Ne.symm hk] using h)

theorem map_fst_mergeEntries (es os : List (String × ConfigTree α)) :
    (merge.mergeEntries es os).map Prod.fst = es.map Prod.fst := by
  induction es with
  | nil => rfl
  | cons e es ih => simp [merge.mergeEntries, ih]

theorem mergeEntries_append (l l' os : List (String × ConfigTree α)) :
    merge.mergeEntries (l ++ l') os = merge.mergeEntries l os ++ merge.mergeEntries l' os := by
  induction l with
  | nil => rfl
  | cons e l ih => simp [merge.mergeEntries, ih]

theorem filter_not_mem_eq_nil_iff {os : List (String × ConfigTree α)} {l : List String} :
    os.filter (fun e => e.1 ∉ l) = [] ↔ ∀ e ∈ os, e.1 ∈ l := by
  simp [List.filter_eq_nil_iff]

theorem mergeEntries_of_forall {es os : List (String × ConfigTree α)}
    (h : ∀ e ∈ es, ∀ y, lookupEntry os e.1 = some y → e.2.merge y = e.2) :
    merge.mergeEntries es os = es := by
  induction es with
  | nil => rfl
  | cons e es ih =>
    obtain ⟨k, x⟩ := e
    simp only [merge.mergeEntries, ih fun e he => h e (List.mem_cons_of_mem _ he)]
    split
    · rw [h _ (List.mem_cons_self _ _) _ ‹_›]
    · rfl

theorem mergeEntries_mergeEntries {os : List (String × ConfigTree α)}
    (h : ∀ e ∈ os, ∀ a : ConfigTree α, (a.merge e.2).merge e.2 = a.merge e.2)
    (es : List (String × ConfigTree α)) :
    merge.mergeEntries (merge.mergeEntries es os) os = merge.mergeEntries es os := by
  induction es with
  | nil => rfl
  | cons e es ih =>
    obtain ⟨k, x⟩ := e
    simp only [merge.mergeEntries, ih]
    split
    · rename_i y hy
      rw [h _ (mem_of_lookupEntry hy)]
    · rfl

theorem lookupEntry_mergeEntries_of_some {es os : List (String × ConfigTree α)} {k : String}
    {x y : ConfigTree α} (hx : lookupEntry es k = some x) (hy : lookupEntry os k = some y) :
    lookupEntry (merge.mergeEntries es os) k = some (x.merge y) := by
  rw [lookupEntry_mergeEntries, hx, Option.map_some', hy]

theorem mergeEntries_upsertByKey (es os : List (String × ConfigTree α)) {k : String}
    {x : ConfigTree α} (hx : ∀ y, lookupEntry os k = some y → x.merge y = x) :
    merge.mergeEntries (upsertByKey Prod.fst es (k, x)) os =
      upsertByKey Prod.fst (merge.mergeEntries es os) (k, x) := by
  induction es with
  | nil =>
    simp only [upsertByKey, merge.mergeEntries]
    split
    · rw [hx _ ‹_›]
    · rfl
  | cons e es ih =>
    obtain ⟨k', x'⟩ := e
    by_cases hk : k' = k
    · subst hk
      simp only [upsertByKey, merge.mergeEntries, ite_true]
      split
      · rw [hx _ ‹_›]
      · rfl
    · simp [upsertByKey, hk, merge.mergeEntries, ih]

theorem merge_self {t : ConfigTree α} (h : t.Distinct) : t.merge t = t := by
  induction h with
  | leaf v => rfl
  | @table os hnd _ ih =>
    rw [merge, filter_not_mem_eq_nil_iff.2 fun e he => List.mem_map_of_mem Prod.fst he, List.append_nil,
      mergeEntries_of_forall fun e he y hy => by
        rw [lookupEntry_of_mem hnd he] at hy
        cases hy
        exact ih e he]

theorem merge_merge_right {b : ConfigTree α} (hb : b.Distinct) (a : ConfigTree α) :
    (a.merge b).merge b = a.merge b := by
  induction hb generalizing a with
  | leaf v => cases a <;> rfl
  | @table os hnd hos ih =>
    cases a with
    | leaf v => rfl
    | table es =>
      have hkeys : ∀ e ∈ os, e.1 ∈ (merge.mergeEntries es os ++
          os.filter fun e => e.1 ∉ es.map Prod.fst).map Prod.fst := by
        intro e he
        rw [List.map_append, List.mem_append, map_fst_mergeEntries]
        by_cases hk : e.1 ∈ es.map Prod.fst
        · exact .inl hk
        · exact .inr (List.mem_map_of_mem Prod.fst (List.mem_filter.2 ⟨he, by simpa using hk⟩))
      have hF : merge.mergeEntries (os.filter fun e => e.1 ∉ es.map Prod.fst) os =
          os.filter fun e => e.1 ∉ es.map Prod.fst :=
        mergeEntries_of_forall fun e he y hy => by
          have he' := (List.mem_filter.1 he).1
          rw [lookupEntry_of_mem hnd he'] at hy
          cases hy
          exact merge_self (hos e he')
      rw [merge, merge, filter_not_mem_eq_nil_iff.2 hkeys, List.append_nil, mergeEntries_append,
        mergeEntries_mergeEntries (fun e he => ih e he) es, hF]

theorem set_of_get? {t : ConfigTree α} {p : List String} {v : α} (h : t.get? p = some (leaf v)) :
    t.set p v = t := by
  induction p generalizing t with
  | nil => cases h; rfl
  | cons k ks ih =>
    cases t with
    | leaf => cases h
    | table es =>
      rw [get?_cons, entries] at h
      obtain ⟨x, hx, hxv⟩ := Option.bind_eq_some.1 h
      rw [set, entries, hx, Option.getD_some, ih hxv]
      have hf : findKey Prod.fst es (Prod.fst (k, x)) = some (k, x) := by
        simp only [lookupEntry, Option.map_eq_some'] at hx
        obtain ⟨⟨k', x'⟩, hf, rfl⟩ := hx
        have hk : k' = k := by simpa using List.find?_some hf
        subst hk
        exact hf
      exact congrArg table (upsertByKey_of_findKey hf)

theorem merge_table_eq_self {es os : List (String × ConfigTree α)}
    (h : (table es).merge (table os) = table es) :
    merge.mergeEntries es os = es ∧ ∀ e ∈ os, e.1 ∈ es.map Prod.fst := by
  have h' := table.inj h
  have hlen := congrArg List.length h'
  rw [List.length_append, ← List.length_map (merge.mergeEntries es os) Prod.fst,
    map_fst_mergeEntries, List.length_map] at hlen
  have hF : (os.filter fun e => e.1 ∉ es.map Prod.fst) = [] := List.length_eq_zero.1 (by omega)
  rw [hF, List.append_nil] at h'
  exact ⟨h', filter_not_mem_eq_nil_iff.1 hF⟩

/-- A `Set` keeps a tree unchanged by merging `b` into it, when `b` has a table strictly
above the path only where the tree has one. -/
theorem merge_set_of_merge {t b : ConfigTree α} (h : t.merge b = t) (p : List String) (v : α)
    (hb : ∀ q, q <+: p → q ≠ p → ∀ os, b.get? q = some (table os) →
      ∃ es, t.get? q = some (table es)) :
    (t.set p v).merge b = t.set p v := by
  induction p generalizing t b with
  | nil => rfl
  | cons k ks ih =>
    cases b with
    | leaf => rfl
    | table os =>
      obtain ⟨es, hes⟩ := hb [] List.nil_prefix (by simp) os rfl
      cases hes
      obtain ⟨hME, hkey⟩ := merge_table_eq_self h
      have hx : ∀ y, lookupEntry os k = some y →
          (((lookupEntry es k).getD (table [])).set ks v).merge y =
            ((lookupEntry es k).getD (table [])).set ks v := by
        intro y hy
        obtain ⟨x0, hx0⟩ := exists_lookupEntry (hkey _ (mem_of_lookupEntry hy))
        have hcov : x0.merge y = x0 := by
          have := lookupEntry_mergeEntries_of_some hx0 hy
          rw [hME, hx0] at this
          exact (Option.some_injective _ this).symm
        rw [hx0, Option.getD_some]
        refine ih hcov fun q hq hne os' hq' => ?_
        have := hb (k :: q) (List.cons_prefix_cons.2 ⟨rfl, hq⟩) (by simpa using hne) os'
          (by rw [get?_cons, entries, hy, Option.some_bind, hq'])
        rwa [get?_cons, entries, hx0, Option.some_bind] at this
      rw [set, entries, merge, mergeEntries_upsertByKey es os hx, hME,
        filter_not_mem_eq_nil_iff.2 fun e he => mem_map_key_upsertByKey _ (hkey e he), List.append_nil]

end ConfigTree

end MatrixOneOperator
