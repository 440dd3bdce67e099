import MatrixOneOperator.Api

/-!
# Bucket claims

`UniqueBucketLabel`, `ClaimedBucket` and `BucketBindToMark`; `sha1Hex` stands for the SHA-1
hex digest, and `claims` for what the list call returns.
-/

namespace MatrixOneOperator

def bucketUniqLabel : String := "matrixorigin.io/bucket-unique-id"

/-- `v1alpha1.S3Provider`, with the fields the identity reads. -/
structure S3Provider where
  path : String
  type : Option String := none
  endpoint : String := ""
  deriving DecidableEq, Repr

/-- `v1alpha1.BucketClaim`, of which `ClaimedBucket` reads the labels. -/
structure BucketClaim where
  objectMeta : ObjectMeta
  spec : Blob := ⟨""⟩
  deriving DecidableEq

/-- `uniqId` of `UniqueBucketLabel`: `fmt.Sprintf("%s-%s-%s", providerType, endpoint, path)`,
a nil type read as empty. -/
def uniqId (p : S3Provider) : String := p.type.getD "" ++ "-" ++ p.endpoint ++ "-" ++ p.path

def uniqueBucketLabel (sha1Hex : String → String) (p : S3Provider) : String := sha1Hex (uniqId p)

/-- `ClaimedBucket`: no claim, the one claim, or an error for more than one. -/
def claimedBucket (sha1Hex : String → String) (claims : Except String (List BucketClaim))
    (provider : S3Provider) : Except String (Option BucketClaim) := do
  let uniqLabel := uniqueBucketLabel sha1Hex provider
  let items ← claims.map
    (·.filter fun b => lookupIn b.objectMeta.labels bucketUniqLabel = some uniqLabel)
  match items with
  | [] => pure none
  | [b] => pure (some b)
  | _ => throw "list more than one buckets"

/-- `BucketBindToMark`: `namespace/name`. -/
def bucketBindToMark (logsetMeta : ObjectMeta) : String :=
  logsetMeta.«namespace» ++ "/" ++ logsetMeta.name

theorem append_sep_inj {sep : Char} {a b x y : List Char} (ha : sep ∉ a) (hb : sep ∉ b)
    (h : a ++ sep :: x = b ++ sep :: y) : a = b ∧ x = y := by
  induction a generalizing b with
  | nil =>
    cases b with
    | nil => simpa using h
    | cons c b =>
      simp only [List.nil_append, List.cons_append, List.cons.injEq] at h
      exact absurd (h.1 ▸ List.mem_cons_self _ _) hb
  | cons c a ih =>
    cases b with
    | nil =>
      simp only [List.nil_append, List.cons_append, List.cons.injEq] at h
      exact absurd (h.1 ▸ List.mem_cons_self _ _) ha
    | cons c' b =>
      simp only [List.cons_append, List.cons.injEq] at h
      obtain ⟨rfl, h⟩ := h
      have := ih (fun h' => ha (List.mem_cons_of_mem _ h')) (fun h' => hb (List.mem_cons_of_mem _ h')) h
      exact ⟨congrArg _ this.1, this.2⟩

theorem uniqId_inj {p q : S3Provider} (hp : '-' ∉ (p.type.getD "").data ∧ '-' ∉ p.endpoint.data)
    (hq : '-' ∉ (q.type.getD "").data ∧ '-' ∉ q.endpoint.data) (h : uniqId p = uniqId q) :
    p.type.getD "" = q.type.getD "" ∧ p.endpoint = q.endpoint ∧ p.path = q.path := by
  have hd := congrArg String.data h
  simp only [uniqId, String.data_append, List.append_assoc, show "-".data = ['-'] from rfl,
    List.singleton_append] at hd
  obtain ⟨ht, hd⟩ := append_sep_inj hp.1 hq.1 hd
  obtain ⟨he, hd⟩ := append_sep_inj hp.2 hq.2 hd
  exact ⟨String.ext ht, String.ext he, String.ext hd⟩

/-- With SHA-1 read as injective, two providers whose types and endpoints have no `-`
share an identity exactly when they agree on type, endpoint and path. -/
theorem uniqueBucketLabel_eq_iff {sha1Hex : String → String} (hsha : Function.Injective sha1Hex)
    {p q : S3Provider} (hp : '-' ∉ (p.type.getD "").data ∧ '-' ∉ p.endpoint.data)
    (hq : '-' ∉ (q.type.getD "").data ∧ '-' ∉ q.endpoint.data) :
    uniqueBucketLabel sha1Hex p = uniqueBucketLabel sha1Hex q ↔
      p.type.getD "" = q.type.getD "" ∧ p.endpoint = q.endpoint ∧ p.path = q.path := by
  constructor
  · exact fun h => uniqId_inj hp hq (hsha h)
  · rintro ⟨ht, he, hpath⟩
    simp only [uniqueBucketLabel, uniqId, ht, he, hpath]

theorem uniqueBucketLabel_eq_iff_minio :
    Function.Injective (id : String → String) ∧
    ('-' ∉ ((none : Option String).getD "").data ∧ '-' ∉ "http://minio:9000".data) ∧
    ('-' ∉ ((some "aws").getD "").data ∧ '-' ∉ "".data) ∧
    (uniqueBucketLabel id { endpoint := "http://minio:9000", path := "a/b" } =
      uniqueBucketLabel id { type := some "aws", path := "a/b" } ↔
      "" = "aws" ∧ "http://minio:9000" = "" ∧ "a/b" = "a/b") :=
  ⟨Function.injective_id, by decide, by decide, uniqueBucketLabel_eq_iff Function.injective_id
    (p := { endpoint := "http://minio:9000", path := "a/b" }) (q := { type := some "aws", path := "a/b" })
    (by decide) (by decide)⟩

theorem claimedBucket_ok (sha1Hex : String → String) (claims : List BucketClaim) (p : S3Provider) :
    claimedBucket sha1Hex (.ok claims) p =
      match claims.filter fun b =>
          lookupIn b.objectMeta.labels bucketUniqLabel = some (uniqueBucketLabel sha1Hex p) with
      | [] => .ok none
      | [b] => .ok (some b)
      | _ => .error "list more than one buckets" := rfl

theorem claimedBucket_by_count (sha1Hex : String → String) (claims : List BucketClaim)
    (p : S3Provider) :
    let matching := claims.filter fun b =>
      lookupIn b.objectMeta.labels bucketUniqLabel = some (uniqueBucketLabel sha1Hex p)
    (claimedBucket sha1Hex (.ok claims) p = .ok none ↔ matching = []) ∧
    (∀ b, claimedBucket sha1Hex (.ok claims) p = .ok (some b) ↔ matching = [b]) ∧
    (claimedBucket sha1Hex (.ok claims) p = .error "list more than one buckets" ↔
      2 ≤ matching.length) := by
  intro matching
  rw [claimedBucket_ok, show claims.filter _ = matching from rfl]
  rcases matching with _ | ⟨b, _ | ⟨b', bs⟩⟩ <;> simp [eq_comm]

/-- A namespace has no `/`, so the mark names one log set. -/
theorem bucketBindToMark_inj {m m' : ObjectMeta} (h : '/' ∉ m.«namespace».data)
    (h' : '/' ∉ m'.«namespace».data) (he : bucketBindToMark m = bucketBindToMark m') :
    m.«namespace» = m'.«namespace» ∧ m.name = m'.name := by
  have hd := congrArg String.data he
  simp only [bucketBindToMark, String.data_append, List.append_assoc,
    show "/".data = ['/'] from rfl, List.singleton_append] at hd
  obtain ⟨hn, hname⟩ := append_sep_inj h h' hd
  exact ⟨String.ext hn, String.ext hname⟩

theorem bucketBindToMark_inj_default :
    '/' ∉ "default".data ∧ '/' ∉ "default".data ∧
    bucketBindToMark { «namespace» := "default", name := "mo" } =
      bucketBindToMark { «namespace» := "default", name := "mo" } ∧
    ("default" = "default" ∧ "mo" = "mo") :=
  ⟨by decide, by decide, rfl,
    bucketBindToMark_inj (by decide) (by decide)
      (rfl : bucketBindToMark { «namespace» := "default", name := "mo" } =
        bucketBindToMark { «namespace» := "default", name := "mo" })⟩

/-- Endpoint `a-b` with path `c`, and endpoint `a` with path `b-c`: one identity whatever
the hash, so both providers resolve to the same claim. -/
theorem claimedBucket_shared_by_distinct_providers (sha1Hex : String → String) :
    let p : S3Provider := { endpoint := "a-b", path := "c" }
    let q : S3Provider := { endpoint := "a", path := "b-c" }
    let b : BucketClaim :=
      { objectMeta := { labels := some (GoMap.singleton bucketUniqLabel (uniqueBucketLabel sha1Hex p)) } }
    p ≠ q ∧ claimedBucket sha1Hex (.ok [b]) p = .ok (some b) ∧
      claimedBucket sha1Hex (.ok [b]) q = .ok (some b) := by
  intro p q b
  have hid : uniqId q = uniqId p := by decide
  refine ⟨by decide, ?_, ?_⟩ <;> simp [claimedBucket_ok, uniqueBucketLabel, hid, lookupIn, b]

end MatrixOneOperator
