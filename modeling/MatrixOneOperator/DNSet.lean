import MatrixOneOperator.Overlay
import MatrixOneOperator.Bucket
import MatrixOneOperator.ConfigTree

/-!
# The DN set controller

The sync steps of the DN set reconciler; the constants and helpers of other packages are
the fields of `Externals`, and every result holds whatever they are.
-/

namespace MatrixOneOperator

/-- A TOML value: the strings and string lists the controller computes, or another value
of a user or file-service document, which the modelled code never looks into. -/
inductive TomlValue where
  | string (s : String)
  | strings (ss : List String)
  | other (v : Blob)
  deriving DecidableEq, Repr

/-- `v1alpha1.Volume`: a volume size and storage class. -/
structure StorageVolume where
  size : Blob := ⟨""⟩
  storageClassName : Option String := none
  deriving DecidableEq, Repr

structure SharedStorageProvider where
  fileSystemPath : Option String := none
  s3 : Option S3Provider := none
  deriving DecidableEq, Repr

structure SharedStorageCache where
  memoryCacheSize : Option Blob := none
  diskCacheSize : Option Blob := none
  deriving DecidableEq, Repr

structure DNSetSpec where
  replicas : Int := 0
  image : String := ""
  resources : Blob := ⟨""⟩
  config : Option (ConfigTree TomlValue) := none
  cacheVolume : Option StorageVolume := none
  sharedStorageCache : SharedStorageCache := {}
  nodeSelector : Option GoMap := none
  topologyEvenSpread : List String := []
  dnsBasedIdentity : Bool := false
  overlay : Option Overlay := none

structure DNSet where
  objectMeta : ObjectMeta := {}
  spec : DNSetSpec := {}

structure LogSetSpec where
  sharedStorage : SharedStorageProvider := {}

structure LogSetStatus where
  discovery : Option Blob := none

structure LogSet where
  objectMeta : ObjectMeta := {}
  spec : LogSetSpec := {}
  status : LogSetStatus := {}

structure PodTemplateSpec where
  objectMeta : ObjectMeta := {}
  spec : PodSpec := {}
  deriving DecidableEq

/-- The spec of a kruise `StatefulSet`. -/
structure StatefulSetSpec where
  replicas : Option Int := none
  template : PodTemplateSpec := {}
  volumeClaimTemplates : List PersistentVolumeClaim := []
  deriving DecidableEq

structure StatefulSet where
  objectMeta : ObjectMeta := {}
  spec : StatefulSetSpec := {}
  deriving DecidableEq

structure ConfigMap where
  objectMeta : ObjectMeta
  data : GoMap

/-- `model`, the data of the start script template. -/
structure StartScriptModel where
  dnServicePort : Nat
  configFilePath : String
  lockServicePort : Nat

/-- The constants and helpers the controller takes from code outside this development.
Each field has a placeholder default, so that an example names only what it uses. -/
structure Externals where
  configVolume : String := ""
  configPath : String := ""
  configFile : String := ""
  entrypoint : String := ""
  dataVolume : String := ""
  dataPath : String := ""
  dataDir : String := ""
  podNameEnvKey : String := ""
  namespaceEnvKey : String := ""
  headlessSvcEnvKey : String := ""
  lockServicePort : Nat := 0
  dnServicePort : Nat := 0
  /-- `getListenAddress()`. -/
  listenAddress : String := ""
  headlessSvcName : DNSet → String := fun _ => ""
  configMapMeta : DNSet → ObjectMeta := fun _ => {}
  /-- `logset.HaKeeperAdds`. -/
  haKeeperAdds : LogSet → List String := fun _ => []
  /-- `util.FieldRefEnv`. -/
  fieldRefEnv : String → String → EnvVar := fun k _ => { name := k }
  /-- `common.PersistentVolumeClaimTemplate`. -/
  persistentVolumeClaimTemplate : Blob → Option String → String → PersistentVolumeClaim :=
    fun _ _ name => { name }
  /-- `common.FileServiceConfig`. -/
  fileServiceConfig : String → SharedStorageProvider → Option StorageVolume → SharedStorageCache →
    ConfigTree TomlValue := fun _ _ _ _ => .table []
  /-- `common.SetStorageProviderConfig`. -/
  setStorageProviderConfig : SharedStorageProvider → PodSpec → PodSpec := fun _ spec => spec
  /-- `common.SyncTopology`. -/
  syncTopology : List String → PodSpec → PodSpec := fun _ spec => spec
  /-- `conf.ToString()`. -/
  renderToml : ConfigTree TomlValue → Except String String := fun _ => .ok ""
  /-- `startScriptTpl.Execute`. -/
  startScript : StartScriptModel → Except String String := fun _ => .ok ""

def serviceType : String := "DN"

/-- `pub.InPlaceUpdateReady`, the readiness gate of in-place updates. -/
def inPlaceUpdateReady : String := "InPlaceUpdateReady"

/-- The paths `buildDNSetConfigMap` computes. -/
def computedPaths : List (List String) :=
  [["hakeeper-client", "service-addresses"], ["service-type"], ["dn", "listen-address"],
    ["dn", "lockservice", "listen-address"]]

section
variable (ext : Externals)

/-- The configuration document `buildDNSetConfigMap` assembles before rendering it. -/
def dnSetConfig (dn : DNSet) (ls : LogSet) : Except String (ConfigTree TomlValue) :=
  match ls.status.discovery with
  | none => .error "HAKeeper discovery address not ready"
  | some _ =>
    let conf := dn.spec.config.getD (.table [])
    let conf := conf.set ["hakeeper-client", "service-addresses"] (.strings (ext.haKeeperAdds ls))
    let conf := conf.merge (ext.fileServiceConfig (ext.dataPath ++ "/" ++ ext.dataDir)
      ls.spec.sharedStorage dn.spec.cacheVolume dn.spec.sharedStorageCache)
    let conf := conf.set ["service-type"] (.string serviceType)
    let conf := conf.set ["dn", "listen-address"] (.string ext.listenAddress)
    .ok (conf.set ["dn", "lockservice", "listen-address"]
      (.string ("0.0.0.0:" ++ toString ext.lockServicePort)))

def buildDNSetConfigMap (dn : DNSet) (ls : LogSet) : Except String ConfigMap := do
  let conf ← dnSetConfig ext dn ls
  let s ← ext.renderToml conf
  let script ← ext.startScript
    { dnServicePort := ext.dnServicePort, lockServicePort := ext.lockServicePort,
      configFilePath := ext.configPath ++ "/" ++ ext.configFile }
  pure { objectMeta := ext.configMapMeta dn,
         data := (GoMap.empty.assign ext.configFile s).assign ext.entrypoint script }

def syncReplicas (dn : DNSet) (sts : StatefulSet) : StatefulSet :=
  { sts with spec.replicas := some dn.spec.replicas }

def syncPodMeta (dn : DNSet) (sts : StatefulSet) : Except String StatefulSet := do
  let meta ← overlayPodMeta dn.spec.overlay sts.spec.template.objectMeta
  pure { sts with spec.template.objectMeta := meta }

/-- The main container `syncPodSpec` generates, before the overlay. -/
def dnMainContainer (dn : DNSet) (sts : StatefulSet) : Container :=
  let volumeMountsList : List VolumeMount :=
    [{ name := ext.configVolume, readOnly := true, mountPath := ext.configPath }]
  let dataVolume : VolumeMount := { name := ext.dataVolume, mountPath := ext.dataPath }
  let volumeMountsList :=
    if dn.spec.cacheVolume.isSome then volumeMountsList ++ [dataVolume] else volumeMountsList
  let mainRef := (sts.spec.template.spec.containers.find? (·.name = containerMain)).getD
    { name := containerMain }
  let env := [ext.fieldRefEnv ext.podNameEnvKey "metadata.name",
    ext.fieldRefEnv ext.namespaceEnvKey "metadata.namespace",
    { name := ext.headlessSvcEnvKey, value := ext.headlessSvcName dn }]
  { mainRef with
    image := dn.spec.image
    resources := dn.spec.resources
    command := ["/bin/sh", ext.configPath ++ "/" ++ ext.entrypoint]
    volumeMounts := volumeMountsList
    env := if dn.spec.dnsBasedIdentity then env ++ [{ name := "HOSTNAME_UUID", value := "y" }]
      else env }

def syncPodSpec (dn : DNSet) (sts : StatefulSet) (sp : SharedStorageProvider) : StatefulSet :=
  let mainRef := overlayMainContainer dn.spec.overlay (dnMainContainer ext dn sts)
  let specRef : PodSpec :=
    { sts.spec.template.spec with
      containers := [mainRef]
      readinessGates := [inPlaceUpdateReady]
      nodeSelector := dn.spec.nodeSelector }
  let specRef := ext.syncTopology dn.spec.topologyEvenSpread (ext.setStorageProviderConfig sp specRef)
  { sts with spec.template.spec := overlayPodSpec dn.spec.overlay specRef }

def syncPersistentVolumeClaim (dn : DNSet) (sts : StatefulSet) : StatefulSet :=
  match dn.spec.cacheVolume with
  | some cacheVolume =>
    let dataPVC := ext.persistentVolumeClaimTemplate cacheVolume.size cacheVolume.storageClassName
      ext.dataVolume
    { sts with spec.volumeClaimTemplates := appendVolumeClaims dn.spec.overlay [dataPVC] }
  | none => sts

/-- `syncPods`, up to the final `SyncConfigMap` against the store: the config map it
syncs and the stateful set it leaves. A nil dependency is dereferenced before the
check that guards `syncPodSpec`. -/
def syncPods (dn : DNSet) (dep : Option LogSet) (sts : StatefulSet) :
    Except String (ConfigMap × StatefulSet) :=
  match dep with
  | none => .error "invalid memory address or nil pointer dereference"
  | some ls => do
    let cm ← buildDNSetConfigMap ext dn ls
    let sts ← syncPodMeta dn sts
    pure (cm, syncPodSpec ext dn sts ls.spec.sharedStorage)

/-! ## The configuration document -/

/-- With the discovery address published, the document holds the computed values at
their paths, whatever the user's tree and the file-service defaults hold, and every
user leaf on a path that neither leads to nor goes through a computed path. -/
theorem dnSetConfig_computed (dn : DNSet) (ls : LogSet) (hls : ls.status.discovery.isSome) :
    ∃ conf, dnSetConfig ext dn ls = .ok conf ∧
      conf.get? ["hakeeper-client", "service-addresses"] =
        some (.leaf (.strings (ext.haKeeperAdds ls))) ∧
      conf.get? ["service-type"] = some (.leaf (.string serviceType)) ∧
      conf.get? ["dn", "listen-address"] = some (.leaf (.string ext.listenAddress)) ∧
      conf.get? ["dn", "lockservice", "listen-address"] =
        some (.leaf (.string ("0.0.0.0:" ++ toString ext.lockServicePort))) ∧
      ∀ q v, (dn.spec.config.getD (.table [])).get? q = some (.leaf v) →
        (∀ p ∈ computedPaths, ¬ q <+: p ∧ ¬ p <+: q) → conf.get? q = some (.leaf v) := by
  obtain ⟨d, hd⟩ := Option.isSome_iff_exists.1 hls
  simp only [dnSetConfig, hd]
  refine ⟨_, rfl, ?_, ?_, ?_, ?_, fun q v hq hdiv => ?_⟩
  · simp (disch := decide) only [ConfigTree.get?_set_of_diverge]
    exact ConfigTree.get?_merge_of_leaf (ConfigTree.get?_set_self _ _ _) _
  · simp (disch := decide) only [ConfigTree.get?_set_of_diverge, ConfigTree.get?_set_self]
  · simp (disch := decide) only [ConfigTree.get?_set_of_diverge, ConfigTree.get?_set_self]
  · exact ConfigTree.get?_set_self _ _ _
  · simp only [computedPaths, List.mem_cons, List.mem_singleton, forall_eq_or_imp,
      forall_eq, List.not_mem_nil, false_imp_iff, imp_true_iff, and_true] at hdiv
    obtain ⟨h1, h2, h3, h4⟩ := hdiv
    rw [ConfigTree.get?_set_of_diverge _ h4.2 h4.1, ConfigTree.get?_set_of_diverge _ h3.2 h3.1,
      ConfigTree.get?_set_of_diverge _ h2.2 h2.1]
    exact ConfigTree.get?_merge_of_leaf
      (by rwa [ConfigTree.get?_set_of_diverge _ h1.2 h1.1]) _

end

/-- A user leaf the file-service document also sets keeps the user's value, next to the
computed service type. -/
theorem dnSetConfig_computed_ready :
    let fs : ConfigTree TomlValue := .table [("fileservice", .table [("backend", .leaf (.string "DISK"))]),
      ("log", .table [("level", .leaf (.string "info"))])]
    let ext : Externals := { fileServiceConfig := fun _ _ _ _ => fs }
    let dn : DNSet := { spec := { config := some (.table [("log", .table [("level", .leaf (.string "debug"))])]) } }
    let ls : LogSet := { status := { discovery := some ⟨"hakeeper"⟩ } }
    ls.status.discovery.isSome ∧ ∃ conf, dnSetConfig ext dn ls = .ok conf ∧
      conf.get? ["service-type"] = some (.leaf (.string serviceType)) ∧
      conf.get? ["log", "level"] = some (.leaf (.string "debug")) ∧
      conf.get? ["fileservice", "backend"] = some (.leaf (.string "DISK")) := by
  intro fs ext dn ls
  obtain ⟨conf, h, -, h2, -, -, huser⟩ := dnSetConfig_computed ext dn ls rfl
  have hfs : conf.get? ["fileservice", "backend"] = some (.leaf (.string "DISK")) := by
    cases h; rfl
  exact ⟨rfl, conf, h, h2, huser ["log", "level"] _ rfl (by decide), hfs⟩

/-- A user table at `service-type`: its leaf `x` is on no computed path and leads to
none, yet the computed service type replaces the whole table. -/
theorem dnSetConfig_replaces_table_at_computed_path :
    let user : ConfigTree TomlValue := .table [("service-type", .table [("x", .leaf (.string "a"))])]
    user.get? ["service-type", "x"] = some (.leaf (.string "a")) ∧
    (∀ p ∈ computedPaths, ¬ ["service-type", "x"] <+: p) ∧
    (dnSetConfig {} { spec := { config := some user } } { status := { discovery := some ⟨""⟩ } }).map
      (·.get? ["service-type", "x"]) = .ok none :=
  ⟨rfl, by decide, rfl⟩

/-! ## The document written back into the DN set

`conf := dn.Spec.Config` aliases the DN set's own document when it is set, so the `Set`s and
the `Merge` of `buildDNSetConfigMap` write into the DN set's spec.
-/

section
variable (ext : Externals)

/-- The file-service document `buildDNSetConfigMap` merges in. -/
def fileServiceDoc (dn : DNSet) (ls : LogSet) : ConfigTree TomlValue :=
  ext.fileServiceConfig (ext.dataPath ++ "/" ++ ext.dataDir) ls.spec.sharedStorage dn.spec.cacheVolume
    dn.spec.sharedStorageCache

/-- What the `Set`s and the `Merge` of `buildDNSetConfigMap` make of a document. -/
def assembleDNSetConfig (ls : LogSet) (fs conf : ConfigTree TomlValue) : ConfigTree TomlValue :=
  let conf := conf.set ["hakeeper-client", "service-addresses"] (.strings (ext.haKeeperAdds ls))
  let conf := conf.merge fs
  let conf := conf.set ["service-type"] (.string serviceType)
  let conf := conf.set ["dn", "listen-address"] (.string ext.listenAddress)
  conf.set ["dn", "lockservice", "listen-address"] (.string ("0.0.0.0:" ++ toString ext.lockServicePort))

/-- The DN set `buildDNSetConfigMap` leaves: with a document set and the discovery address
published, the computed document in place of its own. -/
def dnSetAfterBuild (dn : DNSet) (ls : LogSet) : DNSet :=
  match dn.spec.config, dnSetConfig ext dn ls with
  | some _, .ok conf => { dn with spec.config := some conf }
  | _, _ => dn

theorem dnSetConfig_of_discovery {dn : DNSet} {ls : LogSet} {d : Blob}
    (hd : ls.status.discovery = some d) :
    dnSetConfig ext dn ls =
      .ok (assembleDNSetConfig ext ls (fileServiceDoc ext dn ls) (dn.spec.config.getD (.table []))) := by
  simp only [dnSetConfig, hd]
  rfl

theorem merge_table_isTable (es : List (String × ConfigTree TomlValue)) (b : ConfigTree TomlValue) :
    ∃ es', (ConfigTree.table es).merge b = .table es' := by
  cases b <;> exact ⟨_, rfl⟩

theorem merge_set_computed {fs t : ConfigTree TomlValue}
    (hdn : ∀ es, fs.get? ["dn"] ≠ some (.table es)) (ht : ∃ es, t = .table es)
    (h : t.merge fs = t) {p : List String}
    (hp : p ∈ [["service-type"], ["dn", "listen-address"], ["dn", "lockservice", "listen-address"]])
    (v : TomlValue) :
    (t.set p v).merge fs = t.set p v := by
  refine ConfigTree.merge_set_of_merge h p v fun q hq hne os hos => ?_
  obtain ⟨es, rfl⟩ := ht
  have hlock : ∀ os, fs.get? ["dn", "lockservice"] ≠ some (.table os) := by
    intro os h'
    rw [ConfigTree.get?_cons] at h'
    obtain ⟨x, hx, hxt⟩ := Option.bind_eq_some.1 h'
    cases x with
    | leaf => cases hxt
    | table => exact hdn _ (by rw [ConfigTree.get?_cons, hx]; rfl)
  simp only [List.mem_cons, List.mem_singleton, List.not_mem_nil, or_false] at hp
  rcases hp with rfl | rfl | rfl <;>
    simp only [List.prefix_cons_iff, List.prefix_nil] at hq <;>
    rcases hq with rfl | ⟨_, rfl, rfl | ⟨_, rfl, rfl | ⟨_, rfl, rfl⟩⟩⟩ <;>
    first
    | exact ⟨es, rfl⟩
    | exact absurd rfl hne
    | exact absurd hos (hdn os)
    | exact absurd hos (hlock os)

theorem assembleDNSetConfig_idem {fs : ConfigTree TomlValue} (hfs : fs.Distinct)
    (hdn : ∀ es, fs.get? ["dn"] ≠ some (.table es)) (ls : LogSet) (conf : ConfigTree TomlValue) :
    assembleDNSetConfig ext ls fs (assembleDNSetConfig ext ls fs conf) = assembleDNSetConfig ext ls fs conf := by
  let m := (conf.set ["hakeeper-client", "service-addresses"] (.strings (ext.haKeeperAdds ls))).merge fs
  have hm : m.merge fs = m := ConfigTree.merge_merge_right hfs _
  have hmt : ∃ es, m = .table es := merge_table_isTable _ _
  have h3 := merge_set_computed (t := m) hdn hmt hm (p := ["service-type"]) (by simp)
    (.string serviceType)
  have h4 := merge_set_computed hdn ⟨_, rfl⟩ h3 (p := ["dn", "listen-address"]) (by simp)
    (.string ext.listenAddress)
  have hc : (assembleDNSetConfig ext ls fs conf).merge fs = assembleDNSetConfig ext ls fs conf :=
    merge_set_computed hdn ⟨_, rfl⟩ h4 (by simp) _
  have hhk : (assembleDNSetConfig ext ls fs conf).get? ["hakeeper-client", "service-addresses"] =
      some (.leaf (.strings (ext.haKeeperAdds ls))) := by
    simp (disch := decide) only [assembleDNSetConfig, ConfigTree.get?_set_of_diverge]
    exact ConfigTree.get?_merge_of_leaf (ConfigTree.get?_set_self _ _ _) _
  have hst : (assembleDNSetConfig ext ls fs conf).get? ["service-type"] = some (.leaf (.string serviceType)) := by
    simp (disch := decide) only [assembleDNSetConfig, ConfigTree.get?_set_of_diverge, ConfigTree.get?_set_self]
  have hla : (assembleDNSetConfig ext ls fs conf).get? ["dn", "listen-address"] =
      some (.leaf (.string ext.listenAddress)) := by
    simp (disch := decide) only [assembleDNSetConfig, ConfigTree.get?_set_of_diverge, ConfigTree.get?_set_self]
  have hlla : (assembleDNSetConfig ext ls fs conf).get? ["dn", "lockservice", "listen-address"] =
      some (.leaf (.string ("0.0.0.0:" ++ toString ext.lockServicePort))) :=
    ConfigTree.get?_set_self _ _ _
  generalize assembleDNSetConfig ext ls fs conf = c1 at hc hhk hst hla hlla ⊢
  unfold assembleDNSetConfig
  simp only [ConfigTree.set_of_get? hhk, hc, ConfigTree.set_of_get? hst, ConfigTree.set_of_get? hla,
    ConfigTree.set_of_get? hlla]

/-- `buildDNSetConfigMap` writes into the DN set only when it has a document and the
discovery address is published, and then writes the computed document. -/
theorem dnSetAfterBuild_cases (dn : DNSet) (ls : LogSet) :
    dnSetAfterBuild ext dn ls = dn ∨
      ∃ d u, ls.status.discovery = some d ∧ dn.spec.config = some u ∧
        dnSetAfterBuild ext dn ls =
          { dn with spec.config := some (assembleDNSetConfig ext ls (fileServiceDoc ext dn ls) u) } := by
  unfold dnSetAfterBuild
  cases hd : ls.status.discovery with
  | none =>
    rw [show dnSetConfig ext dn ls = .error "HAKeeper discovery address not ready" by
      simp [dnSetConfig, hd]]
    cases dn.spec.config <;> exact .inl rfl
  | some d =>
    rw [dnSetConfig_of_discovery ext hd]
    cases dn.spec.config with
    | none => exact .inl rfl
    | some u => exact .inr ⟨d, u, rfl, rfl, rfl⟩

/-- Built again from the DN set `buildDNSetConfigMap` leaves, the document is the same, and
so is the DN set a second build leaves. -/
theorem dnSetConfig_afterBuild {dn : DNSet} {ls : LogSet} (hfs : (fileServiceDoc ext dn ls).Distinct)
    (hdn : ∀ es, (fileServiceDoc ext dn ls).get? ["dn"] ≠ some (.table es)) :
    dnSetConfig ext (dnSetAfterBuild ext dn ls) ls = dnSetConfig ext dn ls ∧
      dnSetAfterBuild ext (dnSetAfterBuild ext dn ls) ls = dnSetAfterBuild ext dn ls := by
  rcases dnSetAfterBuild_cases ext dn ls with hA | ⟨d, u, hd, hc, hafter⟩
  · rw [hA]
    exact ⟨rfl, hA⟩
  · have h1 : dnSetConfig ext (dnSetAfterBuild ext dn ls) ls = dnSetConfig ext dn ls := by
      rw [hafter, dnSetConfig_of_discovery ext hd, dnSetConfig_of_discovery ext hd, hc]
      exact congrArg Except.ok (assembleDNSetConfig_idem ext hfs hdn ls u)
    refine ⟨h1, ?_⟩
    rw [hafter] at h1 ⊢
    rw [dnSetAfterBuild, h1, dnSetConfig_of_discovery ext hd, hc]
    rfl

end

theorem dnSetConfig_afterBuild_user_dn :
    let fs : ConfigTree TomlValue := .table [("fileservice", .table [("backend", .leaf (.string "DISK"))])]
    let ext : Externals := { fileServiceConfig := fun _ _ _ _ => fs }
    let dn : DNSet := { spec := { config := some (.table [("dn", .leaf (.string "x"))]) } }
    let ls : LogSet := { status := { discovery := some ⟨""⟩ } }
    (fileServiceDoc ext dn ls).Distinct ∧ (∀ es, (fileServiceDoc ext dn ls).get? ["dn"] ≠ some (.table es)) ∧
    dnSetConfig ext (dnSetAfterBuild ext dn ls) ls = dnSetConfig ext dn ls ∧
    dnSetAfterBuild ext (dnSetAfterBuild ext dn ls) ls = dnSetAfterBuild ext dn ls := by
  intro fs ext dn ls
  have hfs : (fileServiceDoc ext dn ls).Distinct :=
    .table (by decide) fun _ h => by
      obtain rfl := List.mem_singleton.1 h
      exact .table (by decide) fun _ h => by obtain rfl := List.mem_singleton.1 h; exact .leaf _
  have hnone : (fileServiceDoc ext dn ls).get? ["dn"] = none := rfl
  have hdn : ∀ es, (fileServiceDoc ext dn ls).get? ["dn"] ≠ some (.table es) := fun _ h => by
    rw [hnone] at h; cases h
  exact ⟨hfs, hdn, dnSetConfig_afterBuild ext hfs hdn⟩

/-! ## Volume claim templates -/

section
variable (ext : Externals)

theorem syncPersistentVolumeClaim_of_cacheVolume (dn : DNSet) (sts : StatefulSet)
    {cv : StorageVolume} (h : dn.spec.cacheVolume = some cv) :
    (syncPersistentVolumeClaim ext dn sts).spec.volumeClaimTemplates =
      ext.persistentVolumeClaimTemplate cv.size cv.storageClassName ext.dataVolume ::
        (dn.spec.overlay.map (·.volumeClaims)).getD [] := by
  simp only [syncPersistentVolumeClaim, h]
  cases dn.spec.overlay <;> rfl

end

/-- Without a cache volume the overlay's claims are never added: a claim the overlay
lists stays missing from a stateful set that had none. -/
theorem syncPersistentVolumeClaim_drops_overlay_claims :
    ({ name := "extra" } : PersistentVolumeClaim) ∉
      (syncPersistentVolumeClaim {} { spec := { overlay := some { volumeClaims := [{ name := "extra" }] } } }
        {}).spec.volumeClaimTemplates := by
  decide

/-! ## Resynchronisation -/

section
variable (ext : Externals)

theorem syncPods_some_eq_ok {dn : DNSet} {ls : LogSet} {sts sts' : StatefulSet} {cm : ConfigMap} :
    syncPods ext dn (some ls) sts = .ok (cm, sts') ↔
      buildDNSetConfigMap ext dn ls = .ok cm ∧
        ∃ s, syncPodMeta dn sts = .ok s ∧ sts' = syncPodSpec ext dn s ls.spec.sharedStorage := by
  simp only [syncPods]
  cases buildDNSetConfigMap ext dn ls <;> cases syncPodMeta dn sts <;>
    simp [bind, Except.bind, pure, Except.pure, eq_comm]

theorem syncPodMeta_eq_ok {dn : DNSet} {sts s : StatefulSet} :
    syncPodMeta dn sts = .ok s ↔ ∃ m, overlayPodMeta dn.spec.overlay sts.spec.template.objectMeta = .ok m ∧
      s = { sts with spec.template.objectMeta := m } := by
  simp only [syncPodMeta]
  cases overlayPodMeta dn.spec.overlay sts.spec.template.objectMeta <;>
    simp [bind, Except.bind, pure, Except.pure, eq_comm]

theorem syncPodMeta_resync {dn : DNSet} {sts s s' : StatefulSet} (h : syncPodMeta dn sts = .ok s)
    (hs : s'.spec.template.objectMeta = s.spec.template.objectMeta) : syncPodMeta dn s' = .ok s' := by
  obtain ⟨m, hm, rfl⟩ := (syncPodMeta_eq_ok).1 h
  simp only at hs
  subst hs
  exact (syncPodMeta_eq_ok).2 ⟨_, overlayPodMeta_idem hm, rfl⟩

theorem dnMainContainer_name (dn : DNSet) (sts : StatefulSet) :
    (dnMainContainer ext dn sts).name = containerMain := by
  simp only [dnMainContainer]
  cases h : sts.spec.template.spec.containers.find? (·.name = containerMain) with
  | none => rfl
  | some c => simpa using List.find?_some h

/-- `dnMainContainer` writes the same five fields whatever the stateful set: on another
set it is that set's main container with the fields it writes on this one. -/
theorem dnMainContainer_of_find {dn : DNSet} (sts : StatefulSet) {sts' : StatefulSet} {c : Container}
    (h : sts'.spec.template.spec.containers.find? (·.name = containerMain) = some c) :
    dnMainContainer ext dn sts' =
      let m := dnMainContainer ext dn sts
      { c with
        image := m.image
        resources := m.resources
        command := m.command
        volumeMounts := m.volumeMounts
        env := m.env } := by
  simp [dnMainContainer, h]

section
variable {ext}
variable (hP : ∀ sp P, (ext.setStorageProviderConfig sp P).containers = P.containers)
  (hT : ∀ b P, (ext.syncTopology b P).containers = P.containers)
include hP hT

theorem syncPodSpec_containers (dn : DNSet) (sts : StatefulSet) (sp : SharedStorageProvider) :
    (syncPodSpec ext dn sts sp).spec.template.spec.containers =
      overlayMainContainer dn.spec.overlay (dnMainContainer ext dn sts) ::
        (dn.spec.overlay.bind (·.sidecarContainers)).getD [] := by
  have hmain := findMainContainer_cons_of_main
    (by rw [overlayMainContainer_name, dnMainContainer_name] :
      (overlayMainContainer dn.spec.overlay (dnMainContainer ext dn sts)).name = containerMain) []
  simp only [syncPodSpec, overlayPodSpec_containers, hP, hT]
  cases dn.spec.overlay.bind (·.sidecarContainers) <;> simp [hmain]

theorem syncPodSpec_containers_resync (dn : DNSet) (sts : StatefulSet) (sp : SharedStorageProvider) :
    (syncPodSpec ext dn (syncPodSpec ext dn sts sp) sp).spec.template.spec.containers =
      (syncPodSpec ext dn sts sp).spec.template.spec.containers := by
  have hfind : (syncPodSpec ext dn sts sp).spec.template.spec.containers.find? (·.name = containerMain) =
      some (overlayMainContainer dn.spec.overlay (dnMainContainer ext dn sts)) := by
    simp [syncPodSpec_containers hP hT, dnMainContainer_name]
  rw [syncPodSpec_containers hP hT, syncPodSpec_containers hP hT, dnMainContainer_of_find ext sts hfind,
    overlayMainContainer_overwrite]

end

/-- A second `syncPods` on the stateful set the first one left succeeds, renders the same
config map and leaves the same pod metadata; with helpers that leave the containers alone,
it also leaves the same containers. -/
theorem syncPods_resync_stable {dn : DNSet} {ls : LogSet} {sts sts' : StatefulSet} {cm : ConfigMap}
    (h : syncPods ext dn (some ls) sts = .ok (cm, sts')) :
    ∃ sts'', syncPods ext dn (some ls) sts' = .ok (cm, sts'') ∧
      sts''.spec.template.objectMeta = sts'.spec.template.objectMeta ∧
      ((∀ sp P, (ext.setStorageProviderConfig sp P).containers = P.containers) →
        (∀ b P, (ext.syncTopology b P).containers = P.containers) →
        sts''.spec.template.spec.containers = sts'.spec.template.spec.containers) := by
  obtain ⟨hcm, s, hs, rfl⟩ := (syncPods_some_eq_ok ext).1 h
  have hmeta := syncPodMeta_resync hs (rfl : (syncPodSpec ext dn s ls.spec.sharedStorage).spec.template.objectMeta = _)
  exact ⟨_, (syncPods_some_eq_ok ext).2 ⟨hcm, _, hmeta, rfl⟩, rfl,
    fun hP hT => syncPodSpec_containers_resync hP hT dn s _⟩

end

theorem syncPods_resync_stable_sidecar :
    let dn : DNSet := { spec := { overlay := some { sidecarContainers := some [{ name := "log" }] } } }
    let ls : LogSet := { status := { discovery := some ⟨""⟩ } }
    let cm : ConfigMap := { objectMeta := {}, data := (GoMap.empty.assign "" "").assign "" "" }
    (∀ sp P, (({} : Externals).setStorageProviderConfig sp P).containers = P.containers) ∧
    (∀ b P, (({} : Externals).syncTopology b P).containers = P.containers) ∧
    syncPods {} dn (some ls) {} = .ok (cm, syncPodSpec {} dn {} {}) ∧
    ∃ sts'', syncPods {} dn (some ls) (syncPodSpec {} dn {} {}) = .ok (cm, sts'') ∧
      sts''.spec.template.objectMeta = (syncPodSpec {} dn {} {}).spec.template.objectMeta ∧
      sts''.spec.template.spec.containers = (syncPodSpec {} dn {} {}).spec.template.spec.containers := by
  intro dn ls cm
  have h : syncPods {} dn (some ls) {} = .ok (cm, syncPodSpec {} dn {} {}) := rfl
  obtain ⟨sts'', hs, hmeta, hcont⟩ := syncPods_resync_stable {} h
  exact ⟨fun _ _ => rfl, fun _ _ => rfl, h, sts'', hs, hmeta, hcont (fun _ _ => rfl) (fun _ _ => rfl)⟩

end MatrixOneOperator
