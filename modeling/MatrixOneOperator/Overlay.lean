import MatrixOneOperator.Api

/-!
# The overlay merger

The methods of `Overlay` in `common_helpers.go`; each returns at once on a nil receiver, so each
takes an `Option Overlay`, and `OverlayPodMeta` returns an error where the Go code panics.
-/

namespace MatrixOneOperator

/-- `findMainContainer`: a copy of the first container named `main`. -/
def findMainContainer (containers : List Container) : Option Container :=
  containers.find? (·.name = containerMain)

/-- The loop of `OverlayPodMeta` over one of the overlay's maps:
`for k, v := range src { dst[k] = v }` when `src` is not nil. -/
def overlayMap : Option GoMap → Option GoMap → Except String (Option GoMap)
  | some src, dst => rangeAssign src dst
  | none, dst => .ok dst

/-- `(*Overlay).OverlayPodMeta`: the overlay's pod labels and annotations are written
over the pod's. -/
def overlayPodMeta : Option Overlay → ObjectMeta → Except String ObjectMeta
  | none, meta => .ok meta
  | some o, meta => do
    let labels ← overlayMap o.podLabels meta.labels
    let annotations ← overlayMap o.podAnnotations meta.annotations
    pure { meta with labels, annotations }

def appendVolumeClaims : Option Overlay → List PersistentVolumeClaim → List PersistentVolumeClaim
  | none, claims => claims
  | some o, claims => claims ++ o.volumeClaims

/-- `(*Overlay).OverlayPodSpec`: a field the overlay sets overwrites the pod's, volumes
are upserted by name, and the sidecars replace every container but `main`. -/
def overlayPodSpec : Option Overlay → PodSpec → PodSpec
  | none, pod => pod
  | some o, pod =>
    { pod with
      volumes := match o.volumes with
        | some volumes => upsertListByKey Volume.name pod.volumes volumes
        | none => pod.volumes
      affinity := o.affinity.or pod.affinity
      serviceAccountName :=
        if o.serviceAccountName ≠ "" then o.serviceAccountName else pod.serviceAccountName
      securityContext := o.securityContext.or pod.securityContext
      imagePullSecrets := o.imagePullSecrets.getD pod.imagePullSecrets
      tolerations := o.tolerations.getD pod.tolerations
      priorityClassName :=
        if o.priorityClassName ≠ "" then o.priorityClassName else pod.priorityClassName
      terminationGracePeriodSeconds :=
        o.terminationGracePeriodSeconds.or pod.terminationGracePeriodSeconds
      hostAliases := o.hostAliases.getD pod.hostAliases
      topologySpreadConstraints := o.topologySpreadConstraints.getD pod.topologySpreadConstraints
      runtimeClassName := o.runtimeClassName.or pod.runtimeClassName
      dnsConfig := o.dnsConfig.or pod.dnsConfig
      initContainers := o.initContainers.getD pod.initContainers
      containers := match o.sidecarContainers with
        | some sidecars => (findMainContainer pod.containers).toList ++ sidecars
        | none => pod.containers }

/-- `(*Overlay).OverlayMainContainer`: the same rule on the main container, with env
vars and volume mounts upserted by name. -/
def overlayMainContainer : Option Overlay → Container → Container
  | none, c => c
  | some o, c =>
    let mc := o.mainContainerOverlay
    { c with
      imagePullPolicy := mc.imagePullPolicy.getD c.imagePullPolicy
      command := mc.command.getD c.command
      args := mc.args.getD c.args
      envFrom := mc.envFrom.getD c.envFrom
      env := match mc.env with
        | some env => upsertListByKey EnvVar.name c.env env
        | none => c.env
      readinessProbe := mc.readinessProbe.or c.readinessProbe
      livenessProbe := mc.livenessProbe.or c.livenessProbe
      lifecycle := mc.lifecycle.or c.lifecycle
      volumeMounts := match mc.volumeMounts with
        | some mounts => upsertListByKey VolumeMount.name c.volumeMounts mounts
        | none => c.volumeMounts }

/-! ## Field-wise facts -/

section
variable {β : Type}

@[simp] theorem getD_getD_self (a : Option β) (b : β) : a.getD (a.getD b) = a.getD b := by
  cases a <;> rfl

@[simp] theorem or_or_self (a b : Option β) : a.or (a.or b) = a.or b := by
  rw [← Option.or_assoc, Option.or_self]

end

theorem findMainContainer_cons_of_main {c : Container} (h : c.name = containerMain)
    (cs : List Container) : findMainContainer (c :: cs) = some c := by
  simp [findMainContainer, h]

theorem findMainContainer_name {cs : List Container} {m : Container}
    (h : findMainContainer cs = some m) : m.name = containerMain := by
  simpa using List.find?_some h

theorem findMainContainer_of_filter {cs : List Container} {m : Container}
    (h : cs.filter (·.name = containerMain) = [m]) : findMainContainer cs = some m := by
  rw [findMainContainer, ← List.filter_head?, h]
  rfl

theorem overlayPodSpec_containers (o : Option Overlay) (P : PodSpec) :
    (overlayPodSpec o P).containers = match o.bind (·.sidecarContainers) with
      | some sidecars => (findMainContainer P.containers).toList ++ sidecars
      | none => P.containers := by
  cases o <;> rfl

@[simp] theorem overlayMainContainer_name (o : Option Overlay) (c : Container) :
    (overlayMainContainer o c).name = c.name := by
  cases o <;> rfl

/-- The overlay reads each field of the container alone, so over fields written after
a first overlay a second one merges as if the first had never run. -/
theorem overlayMainContainer_overwrite (o : Option Overlay) (c : Container) (image : String)
    (resources : Blob) (command : List String) (volumeMounts : List VolumeMount)
    (env : List EnvVar) :
    overlayMainContainer o
        { overlayMainContainer o c with image, resources, command, volumeMounts, env } =
      overlayMainContainer o { c with image, resources, command, volumeMounts, env } := by
  rcases o with _ | o
  · rfl
  · simp only [overlayMainContainer, getD_getD_self, or_or_self]

theorem overlayPodMeta_some_eq_ok {o : Overlay} {m m' : ObjectMeta} :
    overlayPodMeta (some o) m = .ok m' ↔
      ∃ labels annotations, overlayMap o.podLabels m.labels = .ok labels ∧
        overlayMap o.podAnnotations m.annotations = .ok annotations ∧
        m' = { m with labels, annotations } := by
  simp only [overlayPodMeta]
  cases overlayMap o.podLabels m.labels <;> cases overlayMap o.podAnnotations m.annotations <;>
    simp [bind, Except.bind, pure, Except.pure, eq_comm]

theorem overlayMap_idem {src dst d : Option GoMap} (h : overlayMap src dst = .ok d) :
    overlayMap src d = .ok d := by
  rcases src with _ | s
  · cases h; rfl
  · rcases dst with _ | m
    · simp only [overlayMap, rangeAssign_none] at h
      split at h <;> cases h
      simp [overlayMap, rangeAssign_none, *]
    · simp only [overlayMap, rangeAssign_some] at h
      cases h
      rw [overlayMap, rangeAssign_some, GoMap.assignAll_idem]

/-! ## Idempotence -/

theorem overlayPodMeta_idem {o : Option Overlay} {m m' : ObjectMeta}
    (h : overlayPodMeta o m = .ok m') : overlayPodMeta o m' = .ok m' := by
  rcases o with _ | o
  · cases h; rfl
  · obtain ⟨l, a, hl, ha, rfl⟩ := overlayPodMeta_some_eq_ok.1 h
    exact overlayPodMeta_some_eq_ok.2 ⟨l, a, overlayMap_idem hl, overlayMap_idem ha, rfl⟩

theorem overlayMainContainer_idem (o : Option Overlay) (c : Container) :
    overlayMainContainer o (overlayMainContainer o c) = overlayMainContainer o c := by
  rcases o with _ | o
  · rfl
  · simp only [overlayMainContainer]
    cases o.mainContainerOverlay.env <;> cases o.mainContainerOverlay.volumeMounts <;>
      simp [upsertListByKey_idem]

theorem overlayPodSpec_idem (o : Option Overlay) {P : PodSpec}
    (hP : ∃ c ∈ P.containers, c.name = containerMain) :
    overlayPodSpec o (overlayPodSpec o P) = overlayPodSpec o P := by
  obtain ⟨m, hm⟩ : ∃ m, findMainContainer P.containers = some m := by
    simpa [findMainContainer, Option.isSome_iff_exists] using
      List.find?_isSome.2 (by simpa using hP)
  rcases o with _ | ⟨_, volumes | _, _, _, sidecars | _⟩ <;>
    simp [overlayPodSpec, upsertListByKey_idem, hm,
      findMainContainer_cons_of_main (findMainContainer_name hm)] <;>
    split_ifs <;> simp_all

/-- Re-applying an overlay changes nothing: on a pod spec that has a main container,
on any container, and on any pod metadata it was applied to without a panic. -/
theorem overlay_idempotent (o : Option Overlay) :
    (∀ P : PodSpec, (∃ c ∈ P.containers, c.name = containerMain) →
      overlayPodSpec o (overlayPodSpec o P) = overlayPodSpec o P) ∧
    (∀ c : Container, overlayMainContainer o (overlayMainContainer o c) = overlayMainContainer o c) ∧
    (∀ m m' : ObjectMeta, overlayPodMeta o m = .ok m' → overlayPodMeta o m' = .ok m') :=
  ⟨fun _ hP => overlayPodSpec_idem o hP, overlayMainContainer_idem o,
    fun _ _ h => overlayPodMeta_idem h⟩

/-- An overlay that replaces the sidecars and adds a pod label, applied again. -/
theorem overlay_idempotent_sidecar :
    let o : Option Overlay :=
      some { sidecarContainers := some [{ name := "log" }], podLabels := some (.singleton "app" "dn") }
    let P : PodSpec := { containers := [{ name := "old" }, { name := containerMain }] }
    let m : ObjectMeta := { labels := some .empty }
    let m' : ObjectMeta := { labels := some (.singleton "app" "dn") }
    (∃ c ∈ P.containers, c.name = containerMain) ∧
      overlayPodSpec o (overlayPodSpec o P) = overlayPodSpec o P ∧
      overlayPodMeta o m = .ok m' ∧ overlayPodMeta o m' = .ok m' := by
  intro o P m m'
  have hP : ∃ c ∈ P.containers, c.name = containerMain := ⟨_, List.mem_cons_of_mem _ (List.mem_singleton_self _), rfl⟩
  have hm : overlayPodMeta o m = .ok m' := rfl
  exact ⟨hP, (overlay_idempotent o).1 P hP, hm, (overlay_idempotent o).2.2 m m' hm⟩

/-! ## Keyed upserts -/

/-- The main containers after the overlay are the pod's own, first, then the overlay's
sidecars named `main`; with sidecars set, the containers are the main one and then the
sidecars in order. -/
theorem overlayPodSpec_main_containers (o : Option Overlay) (P : PodSpec) (m : Container)
    (hP : P.containers.filter (·.name = containerMain) = [m]) :
    (overlayPodSpec o P).containers.filter (·.name = containerMain) =
      m :: ((o.bind (·.sidecarContainers)).getD []).filter (·.name = containerMain) ∧
    ∀ sidecars, o.bind (·.sidecarContainers) = some sidecars →
      (overlayPodSpec o P).containers = m :: sidecars := by
  have hm := findMainContainer_of_filter hP
  have hname := findMainContainer_name hm
  rcases o with _ | ⟨_, _, _, _, sidecars | _⟩ <;>
    simp [overlayPodSpec, hP, hm, hname]

theorem overlayPodSpec_main_containers_single :
    [({ name := containerMain } : Container)].filter (·.name = containerMain) =
      [{ name := containerMain }] ∧
    (overlayPodSpec (some { sidecarContainers := some [{ name := "sidecar" }] })
      { containers := [{ name := containerMain }] }).containers.filter
        (·.name = containerMain) = [{ name := containerMain }] :=
  ⟨by decide, by
    simpa using (overlayPodSpec_main_containers (some { sidecarContainers := some [{ name := "sidecar" }] })
      { containers := [{ name := containerMain }] } { name := containerMain } (by decide)).1⟩

/-- A sidecar named `main` gives the pod two main containers. -/
theorem overlayPodSpec_sidecar_named_main :
    ((overlayPodSpec (some { sidecarContainers := some [{ name := containerMain, image := "x" }] })
      { containers := [{ name := containerMain }] }).containers.filter
        (·.name = containerMain)).length = 2 := by
  decide

/-! ## Pod metadata -/

theorem lookupIn_overlayMap {src dst d : Option GoMap} (h : overlayMap src dst = .ok d)
    (k : String) : lookupIn d k = (lookupIn src k).or (lookupIn dst k) := by
  rcases src with _ | s
  · cases h; rfl
  · rcases dst with _ | m
    · simp only [overlayMap, rangeAssign_none] at h
      split at h <;> cases h
      simp [lookupIn, GoMap.lookup, findKey, *]
    · simp only [overlayMap, rangeAssign_some] at h
      cases h
      exact GoMap.lookup_assignAll m s k

/-- Whenever `OverlayPodMeta` returns, the pod's labels and annotations read the
overlay's value for each of its keys and the old value for every other key. -/
theorem overlayPodMeta_overlay_wins {o : Option Overlay} {m m' : ObjectMeta}
    (h : overlayPodMeta o m = .ok m') (k : String) :
    lookupIn m'.labels k = (lookupIn (o.bind (·.podLabels)) k).or (lookupIn m.labels k) ∧
    lookupIn m'.annotations k =
      (lookupIn (o.bind (·.podAnnotations)) k).or (lookupIn m.annotations k) := by
  rcases o with _ | o
  · cases h; exact ⟨rfl, rfl⟩
  · obtain ⟨l, a, hl, ha, rfl⟩ := overlayPodMeta_some_eq_ok.1 h
    exact ⟨lookupIn_overlayMap hl k, lookupIn_overlayMap ha k⟩

theorem overlayPodMeta_overlay_wins_app :
    ∃ m', overlayPodMeta (some { podLabels := some (GoMap.singleton "app" "mo") })
      { labels := some (GoMap.singleton "app" "dn") } = .ok m' ∧ lookupIn m'.labels "app" = some "mo" :=
  have h : overlayPodMeta (some { podLabels := some (GoMap.singleton "app" "mo") })
      { labels := some (GoMap.singleton "app" "dn") } =
      .ok { labels := some ((GoMap.singleton "app" "dn").assignAll (GoMap.singleton "app" "mo")) } :=
    rfl
  ⟨_, h, (overlayPodMeta_overlay_wins h "app").1⟩

theorem overlayMap_ok_iff (src dst : Option GoMap) :
    (∃ d, overlayMap src dst = .ok d) ↔ dst.isSome ∨ ∀ s ∈ src, s.entries = [] := by
  rcases src with _ | s
  · simp [overlayMap]
  · rcases dst with _ | m
    · simp only [overlayMap, rangeAssign_none]
      split <;> simp_all
    · simp [overlayMap, rangeAssign_some]

/-- `OverlayPodMeta` panics exactly when the overlay has an entry for a map the pod
has nil. -/
theorem overlayPodMeta_ok_iff (o : Overlay) (m : ObjectMeta) :
    (∃ m', overlayPodMeta (some o) m = .ok m') ↔
      (m.labels.isSome ∨ ∀ l ∈ o.podLabels, l.entries = []) ∧
      (m.annotations.isSome ∨ ∀ a ∈ o.podAnnotations, a.entries = []) := by
  rw [← overlayMap_ok_iff, ← overlayMap_ok_iff]
  constructor
  · rintro ⟨m', h⟩
    obtain ⟨l, a, hl, ha, -⟩ := overlayPodMeta_some_eq_ok.1 h
    exact ⟨⟨l, hl⟩, ⟨a, ha⟩⟩
  · rintro ⟨⟨l, hl⟩, ⟨a, ha⟩⟩
    exact ⟨_, overlayPodMeta_some_eq_ok.2 ⟨l, a, hl, ha, rfl⟩⟩

/-- A pod whose annotations are nil and an overlay that sets one: the Go code writes
into the nil map and panics. -/
theorem overlayPodMeta_nil_annotations_panics :
    overlayPodMeta (some { podAnnotations := some ⟨[("a", "b")], by decide⟩ })
      { labels := some GoMap.empty } = .error nilMapPanic := rfl

end MatrixOneOperator
