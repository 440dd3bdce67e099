import MatrixOneOperator.Go

/-!
# API types

The fields of the `corev1` and `v1alpha1` types the modelled functions read or write; a
pointer, or a slice compared with nil, is an `Option`, and every field defaults to Go's zero value.
-/

namespace MatrixOneOperator

/-- `v1alpha1.ContainerMain`, the reserved name of the generated container. -/
def containerMain : String := "main"

structure ObjectMeta where
  name : String := ""
  «namespace» : String := ""
  labels : Option GoMap := none
  annotations : Option GoMap := none
  deriving DecidableEq

structure EnvVar where
  name : String
  value : String := ""
  valueFrom : Option Blob := none
  deriving DecidableEq, Repr

structure VolumeMount where
  name : String
  readOnly : Bool := false
  mountPath : String := ""
  deriving DecidableEq, Repr

structure Volume where
  name : String
  volumeSource : Blob := ⟨""⟩
  deriving DecidableEq, Repr

structure PersistentVolumeClaim where
  name : String
  spec : Blob := ⟨""⟩
  deriving DecidableEq, Repr

structure Container where
  name : String
  image : String := ""
  command : List String := []
  args : List String := []
  envFrom : List Blob := []
  env : List EnvVar := []
  resources : Blob := ⟨""⟩
  volumeMounts : List VolumeMount := []
  livenessProbe : Option Blob := none
  readinessProbe : Option Blob := none
  lifecycle : Option Blob := none
  imagePullPolicy : String := ""
  deriving DecidableEq, Repr

structure PodSpec where
  volumes : List Volume := []
  initContainers : List Container := []
  containers : List Container := []
  terminationGracePeriodSeconds : Option Int := none
  nodeSelector : Option GoMap := none
  serviceAccountName : String := ""
  securityContext : Option Blob := none
  imagePullSecrets : List Blob := []
  affinity : Option Blob := none
  tolerations : List Blob := []
  hostAliases : List Blob := []
  priorityClassName : String := ""
  dnsConfig : Option Blob := none
  readinessGates : List String := []
  runtimeClassName : Option String := none
  topologySpreadConstraints : List Blob := []
  deriving DecidableEq

structure MainContainerOverlay where
  command : Option (List String) := none
  args : Option (List String) := none
  imagePullPolicy : Option String := none
  env : Option (List EnvVar) := none
  envFrom : Option (List Blob) := none
  volumeMounts : Option (List VolumeMount) := none
  livenessProbe : Option Blob := none
  readinessProbe : Option Blob := none
  lifecycle : Option Blob := none
  deriving DecidableEq, Repr

structure Overlay where
  mainContainerOverlay : MainContainerOverlay := {}
  volumes : Option (List Volume) := none
  volumeClaims : List PersistentVolumeClaim := []
  initContainers : Option (List Container) := none
  sidecarContainers : Option (List Container) := none
  serviceAccountName : String := ""
  securityContext : Option Blob := none
  imagePullSecrets : Option (List Blob) := none
  affinity : Option Blob := none
  tolerations : Option (List Blob) := none
  priorityClassName : String := ""
  terminationGracePeriodSeconds : Option Int := none
  hostAliases : Option (List Blob) := none
  topologySpreadConstraints : Option (List Blob) := none
  runtimeClassName : Option String := none
  dnsConfig : Option Blob := none
  podLabels : Option GoMap := none
  podAnnotations : Option GoMap := none
  deriving DecidableEq

end MatrixOneOperator
