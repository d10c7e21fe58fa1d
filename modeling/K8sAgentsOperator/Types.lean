import Mathlib.Data.List.AList
import Mathlib.Data.String.Basic
/-!
# The objects the injector reads and writes

The fields of the Kubernetes and operator types that `sdk.go` and
`instrumentation_webhook.go` touch, and nothing else: a field no modelled
function reads is left out. Go maps are association lists (`AList`), which
keep their keys unique; the code never depends on a map's iteration order.
-/

namespace K8sAgentsOperator

/-! ## Kubernetes core types -/

/-- `corev1.ObjectFieldSelector`. -/
structure ObjectFieldSelector where
  fieldPath : String
deriving DecidableEq, Repr

/-- `corev1.SecretKeySelector`, its `LocalObjectReference` flattened into `name`. -/
structure SecretKeySelector where
  name : String
  key : String
  optional : Option Bool
deriving DecidableEq, Repr

/-- `corev1.EnvVarSource`, with the two sources the injector builds. -/
structure EnvVarSource where
  fieldRef : Option ObjectFieldSelector := none
  secretKeyRef : Option SecretKeySelector := none
deriving DecidableEq, Repr

/-- `corev1.EnvVar`. -/
structure EnvVar where
  name : String
  value : String := ""
  valueFrom : Option EnvVarSource := none
deriving DecidableEq, Repr

/-- `corev1.Container`. -/
structure Container where
  name : String
  image : String := ""
  env : List EnvVar := []
deriving DecidableEq, Repr

/-- `metav1.OwnerReference`. -/
structure OwnerReference where
  kind : String
  name : String
  uid : String := ""
deriving DecidableEq, Repr

/-- `metav1.ObjectMeta`. -/
structure ObjectMeta where
  name : String := ""
  uid : String := ""
  ownerReferences : List OwnerReference := []
deriving DecidableEq, Repr, Inhabited

/-- `corev1.PodSpec`. -/
structure PodSpec where
  containers : List Container
  nodeName : String := ""
deriving DecidableEq, Repr

/-- `corev1.Pod`. -/
structure Pod where
  objectMeta : ObjectMeta := {}
  spec : PodSpec
deriving DecidableEq, Repr

/-- `corev1.Namespace`. -/
structure Namespace where
  objectMeta : ObjectMeta := {}
deriving DecidableEq, Repr

/-- `appsv1.ReplicaSet`; `ReplicaSet{}` is the default value. -/
structure ReplicaSet where
  objectMeta : ObjectMeta := {}
deriving DecidableEq, Repr, Inhabited

/-- `types.NamespacedName`. -/
structure NamespacedName where
  «namespace» : String
  name : String
deriving DecidableEq, Repr

/-- The error of a `client.Get`, as far as `apierrors.IsNotFound` tells them apart. -/
inductive GetError where
  | notFound
  | other
deriving DecidableEq, Repr

/-- A fixed cluster state, as `client.Get` of a ReplicaSet sees it. -/
abbrev Client := NamespacedName → Except GetError ReplicaSet

/-! ## Attribute maps -/

/-- A Go `map[string]string`. -/
abbrev Attrs := AList fun _ : String => String

/-- `m[k]`: the value, or `""` when `k` is absent. -/
def Attrs.get (m : Attrs) (k : String) : String :=
  (m.lookup k).getD ""

@[simp] theorem Attrs.get_insert_self (m : Attrs) (k v : String) : Attrs.get (m.insert k v) k = v := by
  simp [Attrs.get, AList.lookup_insert]

theorem Attrs.get_insert_ne (m : Attrs) {k k' : String} (v : String) (h : k' ≠ k) :
    Attrs.get (m.insert k v) k' = m.get k' := by
  simp [Attrs.get, AList.lookup_insert_ne h]

/-! ## The operator's `Instrumentation` resource -/

/-- `v1alpha1.Resource`. -/
structure Resource where
  attributes : Attrs := ∅
  addK8sUIDAttributes : Bool := false
deriving DecidableEq

/-- `v1alpha1.Exporter`, embedded in the spec, so `Spec.Endpoint` is `Spec.Exporter.Endpoint`. -/
structure Exporter where
  endpoint : String := ""
deriving DecidableEq, Repr

/-- `v1alpha1.Sampler`, embedded in the spec. -/
structure Sampler where
  type : String := ""
  argument : String := ""
deriving DecidableEq, Repr

/-- The per-language block of the spec (`Java`, `NodeJS`, ...): its image and env vars. -/
structure LanguageSpec where
  image : String := ""
  env : List EnvVar := []
deriving DecidableEq, Repr

/-- `v1alpha1.InstrumentationSpec`. -/
structure InstrumentationSpec where
  exporter : Exporter := {}
  resource : Resource := {}
  propagators : List String := []
  sampler : Sampler := {}
  env : List EnvVar := []
  java : LanguageSpec := {}
  nodeJS : LanguageSpec := {}
  python : LanguageSpec := {}
  dotNet : LanguageSpec := {}
  php : LanguageSpec := {}
  go : LanguageSpec := {}
deriving DecidableEq

/-- `v1alpha1.Instrumentation`. -/
structure Instrumentation where
  spec : InstrumentationSpec := {}
deriving DecidableEq

/-! ## Names -/

/-!
The `constants` package is not among the sources. Its variable names follow the spec's
vocabulary of produced variables, spelled as the spec spells them.
-/

/-- Modelled from the spec: `constants.EnvOTELServiceName`. -/
def envOTELServiceName : String := "OTEL_SERVICE_NAME"
/-- Modelled from the spec: `constants.EnvOTELExporterOTLPEndpoint`. -/
def envOTELExporterOTLPEndpoint : String := "OTEL_EXPORTER_OTLP_ENDPOINT"
/-- Modelled from the spec: `constants.EnvOTELResourceAttrs`. -/
def envOTELResourceAttrs : String := "OTEL_RESOURCE_ATTRIBUTES"
/-- Modelled from the spec: `constants.EnvOTELPropagators`. -/
def envOTELPropagators : String := "OTEL_PROPAGATORS"
/-- Modelled from the spec: `constants.EnvOTELTracesSampler`. -/
def envOTELTracesSampler : String := "OTEL_TRACES_SAMPLER"
/-- Modelled from the spec: `constants.EnvOTELTracesSamplerArg`. -/
def envOTELTracesSamplerArg : String := "OTEL_TRACES_SAMPLER_ARG"
/-- Modelled from the spec: `constants.EnvPodName`. -/
def envPodName : String := "OTEL_RESOURCE_ATTRIBUTES_POD_NAME"
/-- Modelled from the spec: `constants.EnvPodUID`. -/
def envPodUID : String := "OTEL_RESOURCE_ATTRIBUTES_POD_UID"
/-- Modelled from the spec: `constants.EnvNodeName`. -/
def envNodeName : String := "OTEL_RESOURCE_ATTRIBUTES_NODE_NAME"
/-- Modelled from the spec: `constants.EnvNewRelicAppName`. -/
def envNewRelicAppName : String := "NEW_RELIC_APP_NAME"
/-- Modelled from the spec: `constants.EnvNewRelicLicenseKey`. -/
def envNewRelicLicenseKey : String := "NEW_RELIC_LICENSE_KEY"
/-- Modelled from the spec: `constants.EnvNewRelicLabels`. -/
def envNewRelicLabels : String := "NEW_RELIC_LABELS"

/-- The attribute keys of `semconv` v1.5.0 that the injector writes. -/
def k8sNamespaceNameKey : String := "k8s.namespace.name"
def k8sContainerNameKey : String := "k8s.container.name"
def k8sPodNameKey : String := "k8s.pod.name"
def k8sPodUIDKey : String := "k8s.pod.uid"
def k8sNodeNameKey : String := "k8s.node.name"
def serviceInstanceIDKey : String := "service.instance.id"
def serviceVersionKey : String := "service.version"
def k8sReplicaSetNameKey : String := "k8s.replicaset.name"
def k8sReplicaSetUIDKey : String := "k8s.replicaset.uid"
def k8sDeploymentNameKey : String := "k8s.deployment.name"
def k8sDeploymentUIDKey : String := "k8s.deployment.uid"
def k8sStatefulSetNameKey : String := "k8s.statefulset.name"
def k8sStatefulSetUIDKey : String := "k8s.statefulset.uid"
def k8sDaemonSetNameKey : String := "k8s.daemonset.name"
def k8sDaemonSetUIDKey : String := "k8s.daemonset.uid"
def k8sJobNameKey : String := "k8s.job.name"
def k8sJobUIDKey : String := "k8s.job.uid"
def k8sCronJobNameKey : String := "k8s.cronjob.name"
def k8sCronJobUIDKey : String := "k8s.cronjob.uid"

/-! ## Pods -/

/-- The pod with container `index` given the env list `env`. -/
def Pod.setEnv (pod : Pod) (index : Nat) (c : Container) (env : List EnvVar) : Pod :=
  { pod with spec := { pod.spec with containers := pod.spec.containers.set index { c with env := env } } }

@[simp] theorem Pod.setEnv_objectMeta (pod : Pod) (index : Nat) (c : Container) (env : List EnvVar) :
    (pod.setEnv index c env).objectMeta = pod.objectMeta := rfl

@[simp] theorem Pod.setEnv_nodeName (pod : Pod) (index : Nat) (c : Container) (env : List EnvVar) :
    (pod.setEnv index c env).spec.nodeName = pod.spec.nodeName := rfl

theorem Pod.setEnv_container {pod : Pod} {index : Nat} {c : Container} (h : pod.spec.containers[index]? = some c)
    (env : List EnvVar) : (pod.setEnv index c env).spec.containers[index]? = some { c with env := env } := by
  have hi : index < pod.spec.containers.length := (List.getElem?_eq_some_iff.1 h).1
  simp [Pod.setEnv, List.getElem?_set, hi]

@[simp] theorem Pod.setEnv_length (pod : Pod) (index : Nat) (c : Container) (env : List EnvVar) :
    (pod.setEnv index c env).spec.containers.length = pod.spec.containers.length :=
  List.length_set _ _ _

theorem Pod.setEnv_ne {pod : Pod} {index j : Nat} (c : Container) (env : List EnvVar) (h : index ≠ j) :
    (pod.setEnv index c env).spec.containers[j]? = pod.spec.containers[j]? :=
  List.getElem?_set_ne h

/-- Writing a container's env list twice keeps the second write. -/
@[simp] theorem Pod.setEnv_setEnv (pod : Pod) (index : Nat) (c : Container) (env env' : List EnvVar) :
    (pod.setEnv index c env).setEnv index { c with env := env } env' = pod.setEnv index c env' := by
  simp [Pod.setEnv, List.set_set]

end K8sAgentsOperator
