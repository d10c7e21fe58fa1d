import K8sAgentsOperator.Inject
/-!
# `sdkInjector.inject`

The pod mutator's entry point: for each language that has an Instrumentation, the `apm` package's
agent injector, then the common configuration. The `apm` package is not among the sources, so its
injectors are a parameter of the model (`Apm`); so is the Go container-name annotation, which
`annotationValue` (not among the sources either) reads.

The Go branch looks up the annotated container (`getContainerIndex`) but passes `0` to
`injectCommonSDKConfig` as the application container: the sidecar describes container 0 whichever
container the annotation names (`inject_go_describes_first_container`).
-/

namespace K8sAgentsOperator.Instrumentation

/-- The agent injectors of the `apm` package. Each returns the pod it built and an error, as the Go
functions return `(corev1.Pod, error)`; `inject` keeps the returned pod in both cases. -/
structure Apm where
  injectJavaagent : LanguageSpec → Pod → Nat → Pod × Option String
  injectNodeJSSDK : LanguageSpec → Pod → Nat → Pod × Option String
  injectPythonSDK : LanguageSpec → Pod → Nat → Pod × Option String
  injectDotNetSDK : LanguageSpec → Pod → Nat → Pod × Option String
  injectPhpagent : LanguageSpec → Pod → Nat → Pod × Option String
  injectGoSDK : LanguageSpec → Pod → Pod × Option String

/-- `languageInstrumentations`: the Instrumentation each language is injected with, if any. -/
structure LanguageInstrumentations where
  java : Option Instrumentation := none
  nodeJS : Option Instrumentation := none
  python : Option Instrumentation := none
  dotNet : Option Instrumentation := none
  php : Option Instrumentation := none
  go : Option Instrumentation := none

/-- `getContainerIndex`: the last container named `containerName`, or `0` when none is. -/
def getContainerIndex (containerName : String) (pod : Pod) : Nat :=
  pod.spec.containers.enum.foldl (fun index ic => if ic.2.name = containerName then ic.1 else index) 0

/-- The agent step of a language other than Go, at container `index`: on success
`injectNewrelicConfig` follows; on an error the pod the agent injector returned is kept, and the
log line reads the name of its container `index`. -/
def injectLanguage (client : Client) (fuel : Nat) (ns : Namespace) (newrelic : Instrumentation)
    (agent : Pod → Nat → Pod × Option String) (index : Nat) (pod : Pod) : Option Pod :=
  match agent pod index with
  | (pod, some _) => (pod.spec.containers[index]?).map fun _ => pod
  | (pod, none) => injectNewrelicConfig client fuel newrelic ns pod index

/-- The Go step: `InjectGoSDK` adds the sidecar, then the common env vars and the common SDK config
go to the last container, with the attributes of container `0`. The annotated container's index
is only read by the log line of the error branch. With no container left, Go's index `-1` panics;
here `0 - 1 = 0` is out of range of the empty list, so the model gives `none` as well. -/
def injectGo (client : Client) (fuel : Nat) (ns : Namespace) (apm : Apm) (goContainers : String)
    (newrelic : Instrumentation) (pod : Pod) : Option Pod :=
  let index := getContainerIndex goContainers pod
  match apm.injectGoSDK newrelic.spec.go pod with
  | (pod, some _) => (pod.spec.containers[index]?).map fun _ => pod
  | (pod, none) => do
    let pod ← injectCommonEnvVar newrelic pod (pod.spec.containers.length - 1)
    injectCommonSDKConfig client fuel newrelic ns pod (pod.spec.containers.length - 1) 0

/-- Run a language's step when that language has an Instrumentation. -/
def withInstrumentation (inst : Option Instrumentation) (step : Instrumentation → Pod → Option Pod)
    (pod : Pod) : Option Pod :=
  match inst with
  | none => some pod
  | some newrelic => step newrelic pod

/-- `inject`: `containerName` chooses the container for the languages other than Go (the first
one when none has that name), `goContainers` is the Go container-name annotation. -/
def inject (client : Client) (fuel : Nat) (apm : Apm) (insts : LanguageInstrumentations) (ns : Namespace)
    (pod : Pod) (containerName goContainers : String) : Option Pod :=
  if pod.spec.containers.length < 1 then some pod
  else do
    let index := getContainerIndex containerName pod
    let pod ← withInstrumentation insts.java
      (fun nr => injectLanguage client fuel ns nr (apm.injectJavaagent nr.spec.java) index) pod
    let pod ← withInstrumentation insts.nodeJS
      (fun nr => injectLanguage client fuel ns nr (apm.injectNodeJSSDK nr.spec.nodeJS) index) pod
    let pod ← withInstrumentation insts.python
      (fun nr => injectLanguage client fuel ns nr (apm.injectPythonSDK nr.spec.python) index) pod
    let pod ← withInstrumentation insts.dotNet
      (fun nr => injectLanguage client fuel ns nr (apm.injectDotNetSDK nr.spec.dotNet) index) pod
    let pod ← withInstrumentation insts.php
      (fun nr => injectLanguage client fuel ns nr (apm.injectPhpagent nr.spec.php) index) pod
    withInstrumentation insts.go (injectGo client fuel ns apm goContainers) pod

/-! ## The Go sidecar -/

/-- The `apm` package as far as the Go case needs it: every agent injector succeeds, and
`InjectGoSDK` appends the sidecar `go-agent` after the existing containers. -/
def goSidecarApm : Apm where
  injectJavaagent _ pod _ := (pod, none)
  injectNodeJSSDK _ pod _ := (pod, none)
  injectPythonSDK _ pod _ := (pod, none)
  injectDotNetSDK _ pod _ := (pod, none)
  injectPhpagent _ pod _ := (pod, none)
  injectGoSDK _ pod :=
    ({ pod with spec := { pod.spec with containers := pod.spec.containers ++ [{ name := "go-agent" }] } }, none)

/-- A pod `p` with the containers `proxy` and then `app`. -/
def proxyAppPod : Pod :=
  { objectMeta := { name := "p" },
    spec := { containers := [{ name := "proxy", image := "envoy:1.30" }, { name := "app", image := "shop:2.0" }] } }

/-- The annotation names `app`, container 1, but the sidecar's `OTEL_RESOURCE_ATTRIBUTES` gives
the container name and the version of container 0, `proxy`. -/
theorem inject_go_describes_first_container :
    getContainerIndex "app" proxyAppPod = 1 ∧
    (inject noReplicaSets 1 goSidecarApm { go := some {} } appNamespace proxyAppPod "" "app").map
      (fun p => (p.spec.containers.getLast?.bind fun c => c.env.getLast?).map fun e =>
        let attrs := parseResourceAttrs e.value
        (attrs.lookup k8sContainerNameKey, attrs.lookup serviceVersionKey)) =
      some (some (some "proxy", some "1.30")) := by
  decide

end K8sAgentsOperator.Instrumentation
