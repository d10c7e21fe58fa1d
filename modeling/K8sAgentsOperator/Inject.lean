import K8sAgentsOperator.CreateResourceMap
/-!
# The injectors

`injectCommonEnvVar`, `injectNewrelicConfig` and `injectCommonSDKConfig`, with
the two choosers they call. `injectCommonSDKConfig` is one long function in
the source; here its steps are named, in the source's order, so that each has
a lemma of its own. An index out of range makes Go panic and the model return
`none`, as does a walk that runs out of fuel.
-/

namespace K8sAgentsOperator.Instrumentation

open Strings

/-! ## Choosing the service name and version -/

/-- `chooseServiceName`: the first non-empty of the deployment, statefulset, job, cronjob and pod
names, else the name of container `index`. -/
def chooseServiceName (pod : Pod) (resources : Attrs) (index : Nat) : Option String :=
  if resources.get k8sDeploymentNameKey ≠ "" then some (resources.get k8sDeploymentNameKey)
  else if resources.get k8sStatefulSetNameKey ≠ "" then some (resources.get k8sStatefulSetNameKey)
  else if resources.get k8sJobNameKey ≠ "" then some (resources.get k8sJobNameKey)
  else if resources.get k8sCronJobNameKey ≠ "" then some (resources.get k8sCronJobNameKey)
  else if resources.get k8sPodNameKey ≠ "" then some (resources.get k8sPodNameKey)
  else (pod.spec.containers[index]?).map (·.name)

/-- `chooseServiceVersion`: the last `:`-separated part of the image, or `""` when it holds a
`/` (then the colon was a registry port). -/
def chooseServiceVersion (pod : Pod) (index : Nat) : Option String :=
  (pod.spec.containers[index]?).map fun c =>
    let tag := (split c.image ':').getLastD ""
    if contains tag "/" then "" else tag

/-! ## The entries the injectors build -/

/-- An entry read through the downward API from `fieldPath`. -/
def fieldRefEnv (name fieldPath : String) : EnvVar :=
  { name := name, valueFrom := some { fieldRef := some { fieldPath := fieldPath } } }

/-- The license key: `new_relic_license_key` of the optional secret `newrelic-key-secret`. -/
def licenseKeyEnv : EnvVar :=
  let secret : SecretKeySelector :=
    { name := "newrelic-key-secret", key := "new_relic_license_key", optional := some true }
  { name := envNewRelicLicenseKey, valueFrom := some { secretKeyRef := some secret } }

/-- The value of the entry at `idx`, as `container.Env[idx].Value` reads it. -/
def valueAt (env : List EnvVar) (idx : Int) : String :=
  ((env[idx.toNat]?).map (·.value)).getD ""

/-! ## The steps of `injectCommonSDKConfig` -/

/-- What `injectCommonSDKConfig` builds up: the agent container's env list and the attribute map. -/
structure SdkState where
  env : List EnvVar
  resourceMap : Attrs

/-- The service name under `envName`, unless an entry of that name is there. -/
def withServiceName (envName : String) (pod : Pod) (resourceMap : Attrs) (index : Nat)
    (env : List EnvVar) : Option (List EnvVar) :=
  if getIndexOfEnv env envName = -1 then
    (chooseServiceName pod resourceMap index).map fun name => env ++ [{ name := envName, value := name }]
  else some env

/-- `OTEL_EXPORTER_OTLP_ENDPOINT`, when the spec sets an endpoint and the entry is not there. -/
def withExporterEndpoint (spec : InstrumentationSpec) (env : List EnvVar) : List EnvVar :=
  if spec.exporter.endpoint ≠ "" then
    appendIfAbsent env { name := envOTELExporterOTLPEndpoint, value := spec.exporter.endpoint }
  else env

/-- An empty `resourceMap[key]` becomes `$(envName)`, and a downward-API entry `envName` reading
`fieldPath` is appended; the env list is not searched for one. -/
def downwardAttr (key envName fieldPath : String) (s : SdkState) : SdkState :=
  if s.resourceMap.get key = "" then
    ⟨s.env ++ [fieldRefEnv envName fieldPath], s.resourceMap.insert key ("$(" ++ envName ++ ")")⟩
  else s

/-- The pod name, and the pod UID under `AddK8sUIDAttributes`, through the downward API when the
map has none. -/
def withPodAttrs (spec : InstrumentationSpec) (s : SdkState) : SdkState :=
  let s := downwardAttr k8sPodNameKey envPodName "metadata.name" s
  if spec.resource.addK8sUIDAttributes then downwardAttr k8sPodUIDKey envPodUID "metadata.uid" s else s

/-- `service.version` from the image, unless the `OTEL_RESOURCE_ATTRIBUTES` value already
contains the text `service.version`. -/
def withServiceVersion (pod : Pod) (index : Nat) (env : List EnvVar) (resourceMap : Attrs) :
    Option Attrs :=
  let idx := getIndexOfEnv env envOTELResourceAttrs
  if idx = -1 ∨ contains (valueAt env idx) serviceVersionKey = false then
    (chooseServiceVersion pod index).map fun vsn =>
      if vsn ≠ "" then resourceMap.insert serviceVersionKey vsn else resourceMap
  else some resourceMap

/-- `container.Env[idx].Value += resStr`, after a `,` unless the value already ends in one. -/
def extendAttrs (e : EnvVar) (resStr : String) : EnvVar :=
  { e with value := e.value ++ (if hasSuffix e.value "," then resStr else "," ++ resStr) }

/-- A new `OTEL_RESOURCE_ATTRIBUTES` entry. -/
def resourceAttrsEnv (resStr : String) : EnvVar :=
  { name := envOTELResourceAttrs, value := resStr }

@[simp] theorem resourceAttrsEnv_name (resStr : String) :
    (resourceAttrsEnv resStr).name = envOTELResourceAttrs := rfl

@[simp] theorem extendAttrs_name (e : EnvVar) (resStr : String) :
    (extendAttrs e resStr).name = e.name := rfl

/-- The serialised map as a new `OTEL_RESOURCE_ATTRIBUTES`, or added to the first one. -/
def withResourceAttrs (env : List EnvVar) (resStr : String) : List EnvVar :=
  let idx := getIndexOfEnv env envOTELResourceAttrs
  if idx = -1 then env ++ [resourceAttrsEnv resStr]
  else env.modify (extendAttrs · resStr) idx.toNat

/-- `OTEL_PROPAGATORS`, joined by `,`, when the spec lists some and the entry is not there. -/
def withPropagators (spec : InstrumentationSpec) (env : List EnvVar) : List EnvVar :=
  if getIndexOfEnv env envOTELPropagators = -1 ∧ spec.propagators.length > 0 then
    env ++ [{ name := envOTELPropagators, value := join spec.propagators "," }]
  else env

/-- The sampler and its argument, when the spec sets a sampler and neither entry is there. -/
def withSampler (spec : InstrumentationSpec) (env : List EnvVar) : List EnvVar :=
  if getIndexOfEnv env envOTELTracesSampler = -1 ∧ spec.sampler.type ≠ "" then
    if getIndexOfEnv env envOTELTracesSamplerArg = -1 then
      env ++ [{ name := envOTELTracesSampler, value := spec.sampler.type }] ++
        (if spec.sampler.argument ≠ "" then
          [{ name := envOTELTracesSamplerArg, value := spec.sampler.argument }]
        else [])
    else env
  else env

/-- The last lines of `injectCommonSDKConfig`: write the attributes, the propagators and the
sampler, then move `OTEL_RESOURCE_ATTRIBUTES` to the end. -/
def finishEnv (spec : InstrumentationSpec) (s : SdkState) : List EnvVar :=
  let env := withResourceAttrs s.env (resourceMapToStr s.resourceMap)
  let env := withSampler spec (withPropagators spec env)
  moveEnvToListEnd env (getIndexOfEnv env envOTELResourceAttrs)

/-! ## The injectors -/

/-- `injectCommonEnvVar`: the spec's env vars whose names are not yet in container `index`. -/
def injectCommonEnvVar (newrelic : Instrumentation) (pod : Pod) (index : Nat) : Option Pod := do
  let container ← pod.spec.containers[index]?
  pure (pod.setEnv index container (newrelic.spec.env.foldl appendIfAbsent container.env))

/-- `injectNewrelicConfig`: the app name, the license key and the labels marker. -/
def injectNewrelicConfig (client : Client) (fuel : Nat) (newrelic : Instrumentation) (ns : Namespace)
    (pod : Pod) (index : Nat) : Option Pod := do
  let container ← pod.spec.containers[index]?
  let resourceMap ← createResourceMap client fuel newrelic ns pod index
  let env ← withServiceName envNewRelicAppName pod resourceMap index container.env
  let env := appendIfAbsent env licenseKeyEnv
  let env := if getIndexOfEnv env envNewRelicLabels = -1 then
      env ++ [{ name := "NEW_RELIC_LABELS", value := "operator:auto-injection" }]
    else env
  pure (pod.setEnv index container env)

/-- The steps of `injectCommonSDKConfig` before the attributes are written: `container`'s env list
with the service name, the endpoint and the downward-API entries, and the attribute map the call
serialises. -/
def sdkState (client : Client) (fuel : Nat) (newrelic : Instrumentation) (ns : Namespace) (pod : Pod)
    (container : Container) (appIndex : Nat) : Option SdkState := do
  let resourceMap ← createResourceMap client fuel newrelic ns pod appIndex
  let env ← withServiceName envOTELServiceName pod resourceMap appIndex container.env
  let s := withPodAttrs newrelic.spec ⟨withExporterEndpoint newrelic.spec env, resourceMap⟩
  let resourceMap ← withServiceVersion pod appIndex s.env s.resourceMap
  pure (downwardAttr k8sNodeNameKey envNodeName "spec.nodeName" ⟨s.env, resourceMap⟩)

/-- `injectCommonSDKConfig`: the attributes come from container `appIndex`, the entries go to
container `agentIndex`. -/
def injectCommonSDKConfig (client : Client) (fuel : Nat) (newrelic : Instrumentation) (ns : Namespace)
    (pod : Pod) (agentIndex appIndex : Nat) : Option Pod := do
  let container ← pod.spec.containers[agentIndex]?
  let s ← sdkState client fuel newrelic ns pod container appIndex
  pure (pod.setEnv agentIndex container (finishEnv newrelic.spec s))

end K8sAgentsOperator.Instrumentation
