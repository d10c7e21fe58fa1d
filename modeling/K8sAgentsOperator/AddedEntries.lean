import K8sAgentsOperator.Admission
/-!
# The entries a run adds

Beyond their names (`Admission`), two of the entries the operator adds matter to the agents. The
license key is never written in clear: the only `NEW_RELIC_LICENSE_KEY` entry of the operator's
own reads the optional secret `newrelic-key-secret` (`inject_license_key_from_secret`). The app
and service names are never empty: on a pod whose containers are named, as Kubernetes requires,
every `NEW_RELIC_APP_NAME` and `OTEL_SERVICE_NAME` the operator writes holds the workload, pod or
container name it chose (`inject_service_name_set`). Both are relations kept by every step of
`inject` (`AddsEntriesOnly`, `NamesService`), composed over the run by `inject_rel`.
-/

namespace K8sAgentsOperator.Instrumentation

/-! ## The license key stays in its secret -/

/-- Every env entry of every container of `pod'` is in `P`, or the container at that position in
`pod` already had it. -/
def AddsEntriesOnly (P : EnvVar → Prop) (pod pod' : Pod) : Prop :=
  ∀ (j : Nat) (c' : Container), pod'.spec.containers[j]? = some c' → ∀ e ∈ c'.env,
    P e ∨ ∃ c, pod.spec.containers[j]? = some c ∧ e ∈ c.env

theorem AddsEntriesOnly.refl (P : EnvVar → Prop) (pod : Pod) : AddsEntriesOnly P pod pod :=
  fun _ c' hc' _ he => .inr ⟨c', hc', he⟩

theorem AddsEntriesOnly.trans {P : EnvVar → Prop} {p q r : Pod} (h₁ : AddsEntriesOnly P p q)
    (h₂ : AddsEntriesOnly P q r) : AddsEntriesOnly P p r := by
  intro j c hc e he
  rcases h₂ j c hc e he with hP | ⟨c₁, hc₁, he₁⟩
  · exact .inl hP
  · exact h₁ j c₁ hc₁ e he₁

theorem addsEntriesOnly_setEnv {P : EnvVar → Prop} {pod : Pod} {index : Nat} {c : Container}
    (hc : pod.spec.containers[index]? = some c) {env : List EnvVar} (h : ∀ e ∈ env, e ∈ c.env ∨ P e) :
    AddsEntriesOnly P pod (pod.setEnv index c env) := by
  intro j c' hc' e he
  by_cases hj : j = index
  · subst hj
    obtain rfl := Option.some.inj ((Pod.setEnv_container hc env).symm.trans hc')
    exact (h e he).symm.imp_right fun h => ⟨c, hc, h⟩
  · exact .inr ⟨c', (Pod.setEnv_ne c env (Ne.symm hj)).symm.trans hc', he⟩

theorem mem_foldl_appendIfAbsent_of (l env : List EnvVar) :
    ∀ e ∈ l.foldl appendIfAbsent env, e ∈ env ∨ e ∈ l := by
  obtain ⟨added, h, hmem⟩ := foldl_appendIfAbsent_eq l env
  intro e he
  rw [h, List.mem_append] at he
  exact he.imp_right (hmem e)

/-- An entry named `NEW_RELIC_LICENSE_KEY` is the reference `licenseKeyEnv` to the secret
`newrelic-key-secret`, or one of `extra`. -/
def LicenseKeyFrom (extra : List EnvVar) (e : EnvVar) : Prop :=
  e.name = envNewRelicLicenseKey → e = licenseKeyEnv ∨ e ∈ extra

theorem licenseKeyFrom_of_name {extra : List EnvVar} {e : EnvVar} (h : e.name ∈ sdkNames) :
    LicenseKeyFrom extra e := fun hn => absurd (hn ▸ h) (by decide)

section Steps

variable {extra : List EnvVar} {client : Client} {fuel : Nat} {newrelic : Instrumentation} {ns : Namespace}
  {pod pod' : Pod}

theorem injectNewrelicConfig_addsEntriesOnly {index : Nat}
    (h : injectNewrelicConfig client fuel newrelic ns pod index = some pod') :
    AddsEntriesOnly (LicenseKeyFrom extra) pod pod' := by
  obtain ⟨c, -, name, hc, -, -, rfl⟩ := injectNewrelicConfig_eq_some h
  refine addsEntriesOnly_setEnv hc fun e he => (mem_foldl_appendIfAbsent_of _ _ e he).imp_right fun he => ?_
  simp only [newrelicEntries, List.mem_cons, List.mem_singleton, List.not_mem_nil, or_false] at he
  rcases he with rfl | rfl | rfl
  · exact fun hn => absurd hn (show envNewRelicAppName ≠ envNewRelicLicenseKey by decide)
  · exact fun _ => .inl rfl
  · exact fun hn => absurd hn (show "NEW_RELIC_LABELS" ≠ envNewRelicLicenseKey by decide)

theorem injectCommonEnvVar_addsEntriesOnly (hP : ∀ e ∈ newrelic.spec.env, LicenseKeyFrom extra e) {index : Nat}
    (h : injectCommonEnvVar newrelic pod index = some pod') : AddsEntriesOnly (LicenseKeyFrom extra) pod pod' := by
  obtain ⟨c, hc, rfl⟩ := injectCommonEnvVar_eq_some h
  exact addsEntriesOnly_setEnv hc fun e he => (mem_foldl_appendIfAbsent_of _ _ e he).imp_right (hP e)

theorem injectCommonSDKConfig_addsEntriesOnly {agentIndex appIndex : Nat}
    (h : injectCommonSDKConfig client fuel newrelic ns pod agentIndex appIndex = some pod') :
    AddsEntriesOnly (LicenseKeyFrom extra) pod pod' := by
  obtain ⟨c, env', hc, rfl, he⟩ := injectCommonSDKConfig_entries h
  exact addsEntriesOnly_setEnv hc fun e h => (he e h).imp_right licenseKeyFrom_of_name

end Steps

/-- The operator never writes the license key in clear: every `NEW_RELIC_LICENSE_KEY` entry a run
of `inject` adds to any container reads the optional secret `newrelic-key-secret`, or is one of
`extra`, given that the Go Instrumentation's env list and the agent injectors add license keys
from `extra` only. -/
theorem inject_license_key_from_secret {client : Client} {fuel : Nat} {apm : Apm} {extra : List EnvVar}
    (hapm : apm.Keeps (AddsEntriesOnly (LicenseKeyFrom extra))) {insts : LanguageInstrumentations}
    (hgo : ∀ r, insts.go = some r → ∀ e ∈ r.spec.env, LicenseKeyFrom extra e) {ns : Namespace} {pod pod' : Pod}
    {containerName goContainers : String}
    (h : inject client fuel apm insts ns pod containerName goContainers = some pod') :
    AddsEntriesOnly (LicenseKeyFrom extra) pod pod' :=
  inject_rel (hapm.agentsKeep _) (fun _ _ _ h => injectNewrelicConfig_addsEntriesOnly h)
    (fun r hr _ _ h => injectGo_rel (hapm.goSDK _)
      (fun _ _ _ h => injectCommonEnvVar_addsEntriesOnly (hgo r hr) h)
      (fun _ _ _ _ h => injectCommonSDKConfig_addsEntriesOnly h) AddsEntriesOnly.trans h)
    (AddsEntriesOnly.refl _) AddsEntriesOnly.trans h

theorem goSidecarApm_addsEntriesOnly (P : EnvVar → Prop) : goSidecarApm.Keeps (AddsEntriesOnly P) where
  javaagent _ pod _ := AddsEntriesOnly.refl _ pod
  nodeJSSDK _ pod _ := AddsEntriesOnly.refl _ pod
  pythonSDK _ pod _ := AddsEntriesOnly.refl _ pod
  dotNetSDK _ pod _ := AddsEntriesOnly.refl _ pod
  phpagent _ pod _ := AddsEntriesOnly.refl _ pod
  goSDK _ pod j c' hc' e he := by
    simp only [goSidecarApm] at hc'
    rcases Nat.lt_or_ge j pod.spec.containers.length with hj | hj
    · exact .inr ⟨c', (List.getElem?_append_left hj).symm.trans hc', he⟩
    · rw [List.getElem?_append_right hj] at hc'
      obtain rfl := List.mem_singleton.1 (List.getElem?_mem hc')
      simp at he

/-- Java through the first container, Go through the sidecar: the only license key entry added is
the secret reference. -/
theorem inject_license_key_from_secret_proxyAppPod :
    AddsEntriesOnly (LicenseKeyFrom []) proxyAppPod ((inject noReplicaSets 1 goSidecarApm
      { java := some {}, go := some logLevelInst } appNamespace proxyAppPod "app" "app").getD proxyAppPod) :=
  inject_license_key_from_secret (goSidecarApm_addsEntriesOnly _)
    (fun _ hr e he hn => by cases hr; simp [logLevelInst] at he; subst he; exact absurd hn (by decide))
    (eq_some_getD _ (by decide))

/-! ## The service name is never empty

The New Relic agents refuse to connect without an app name, and an OpenTelemetry SDK without a
service name reports `unknown_service`. -/

/-- Every container of the pod has a name, as Kubernetes requires. -/
def PodNamed (pod : Pod) : Prop :=
  ∀ (j : Nat) (c : Container), pod.spec.containers[j]? = some c → c.name ≠ ""

theorem podNamed_setEnv {pod : Pod} {index : Nat} {c : Container} (hc : pod.spec.containers[index]? = some c)
    (env : List EnvVar) (h : PodNamed pod) : PodNamed (pod.setEnv index c env) := by
  intro j c' hc'
  by_cases hj : j = index
  · subst hj
    obtain rfl := Option.some.inj ((Pod.setEnv_container hc env).symm.trans hc')
    exact h j c hc
  · exact h j c' ((Pod.setEnv_ne c env (Ne.symm hj)).symm.trans hc')

/-- The fold keeps the old entries and appends entries of `l` whose names the old list lacks. -/
theorem mem_foldl_appendIfAbsent_cases (l env : List EnvVar) :
    ∀ e ∈ l.foldl appendIfAbsent env, e ∈ env ∨ (e ∈ l ∧ e.name ∉ names env) := by
  induction l generalizing env with
  | nil => exact fun e he => .inl he
  | cons x xs ih =>
    intro e he
    rw [List.foldl_cons] at he
    have hsub : ∀ n, n ∈ names env → n ∈ names (appendIfAbsent env x) := fun n hn => by
      rw [appendIfAbsent_eq]; split <;> simp [hn]
    rcases ih _ e he with he | ⟨hmem, hn⟩
    · rw [appendIfAbsent_eq, List.mem_append] at he
      rcases he with he | he
      · exact .inl he
      · split at he
        · simp at he
        · obtain rfl := List.mem_singleton.1 he
          exact .inr ⟨List.mem_cons_self _ _, ‹_›⟩
    · exact .inr ⟨List.mem_cons_of_mem _ hmem, fun h => hn (hsub _ h)⟩

/-- A chain of `if`s whose branches all give a non-empty name gives one. -/
theorem ne_empty_of_ite {c : Prop} [Decidable c] {a : String} {x : Option String} {name : String}
    (ha : c → a ≠ "") (hx : x = some name → name ≠ "") (h : (if c then some a else x) = some name) : name ≠ "" := by
  by_cases hc : c
  · rw [if_pos hc] at h
    exact Option.some.inj h ▸ ha hc
  · rw [if_neg hc] at h
    exact hx h

/-- On a pod whose containers are named, the chosen service name is never empty. -/
theorem chooseServiceName_ne_empty {pod : Pod} (hnamed : PodNamed pod) {m : Attrs} {index : Nat} {name : String}
    (h : chooseServiceName pod m index = some name) : name ≠ "" :=
  ne_empty_of_ite id (ne_empty_of_ite id (ne_empty_of_ite id (ne_empty_of_ite id (ne_empty_of_ite id
    fun h => by
      obtain ⟨c, hc, rfl⟩ := Option.map_eq_some'.1 h
      exact hnamed index c hc)))) h

/-- `injectCommonSDKConfig` writes the agent container its old entries and entries named in
`sdkNames`; of these, an `OTEL_SERVICE_NAME` entry only when the container had none, with the name
chosen for the application container. -/
theorem injectCommonSDKConfig_serviceName {client : Client} {fuel : Nat} {newrelic : Instrumentation}
    {ns : Namespace} {pod pod' : Pod} {agentIndex appIndex : Nat}
    (h : injectCommonSDKConfig client fuel newrelic ns pod agentIndex appIndex = some pod') :
    ∃ c env' m₀ name, pod.spec.containers[agentIndex]? = some c ∧ pod' = pod.setEnv agentIndex c env' ∧
      (envOTELServiceName ∉ names c.env → chooseServiceName pod m₀ appIndex = some name) ∧
      ∀ e ∈ env', e ∈ c.env ∨ (e.name ∈ sdkNames ∧
        (e.name = envOTELServiceName → envOTELServiceName ∉ names c.env ∧ e.value = name)) := by
  obtain ⟨c, m₀, env₁, m₁, hc, -, henv₁, -, rfl⟩ := injectCommonSDKConfig_eq_some h
  obtain ⟨name, hname, henv⟩ := withServiceName_some henv₁
  have hlater : AppendsIn [envOTELExporterOTLPEndpoint, envPodName, envPodUID, envNodeName] env₁
      (middleState newrelic.spec env₁ m₀ m₁).env :=
    ((show AppendsIn _ env₁ (withExporterEndpoint newrelic.spec env₁) by
      rw [withExporterEndpoint_eq]; exact appendsIn_ite _ (by simp)).trans
      (withPodAttrs_appendsIn (by decide) _ _)).trans (downwardAttr_appendsIn (by decide) _)
  obtain ⟨A, hA, hAn⟩ := hlater
  have hother : ∀ n ∈ finishNames ++ [envOTELExporterOTLPEndpoint, envPodName, envPodUID, envNodeName],
      n ∈ sdkNames ∧ n ≠ envOTELServiceName := by decide
  have other : ∀ x : EnvVar, x.name ∈ finishNames ++ [envOTELExporterOTLPEndpoint, envPodName, envPodUID, envNodeName] →
      x.name ∈ sdkNames ∧ (x.name = envOTELServiceName → envOTELServiceName ∉ names c.env ∧ x.value = name) :=
    fun x hx => ⟨(hother _ hx).1, fun hn => absurd hn (hother _ hx).2⟩
  refine ⟨c, _, m₀, name, hc, rfl, hname, fun x hx => ?_⟩
  rcases mem_finishEnv newrelic.spec (middle_of_eq_some newrelic.spec m₁ henv₁) x hx with hx | hx
  · rw [hA, List.mem_append, henv, List.mem_append] at hx
    rcases hx with (hx | hx) | hx
    · exact .inl hx
    · split at hx
      · simp at hx
      · obtain rfl := List.mem_singleton.1 hx
        exact .inr ⟨show envOTELServiceName ∈ sdkNames by decide, fun _ => ⟨‹_›, rfl⟩⟩
    · exact .inr (other x (List.mem_append_right _ (hAn _ (mem_names.2 ⟨x, hx, rfl⟩))))
  · exact .inr (other x (List.mem_append_left _ hx))

/-- An entry that names the service, `NEW_RELIC_APP_NAME` or `OTEL_SERVICE_NAME`, has a value, or
is one of `extra`. -/
def ServiceNameSet (extra : List EnvVar) (e : EnvVar) : Prop :=
  e.name = envNewRelicAppName ∨ e.name = envOTELServiceName → e.value ≠ "" ∨ e ∈ extra

/-- From a pod whose containers are named, to one whose containers are named and whose added
service-name entries have values. -/
def NamesService (extra : List EnvVar) (pod pod' : Pod) : Prop :=
  PodNamed pod → PodNamed pod' ∧ AddsEntriesOnly (ServiceNameSet extra) pod pod'

theorem NamesService.refl (extra : List EnvVar) (pod : Pod) : NamesService extra pod pod :=
  fun h => ⟨h, AddsEntriesOnly.refl _ pod⟩

theorem NamesService.trans {extra : List EnvVar} {p q r : Pod} (h₁ : NamesService extra p q)
    (h₂ : NamesService extra q r) : NamesService extra p r := fun h =>
  let ⟨hq, a₁⟩ := h₁ h
  let ⟨hr, a₂⟩ := h₂ hq
  ⟨hr, a₁.trans a₂⟩

section Steps

variable {extra : List EnvVar} {client : Client} {fuel : Nat} {newrelic : Instrumentation} {ns : Namespace}
  {pod pod' : Pod}

theorem injectNewrelicConfig_namesService {index : Nat}
    (h : injectNewrelicConfig client fuel newrelic ns pod index = some pod') : NamesService extra pod pod' := by
  obtain ⟨c, m, name, hc, -, hname, rfl⟩ := injectNewrelicConfig_eq_some h
  refine fun hnamed => ⟨podNamed_setEnv hc _ hnamed, addsEntriesOnly_setEnv hc fun e he => ?_⟩
  rcases mem_foldl_appendIfAbsent_cases _ _ e he with he | ⟨hmem, hn⟩
  · exact .inl he
  refine .inr fun hsvc => .inl ?_
  simp only [newrelicEntries, List.mem_cons, List.mem_singleton, List.not_mem_nil, or_false] at hmem
  rcases hmem with rfl | rfl | rfl
  · exact chooseServiceName_ne_empty hnamed (hname hn)
  · exact absurd hsvc (by decide)
  · exact absurd hsvc (by decide)

theorem injectCommonEnvVar_namesService (hP : ∀ e ∈ newrelic.spec.env, ServiceNameSet extra e) {index : Nat}
    (h : injectCommonEnvVar newrelic pod index = some pod') : NamesService extra pod pod' := by
  obtain ⟨c, hc, rfl⟩ := injectCommonEnvVar_eq_some h
  exact fun hnamed => ⟨podNamed_setEnv hc _ hnamed,
    addsEntriesOnly_setEnv hc fun e he => (mem_foldl_appendIfAbsent_of _ _ e he).imp_right (hP e)⟩

theorem injectCommonSDKConfig_namesService {agentIndex appIndex : Nat}
    (h : injectCommonSDKConfig client fuel newrelic ns pod agentIndex appIndex = some pod') :
    NamesService extra pod pod' := by
  obtain ⟨c, env', m₀, name, hc, rfl, hname, he⟩ := injectCommonSDKConfig_serviceName h
  refine fun hnamed => ⟨podNamed_setEnv hc _ hnamed, addsEntriesOnly_setEnv hc fun e hmem => ?_⟩
  refine (he e hmem).imp_right fun ⟨hs, hsvc⟩ hn => .inl ?_
  rcases hn with hn | hn
  · exact absurd (hn ▸ hs) (by decide)
  · obtain ⟨habs, rfl⟩ := hsvc hn
    exact chooseServiceName_ne_empty hnamed (hname habs)

end Steps

/-- The operator never writes an empty service name. On a pod whose containers are named, every
`NEW_RELIC_APP_NAME` or `OTEL_SERVICE_NAME` entry a run of `inject` adds, to any container, holds
the workload, pod or container name it chose, unless it is one of `extra`. The Go Instrumentation's
env list and the agent injectors are assumed to add service names only with values or from
`extra`, and to keep the containers named, as the run does. -/
theorem inject_service_name_set {client : Client} {fuel : Nat} {apm : Apm} {extra : List EnvVar}
    (hapm : apm.Keeps (NamesService extra)) {insts : LanguageInstrumentations}
    (hgo : ∀ r, insts.go = some r → ∀ e ∈ r.spec.env, ServiceNameSet extra e) {ns : Namespace} {pod pod' : Pod}
    {containerName goContainers : String} (hnamed : PodNamed pod)
    (h : inject client fuel apm insts ns pod containerName goContainers = some pod') :
    PodNamed pod' ∧ AddsEntriesOnly (ServiceNameSet extra) pod pod' :=
  inject_rel (hapm.agentsKeep _) (fun _ _ _ h => injectNewrelicConfig_namesService h)
    (fun r hr _ _ h => injectGo_rel (hapm.goSDK _)
      (fun _ _ _ h => injectCommonEnvVar_namesService (hgo r hr) h)
      (fun _ _ _ _ h => injectCommonSDKConfig_namesService h) NamesService.trans h)
    (NamesService.refl extra) NamesService.trans h hnamed

theorem goSidecarApm_namesService (extra : List EnvVar) : goSidecarApm.Keeps (NamesService extra) where
  javaagent _ pod _ := NamesService.refl _ pod
  nodeJSSDK _ pod _ := NamesService.refl _ pod
  pythonSDK _ pod _ := NamesService.refl _ pod
  dotNetSDK _ pod _ := NamesService.refl _ pod
  phpagent _ pod _ := NamesService.refl _ pod
  goSDK _ pod hnamed := by
    refine ⟨fun j c hc => ?_, (goSidecarApm_addsEntriesOnly _).goSDK _ pod⟩
    simp only [goSidecarApm] at hc
    rcases Nat.lt_or_ge j pod.spec.containers.length with hj | hj
    · exact hnamed j c ((List.getElem?_append_left hj).symm.trans hc)
    · rw [List.getElem?_append_right hj] at hc
      obtain rfl := List.mem_singleton.1 (List.getElem?_mem hc)
      decide

/-- Java through `app`, then Go through the sidecar: `app` gets an app name and the sidecar a
service name, and the sidecar keeps its name. -/
theorem inject_service_name_set_proxyAppPod :
    PodNamed ((inject noReplicaSets 1 goSidecarApm { java := some {}, go := some logLevelInst } appNamespace
      proxyAppPod "app" "app").getD proxyAppPod) ∧
    AddsEntriesOnly (ServiceNameSet []) proxyAppPod ((inject noReplicaSets 1 goSidecarApm
      { java := some {}, go := some logLevelInst } appNamespace proxyAppPod "app" "app").getD proxyAppPod) :=
  inject_service_name_set (goSidecarApm_namesService _)
    (fun _ hr e he hn => by cases hr; simp [logLevelInst] at he; subst he; exact absurd hn (by decide))
    (fun j c hc => by
      rcases j with _ | _ | j <;> simp [proxyAppPod] at hc <;> subst hc <;> decide)
    (eq_some_getD _ (by decide))

end K8sAgentsOperator.Instrumentation
