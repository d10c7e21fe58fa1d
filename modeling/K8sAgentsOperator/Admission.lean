import K8sAgentsOperator.InjectRun
import K8sAgentsOperator.InstrumentationWebhook
/-!
# What validation guarantees of the injected pod

The validating webhook accepts an Instrumentation only when each env var of its spec is named
`NEW_RELIC_...` or `OTEL_...`. The pod mutator copies that list into the Go agent's container
(`injectCommonEnvVar`), and every other name the operator's own steps write is one of its
`NEW_RELIC_` or `OTEL_` constants. So whatever names the `apm` package adds, the names a run of
`inject` adds are the package's or vendor-prefixed, once the Go Instrumentation was accepted
(`inject_adds_only`). The operator never writes, say, `PATH` or `JAVA_TOOL_OPTIONS` itself.
-/

namespace K8sAgentsOperator.Instrumentation

/-! ## The names a step adds -/

/-- Every env name of every container of `pod'` is in `P`, or the container at that position in
`pod` already had it. -/
def AddsOnly (P : String → Prop) (pod pod' : Pod) : Prop :=
  ∀ (j : Nat) (c' : Container), pod'.spec.containers[j]? = some c' → ∀ n ∈ names c'.env,
    P n ∨ ∃ c, pod.spec.containers[j]? = some c ∧ n ∈ names c.env

theorem AddsOnly.refl (P : String → Prop) (pod : Pod) : AddsOnly P pod pod :=
  fun _ c' hc' _ hn => .inr ⟨c', hc', hn⟩

theorem AddsOnly.trans {P : String → Prop} {p q r : Pod} (h₁ : AddsOnly P p q) (h₂ : AddsOnly P q r) :
    AddsOnly P p r := by
  intro j c hc n hn
  rcases h₂ j c hc n hn with hP | ⟨c₁, hc₁, hn₁⟩
  · exact .inl hP
  · exact h₁ j c₁ hc₁ n hn₁

/-- Giving container `index` a list whose names are its old ones or in `P`. -/
theorem addsOnly_setEnv {P : String → Prop} {pod : Pod} {index : Nat} {c : Container}
    (hc : pod.spec.containers[index]? = some c) {env : List EnvVar} (h : ∀ n ∈ names env, n ∈ names c.env ∨ P n) :
    AddsOnly P pod (pod.setEnv index c env) := by
  intro j c' hc' n hn
  by_cases hj : j = index
  · subst hj
    obtain rfl := Option.some.inj ((Pod.setEnv_container hc env).symm.trans hc')
    exact (h n hn).symm.imp_right fun h => ⟨c, hc, h⟩
  · exact .inr ⟨c', (Pod.setEnv_ne c env (Ne.symm hj)).symm.trans hc', hn⟩

theorem names_foldl_appendIfAbsent (l env : List EnvVar) :
    ∀ n ∈ names (l.foldl appendIfAbsent env), n ∈ names env ∨ n ∈ names l := by
  obtain ⟨added, h, hmem⟩ := foldl_appendIfAbsent_eq l env
  intro n hn
  rw [h, names_append, List.mem_append] at hn
  refine hn.imp_right fun hn => ?_
  obtain ⟨e, he, rfl⟩ := mem_names.1 hn
  exact mem_names.2 ⟨e, hmem e he, rfl⟩

/-! ## The operator's steps -/

section Steps

variable {P : String → Prop} {client : Client} {fuel : Nat} {newrelic : Instrumentation} {ns : Namespace}
  {pod pod' : Pod}

/-- The names `injectCommonSDKConfig` may add. -/
def sdkNames : List String :=
  envOTELResourceAttrs :: envOTELPropagators :: envOTELTracesSampler :: envOTELTracesSamplerArg :: middleNames

theorem sdkNames_vendorPrefixed : ∀ n ∈ sdkNames, VendorPrefixed n := by decide

theorem newrelicEntries_vendorPrefixed (name : String) : ∀ n ∈ names (newrelicEntries name), VendorPrefixed n :=
  show ∀ n ∈ [envNewRelicAppName, envNewRelicLicenseKey, "NEW_RELIC_LABELS"], VendorPrefixed n by decide

theorem injectCommonEnvVar_addsOnly (hP : ∀ e ∈ newrelic.spec.env, P e.name) {index : Nat}
    (h : injectCommonEnvVar newrelic pod index = some pod') : AddsOnly P pod pod' := by
  obtain ⟨c, hc, rfl⟩ := injectCommonEnvVar_eq_some h
  refine addsOnly_setEnv hc fun n hn => (names_foldl_appendIfAbsent _ _ n hn).imp_right fun hn => ?_
  obtain ⟨e, he, rfl⟩ := mem_names.1 hn
  exact hP e he

theorem injectNewrelicConfig_addsOnly (hP : ∀ n, VendorPrefixed n → P n) {index : Nat}
    (h : injectNewrelicConfig client fuel newrelic ns pod index = some pod') : AddsOnly P pod pod' := by
  obtain ⟨c, -, name, hc, -, -, rfl⟩ := injectNewrelicConfig_eq_some h
  exact addsOnly_setEnv hc fun n hn => (names_foldl_appendIfAbsent _ _ n hn).imp_right fun hn =>
    hP n (newrelicEntries_vendorPrefixed name n hn)

/-- The names `finishEnv` may add: the attributes, the propagators and the sampler. -/
def finishNames : List String :=
  [envOTELResourceAttrs, envOTELPropagators, envOTELTracesSampler, envOTELTracesSamplerArg]

theorem sdkNames_eq : sdkNames = finishNames ++ middleNames := rfl

/-- Each entry `finishEnv` writes is one of the state's, or named in `finishNames`. -/
theorem mem_finishEnv (spec : InstrumentationSpec) {env : List EnvVar} {s : SdkState}
    (hs : AppendsIn middleNames env s.env) : ∀ x ∈ finishEnv spec s, x ∈ s.env ∨ x.name ∈ finishNames := by
  have htail : ∀ ns, ∀ x ∈ tailEntries spec ns, x.name ∈ finishNames := fun ns x hx => by
    rcases names_tailEntries _ ns _ (mem_names.2 ⟨x, hx, rfl⟩) with h | h | h <;> simp [finishNames, h]
  intro x hx
  rcases finishEnv_cases spec hs with ⟨-, hf⟩ | ⟨pre, e, post, A, hce, he, -, hA, hf⟩ <;> rw [hf] at hx <;>
    simp only [List.mem_append, List.mem_singleton] at hx
  · rcases hx with (hx | hx) | rfl
    · exact .inl hx
    · exact .inr (htail _ x hx)
    · exact .inr (List.mem_cons_self _ _)
  · rw [hA, hce]
    rcases hx with (((hx | hx) | hx) | hx) | rfl
    · exact .inl (by simp [hx])
    · exact .inl (by simp [hx])
    · exact .inl (by simp [hx])
    · exact .inr (htail _ x hx)
    · exact .inr (he ▸ List.mem_cons_self _ _)

/-- `injectCommonSDKConfig` writes the agent container a list of its old entries and of entries
named in `sdkNames`. -/
theorem injectCommonSDKConfig_entries {agentIndex appIndex : Nat}
    (h : injectCommonSDKConfig client fuel newrelic ns pod agentIndex appIndex = some pod') :
    ∃ c env', pod.spec.containers[agentIndex]? = some c ∧ pod' = pod.setEnv agentIndex c env' ∧
      ∀ e ∈ env', e ∈ c.env ∨ e.name ∈ sdkNames := by
  obtain ⟨c, m₀, env₁, m₁, hc, -, henv₁, -, rfl⟩ := injectCommonSDKConfig_eq_some h
  obtain ⟨A₀, hA₀, hAn⟩ := middle_of_eq_some newrelic.spec m₁ henv₁
  refine ⟨c, _, hc, rfl, fun x hx => ?_⟩
  rw [sdkNames_eq, List.mem_append]
  rcases mem_finishEnv newrelic.spec ⟨A₀, hA₀, hAn⟩ x hx with hx | hx
  · rw [hA₀, List.mem_append] at hx
    exact hx.imp_right fun hx => .inr (hAn _ (mem_names.2 ⟨x, hx, rfl⟩))
  · exact .inr (.inl hx)

/-- `injectCommonSDKConfig` writes the agent container a list of its old names and of `sdkNames`. -/
theorem injectCommonSDKConfig_names {agentIndex appIndex : Nat}
    (h : injectCommonSDKConfig client fuel newrelic ns pod agentIndex appIndex = some pod') :
    ∃ c env', pod.spec.containers[agentIndex]? = some c ∧ pod' = pod.setEnv agentIndex c env' ∧
      ∀ n ∈ names env', n ∈ names c.env ∨ n ∈ sdkNames := by
  obtain ⟨c, env', hc, rfl, he⟩ := injectCommonSDKConfig_entries h
  refine ⟨c, env', hc, rfl, fun n hn => ?_⟩
  obtain ⟨e, hmem, rfl⟩ := mem_names.1 hn
  exact (he e hmem).imp_left fun h => mem_names.2 ⟨e, h, rfl⟩

theorem injectCommonSDKConfig_addsOnly (hP : ∀ n, VendorPrefixed n → P n) {agentIndex appIndex : Nat}
    (h : injectCommonSDKConfig client fuel newrelic ns pod agentIndex appIndex = some pod') : AddsOnly P pod pod' := by
  obtain ⟨c, env', hc, rfl, hn⟩ := injectCommonSDKConfig_names h
  exact addsOnly_setEnv hc fun n h => (hn n h).imp_right fun h => hP n (sdkNames_vendorPrefixed n h)

end Steps

/-! ## A run -/

/-- Once the validating webhook has accepted the Go Instrumentation, every env name a run of
`inject` adds, to any container, is one the agent injectors may add (`P`) or starts with
`NEW_RELIC_` or `OTEL_`. The other languages' Instrumentations contribute no env var of their own. -/
theorem inject_adds_only {client : Client} {fuel : Nat} {apm : Apm} {P : String → Prop}
    (hP : ∀ n, VendorPrefixed n → P n) (hapm : apm.Keeps (AddsOnly P)) {insts : LanguageInstrumentations}
    (hvalid : ∀ r, insts.go = some r → r.validate = .ok ()) {ns : Namespace} {pod pod' : Pod}
    {containerName goContainers : String}
    (h : inject client fuel apm insts ns pod containerName goContainers = some pod') : AddsOnly P pod pod' :=
  inject_rel (hapm.agentsKeep _) (fun _ _ _ h => injectNewrelicConfig_addsOnly hP h)
    (fun r hr _ _ h => injectGo_rel (hapm.goSDK _)
      (fun _ _ _ h => injectCommonEnvVar_addsOnly
        (fun e he => hP _ ((validate_eq_ok r).1 (hvalid r hr) _ (List.mem_cons_self _ _) e he)) h)
      (fun _ _ _ _ h => injectCommonSDKConfig_addsOnly hP h) AddsOnly.trans h)
    (AddsOnly.refl P) AddsOnly.trans h

theorem goSidecarApm_addsOnly : goSidecarApm.Keeps (AddsOnly VendorPrefixed) where
  javaagent _ pod _ := AddsOnly.refl _ pod
  nodeJSSDK _ pod _ := AddsOnly.refl _ pod
  pythonSDK _ pod _ := AddsOnly.refl _ pod
  dotNetSDK _ pod _ := AddsOnly.refl _ pod
  phpagent _ pod _ := AddsOnly.refl _ pod
  goSDK _ pod j c' hc' n hn := by
    simp only [goSidecarApm] at hc'
    rcases Nat.lt_or_ge j pod.spec.containers.length with hj | hj
    · exact .inr ⟨c', (List.getElem?_append_left hj).symm.trans hc', hn⟩
    · rw [List.getElem?_append_right hj] at hc'
      obtain rfl := List.mem_singleton.1 (List.getElem?_mem hc')
      simp at hn

/-- The Go Instrumentation sets `NEW_RELIC_LOG_LEVEL`; the sidecar gets it, and the operator's
`OTEL_` entries. -/
theorem inject_adds_only_proxyAppPod :
    AddsOnly VendorPrefixed proxyAppPod ((inject noReplicaSets 1 goSidecarApm
      { java := some {}, go := some logLevelInst } appNamespace proxyAppPod "app" "app").getD proxyAppPod) :=
  inject_adds_only (fun _ => id) goSidecarApm_addsOnly (fun _ hr => by cases hr; rfl)
    (eq_some_getD _ (by decide))

end K8sAgentsOperator.Instrumentation
