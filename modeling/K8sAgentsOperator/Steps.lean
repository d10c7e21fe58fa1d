import K8sAgentsOperator.Inject
/-!
# What each step of `injectCommonSDKConfig` does

One equation per step: every step but the last two appends to the env list,
`withResourceAttrs` creates or extends the first `OTEL_RESOURCE_ATTRIBUTES`,
and `finishEnv` leaves that entry last (`finishEnv_absent`,
`finishEnv_split`). `injectCommonSDKConfig_eq_some` names the intermediate
values of a successful call; the theorems about the injector start from it
and never unfold the injector again.
-/

namespace K8sAgentsOperator.Instrumentation

open Strings

/-! ## Names the steps write -/

theorem attrs_ne_propagators : envOTELResourceAttrs ≠ envOTELPropagators := by decide
theorem attrs_ne_sampler : envOTELResourceAttrs ≠ envOTELTracesSampler := by decide
theorem attrs_ne_samplerArg : envOTELResourceAttrs ≠ envOTELTracesSamplerArg := by decide

/-! ## Appending steps -/

theorem withServiceName_some {envName : String} {pod : Pod} {m : Attrs} {index : Nat}
    {env env' : List EnvVar} (h : withServiceName envName pod m index env = some env') :
    ∃ name, (envName ∉ names env → chooseServiceName pod m index = some name) ∧
      env' = env ++ if envName ∈ names env then [] else [{ name := envName, value := name }] := by
  unfold withServiceName at h
  by_cases hn : envName ∈ names env
  · rw [if_neg (by rwa [getIndexOfEnv_eq_neg_one, not_not])] at h
    exact ⟨"", fun h' => absurd hn h', by simp [hn, Option.some.inj h.symm]⟩
  · rw [if_pos (getIndexOfEnv_eq_neg_one.2 hn), Option.map_eq_some'] at h
    obtain ⟨name, hname, rfl⟩ := h
    exact ⟨name, fun _ => hname, by simp [hn]⟩

theorem withExporterEndpoint_eq (spec : InstrumentationSpec) (env : List EnvVar) :
    withExporterEndpoint spec env = env ++
      if spec.exporter.endpoint ≠ "" ∧ envOTELExporterOTLPEndpoint ∉ names env then
        [{ name := envOTELExporterOTLPEndpoint, value := spec.exporter.endpoint }]
      else [] := by
  unfold withExporterEndpoint
  by_cases he : spec.exporter.endpoint = "" <;> simp [he, appendIfAbsent_eq]

@[simp] theorem downwardAttr_env (key envName fieldPath : String) (s : SdkState) :
    (downwardAttr key envName fieldPath s).env =
      s.env ++ if s.resourceMap.get key = "" then [fieldRefEnv envName fieldPath] else [] := by
  unfold downwardAttr; split <;> simp [*]

@[simp] theorem downwardAttr_resourceMap (key envName fieldPath : String) (s : SdkState) :
    (downwardAttr key envName fieldPath s).resourceMap =
      if s.resourceMap.get key = "" then s.resourceMap.insert key ("$(" ++ envName ++ ")")
      else s.resourceMap := by
  unfold downwardAttr; split <;> simp [*]

theorem withPropagators_eq (spec : InstrumentationSpec) (env : List EnvVar) :
    withPropagators spec env = env ++
      if envOTELPropagators ∉ names env ∧ spec.propagators ≠ [] then
        [{ name := envOTELPropagators, value := join spec.propagators "," }]
      else [] := by
  unfold withPropagators
  by_cases hp : envOTELPropagators ∈ names env <;> by_cases hq : spec.propagators = [] <;>
    simp [hp, hq, getIndexOfEnv_eq_neg_one, List.length_pos]

theorem withSampler_eq (spec : InstrumentationSpec) (env : List EnvVar) :
    withSampler spec env = env ++
      if envOTELTracesSampler ∉ names env ∧ spec.sampler.type ≠ "" ∧
          envOTELTracesSamplerArg ∉ names env then
        { name := envOTELTracesSampler, value := spec.sampler.type } ::
          if spec.sampler.argument ≠ "" then
            [{ name := envOTELTracesSamplerArg, value := spec.sampler.argument }]
          else []
      else [] := by
  unfold withSampler
  by_cases h₁ : envOTELTracesSampler ∈ names env <;>
  by_cases h₂ : envOTELTracesSamplerArg ∈ names env <;>
  by_cases h₃ : spec.sampler.type = "" <;>
    simp [h₁, h₂, h₃, getIndexOfEnv_eq_neg_one]

/-- What `withPropagators` and then `withSampler` append to a list with the names `ns`. -/
def tailEntries (spec : InstrumentationSpec) (ns : List String) : List EnvVar :=
  (if envOTELPropagators ∉ ns ∧ spec.propagators ≠ [] then
    [{ name := envOTELPropagators, value := join spec.propagators "," }] else []) ++
  if envOTELTracesSampler ∉ ns ∧ spec.sampler.type ≠ "" ∧ envOTELTracesSamplerArg ∉ ns then
    { name := envOTELTracesSampler, value := spec.sampler.type } ::
      if spec.sampler.argument ≠ "" then
        [{ name := envOTELTracesSamplerArg, value := spec.sampler.argument }]
      else []
  else []

theorem withSampler_withPropagators (spec : InstrumentationSpec) (env : List EnvVar) :
    withSampler spec (withPropagators spec env) = env ++ tailEntries spec (names env) := by
  rw [withPropagators_eq, withSampler_eq, tailEntries]
  by_cases hp : envOTELPropagators ∉ names env ∧ spec.propagators ≠ []
  · have h₁ : envOTELPropagators ≠ envOTELTracesSampler := by decide
    have h₂ : envOTELPropagators ≠ envOTELTracesSamplerArg := by decide
    simp [hp, h₁, h₂, Ne.symm h₁, Ne.symm h₂]
  · simp only [if_neg hp, List.append_nil, List.nil_append]

/-- The tail depends only on whether the three names it checks are there. -/
theorem tailEntries_congr (spec : InstrumentationSpec) {ns ns' : List String}
    (h : ∀ n ∈ [envOTELPropagators, envOTELTracesSampler, envOTELTracesSamplerArg], n ∈ ns ↔ n ∈ ns') :
    tailEntries spec ns = tailEntries spec ns' := by
  simp only [List.mem_cons, List.mem_singleton, List.not_mem_nil, or_false, forall_eq_or_imp,
    forall_eq] at h
  simp only [tailEntries, h.1, h.2.1, h.2.2]

theorem names_tailEntries (spec : InstrumentationSpec) (ns : List String) :
    ∀ n ∈ names (tailEntries spec ns),
      n = envOTELPropagators ∨ n = envOTELTracesSampler ∨ n = envOTELTracesSamplerArg := by
  intro n hn
  simp only [tailEntries, names_append, List.mem_append] at hn
  rcases hn with hn | hn <;> split at hn <;> simp_all
  split at hn <;> simp_all

theorem withServiceVersion_lookup {pod : Pod} {index : Nat} {env : List EnvVar} {m m' : Attrs}
    (h : withServiceVersion pod index env m = some m') {k : String} (hk : k ≠ serviceVersionKey) :
    m'.lookup k = m.lookup k := by
  simp only [withServiceVersion] at h
  split at h
  · obtain ⟨vsn, -, rfl⟩ := Option.map_eq_some'.1 h
    split
    · exact AList.lookup_insert_ne hk
    · rfl
  · cases h; rfl

theorem withServiceVersion_get {pod : Pod} {index : Nat} {env : List EnvVar} {m m' : Attrs}
    (h : withServiceVersion pod index env m = some m') {k : String} (hk : k ≠ serviceVersionKey) :
    m'.get k = m.get k := by
  simp [Attrs.get, withServiceVersion_lookup h hk]

/-! ## The last steps -/

theorem modify_split (f : EnvVar → EnvVar) (pre rest : List EnvVar) (e : EnvVar) :
    (pre ++ e :: rest).modify f pre.length = pre ++ f e :: rest := by
  induction pre with
  | nil => rfl
  | cons x xs ih => simpa [List.modify_succ_cons] using ih

theorem withResourceAttrs_absent {env : List EnvVar} (h : envOTELResourceAttrs ∉ names env)
    (resStr : String) :
    withResourceAttrs env resStr = env ++ [resourceAttrsEnv resStr] := by
  simp [withResourceAttrs, getIndexOfEnv_eq_neg_one.2 h]

theorem withResourceAttrs_split {pre rest : List EnvVar} {e : EnvVar} (he : e.name = envOTELResourceAttrs)
    (hpre : envOTELResourceAttrs ∉ names pre) (resStr : String) :
    withResourceAttrs (pre ++ e :: rest) resStr = pre ++ extendAttrs e resStr :: rest := by
  simp only [withResourceAttrs, getIndexOfEnv_split he hpre, Int.toNat_ofNat]
  rw [if_neg (by omega), modify_split]

/-- Without an `OTEL_RESOURCE_ATTRIBUTES` entry, the new one ends the list. -/
theorem finishEnv_absent (spec : InstrumentationSpec) (s : SdkState)
    (h : envOTELResourceAttrs ∉ names s.env) :
    finishEnv spec s = s.env ++ tailEntries spec (names s.env) ++
      [resourceAttrsEnv (resourceMapToStr s.resourceMap)] := by
  have ht : tailEntries spec (names (s.env ++ [resourceAttrsEnv (resourceMapToStr s.resourceMap)])) =
      tailEntries spec (names s.env) :=
    tailEntries_congr spec (by simp [resourceAttrsEnv, attrs_ne_propagators.symm,
      attrs_ne_sampler.symm, attrs_ne_samplerArg.symm])
  simp only [finishEnv, withResourceAttrs_absent h, withSampler_withPropagators, ht,
    List.append_assoc, List.singleton_append]
  rw [getIndexOfEnv_split (resourceAttrsEnv_name _) h, moveEnvToListEnd_split, List.append_assoc]

/-- With one, the first is extended and moved to the end. -/
theorem finishEnv_split (spec : InstrumentationSpec) {s : SdkState} {pre rest : List EnvVar}
    {e : EnvVar} (hs : s.env = pre ++ e :: rest) (he : e.name = envOTELResourceAttrs)
    (hpre : envOTELResourceAttrs ∉ names pre) :
    finishEnv spec s = pre ++ rest ++ tailEntries spec (names s.env) ++
      [extendAttrs e (resourceMapToStr s.resourceMap)] := by
  have hw : withResourceAttrs s.env (resourceMapToStr s.resourceMap) =
      pre ++ extendAttrs e (resourceMapToStr s.resourceMap) :: rest := by
    rw [hs, withResourceAttrs_split he hpre]
  have hn : names (pre ++ extendAttrs e (resourceMapToStr s.resourceMap) :: rest) = names s.env := by
    simp [hs]
  simp only [finishEnv, hw, withSampler_withPropagators, hn, List.append_assoc, List.cons_append]
  rw [getIndexOfEnv_split (by simpa using he) hpre, moveEnvToListEnd_split]
  simp

/-! ## A successful call -/

/-- The steps before `finishEnv`, from the env list after the service name. -/
def middleState (spec : InstrumentationSpec) (env₁ : List EnvVar) (m₀ : Attrs) (m₁ : Attrs) : SdkState :=
  downwardAttr k8sNodeNameKey envNodeName "spec.nodeName"
    ⟨(withPodAttrs spec ⟨withExporterEndpoint spec env₁, m₀⟩).env, m₁⟩

theorem sdkState_eq_some {client : Client} {fuel : Nat} {newrelic : Instrumentation}
    {ns : Namespace} {pod : Pod} {c : Container} {appIndex : Nat} {s : SdkState}
    (h : sdkState client fuel newrelic ns pod c appIndex = some s) :
    ∃ m₀ env₁ m₁, createResourceMap client fuel newrelic ns pod appIndex = some m₀ ∧
      withServiceName envOTELServiceName pod m₀ appIndex c.env = some env₁ ∧
      withServiceVersion pod appIndex
        (withPodAttrs newrelic.spec ⟨withExporterEndpoint newrelic.spec env₁, m₀⟩).env
        (withPodAttrs newrelic.spec ⟨withExporterEndpoint newrelic.spec env₁, m₀⟩).resourceMap = some m₁ ∧
      s = middleState newrelic.spec env₁ m₀ m₁ := by
  simp only [sdkState, Option.bind_eq_bind, Option.bind_eq_some, Option.pure_def,
    Option.some.injEq] at h
  obtain ⟨m₀, hm₀, env₁, henv₁, m₁, hm₁, rfl⟩ := h
  exact ⟨m₀, env₁, m₁, hm₀, henv₁, hm₁, rfl⟩

theorem injectCommonSDKConfig_eq_some_state {client : Client} {fuel : Nat} {newrelic : Instrumentation}
    {ns : Namespace} {pod pod' : Pod} {agentIndex appIndex : Nat}
    (h : injectCommonSDKConfig client fuel newrelic ns pod agentIndex appIndex = some pod') :
    ∃ c s, pod.spec.containers[agentIndex]? = some c ∧
      sdkState client fuel newrelic ns pod c appIndex = some s ∧
      pod' = pod.setEnv agentIndex c (finishEnv newrelic.spec s) := by
  simp only [injectCommonSDKConfig, Option.bind_eq_bind, Option.bind_eq_some, Option.pure_def,
    Option.some.injEq] at h
  obtain ⟨c, hc, s, hs, rfl⟩ := h
  exact ⟨c, s, hc, hs, rfl⟩

theorem injectCommonSDKConfig_of_sdkState {client : Client} {fuel : Nat} {newrelic : Instrumentation}
    {ns : Namespace} {pod : Pod} {agentIndex appIndex : Nat} {c : Container} {s : SdkState}
    (hc : pod.spec.containers[agentIndex]? = some c)
    (hs : sdkState client fuel newrelic ns pod c appIndex = some s) :
    injectCommonSDKConfig client fuel newrelic ns pod agentIndex appIndex =
      some (pod.setEnv agentIndex c (finishEnv newrelic.spec s)) := by
  simp [injectCommonSDKConfig, hc, hs]

theorem injectCommonSDKConfig_eq_some {client : Client} {fuel : Nat} {newrelic : Instrumentation}
    {ns : Namespace} {pod pod' : Pod} {agentIndex appIndex : Nat}
    (h : injectCommonSDKConfig client fuel newrelic ns pod agentIndex appIndex = some pod') :
    ∃ c m₀ env₁ m₁, pod.spec.containers[agentIndex]? = some c ∧
      createResourceMap client fuel newrelic ns pod appIndex = some m₀ ∧
      withServiceName envOTELServiceName pod m₀ appIndex c.env = some env₁ ∧
      withServiceVersion pod appIndex
        (withPodAttrs newrelic.spec ⟨withExporterEndpoint newrelic.spec env₁, m₀⟩).env
        (withPodAttrs newrelic.spec ⟨withExporterEndpoint newrelic.spec env₁, m₀⟩).resourceMap = some m₁ ∧
      pod' = pod.setEnv agentIndex c (finishEnv newrelic.spec (middleState newrelic.spec env₁ m₀ m₁)) := by
  obtain ⟨c, s, hc, hs, rfl⟩ := injectCommonSDKConfig_eq_some_state h
  obtain ⟨m₀, env₁, m₁, hm₀, henv₁, hm₁, rfl⟩ := sdkState_eq_some hs
  exact ⟨c, m₀, env₁, m₁, hc, hm₀, henv₁, hm₁, rfl⟩

/-- `env'` is `env` with entries appended, each named in `S`. -/
def AppendsIn (S : List String) (env env' : List EnvVar) : Prop :=
  ∃ added, env' = env ++ added ∧ ∀ x ∈ names added, x ∈ S

theorem AppendsIn.trans {S : List String} {e₁ e₂ e₃ : List EnvVar} (h₁ : AppendsIn S e₁ e₂)
    (h₂ : AppendsIn S e₂ e₃) : AppendsIn S e₁ e₃ := by
  obtain ⟨a, rfl, ha⟩ := h₁
  obtain ⟨b, rfl, hb⟩ := h₂
  exact ⟨a ++ b, by simp, by simp only [names_append, List.mem_append]; rintro x (hx | hx) <;> simp_all⟩

theorem AppendsIn.mem {S : List String} {env env' : List EnvVar} (h : AppendsIn S env env') {n : String}
    (hn : n ∈ names env) : n ∈ names env' := by
  obtain ⟨added, rfl, -⟩ := h
  simp [hn]

theorem AppendsIn.mono {S S' : List String} {env env' : List EnvVar} (h : AppendsIn S env env')
    (hS : ∀ x ∈ S, x ∈ S') : AppendsIn S' env env' :=
  h.imp fun _ ⟨he, hx⟩ => ⟨he, fun x h => hS x (hx x h)⟩

theorem appendsIn_ite {S : List String} (env : List EnvVar) {c : Prop} [Decidable c] {x : EnvVar}
    (hx : x.name ∈ S) : AppendsIn S env (env ++ if c then [x] else []) :=
  ⟨_, rfl, by split <;> simp [hx]⟩

/-- The names the steps before `finishEnv` may append. -/
def middleNames : List String :=
  [envOTELServiceName, envOTELExporterOTLPEndpoint, envPodName, envPodUID, envNodeName]

theorem withServiceName_appendsIn {pod : Pod} {m : Attrs} {index : Nat} {env env' : List EnvVar}
    (h : withServiceName envOTELServiceName pod m index env = some env') :
    AppendsIn middleNames env env' := by
  obtain ⟨name, -, rfl⟩ := withServiceName_some h
  exact ⟨_, rfl, by split <;> simp [middleNames]⟩

theorem downwardAttr_appendsIn {S : List String} {key envName fieldPath : String} (h : envName ∈ S)
    (s : SdkState) : AppendsIn S s.env (downwardAttr key envName fieldPath s).env := by
  rw [downwardAttr_env]; exact appendsIn_ite _ h

theorem withPodAttrs_appendsIn {S : List String} (hS : envPodName ∈ S ∧ envPodUID ∈ S)
    (spec : InstrumentationSpec) (s : SdkState) : AppendsIn S s.env (withPodAttrs spec s).env := by
  simp only [withPodAttrs]
  split
  · exact (downwardAttr_appendsIn hS.1 _).trans (downwardAttr_appendsIn hS.2 _)
  · exact downwardAttr_appendsIn hS.1 _

/-- The env list the `service.version` step reads. -/
theorem podAttrs_appendsIn (spec : InstrumentationSpec) (env₁ : List EnvVar) (m₀ : Attrs) :
    AppendsIn middleNames env₁ (withPodAttrs spec ⟨withExporterEndpoint spec env₁, m₀⟩).env := by
  have hexp : AppendsIn middleNames env₁ (withExporterEndpoint spec env₁) := by
    rw [withExporterEndpoint_eq]; exact appendsIn_ite _ (by simp [middleNames])
  exact hexp.trans (withPodAttrs_appendsIn (by decide) spec _)

theorem middleState_appendsIn (spec : InstrumentationSpec) (env₁ : List EnvVar) (m₀ m₁ : Attrs) :
    AppendsIn middleNames env₁ (middleState spec env₁ m₀ m₁).env :=
  (podAttrs_appendsIn spec env₁ m₀).trans (downwardAttr_appendsIn (by decide) _)

end K8sAgentsOperator.Instrumentation
