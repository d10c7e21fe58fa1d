import K8sAgentsOperator.Steps
/-!
# What the injectors leave alone

Each injector only appends to the target container's env list, except that
`injectCommonSDKConfig` extends the first `OTEL_RESOURCE_ATTRIBUTES` and
moves it to the end (`injectors_keep_entries`). That entry then ends the
list, after every downward-API entry its new value refers to
(`injectCommonSDKConfig_attrs_last`). Unique names are not kept: the
downward-API entries are appended without a look at the list.
-/

namespace K8sAgentsOperator.Instrumentation

open Strings

/-- `env'` keeps the entries of `env`: all but the first `OTEL_RESOURCE_ATTRIBUTES` stay in
their order ahead of every added entry, and that one, if there is one, stays with its old value
as a prefix. -/
def KeepsEntries (env env' : List EnvVar) : Prop :=
  env <+: env' ∨
  ∃ pre e post added s, env = pre ++ e :: post ∧ e.name = envOTELResourceAttrs ∧
    envOTELResourceAttrs ∉ names pre ∧ env' = pre ++ post ++ added ++ [{ e with value := e.value ++ s }]

/-- Container `index` of `pod'` is that of `pod` with an env list keeping the old one, and nothing
else of the pod changed. -/
def KeepsPod (pod pod' : Pod) (index : Nat) : Prop :=
  ∃ c env', pod.spec.containers[index]? = some c ∧ pod' = pod.setEnv index c env' ∧
    KeepsEntries c.env env'

/-! ## Appending injectors -/

theorem prefix_appendIfAbsent (env : List EnvVar) (x : EnvVar) : env <+: appendIfAbsent env x := by
  rw [appendIfAbsent_eq]; exact List.prefix_append _ _

theorem prefix_ite_append (env : List EnvVar) (c : Prop) [Decidable c] (x : List EnvVar) :
    env <+: if c then env ++ x else env := by
  split
  · exact List.prefix_append _ _
  · exact List.prefix_refl _

theorem prefix_foldl_appendIfAbsent (l env : List EnvVar) : env <+: l.foldl appendIfAbsent env := by
  induction l generalizing env with
  | nil => exact List.prefix_refl _
  | cons x xs ih => exact (prefix_appendIfAbsent env x).trans (ih _)

/-- The fold appends only entries of `l`. -/
theorem foldl_appendIfAbsent_eq (l env : List EnvVar) :
    ∃ added, l.foldl appendIfAbsent env = env ++ added ∧ ∀ e ∈ added, e ∈ l := by
  induction l generalizing env with
  | nil => exact ⟨[], by simp, by simp⟩
  | cons x xs ih =>
    obtain ⟨added, h, hmem⟩ := ih (appendIfAbsent env x)
    refine ⟨(if x.name ∈ names env then [] else [x]) ++ added,
      by rw [List.foldl_cons, h, appendIfAbsent_eq, List.append_assoc], fun e he => ?_⟩
    rcases List.mem_append.1 he with he | he
    · split at he <;> simp_all
    · exact List.mem_cons_of_mem _ (hmem e he)

/-- `injectCommonEnvVar` returns once the container is there, and appends entries of the spec's
env list only. -/
theorem injectCommonEnvVar_eq {newrelic : Instrumentation} {pod : Pod} {index : Nat} {c : Container}
    (hc : pod.spec.containers[index]? = some c) :
    ∃ added, injectCommonEnvVar newrelic pod index = some (pod.setEnv index c (c.env ++ added)) ∧
      ∀ e ∈ added, e ∈ newrelic.spec.env := by
  obtain ⟨added, h, hmem⟩ := foldl_appendIfAbsent_eq newrelic.spec.env c.env
  exact ⟨added, by simp [injectCommonEnvVar, hc, h], hmem⟩

theorem injectCommonEnvVar_keeps {newrelic : Instrumentation} {pod pod' : Pod} {index : Nat}
    (h : injectCommonEnvVar newrelic pod index = some pod') : KeepsPod pod pod' index := by
  simp only [injectCommonEnvVar, Option.bind_eq_bind, Option.bind_eq_some, Option.pure_def,
    Option.some.injEq] at h
  obtain ⟨c, hc, rfl⟩ := h
  exact ⟨c, _, hc, rfl, .inl (prefix_foldl_appendIfAbsent _ _)⟩

theorem injectNewrelicConfig_keeps {client : Client} {fuel : Nat} {newrelic : Instrumentation}
    {ns : Namespace} {pod pod' : Pod} {index : Nat}
    (h : injectNewrelicConfig client fuel newrelic ns pod index = some pod') : KeepsPod pod pod' index := by
  simp only [injectNewrelicConfig, Option.bind_eq_bind, Option.bind_eq_some, Option.pure_def,
    Option.some.injEq] at h
  obtain ⟨c, hc, m, -, env₁, henv₁, rfl⟩ := h
  obtain ⟨name, -, rfl⟩ := withServiceName_some henv₁
  refine ⟨c, _, hc, rfl, .inl (List.IsPrefix.trans ?_ (prefix_ite_append _ _ _))⟩
  exact (List.prefix_append _ _).trans (prefix_appendIfAbsent _ _)

/-! ## `injectCommonSDKConfig` -/

theorem envOTELResourceAttrs_not_mem_middleNames : envOTELResourceAttrs ∉ middleNames := by decide

/-- The agent container's env before `finishEnv`: the old list and the middle steps' entries. -/
theorem middle_of_eq_some (spec : InstrumentationSpec) {pod : Pod} {appIndex : Nat} {c : Container}
    {m₀ : Attrs} (m₁ : Attrs) {env₁ : List EnvVar}
    (henv₁ : withServiceName envOTELServiceName pod m₀ appIndex c.env = some env₁) :
    AppendsIn middleNames c.env (middleState spec env₁ m₀ m₁).env :=
  (withServiceName_appendsIn henv₁).trans (middleState_appendsIn _ _ _ _)

/-- What `finishEnv` does to a list that the middle steps appended to: with no
`OTEL_RESOURCE_ATTRIBUTES` it appends one, else it extends the first and moves it last. -/
theorem finishEnv_cases (spec : InstrumentationSpec) {env : List EnvVar} {s : SdkState}
    (hs : AppendsIn middleNames env s.env) :
    (envOTELResourceAttrs ∉ names env ∧
      finishEnv spec s = s.env ++ tailEntries spec (names s.env) ++
        [resourceAttrsEnv (resourceMapToStr s.resourceMap)]) ∨
    ∃ pre e post A, env = pre ++ e :: post ∧ e.name = envOTELResourceAttrs ∧
      envOTELResourceAttrs ∉ names pre ∧ s.env = env ++ A ∧
      finishEnv spec s = pre ++ post ++ A ++ tailEntries spec (names s.env) ++
        [extendAttrs e (resourceMapToStr s.resourceMap)] := by
  obtain ⟨A, hA, hAn⟩ := hs
  by_cases hr : envOTELResourceAttrs ∈ names env
  · obtain ⟨pre, e, post, hce, he, hpre⟩ := split_first hr
    refine .inr ⟨pre, e, post, A, hce, he, hpre, hA, ?_⟩
    rw [finishEnv_split _ (by rw [hA, hce, List.append_assoc, List.cons_append]) he hpre]
    simp only [List.append_assoc]
  · refine .inl ⟨hr, finishEnv_absent _ _ ?_⟩
    rw [hA, names_append, List.mem_append, not_or]
    exact ⟨hr, fun hm => envOTELResourceAttrs_not_mem_middleNames (hAn _ hm)⟩

theorem injectCommonSDKConfig_keeps {client : Client} {fuel : Nat} {newrelic : Instrumentation}
    {ns : Namespace} {pod pod' : Pod} {agentIndex appIndex : Nat}
    (h : injectCommonSDKConfig client fuel newrelic ns pod agentIndex appIndex = some pod') :
    KeepsPod pod pod' agentIndex := by
  obtain ⟨c, m₀, env₁, m₁, hc, -, henv₁, -, rfl⟩ := injectCommonSDKConfig_eq_some h
  have hm := middle_of_eq_some newrelic.spec m₁ henv₁
  refine ⟨c, _, hc, rfl, ?_⟩
  rcases finishEnv_cases newrelic.spec hm with ⟨-, hf⟩ | ⟨pre, e, post, A, hce, he, hpre, hA, hf⟩ <;> rw [hf]
  · obtain ⟨A, hA, -⟩ := hm
    rw [hA, List.append_assoc, List.append_assoc]; exact .inl (List.prefix_append _ _)
  · exact .inr ⟨pre, e, post, A ++ tailEntries newrelic.spec _, _, hce, he, hpre,
      by simp only [List.append_assoc]; rfl⟩

/-- Injection keeps every entry already in the target container: the entries stay with their
names and values, in their order, ahead of what is added, except the first
`OTEL_RESOURCE_ATTRIBUTES`, which `injectCommonSDKConfig` extends and moves last. The other
containers and the rest of the pod do not change. -/
theorem injectors_keep_entries :
    (∀ (newrelic : Instrumentation) (pod pod' : Pod) (index : Nat),
      injectCommonEnvVar newrelic pod index = some pod' → KeepsPod pod pod' index) ∧
    (∀ (client : Client) (fuel : Nat) (newrelic : Instrumentation) (ns : Namespace) (pod pod' : Pod)
      (index : Nat), injectNewrelicConfig client fuel newrelic ns pod index = some pod' →
        KeepsPod pod pod' index) ∧
    (∀ (client : Client) (fuel : Nat) (newrelic : Instrumentation) (ns : Namespace) (pod pod' : Pod)
      (agentIndex appIndex : Nat),
        injectCommonSDKConfig client fuel newrelic ns pod agentIndex appIndex = some pod' →
        KeepsPod pod pod' agentIndex) :=
  ⟨fun _ _ _ _ => injectCommonEnvVar_keeps, fun _ _ _ _ _ _ _ => injectNewrelicConfig_keeps,
    fun _ _ _ _ _ _ _ _ => injectCommonSDKConfig_keeps⟩

/-! ## The downward-API placeholders -/

/-- The fallbacks of `injectCommonSDKConfig`: each attribute key with the entry whose value its
placeholder `$(X)` stands for. -/
def downwardFallbacks (addK8sUIDAttributes : Bool) : List (String × String) :=
  [(k8sPodNameKey, envPodName)] ++ (if addK8sUIDAttributes then [(k8sPodUIDKey, envPodUID)] else []) ++
    [(k8sNodeNameKey, envNodeName)]

/-- The map holds the placeholder `$(envName)` at `key`, and the list has an entry `envName`. -/
def Placed (key envName : String) (s : SdkState) : Prop :=
  s.resourceMap.lookup key = some ("$(" ++ envName ++ ")") ∧ envName ∈ names s.env

section Placeholders
variable {key key' envName envName' fieldPath : String} {s : SdkState}

theorem placed_downwardAttr_self (h : s.resourceMap.get key = "") :
    Placed key envName (downwardAttr key envName fieldPath s) := by
  rw [downwardAttr, if_pos h]
  exact ⟨AList.lookup_insert _, by simp [fieldRefEnv]⟩

theorem placed_downwardAttr_ne (hk : key ≠ key') (h : Placed key envName s) :
    Placed key envName (downwardAttr key' envName' fieldPath s) := by
  unfold downwardAttr; split
  · exact ⟨(AList.lookup_insert_ne hk).trans h.1, by simp [h.2]⟩
  · exact h

theorem get_downwardAttr_ne (hk : key ≠ key') :
    (downwardAttr key' envName fieldPath s).resourceMap.get key = s.resourceMap.get key := by
  unfold downwardAttr; split
  · exact Attrs.get_insert_ne _ _ hk
  · rfl

end Placeholders

theorem mem_downwardFallbacks {b : Bool} {kx : String × String} :
    kx ∈ downwardFallbacks b ↔
      kx = (k8sPodNameKey, envPodName) ∨ (b = true ∧ kx = (k8sPodUIDKey, envPodUID)) ∨
        kx = (k8sNodeNameKey, envNodeName) := by
  cases b <;> simp [downwardFallbacks]

theorem fallback_ne_attrs {b : Bool} {kx : String × String} (h : kx ∈ downwardFallbacks b) :
    kx.2 ≠ envOTELResourceAttrs := by
  rcases mem_downwardFallbacks.1 h with rfl | ⟨-, rfl⟩ | rfl <;> decide

theorem withPodAttrs_get_ne {spec : InstrumentationSpec} {s : SdkState} {key : String}
    (hpod : key ≠ k8sPodNameKey) (huid : key ≠ k8sPodUIDKey) :
    (withPodAttrs spec s).resourceMap.get key = s.resourceMap.get key := by
  simp only [withPodAttrs]; split <;> simp only [get_downwardAttr_ne, hpod, huid, ne_eq, not_false_eq_true]

theorem placed_withPodAttrs {spec : InstrumentationSpec} {s : SdkState} {kx : String × String}
    (hkx : kx = (k8sPodNameKey, envPodName) ∨
      (spec.resource.addK8sUIDAttributes = true ∧ kx = (k8sPodUIDKey, envPodUID)))
    (h0 : s.resourceMap.get kx.1 = "") : Placed kx.1 kx.2 (withPodAttrs spec s) := by
  simp only [withPodAttrs]
  rcases hkx with rfl | ⟨hu, rfl⟩
  · have hp : Placed k8sPodNameKey envPodName (downwardAttr k8sPodNameKey envPodName "metadata.name" s) :=
      placed_downwardAttr_self h0
    split
    · exact placed_downwardAttr_ne (by decide) hp
    · exact hp
  · rw [if_pos hu]
    exact placed_downwardAttr_self ((get_downwardAttr_ne (by decide)).trans h0)

/-- Each fallback whose key the call's map left empty is placed by the middle steps. -/
theorem placed_middleState {spec : InstrumentationSpec} {pod : Pod} {appIndex : Nat}
    {env₁ : List EnvVar} {m₀ m₁ : Attrs}
    (hm₁ : withServiceVersion pod appIndex (withPodAttrs spec ⟨withExporterEndpoint spec env₁, m₀⟩).env
      (withPodAttrs spec ⟨withExporterEndpoint spec env₁, m₀⟩).resourceMap = some m₁)
    {kx : String × String} (hkx : kx ∈ downwardFallbacks spec.resource.addK8sUIDAttributes)
    (h0 : m₀.get kx.1 = "") : Placed kx.1 kx.2 (middleState spec env₁ m₀ m₁) := by
  rw [mem_downwardFallbacks, ← or_assoc] at hkx
  rcases hkx with hkx | rfl
  · have hp : Placed kx.1 kx.2 (withPodAttrs spec ⟨withExporterEndpoint spec env₁, m₀⟩) :=
      placed_withPodAttrs hkx h0
    have hne : kx.1 ≠ k8sNodeNameKey ∧ kx.1 ≠ serviceVersionKey := by
      rcases hkx with rfl | ⟨-, rfl⟩ <;> decide
    exact placed_downwardAttr_ne hne.1 ⟨(withServiceVersion_lookup hm₁ hne.2).trans hp.1, hp.2⟩
  · exact placed_downwardAttr_self
      ((withServiceVersion_get hm₁ (by decide)).trans ((withPodAttrs_get_ne (by decide) (by decide)).trans h0))

/-- After `injectCommonSDKConfig` the agent container's env list ends with the
`OTEL_RESOURCE_ATTRIBUTES` entry the call created, or the first one it had, extended; the value
written is the serialised map `m`. Every downward-API placeholder the call put into `m` names an
entry ahead of that last one. -/
theorem injectCommonSDKConfig_attrs_last {client : Client} {fuel : Nat} {newrelic : Instrumentation}
    {ns : Namespace} {pod pod' : Pod} {agentIndex appIndex : Nat}
    (h : injectCommonSDKConfig client fuel newrelic ns pod agentIndex appIndex = some pod') :
    ∃ c m₀ m pre r, pod.spec.containers[agentIndex]? = some c ∧
      createResourceMap client fuel newrelic ns pod appIndex = some m₀ ∧
      pod' = pod.setEnv agentIndex c (pre ++ [r]) ∧ r.name = envOTELResourceAttrs ∧
      (envOTELResourceAttrs ∉ names c.env ∧ r = resourceAttrsEnv (resourceMapToStr m) ∨
        ∃ pre₀ e post, c.env = pre₀ ++ e :: post ∧ e.name = envOTELResourceAttrs ∧
          envOTELResourceAttrs ∉ names pre₀ ∧ r = extendAttrs e (resourceMapToStr m)) ∧
      ∀ kx ∈ downwardFallbacks newrelic.spec.resource.addK8sUIDAttributes, m₀.get kx.1 = "" →
        m.lookup kx.1 = some ("$(" ++ kx.2 ++ ")") ∧ kx.2 ∈ names pre := by
  obtain ⟨c, m₀, env₁, m₁, hc, hm₀, henv₁, hm₁, rfl⟩ := injectCommonSDKConfig_eq_some h
  have hp := fun kx (hkx : kx ∈ _) h0 => placed_middleState hm₁ hkx h0
  refine ⟨c, m₀, (middleState newrelic.spec env₁ m₀ m₁).resourceMap, ?_⟩
  rcases finishEnv_cases newrelic.spec (middle_of_eq_some newrelic.spec m₁ henv₁) with
    ⟨hr, hf⟩ | ⟨pre, e, post, A, hce, he, hpre, hA, hf⟩ <;> rw [hf]
  · refine ⟨_, _, hc, hm₀, rfl, rfl, .inl ⟨hr, rfl⟩, fun kx hkx h0 => ?_⟩
    obtain ⟨hl, hn⟩ := hp kx hkx h0
    exact ⟨hl, by simp [hn]⟩
  · refine ⟨_, _, hc, hm₀, rfl, he, .inr ⟨pre, e, post, hce, he, hpre, rfl⟩, fun kx hkx h0 => ?_⟩
    obtain ⟨hl, hn⟩ := hp kx hkx h0
    rw [hA, hce] at hn
    simp only [names_append, names_cons, List.mem_append, List.mem_cons, he] at hn ⊢
    refine ⟨hl, ?_⟩
    rcases hn with (h | h | h) | h
    · exact .inl (.inl (.inl h))
    · exact absurd h (fallback_ne_attrs hkx)
    · exact .inl (.inl (.inr h))
    · exact .inl (.inr h)

theorem injectCommonSDKConfig_attrs_last_appPod :
    ∃ c m₀ m pre r, appPod.spec.containers[0]? = some c ∧
      createResourceMap noReplicaSets 1 {} appNamespace appPod 0 = some m₀ ∧
      (injectCommonSDKConfig noReplicaSets 1 {} appNamespace appPod 0 0).getD appPod =
        appPod.setEnv 0 c (pre ++ [r]) ∧ r.name = envOTELResourceAttrs ∧
      (envOTELResourceAttrs ∉ names c.env ∧ r = resourceAttrsEnv (resourceMapToStr m) ∨
        ∃ pre₀ e post, c.env = pre₀ ++ e :: post ∧ e.name = envOTELResourceAttrs ∧
          envOTELResourceAttrs ∉ names pre₀ ∧ r = extendAttrs e (resourceMapToStr m)) ∧
      ∀ kx ∈ downwardFallbacks ({} : Instrumentation).spec.resource.addK8sUIDAttributes, m₀.get kx.1 = "" →
        m.lookup kx.1 = some ("$(" ++ kx.2 ++ ")") ∧ kx.2 ∈ names pre :=
  @injectCommonSDKConfig_attrs_last noReplicaSets 1 {} appNamespace appPod _ 0 0 rfl

/-! ## Repeated names -/

/-- A pod whose container already reads the node name through the downward API, on no node. -/
def nodeNamePod : Pod :=
  { objectMeta := { name := "p" },
    spec := { containers := [{ name := "app", env := [fieldRefEnv envNodeName "spec.nodeName"] }] } }

/-- The node-name entry is appended again: the list had distinct names and has them no more. -/
theorem injectCommonSDKConfig_repeats_nodeName :
    (injectCommonSDKConfig noReplicaSets 1 {} appNamespace nodeNamePod 0 0).map
        (fun p => p.spec.containers.map fun c => names c.env) =
      some [[envNodeName, envOTELServiceName, envNodeName, envOTELResourceAttrs]] := by
  decide

end K8sAgentsOperator.Instrumentation
