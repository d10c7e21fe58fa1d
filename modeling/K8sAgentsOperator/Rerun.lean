import K8sAgentsOperator.Attributes
/-!
# Running `injectCommonSDKConfig` on its own output

The admission webhook may see a pod it has injected before. With the agent container the
application container, at most one `OTEL_RESOURCE_ATTRIBUTES` and attribute text that reads back,
the second run finds every key of the first run's map declared, so `createResourceMap` gives an
empty map (`createResourceMap_rerun`). What the second run changes is then only what the
downward-API fallbacks add: their entries and their placeholders (`injectCommonSDKConfig_rerun`).
They do add them: a second run on a fresh pod appends the pod-name and node-name entries again
(`injectCommonSDKConfig_rerun_changes`).
-/

namespace K8sAgentsOperator.Instrumentation

open Strings

/-- The names of the downward-API entries. -/
def fallbackNames : List String := [envPodName, envPodUID, envNodeName]

/-- After the endpoint, the steps append only downward-API entries. -/
theorem middleState_fallbacks (spec : InstrumentationSpec) (env₁ : List EnvVar) (m₀ m₁ : Attrs) :
    AppendsIn fallbackNames (withExporterEndpoint spec env₁) (middleState spec env₁ m₀ m₁).env :=
  AppendsIn.trans (withPodAttrs_appendsIn (by simp [fallbackNames]) _ _)
    (downwardAttr_appendsIn (by simp [fallbackNames]) _)

theorem mem_middleNames_of_fallback {x : String} (hx : x ∈ fallbackNames) : x ∈ middleNames :=
  List.mem_append_right [envOTELServiceName, envOTELExporterOTLPEndpoint] hx

/-! ## Steps that find their entry -/

theorem withServiceName_of_mem {envName : String} {pod : Pod} {m : Attrs} {index : Nat}
    {env : List EnvVar} (h : envName ∈ names env) : withServiceName envName pod m index env = some env := by
  simp [withServiceName, getIndexOfEnv_eq_neg_one, h]

theorem withExporterEndpoint_of_mem {spec : InstrumentationSpec} {env : List EnvVar}
    (h : spec.exporter.endpoint ≠ "" → envOTELExporterOTLPEndpoint ∈ names env) :
    withExporterEndpoint spec env = env := by
  rw [withExporterEndpoint_eq, if_neg fun hc => hc.2 (h hc.1), List.append_nil]

theorem chooseServiceVersion_setEnv {pod : Pod} {index : Nat} {c : Container}
    (hc : pod.spec.containers[index]? = some c) (env : List EnvVar) :
    chooseServiceVersion (pod.setEnv index c env) index = chooseServiceVersion pod index := by
  simp [chooseServiceVersion, Pod.setEnv_container hc, hc]

/-- The propagators and the sampler are not added again once their names are in the list. -/
theorem tailEntries_eq_nil (spec : InstrumentationSpec) {ns ns' : List String} (h : ∀ n ∈ ns, n ∈ ns')
    (ht : ∀ n ∈ names (tailEntries spec ns), n ∈ ns') : tailEntries spec ns' = [] := by
  simp only [tailEntries, List.append_eq_nil]
  constructor
  · refine if_neg fun hp => hp.1 (ht _ ?_)
    have hn : envOTELPropagators ∉ ns := fun hn => hp.1 (h _ hn)
    simp [tailEntries, hn, hp.2]
  · refine if_neg fun hs => hs.1 (ht _ ?_)
    have hn : envOTELTracesSampler ∉ ns := fun hn => hs.1 (h _ hn)
    have hna : envOTELTracesSamplerArg ∉ ns := fun hn => hs.2.2 (h _ hn)
    simp [tailEntries, hn, hna, hs.2.1]

/-! ## What the first run leaves -/

section Sdk
variable {client : Client} {fuel : Nat} {newrelic : Instrumentation} {ns : Namespace} {pod : Pod}
  {c : Container} {appIndex : Nat} {s : SdkState}

theorem mem_downwardAttr {key envName fieldPath k : String} {t : SdkState} (h : k ∈ t.resourceMap) :
    k ∈ (downwardAttr key envName fieldPath t).resourceMap := by
  unfold downwardAttr; split
  · exact (AList.mem_insert _).2 (.inr h)
  · exact h

theorem mem_withPodAttrs (spec : InstrumentationSpec) {t : SdkState} {k : String} (h : k ∈ t.resourceMap) :
    k ∈ (withPodAttrs spec t).resourceMap := by
  simp only [withPodAttrs]; split
  · exact mem_downwardAttr (mem_downwardAttr h)
  · exact mem_downwardAttr h

theorem mem_withServiceVersion {env : List EnvVar} {m m' : Attrs}
    (h : withServiceVersion pod appIndex env m = some m') {k : String} (hk : k ∈ m) : k ∈ m' := by
  simp only [withServiceVersion] at h
  split at h
  · obtain ⟨vsn, -, rfl⟩ := Option.map_eq_some'.1 h
    split
    · exact (AList.mem_insert _).2 (.inr hk)
    · exact hk
  · cases h; exact hk

/-- The steps only add keys to `createResourceMap`'s map. -/
theorem sdkState_mem (hs : sdkState client fuel newrelic ns pod c appIndex = some s) {m₀ : Attrs}
    (hm₀ : createResourceMap client fuel newrelic ns pod appIndex = some m₀) {k : String} (hk : k ∈ m₀) :
    k ∈ s.resourceMap := by
  obtain ⟨m₀', env₁, m₁, hm₀', -, hm₁, rfl⟩ := sdkState_eq_some hs
  obtain rfl : m₀' = m₀ := Option.some.inj (hm₀'.symm.trans hm₀)
  exact mem_downwardAttr (mem_withServiceVersion hm₁ (mem_withPodAttrs _ hk))

/-- The service name is in the list, and the endpoint when the spec sets one. -/
theorem sdkState_names (hs : sdkState client fuel newrelic ns pod c appIndex = some s) :
    envOTELServiceName ∈ names s.env ∧
      (newrelic.spec.exporter.endpoint ≠ "" → envOTELExporterOTLPEndpoint ∈ names s.env) := by
  obtain ⟨m₀, env₁, m₁, -, henv₁, -, rfl⟩ := sdkState_eq_some hs
  have hname : envOTELServiceName ∈ names env₁ := by
    obtain ⟨name, -, rfl⟩ := withServiceName_some henv₁
    split <;> simp_all
  have hrest := middleState_fallbacks newrelic.spec env₁ m₀ m₁
  rw [withExporterEndpoint_eq] at hrest
  refine ⟨hrest.mem (by simp [hname]), fun he => hrest.mem ?_⟩
  by_cases hm : envOTELExporterOTLPEndpoint ∈ names env₁ <;> simp [he, hm]

end Sdk

/-- The first run's list ends with the one `OTEL_RESOURCE_ATTRIBUTES`: it keeps every name of the
steps' list and of the propagators and sampler, declares what the old value declared and what the
map's text declares, and contains the text `service.version` when the old value did. -/
theorem finishEnv_last (spec : InstrumentationSpec) {env : List EnvVar} {s : SdkState}
    (hs : AppendsIn middleNames env s.env) (huniq : (names env).count envOTELResourceAttrs ≤ 1) :
    ∃ pre r, finishEnv spec s = pre ++ [r] ∧ r.name = envOTELResourceAttrs ∧
      envOTELResourceAttrs ∉ names pre ∧
      (∀ n ∈ names s.env ++ names (tailEntries spec (names s.env)), n ∈ names (pre ++ [r])) ∧
      declaredKeys r.value = existingResourceKeys env ++ declaredKeys (resourceMapToStr s.resourceMap) ∧
      (getIndexOfEnv env envOTELResourceAttrs ≠ -1 →
        contains (valueAt env (getIndexOfEnv env envOTELResourceAttrs)) serviceVersionKey = true →
        contains r.value serviceVersionKey = true) := by
  obtain ⟨A, hsA, hAn⟩ := hs
  have hAr : envOTELResourceAttrs ∉ names A := fun hm => envOTELResourceAttrs_not_mem_middleNames (hAn _ hm)
  have hT : ∀ ns, envOTELResourceAttrs ∉ names (tailEntries spec ns) := fun ns hm => by
    rcases names_tailEntries spec _ _ hm with h | h | h <;> exact absurd h (by decide)
  rcases finishEnv_cases spec ⟨A, hsA, hAn⟩ with ⟨hr, hf⟩ | ⟨pre, e, post, A', rfl, he, hpre, hsA', hf⟩
  · refine ⟨_, _, hf, rfl, by simp [hsA, hr, hAr, hT],
      fun n hn => by simp only [names_append, List.mem_append] at hn ⊢; exact .inl hn,
      by rw [existingResourceKeys_absent hr]; rfl, fun hne => absurd (getIndexOfEnv_eq_neg_one.2 hr) hne⟩
  · have hpost : envOTELResourceAttrs ∉ names post := fun hm => by
      have := List.count_pos_iff.2 hm
      simp only [names_append, names_cons, List.count_append, List.count_cons, he, beq_self_eq_true,
        if_true] at huniq
      omega
    obtain rfl : A' = A := List.append_cancel_left (hsA'.symm.trans hsA)
    refine ⟨_, _, hf, he, by simp [hpre, hpost, hAr, hT], fun n hn => ?_,
      by rw [declaredKeys_extendAttrs, existingResourceKeys_split he hpre], fun _ hc => ?_⟩
    · simp only [hsA, names_append, names_cons, names_nil, List.mem_append, List.mem_cons, extendAttrs_name,
        he, List.not_mem_nil, or_false] at hn ⊢
      rcases hn with ((hn | hn | hn) | hn) | hn
      · exact .inl (.inl (.inl (.inl hn)))
      · exact .inr hn
      · exact .inl (.inl (.inl (.inr hn)))
      · exact .inl (.inl (.inr hn))
      · exact .inl (.inr hn)
    · rw [valueAt_split he hpre] at hc
      exact contains_append_right _ hc

/-! ## The second run -/

/-- On the first run's output, `createResourceMap` finds every key declared and gives an empty
map. -/
theorem createResourceMap_rerun {client : Client} {fuel : Nat} {newrelic : Instrumentation}
    {ns : Namespace} {pod : Pod} {index : Nat} {m₀ : Attrs}
    (hm₀ : createResourceMap client fuel newrelic ns pod index = some m₀) {c : Container}
    (hc : pod.spec.containers[index]? = some c) {s : SdkState}
    (hs : sdkState client fuel newrelic ns pod c index = some s)
    (hread : ∀ k ∈ s.resourceMap.keys, k ∈ declaredKeys (resourceMapToStr s.resourceMap))
    {env₁ : List EnvVar}
    (hdecl : ∀ k ∈ existingResourceKeys c.env ++ declaredKeys (resourceMapToStr s.resourceMap),
      k ∈ existingResourceKeys env₁) :
    ∃ m₀', createResourceMap client fuel newrelic ns (pod.setEnv index c env₁) index = some m₀' ∧
      ∀ k, m₀'.lookup k = none := by
  obtain ⟨c', w, hc', hw, -⟩ := createResourceMap_eq_some hm₀
  obtain rfl : c' = c := Option.some.inj (hc'.symm.trans hc)
  have hc₁ := Pod.setEnv_container hc env₁
  refine ⟨_, createResourceMap_of_walk hc₁ hw, fun k => ?_⟩
  have hm₀' := createResourceMap_of_walk hc₁ hw
  by_cases hk : k ∈ existingResourceKeys env₁
  · exact createResourceMap_lookup_existing hm₀' hc₁ hk
  have hk₀ : k ∉ existingResourceKeys c'.env := fun h => hk (hdecl k (List.mem_append_left _ h))
  rw [createResourceMap_lookup hm₀' hc₁ hw hk, ← createResourceMap_lookup hm₀ hc hw hk₀,
    AList.lookup_eq_none]
  exact fun hmem => hk (hdecl k (List.mem_append_right _ (hread k (sdkState_mem hs hm₀ hmem))))

/-- The second run's state: the fallbacks' entries appended to the list, and the map holds only
their placeholders. -/
theorem sdkState_rerun {client : Client} {fuel : Nat} {newrelic : Instrumentation} {ns : Namespace}
    {pod : Pod} {index : Nat} {c : Container} (hc : pod.spec.containers[index]? = some c) {m₀ : Attrs}
    (hm₀ : createResourceMap client fuel newrelic ns pod index = some m₀) (hempty : ∀ k, m₀.lookup k = none)
    (hname : envOTELServiceName ∈ names c.env)
    (hexp : newrelic.spec.exporter.endpoint ≠ "" → envOTELExporterOTLPEndpoint ∈ names c.env)
    (hver : ∀ vsn, chooseServiceVersion pod index = some vsn → vsn ≠ "" →
      ¬ (getIndexOfEnv c.env envOTELResourceAttrs = -1 ∨
        contains (valueAt c.env (getIndexOfEnv c.env envOTELResourceAttrs)) serviceVersionKey = false)) :
    ∃ s, sdkState client fuel newrelic ns pod c index = some s ∧ AppendsIn fallbackNames c.env s.env ∧
      ∀ k v, s.resourceMap.lookup k = some v →
        ∃ kx ∈ downwardFallbacks newrelic.spec.resource.addK8sUIDAttributes, kx.1 = k ∧
          v = "$(" ++ kx.2 ++ ")" := by
  obtain ⟨m₁, hm₁⟩ : ∃ m₁, withServiceVersion pod index
      (withPodAttrs newrelic.spec ⟨withExporterEndpoint newrelic.spec c.env, m₀⟩).env
      (withPodAttrs newrelic.spec ⟨withExporterEndpoint newrelic.spec c.env, m₀⟩).resourceMap = some m₁ := by
    simp only [withServiceVersion, chooseServiceVersion, hc, Option.map_some']
    split <;> exact ⟨_, rfl⟩
  have hs : sdkState client fuel newrelic ns pod c index = some (middleState newrelic.spec c.env m₀ m₁) := by
    simp only [sdkState, hm₀, withServiceName_of_mem hname, Option.bind_eq_bind, Option.some_bind, hm₁]
    rfl
  refine ⟨_, hs, ?_, fun k v h => ?_⟩
  · simpa only [withExporterEndpoint_of_mem hexp] using middleState_fallbacks newrelic.spec c.env m₀ m₁
  rcases sdkState_lookup_cases hs hm₀ h with h | ⟨-, hv, hne, hg⟩ | hkx
  · simp [hempty] at h
  · exact absurd hg (hver v hv hne)
  · exact hkx

/-- `finishEnv` on a list that ends with its only `OTEL_RESOURCE_ATTRIBUTES`, followed by middle
entries, with the propagators and the sampler present: the entry is extended and moved back to the
end. -/
theorem finishEnv_of_last (spec : InstrumentationSpec) {pre added : List EnvVar} {r : EnvVar} {s : SdkState}
    (hr : r.name = envOTELResourceAttrs) (hpre : envOTELResourceAttrs ∉ names pre)
    (hs : s.env = pre ++ [r] ++ added) (hadd : ∀ n ∈ names added, n ∈ middleNames)
    (htail : tailEntries spec (names s.env) = []) :
    finishEnv spec s = pre ++ added ++ [extendAttrs r (resourceMapToStr s.resourceMap)] := by
  rcases finishEnv_cases spec ⟨added, hs, hadd⟩ with
    ⟨hr₂, -⟩ | ⟨pre', e', post', A', hce, he', hpre', hsA, hf⟩
  · simp [hr] at hr₂
  obtain ⟨rfl, rfl, rfl⟩ := split_first_unique hce hr he' hpre hpre'
  obtain rfl : A' = added := List.append_cancel_left (hsA.symm.trans hs)
  rw [hf, htail, List.append_nil, List.append_nil]

/-- With the agent container also the application container, at most one
`OTEL_RESOURCE_ATTRIBUTES`, and attribute text in which every key the first run writes reads back
as declared, a second run on the first run's output returns, and it only appends downward-API
entries before the last entry and extends that entry's value by the text of a map that holds
only the fallbacks' placeholders. -/
theorem injectCommonSDKConfig_rerun {client : Client} {fuel : Nat} {newrelic : Instrumentation}
    {ns : Namespace} {pod pod₁ : Pod} {index : Nat}
    (h : injectCommonSDKConfig client fuel newrelic ns pod index index = some pod₁)
    {c : Container} (hc : pod.spec.containers[index]? = some c)
    (huniq : (names c.env).count envOTELResourceAttrs ≤ 1)
    {s : SdkState} (hs : sdkState client fuel newrelic ns pod c index = some s)
    (hread : ∀ k ∈ s.resourceMap.keys, k ∈ declaredKeys (resourceMapToStr s.resourceMap)) :
    ∃ c₁ pre r added m₂, pod₁.spec.containers[index]? = some c₁ ∧ c₁.env = pre ++ [r] ∧
      r.name = envOTELResourceAttrs ∧ injectCommonSDKConfig client fuel newrelic ns pod₁ index index =
        some (pod₁.setEnv index c₁ (pre ++ added ++ [extendAttrs r (resourceMapToStr m₂)])) ∧
      (∀ n ∈ names added, n ∈ fallbackNames) ∧
      ∀ k v, m₂.lookup k = some v →
        ∃ kx ∈ downwardFallbacks newrelic.spec.resource.addK8sUIDAttributes, kx.1 = k ∧
          v = "$(" ++ kx.2 ++ ")" := by
  obtain ⟨c', s', hc', hs', rfl⟩ := injectCommonSDKConfig_eq_some_state h
  obtain rfl : c' = c := Option.some.inj (hc'.symm.trans hc)
  obtain rfl : s' = s := Option.some.inj (hs'.symm.trans hs)
  obtain ⟨m₀, -, -, hm₀, -⟩ := sdkState_eq_some hs
  obtain ⟨pre, r, hf, hr, hpre, hnames, hdecl, hcont⟩ :=
    finishEnv_last newrelic.spec (sdkState_appendsIn hs) huniq
  obtain ⟨c₁, hc₁, hc₁env⟩ : ∃ c₁ : Container,
      (pod.setEnv index c' (finishEnv newrelic.spec s')).spec.containers[index]? = some c₁ ∧
        c₁.env = finishEnv newrelic.spec s' := ⟨_, Pod.setEnv_container hc _, rfl⟩
  rw [hf] at hc₁env
  have hex₁ : existingResourceKeys (finishEnv newrelic.spec s') = declaredKeys r.value := by
    rw [hf]; exact existingResourceKeys_split hr hpre
  obtain ⟨m₀', hm₀', hempty⟩ := createResourceMap_rerun hm₀ hc hs hread fun k hk => by rwa [hex₁, hdecl]
  have hsub : ∀ n ∈ names s'.env ++ names (tailEntries newrelic.spec (names s'.env)), n ∈ names c₁.env :=
    fun n hn => hc₁env ▸ hnames n hn
  -- the first run wrote `service.version`, or found the text in the old value
  have hver : ∀ vsn, chooseServiceVersion (pod.setEnv index c' (finishEnv newrelic.spec s')) index = some vsn →
      vsn ≠ "" → ¬ (getIndexOfEnv c₁.env envOTELResourceAttrs = -1 ∨
        contains (valueAt c₁.env (getIndexOfEnv c₁.env envOTELResourceAttrs)) serviceVersionKey = false) := by
    intro vsn hv hne
    rw [chooseServiceVersion_setEnv hc] at hv
    rw [hc₁env]
    refine versionGuard_split hr hpre ?_
    by_cases hg₀ : getIndexOfEnv c'.env envOTELResourceAttrs = -1 ∨
        contains (valueAt c'.env (getIndexOfEnv c'.env envOTELResourceAttrs)) serviceVersionKey = false
    · refine contains_of_mem_declaredKeys ?_
      rw [hdecl]
      exact List.mem_append_right _ (hread _ (AList.lookup_isSome.1 (by rw [sdkState_version hs hv hne hg₀]; rfl)))
    · simp only [not_or, Bool.not_eq_false] at hg₀
      exact hcont hg₀.1 hg₀.2
  obtain ⟨s₂, hs₂, ⟨added, hadd, haddn⟩, hent⟩ := sdkState_rerun hc₁ hm₀' hempty
    (hsub _ (List.mem_append_left _ (sdkState_names hs).1))
    (fun he => hsub _ (List.mem_append_left _ ((sdkState_names hs).2 he))) hver
  -- the names the first run wrote are still there, so the propagators and the sampler are not added again
  have hkeep : ∀ n ∈ names s'.env ++ names (tailEntries newrelic.spec (names s'.env)), n ∈ names s₂.env :=
    fun n hn => AppendsIn.mem ⟨added, hadd, haddn⟩ (hsub n hn)
  have htail := tailEntries_eq_nil newrelic.spec (fun n hn => hkeep n (List.mem_append_left _ hn))
    fun n hn => hkeep n (List.mem_append_right _ hn)
  refine ⟨c₁, pre, r, added, s₂.resourceMap, hc₁, hc₁env, hr, ?_, haddn, hent⟩
  rw [injectCommonSDKConfig_of_sdkState hc₁ hs₂, finishEnv_of_last newrelic.spec hr hpre (by rw [hadd, hc₁env])
    (fun n hn => mem_middleNames_of_fallback (haddn n hn)) htail]

/-- The first run's output on `appPod`. -/
def injectedAppPod : Pod := (injectCommonSDKConfig noReplicaSets 1 {} appNamespace appPod 0 0).getD appPod

theorem injectCommonSDKConfig_rerun_appPod :
    ∃ c₁ pre r added m₂, injectedAppPod.spec.containers[0]? = some c₁ ∧ c₁.env = pre ++ [r] ∧
      r.name = envOTELResourceAttrs ∧ injectCommonSDKConfig noReplicaSets 1 {} appNamespace injectedAppPod 0 0 =
        some (injectedAppPod.setEnv 0 c₁ (pre ++ added ++ [extendAttrs r (resourceMapToStr m₂)])) ∧
      (∀ n ∈ names added, n ∈ fallbackNames) ∧
      ∀ k v, m₂.lookup k = some v →
        ∃ kx ∈ downwardFallbacks ({} : Instrumentation).spec.resource.addK8sUIDAttributes, kx.1 = k ∧
          v = "$(" ++ kx.2 ++ ")" :=
  @injectCommonSDKConfig_rerun noReplicaSets 1 {} appNamespace appPod _ 0 rfl appContainer rfl (by decide) _ rfl
    (by decide)

/-- The first run's output and the second run's, on a cluster with no ReplicaSets. -/
def twoRuns (newrelic : Instrumentation) (pod : Pod) (agentIndex appIndex : Nat) : Option (Pod × Pod) := do
  let pod₁ ← injectCommonSDKConfig noReplicaSets 1 newrelic appNamespace pod agentIndex appIndex
  let pod₂ ← injectCommonSDKConfig noReplicaSets 1 newrelic appNamespace pod₁ agentIndex appIndex
  pure (pod₁, pod₂)

/-- The names of the first container's entries. -/
def firstEnvNames (pod : Pod) : List String := (pod.spec.containers.head?.map fun c => names c.env).getD []

/-- The value of the first container's last entry. -/
def firstLastValue (pod : Pod) : String :=
  ((pod.spec.containers.head?.bind fun c => c.env.getLast?).map (·.value)).getD ""

/-- An Instrumentation whose user attribute `b` has the value `1=2`. -/
def eqAttrsInst : Instrumentation := { spec := { resource := { attributes := (∅ : Attrs).insert "b" "1=2" } } }

/-- A pod whose container has two `OTEL_RESOURCE_ATTRIBUTES` entries. -/
def twoAttrsPod : Pod :=
  { objectMeta := { name := "p" },
    spec := { containers := [{ appContainer with env := [{ name := envOTELResourceAttrs, value := "a=1" },
      { name := envOTELResourceAttrs, value := "b=2" }] }] } }

set_option maxRecDepth 2000 in
/-- Four second runs that change the first run's output: on a fresh pod the pod-name and node-name
entries come again; an agent container other than the application container gets
`k8s.container.name` declared again; the piece `b=1=2`, which declares nothing, is written again;
with two `OTEL_RESOURCE_ATTRIBUTES` the second run extends the other one and moves it to the end. -/
theorem injectCommonSDKConfig_rerun_changes :
    (twoRuns {} appPod 0 0).map (fun r => (firstEnvNames r.1, firstEnvNames r.2)) =
      some ([envOTELServiceName, envNodeName, envOTELResourceAttrs],
        [envOTELServiceName, envNodeName, envPodName, envNodeName, envOTELResourceAttrs]) ∧
    (twoRuns {} sidecarPod 0 1).map (fun r => ((declaredKeys (firstLastValue r.1)).count k8sContainerNameKey,
        (declaredKeys (firstLastValue r.2)).count k8sContainerNameKey)) = some (1, 2) ∧
    (twoRuns eqAttrsInst appPod 0 0).map (fun r => ((split (firstLastValue r.1) ',').count "b=1=2",
        (split (firstLastValue r.2) ',').count "b=1=2")) = some (1, 2) ∧
    (twoRuns {} twoAttrsPod 0 0).map (fun r => (firstEnvNames r.1, firstEnvNames r.2)) =
      some ([envOTELResourceAttrs, envOTELServiceName, envNodeName, envOTELResourceAttrs],
        [envOTELServiceName, envNodeName, envOTELResourceAttrs, envNodeName, envOTELResourceAttrs]) := by
  decide

end K8sAgentsOperator.Instrumentation
