import K8sAgentsOperator.Frame
/-!
# The attribute map `injectCommonSDKConfig` writes

`sdkState`'s map is `createResourceMap`'s result with the downward-API placeholders and
`service.version` written over it. Every other key keeps `createResourceMap`'s value
(`sdkState_lookup`), and `service.version` is the image tag when the agent container's attributes
let a non-empty tag through (`sdkState_version_lookup`). So a user attribute keeps its value unless
the walk computed a non-empty value for its key, or the tag is written over it
(`sdkState_user_attrs`); the pod name, node name and pod UID are always in the map
(`sdkState_fallback_mem`). The value written declares what the agent container's old value
declared and what the map's text declares (`finishEnv_declares`). From that, for any agent and
application container, `injectCommonSDKConfig_declares` lists the keys it always declares and
`injectCommonSDKConfig_existing_wins` the keys it never declares again.
-/

namespace K8sAgentsOperator.Instrumentation

open Strings

/-- The keys the downward-API fallbacks may write. -/
def fallbackKeys : List String := [k8sPodNameKey, k8sPodUIDKey, k8sNodeNameKey]

/-- The guard of the `service.version` step, on the agent container's list: it has no
`OTEL_RESOURCE_ATTRIBUTES`, or its first one does not contain the text `service.version`. -/
def VersionGuard (env : List EnvVar) : Prop :=
  getIndexOfEnv env envOTELResourceAttrs = -1 ∨
    contains (valueAt env (getIndexOfEnv env envOTELResourceAttrs)) serviceVersionKey = false

instance (env : List EnvVar) : Decidable (VersionGuard env) := inferInstanceAs (Decidable (_ ∨ _))

/-! ## Lookups through the steps -/

section Lookup
variable {key envName fieldPath k : String} {s : SdkState}

theorem get_eq_of_lookup_eq {m m' : Attrs} (h : m'.lookup k = m.lookup k) : m'.get k = m.get k := by
  simp [Attrs.get, h]

/-- A fallback changes nothing at another key, nor at a key that has a value. -/
theorem lookup_downwardAttr_of (h : k ≠ key ∨ s.resourceMap.get k ≠ "") :
    (downwardAttr key envName fieldPath s).resourceMap.lookup k = s.resourceMap.lookup k := by
  unfold downwardAttr; split
  · next h0 =>
    by_cases hk : k = key
    · subst hk; exact absurd h0 (h.resolve_left (absurd rfl))
    · exact AList.lookup_insert_ne hk
  · rfl

theorem lookup_withPodAttrs_of {spec : InstrumentationSpec}
    (h : (k ≠ k8sPodNameKey ∧ k ≠ k8sPodUIDKey) ∨ s.resourceMap.get k ≠ "") :
    (withPodAttrs spec s).resourceMap.lookup k = s.resourceMap.lookup k := by
  have h₁ : (downwardAttr k8sPodNameKey envPodName "metadata.name" s).resourceMap.lookup k =
      s.resourceMap.lookup k := lookup_downwardAttr_of (h.imp_left And.left)
  simp only [withPodAttrs]
  split
  · rw [lookup_downwardAttr_of (h.imp And.right fun h' => by rwa [get_eq_of_lookup_eq h₁]), h₁]
  · exact h₁

/-- A fallback writes at most its placeholder, at its key. -/
theorem lookup_downwardAttr_cases {v : String}
    (h : (downwardAttr key envName fieldPath s).resourceMap.lookup k = some v) :
    s.resourceMap.lookup k = some v ∨ (k = key ∧ v = "$(" ++ envName ++ ")") := by
  unfold downwardAttr at h; split at h
  · by_cases hk : k = key
    · subst hk; rw [AList.lookup_insert, Option.some.injEq] at h; exact .inr ⟨rfl, h.symm⟩
    · rw [AList.lookup_insert_ne hk] at h; exact .inl h
  · exact .inl h

/-- The `service.version` step writes at most a non-empty tag, when its guard holds. -/
theorem withServiceVersion_lookup_cases {pod : Pod} {index : Nat} {env : List EnvVar} {m m' : Attrs}
    (h : withServiceVersion pod index env m = some m') {v : String} (hk : m'.lookup k = some v) :
    m.lookup k = some v ∨ (k = serviceVersionKey ∧ chooseServiceVersion pod index = some v ∧ v ≠ "" ∧
      (getIndexOfEnv env envOTELResourceAttrs = -1 ∨
        contains (valueAt env (getIndexOfEnv env envOTELResourceAttrs)) serviceVersionKey = false)) := by
  simp only [withServiceVersion] at h
  split at h
  · next hg =>
    obtain ⟨vsn, hv, rfl⟩ := Option.map_eq_some'.1 h
    split at hk
    · next hne =>
      by_cases hkv : k = serviceVersionKey
      · subst hkv; rw [AList.lookup_insert, Option.some.injEq] at hk; subst hk
        exact .inr ⟨rfl, hv, hne, hg⟩
      · rw [AList.lookup_insert_ne hkv] at hk; exact .inl hk
    · exact .inl hk
  · cases h; exact .inl hk

end Lookup

section Sdk
variable {client : Client} {fuel : Nat} {newrelic : Instrumentation} {ns : Namespace} {pod : Pod}
  {c : Container} {appIndex : Nat} {s : SdkState}

/-- Away from `service.version` and the fallbacks' empty keys, the map is `createResourceMap`'s. -/
theorem sdkState_lookup (hs : sdkState client fuel newrelic ns pod c appIndex = some s) {m₀ : Attrs}
    (hm₀ : createResourceMap client fuel newrelic ns pod appIndex = some m₀) {k : String}
    (hk : k ≠ serviceVersionKey) (hf : k ∉ fallbackKeys ∨ m₀.get k ≠ "") :
    s.resourceMap.lookup k = m₀.lookup k := by
  obtain ⟨m₀', env₁, m₁, hm₀', -, hm₁, rfl⟩ := sdkState_eq_some hs
  obtain rfl : m₀' = m₀ := Option.some.inj (hm₀'.symm.trans hm₀)
  simp only [fallbackKeys, List.mem_cons, List.mem_singleton, List.not_mem_nil, or_false, not_or] at hf
  have hpod : (withPodAttrs newrelic.spec ⟨withExporterEndpoint newrelic.spec env₁, m₀'⟩).resourceMap.lookup k =
      m₀'.lookup k := lookup_withPodAttrs_of (hf.imp (fun h => ⟨h.1, h.2.1⟩) id)
  have hver : m₁.lookup k = m₀'.lookup k := (withServiceVersion_lookup hm₁ hk).trans hpod
  exact (lookup_downwardAttr_of (hf.imp (fun h => h.2.2) fun h => by rwa [get_eq_of_lookup_eq hver])).trans hver

end Sdk

/-! ## What the written value declares -/

theorem existingResourceKeys_split {pre post : List EnvVar} {e : EnvVar}
    (he : e.name = envOTELResourceAttrs) (hpre : envOTELResourceAttrs ∉ names pre) :
    existingResourceKeys (pre ++ e :: post) = declaredKeys e.value := by
  simp [existingResourceKeys, getIndexOfEnv_split he hpre, List.getElem_append_right]
  omega

theorem existingResourceKeys_absent {env : List EnvVar} (h : envOTELResourceAttrs ∉ names env) :
    existingResourceKeys env = [] := by
  simp [existingResourceKeys, getIndexOfEnv_eq_neg_one.2 h]

theorem declaredKeys_extendAttrs (e : EnvVar) (resStr : String) :
    declaredKeys (extendAttrs e resStr).value = declaredKeys e.value ++ declaredKeys resStr := by
  unfold extendAttrs hasSuffix
  split
  · next h =>
    obtain ⟨t, ht⟩ := of_decide_eq_true h
    have hv : e.value = ⟨t⟩ ++ "," := String.ext (by simpa using ht.symm)
    rw [hv, declaredKeys_append_comma, ← String.append_empty (⟨t⟩ ++ ","), declaredKeys_append_comma]
    simp
  · rw [← String.append_assoc, declaredKeys_append_comma]

/-- The last entry declares what the container's first `OTEL_RESOURCE_ATTRIBUTES` declared, then
what the map's text declares. -/
theorem finishEnv_declares (spec : InstrumentationSpec) {env : List EnvVar} {s : SdkState}
    (hs : AppendsIn middleNames env s.env) :
    ∃ pre r, finishEnv spec s = pre ++ [r] ∧ r.name = envOTELResourceAttrs ∧
      declaredKeys r.value = existingResourceKeys env ++ declaredKeys (resourceMapToStr s.resourceMap) := by
  rcases finishEnv_cases spec hs with ⟨hr, hf⟩ | ⟨pre, e, post, A, rfl, he, hpre, -, hf⟩
  · exact ⟨_, _, hf, rfl, by rw [existingResourceKeys_absent hr]; rfl⟩
  · exact ⟨_, _, hf, he, by rw [declaredKeys_extendAttrs, existingResourceKeys_split he hpre]⟩

theorem plainKey_of_fallback {b : Bool} {kx : String × String} (h : kx ∈ downwardFallbacks b) :
    PlainKey kx.1 := by
  rcases mem_downwardFallbacks.1 h with rfl | ⟨-, rfl⟩ | rfl <;> decide

/-- The keys the walk can write are plain, and none is `service.version`. -/
theorem walk_key {client : Client} {uid : Bool} {ns : Namespace} {fuel : Nat} {pod : Pod}
    {c : Container} {w : Attrs}
    (hw : addParentResourceLabels client uid ns fuel pod.objectMeta (k8sResourceSeed ns pod c) = some w)
    {k : String} (hk : k ∈ w) : PlainKey k ∧ k ≠ serviceVersionKey := by
  have hkeys : ∀ k ∈ seedKeys ++ ownerNameKeys ++ ownerUIDKeys, PlainKey k ∧ k ≠ serviceVersionKey := by
    decide
  obtain ⟨v, hv⟩ := Option.isSome_iff_exists.1 (AList.lookup_isSome.2 hk)
  rcases labelled_addParentResourceLabels hw k v hv with h | h | h
  · have hmem : k ∈ k8sResourceSeed ns pod c := AList.lookup_isSome.1 (by simp [h])
    exact hkeys k (by simp [mem_k8sResourceSeed hmem])
  · exact hkeys k (by simp [h])
  · exact hkeys k (by simp [h.1])

section Sdk
variable {client : Client} {fuel : Nat} {newrelic : Instrumentation} {ns : Namespace} {pod : Pod}
  {c : Container} {appIndex : Nat} {s : SdkState}

theorem sdkState_appendsIn (hs : sdkState client fuel newrelic ns pod c appIndex = some s) :
    AppendsIn middleNames c.env s.env := by
  obtain ⟨m₀, env₁, m₁, -, henv₁, -, rfl⟩ := sdkState_eq_some hs
  exact middle_of_eq_some newrelic.spec m₁ henv₁

/-- The pod name, the node name and, under `AddK8sUIDAttributes`, the pod UID are always in the
map: with the computed value, or with a placeholder. -/
theorem sdkState_fallback_mem (hs : sdkState client fuel newrelic ns pod c appIndex = some s)
    {kx : String × String} (hkx : kx ∈ downwardFallbacks newrelic.spec.resource.addK8sUIDAttributes) :
    kx.1 ∈ s.resourceMap := by
  obtain ⟨m₀, env₁, m₁, hm₀, -, hm₁, hs'⟩ := sdkState_eq_some hs
  by_cases h0 : m₀.get kx.1 = ""
  · subst hs'; exact AList.lookup_isSome.1 (by rw [(placed_middleState hm₁ hkx h0).1]; rfl)
  · have hk : kx.1 ≠ serviceVersionKey := by
      rcases mem_downwardFallbacks.1 hkx with rfl | ⟨-, rfl⟩ | rfl <;> decide
    rw [← AList.lookup_isSome, sdkState_lookup hs hm₀ hk (.inr h0)]
    cases hl : m₀.lookup kx.1 with
    | none => simp [Attrs.get, hl] at h0
    | some _ => rfl

theorem valueAt_append {env : List EnvVar} {n : String} (h : n ∈ names env) (more : List EnvVar) :
    valueAt (env ++ more) (getIndexOfEnv env n) = valueAt env (getIndexOfEnv env n) := by
  obtain ⟨pre, e, post, rfl, he, hpre⟩ := split_first h
  rw [getIndexOfEnv_split he hpre]
  simp [valueAt, List.getElem_append_right]

theorem valueAt_split {pre post : List EnvVar} {e : EnvVar} {n : String} (he : e.name = n)
    (hpre : n ∉ names pre) : valueAt (pre ++ e :: post) (getIndexOfEnv (pre ++ e :: post) n) = e.value := by
  simp [getIndexOfEnv_split he hpre, valueAt, List.getElem_append_right]

/-- The `service.version` guard fails once the first `OTEL_RESOURCE_ATTRIBUTES` contains the text. -/
theorem versionGuard_split {pre post : List EnvVar} {e : EnvVar} (he : e.name = envOTELResourceAttrs)
    (hpre : envOTELResourceAttrs ∉ names pre) (h : contains e.value serviceVersionKey = true) :
    ¬ VersionGuard (pre ++ e :: post) := by
  rw [VersionGuard, valueAt_split he hpre, getIndexOfEnv_split he hpre, h]
  simp only [Bool.true_eq_false, or_false]
  omega

/-- The `service.version` guard reads the same entry after the middle steps' appends. -/
theorem versionGuard_append {env A : List EnvVar} (hA : ∀ x ∈ names A, x ∈ middleNames) :
    VersionGuard (env ++ A) ↔ VersionGuard env := by
  by_cases hr : envOTELResourceAttrs ∈ names env
  · rw [VersionGuard, VersionGuard, getIndexOfEnv_append hr, valueAt_append hr]
  · have hr' : envOTELResourceAttrs ∉ names (env ++ A) := by
      rw [names_append, List.mem_append, not_or]
      exact ⟨hr, fun hm => envOTELResourceAttrs_not_mem_middleNames (hA _ hm)⟩
    simp only [VersionGuard, getIndexOfEnv_eq_neg_one.2 hr, getIndexOfEnv_eq_neg_one.2 hr', true_or]

/-- `service.version` is the image tag when the guard lets a non-empty tag through, and
`createResourceMap`'s value otherwise. -/
theorem sdkState_version_lookup (hs : sdkState client fuel newrelic ns pod c appIndex = some s) {m₀ : Attrs}
    (hm₀ : createResourceMap client fuel newrelic ns pod appIndex = some m₀) {vsn : String}
    (hv : chooseServiceVersion pod appIndex = some vsn) :
    s.resourceMap.lookup serviceVersionKey =
      if vsn ≠ "" ∧ VersionGuard c.env then some vsn else m₀.lookup serviceVersionKey := by
  obtain ⟨m₀', env₁, m₁, hm₀', henv₁, hm₁, rfl⟩ := sdkState_eq_some hs
  obtain rfl : m₀' = m₀ := Option.some.inj (hm₀'.symm.trans hm₀)
  obtain ⟨A, hA, hAn⟩ := (withServiceName_appendsIn henv₁).trans (podAttrs_appendsIn newrelic.spec env₁ m₀')
  have hpod : (withPodAttrs newrelic.spec ⟨withExporterEndpoint newrelic.spec env₁, m₀'⟩).resourceMap.lookup
      serviceVersionKey = m₀'.lookup serviceVersionKey := lookup_withPodAttrs_of (.inl ⟨by decide, by decide⟩)
  refine (lookup_downwardAttr_of (.inl (by decide))).trans ?_
  simp only [withServiceVersion, hA] at hm₁
  split at hm₁
  · next hg =>
    rw [hv, Option.map_some', Option.some.injEq] at hm₁
    subst hm₁
    by_cases hne : vsn = "" <;> simp [hne, (versionGuard_append hAn).1 hg, hpod]
  · next hg =>
    rw [Option.some.injEq] at hm₁
    subst hm₁
    simp [mt (versionGuard_append hAn).2 hg, hpod]

/-- When the container's first `OTEL_RESOURCE_ATTRIBUTES`, if any, does not contain the text
`service.version`, a non-empty image tag is written. -/
theorem sdkState_version (hs : sdkState client fuel newrelic ns pod c appIndex = some s) {vsn : String}
    (hv : chooseServiceVersion pod appIndex = some vsn) (hne : vsn ≠ "") (hg : VersionGuard c.env) :
    s.resourceMap.lookup serviceVersionKey = some vsn := by
  obtain ⟨m₀, -, -, hm₀, -⟩ := sdkState_eq_some hs
  rw [sdkState_version_lookup hs hm₀ hv, if_pos ⟨hne, hg⟩]

/-- Every entry of the map is `createResourceMap`'s, the image tag the guard let through, or a
placeholder at its fallback key. -/
theorem sdkState_lookup_cases (hs : sdkState client fuel newrelic ns pod c appIndex = some s) {m₀ : Attrs}
    (hm₀ : createResourceMap client fuel newrelic ns pod appIndex = some m₀) {k v : String}
    (h : s.resourceMap.lookup k = some v) :
    m₀.lookup k = some v ∨
    (k = serviceVersionKey ∧ chooseServiceVersion pod appIndex = some v ∧ v ≠ "" ∧ VersionGuard c.env) ∨
    ∃ kx ∈ downwardFallbacks newrelic.spec.resource.addK8sUIDAttributes, kx.1 = k ∧ v = "$(" ++ kx.2 ++ ")" := by
  obtain ⟨m₀', env₁, m₁, hm₀', henv₁, hm₁, rfl⟩ := sdkState_eq_some hs
  obtain rfl : m₀' = m₀ := Option.some.inj (hm₀'.symm.trans hm₀)
  obtain ⟨A, hA, hAn⟩ := (withServiceName_appendsIn henv₁).trans (podAttrs_appendsIn newrelic.spec env₁ m₀')
  rcases lookup_downwardAttr_cases h with h | ⟨rfl, rfl⟩
  · rcases withServiceVersion_lookup_cases hm₁ h with h | ⟨hk, hv, hne, hg⟩
    · simp only [withPodAttrs] at h
      split at h
      · next hu =>
        rcases lookup_downwardAttr_cases h with h | ⟨rfl, rfl⟩
        · rcases lookup_downwardAttr_cases h with h | ⟨rfl, rfl⟩
          · exact .inl h
          · exact .inr (.inr ⟨_, mem_downwardFallbacks.2 (.inl rfl), rfl, rfl⟩)
        · exact .inr (.inr ⟨_, mem_downwardFallbacks.2 (.inr (.inl ⟨hu, rfl⟩)), rfl, rfl⟩)
      · rcases lookup_downwardAttr_cases h with h | ⟨rfl, rfl⟩
        · exact .inl h
        · exact .inr (.inr ⟨_, mem_downwardFallbacks.2 (.inl rfl), rfl, rfl⟩)
    · rw [hA] at hg
      exact .inr (.inl ⟨hk, hv, hne, (versionGuard_append hAn).1 hg⟩)
  · exact .inr (.inr ⟨_, mem_downwardFallbacks.2 (.inr (.inr rfl)), rfl, rfl⟩)

end Sdk

/-! ## User attributes -/

section Sdk
variable {client : Client} {fuel : Nat} {newrelic : Instrumentation} {ns : Namespace} {pod : Pod}
  {c : Container} {appIndex : Nat} {s : SdkState}

end Sdk

/-- For any agent and application container: the value written declares every key the agent's old
value declared; the pod name, the node name and, under `AddK8sUIDAttributes`, the pod UID; every key
the walk gave a non-empty value, unless the application container declares it; and a non-empty
image tag when the agent's guard lets it through. A key is left out only when its own value in the
map has a `=`. -/
theorem injectCommonSDKConfig_declares {client : Client} {fuel : Nat} {newrelic : Instrumentation}
    {ns : Namespace} {pod pod' : Pod} {agentIndex appIndex : Nat}
    (h : injectCommonSDKConfig client fuel newrelic ns pod agentIndex appIndex = some pod')
    {c : Container} (hc : pod.spec.containers[agentIndex]? = some c)
    {app : Container} (happ : pod.spec.containers[appIndex]? = some app) {w : Attrs}
    (hw : addParentResourceLabels client newrelic.spec.resource.addK8sUIDAttributes ns fuel pod.objectMeta
      (k8sResourceSeed ns pod app) = some w)
    {s : SdkState} (hs : sdkState client fuel newrelic ns pod c appIndex = some s) :
    ∃ pre r, pod' = pod.setEnv agentIndex c (pre ++ [r]) ∧ r.name = envOTELResourceAttrs ∧
      (∀ k ∈ existingResourceKeys c.env, k ∈ declaredKeys r.value) ∧
      (∀ kx ∈ downwardFallbacks newrelic.spec.resource.addK8sUIDAttributes,
        '=' ∉ (s.resourceMap.get kx.1).data → kx.1 ∈ declaredKeys r.value) ∧
      (∀ k, w.get k ≠ "" → k ∉ existingResourceKeys app.env → '=' ∉ (w.get k).data →
        k ∈ declaredKeys r.value) ∧
      (∀ vsn, chooseServiceVersion pod appIndex = some vsn → vsn ≠ "" → '=' ∉ vsn.data → VersionGuard c.env →
        serviceVersionKey ∈ declaredKeys r.value) := by
  obtain ⟨c', s', hc', hs', rfl⟩ := injectCommonSDKConfig_eq_some_state h
  obtain rfl : c' = c := Option.some.inj (hc'.symm.trans hc)
  obtain rfl : s' = s := Option.some.inj (hs'.symm.trans hs)
  obtain ⟨pre, r, hf, hr, hd⟩ := finishEnv_declares newrelic.spec (sdkState_appendsIn hs)
  have hmap : ∀ k v, s'.resourceMap.lookup k = some v → PlainKey k → '=' ∉ v.data → k ∈ declaredKeys r.value :=
    fun k v hv hk heq => by rw [hd]; exact List.mem_append_right _ (mem_declaredKeys_resourceMapToStr hv hk heq)
  refine ⟨pre, r, by rw [hf], hr, fun k hk => by rw [hd]; exact List.mem_append_left _ hk, fun kx hkx heq => ?_,
    fun k hk hex heq => ?_, fun vsn hv hne heq hg => hmap _ _ (sdkState_version hs hv hne hg) (by decide) heq⟩
  · obtain ⟨v, hv⟩ := Option.isSome_iff_exists.1 (AList.lookup_isSome.2 (sdkState_fallback_mem hs hkx))
    exact hmap _ v hv (plainKey_of_fallback hkx) (by simpa [Attrs.get, hv] using heq)
  · obtain ⟨m₀, -, -, hm₀, -⟩ := sdkState_eq_some hs
    have hl := createResourceMap_lookup hm₀ happ hw hex
    rw [if_pos hk] at hl
    obtain ⟨hplain, hver⟩ := walk_key hw (AList.lookup_isSome.1 (by cases hwl : w.lookup k <;> simp_all [Attrs.get]))
    exact hmap k _ (by rw [sdkState_lookup hs hm₀ hver (.inr (by rw [Attrs.get, hl]; exact hk)), hl]) hplain heq

/-- A pod whose container `app` comes first and an agent container last, as the Go branch of
`inject` leaves it. -/
def appAgentPod : Pod :=
  { objectMeta := { name := "p" }, spec := { containers := [appContainer, { name := "agent" }] } }

theorem injectCommonSDKConfig_declares_appAgentPod :
    ∃ pre r, (injectCommonSDKConfig noReplicaSets 1 {} appNamespace appAgentPod 1 0).getD appAgentPod =
        appAgentPod.setEnv 1 { name := "agent" } (pre ++ [r]) ∧ r.name = envOTELResourceAttrs ∧
      (∀ k ∈ existingResourceKeys ({ name := "agent" } : Container).env, k ∈ declaredKeys r.value) ∧
      (∀ kx ∈ downwardFallbacks false,
        '=' ∉ (((sdkState noReplicaSets 1 {} appNamespace appAgentPod { name := "agent" } 0).getD ⟨[], ∅⟩).resourceMap.get
          kx.1).data → kx.1 ∈ declaredKeys r.value) ∧
      (∀ k, Attrs.get ((addParentResourceLabels noReplicaSets false appNamespace 1 appAgentPod.objectMeta
          (k8sResourceSeed appNamespace appAgentPod appContainer)).getD ∅) k ≠ "" →
        k ∉ existingResourceKeys appContainer.env →
        '=' ∉ (Attrs.get ((addParentResourceLabels noReplicaSets false appNamespace 1 appAgentPod.objectMeta
          (k8sResourceSeed appNamespace appAgentPod appContainer)).getD ∅) k).data →
        k ∈ declaredKeys r.value) ∧
      (∀ vsn, chooseServiceVersion appAgentPod 0 = some vsn → vsn ≠ "" → '=' ∉ vsn.data →
        VersionGuard ({ name := "agent" } : Container).env → serviceVersionKey ∈ declaredKeys r.value) :=
  @injectCommonSDKConfig_declares noReplicaSets 1 {} appNamespace appAgentPod _ 1 0 rfl _ rfl appContainer rfl
    _ rfl _ rfl

/-- The container `app` declaring `k8s.namespace.name`. -/
def nsDeclaredContainer : Container :=
  { appContainer with env := [{ name := envOTELResourceAttrs, value := "k8s.namespace.name=x" }] }

/-- A pod whose application container declares `k8s.namespace.name`, with an agent container
before it. -/
def sidecarPod : Pod :=
  { objectMeta := { name := "p" }, spec := { containers := [{ name := "agent" }, nsDeclaredContainer] } }

/-- A pod on the node `a=b`. -/
def eqNodePod : Pod :=
  { objectMeta := { name := "p" }, spec := { containers := [appContainer], nodeName := "a=b" } }

/-- A pod whose container's attributes contain the text `service.version` in another key. -/
def noteAttrsPod : Pod :=
  { objectMeta := { name := "p" },
    spec := { containers :=
      [{ appContainer with env := [{ name := envOTELResourceAttrs, value := "my.service.version.note=1" }] }] } }

/-- The keys the last entry declares: the agent's misses the namespace its application container
declared; `k8s.node.name=a=b` declares nothing; the text `service.version` in another key keeps the
image tag out. -/
theorem injectCommonSDKConfig_misses_keys :
    (injectCommonSDKConfig noReplicaSets 1 {} appNamespace sidecarPod 0 1).map
        (fun p => (p.spec.containers.head?.bind fun c => c.env.getLast?).map fun e => declaredKeys e.value) =
      some (some [k8sContainerNameKey, k8sNodeNameKey, k8sPodNameKey, serviceInstanceIDKey,
        serviceVersionKey]) ∧
    (injectCommonSDKConfig noReplicaSets 1 {} appNamespace eqNodePod 0 0).map
        (fun p => (p.spec.containers.head?.bind fun c => c.env.getLast?).map fun e => declaredKeys e.value) =
      some (some [k8sContainerNameKey, k8sNamespaceNameKey, k8sPodNameKey, serviceInstanceIDKey,
        serviceVersionKey]) ∧
    (injectCommonSDKConfig noReplicaSets 1 {} appNamespace noteAttrsPod 0 0).map
        (fun p => (p.spec.containers.head?.bind fun c => c.env.getLast?).map fun e => declaredKeys e.value) =
      some (some ["my.service.version.note", k8sContainerNameKey, k8sNamespaceNameKey, k8sNodeNameKey,
        k8sPodNameKey, serviceInstanceIDKey]) := by
  decide

/-! ## Declared keys win -/

theorem declaredKeys_sep (v resStr : String) :
    declaredKeys (if hasSuffix v "," then resStr else "," ++ resStr) = declaredKeys resStr := by
  split
  · rfl
  · rw [← String.empty_append ("," ++ resStr), ← String.append_assoc, declaredKeys_append_comma]
    rfl

/-- For any agent and application container, the agent's first `OTEL_RESOURCE_ATTRIBUTES` is
extended by a text that does not declare again a key that both it and the application container
declare: the pod name and node name aside, which the fallbacks write back, the pod UID under
`AddK8sUIDAttributes`, and a key that another pair of the map's text declares. -/
theorem injectCommonSDKConfig_existing_wins {client : Client} {fuel : Nat} {newrelic : Instrumentation}
    {ns : Namespace} {pod pod' : Pod} {agentIndex appIndex : Nat}
    (h : injectCommonSDKConfig client fuel newrelic ns pod agentIndex appIndex = some pod')
    {c : Container} (hc : pod.spec.containers[agentIndex]? = some c)
    {pre post : List EnvVar} {e : EnvVar} (hce : c.env = pre ++ e :: post)
    (he : e.name = envOTELResourceAttrs) (hpre : envOTELResourceAttrs ∉ names pre)
    {app : Container} (happ : pod.spec.containers[appIndex]? = some app)
    {s : SdkState} (hs : sdkState client fuel newrelic ns pod c appIndex = some s) :
    ∃ rest suffix, pod' = pod.setEnv agentIndex c (rest ++ [{ e with value := e.value ++ suffix }]) ∧
      ∀ k ∈ declaredKeys e.value, k ∈ existingResourceKeys app.env → k ≠ k8sPodNameKey → k ≠ k8sNodeNameKey →
        (newrelic.spec.resource.addK8sUIDAttributes = true → k ≠ k8sPodUIDKey) →
        (∀ k' v, s.resourceMap.lookup k' = some v → k' ≠ k → k ∉ declaredKeys (k' ++ "=" ++ v)) →
        k ∉ declaredKeys suffix := by
  obtain ⟨c', s', hc', hs', rfl⟩ := injectCommonSDKConfig_eq_some_state h
  obtain rfl : c' = c := Option.some.inj (hc'.symm.trans hc)
  obtain rfl : s' = s := Option.some.inj (hs'.symm.trans hs)
  obtain ⟨m₀, -, -, hm₀, -⟩ := sdkState_eq_some hs
  rcases finishEnv_cases newrelic.spec (sdkState_appendsIn hs) with
    ⟨hr, -⟩ | ⟨pre', e', post', A, hce', he', hpre', -, hf⟩
  · exact (hr (by simp [hce, he])).elim
  obtain ⟨rfl, rfl, rfl⟩ := split_first_unique (hce.symm.trans hce') he he' hpre hpre'
  refine ⟨_, _, by rw [hf]; rfl, fun k hk hkapp hpn hnn huid hpairs hks => ?_⟩
  rw [declaredKeys_sep] at hks
  obtain ⟨k', v, hv, hk'⟩ := exists_pair_of_mem_declaredKeys hks
  obtain rfl : k' = k := Decidable.byContradiction fun hne => hpairs k' v hv hne hk'
  rcases sdkState_lookup_cases hs hm₀ hv with hm | ⟨rfl, -, -, hg⟩ | ⟨kx, hkx, rfl, -⟩
  · rw [createResourceMap_lookup_existing hm₀ happ hkapp] at hm
    cases hm
  · rw [hce] at hg
    exact versionGuard_split he hpre (contains_of_mem_declaredKeys hk) hg
  · rcases mem_downwardFallbacks.1 hkx with rfl | ⟨hu, rfl⟩ | rfl
    · exact hpn rfl
    · exact huid hu rfl
    · exact hnn rfl

/-- The container `agent` declaring `k8s.namespace.name`. -/
def nsDeclaredAgent : Container :=
  { name := "agent", env := [{ name := envOTELResourceAttrs, value := "k8s.namespace.name=x" }] }

/-- A pod whose application container and agent container both declare `k8s.namespace.name`, the
agent last, as the Go branch of `inject` leaves it. -/
def bothDeclarePod : Pod :=
  { objectMeta := { name := "p" }, spec := { containers := [nsDeclaredContainer, nsDeclaredAgent] } }

theorem injectCommonSDKConfig_existing_wins_bothDeclarePod :
    ∃ rest suffix, (injectCommonSDKConfig noReplicaSets 1 {} appNamespace bothDeclarePod 1 0).getD bothDeclarePod =
        bothDeclarePod.setEnv 1 nsDeclaredAgent
          (rest ++ [{ (nsDeclaredAgent.env.headD { name := "" }) with
            value := (nsDeclaredAgent.env.headD { name := "" }).value ++ suffix }]) ∧
      ∀ k ∈ declaredKeys (nsDeclaredAgent.env.headD { name := "" }).value,
        k ∈ existingResourceKeys nsDeclaredContainer.env → k ≠ k8sPodNameKey → k ≠ k8sNodeNameKey →
        (({} : Instrumentation).spec.resource.addK8sUIDAttributes = true → k ≠ k8sPodUIDKey) →
        (∀ k' v, ((sdkState noReplicaSets 1 {} appNamespace bothDeclarePod nsDeclaredAgent 0).getD
            ⟨[], ∅⟩).resourceMap.lookup k' = some v → k' ≠ k → k ∉ declaredKeys (k' ++ "=" ++ v)) →
        k ∉ declaredKeys suffix :=
  @injectCommonSDKConfig_existing_wins noReplicaSets 1 {} appNamespace bothDeclarePod _ 1 0 rfl
    nsDeclaredAgent rfl [] [] _ rfl rfl (by decide) nsDeclaredContainer rfl _ rfl

/-- An agent container declaring `k8s.namespace.name`, before the container `app`. -/
def agentDeclaresPod : Pod :=
  { objectMeta := { name := "p" },
    spec := { containers :=
      [{ name := "agent", env := [{ name := envOTELResourceAttrs, value := "k8s.namespace.name=x" }] },
        appContainer] } }

/-- An Instrumentation whose user attribute `b` has the value `1,a=2`. -/
def commaAttrsInst : Instrumentation :=
  { spec := { resource := { attributes := (∅ : Attrs).insert "b" "1,a=2" } } }

/-- A pod whose container declares `a`. -/
def aDeclaredPod : Pod :=
  { objectMeta := { name := "p" },
    spec := { containers := [{ appContainer with env := [{ name := envOTELResourceAttrs, value := "a=0" }] }] } }

/-- A pod whose container declares `k8s.pod.name`. -/
def podNameDeclaredPod : Pod :=
  { objectMeta := { name := "p" },
    spec := { containers :=
      [{ appContainer with env := [{ name := envOTELResourceAttrs, value := "k8s.pod.name=mine" }] }] } }

/-- An Instrumentation with `AddK8sUIDAttributes` on. -/
def uidOnInst : Instrumentation := { spec := { resource := { addK8sUIDAttributes := true } } }

/-- A pod whose container declares `k8s.pod.uid`. -/
def podUIDDeclaredPod : Pod :=
  { objectMeta := { name := "p" },
    spec := { containers :=
      [{ appContainer with env := [{ name := envOTELResourceAttrs, value := "k8s.pod.uid=mine" }] }] } }

/-- The keys the last entry declares: a key the agent declared and the application container did
not is declared again; so is a key hidden in a user value after a `,`, the pod name through the
downward API, and the pod UID under `AddK8sUIDAttributes`. -/
theorem injectCommonSDKConfig_redeclares :
    (injectCommonSDKConfig noReplicaSets 1 {} appNamespace agentDeclaresPod 0 1).map
        (fun p => (p.spec.containers.head?.bind fun c => c.env.getLast?).map fun e => declaredKeys e.value) =
      some (some [k8sNamespaceNameKey, k8sContainerNameKey, k8sNamespaceNameKey, k8sNodeNameKey,
        k8sPodNameKey, serviceInstanceIDKey, serviceVersionKey]) ∧
    (injectCommonSDKConfig noReplicaSets 1 commaAttrsInst appNamespace aDeclaredPod 0 0).map
        (fun p => (p.spec.containers.head?.bind fun c => c.env.getLast?).map fun e => declaredKeys e.value) =
      some (some ["a", "b", "a", k8sContainerNameKey, k8sNamespaceNameKey, k8sNodeNameKey, k8sPodNameKey,
        serviceInstanceIDKey, serviceVersionKey]) ∧
    (injectCommonSDKConfig noReplicaSets 1 {} appNamespace podNameDeclaredPod 0 0).map
        (fun p => (p.spec.containers.head?.bind fun c => c.env.getLast?).map fun e => declaredKeys e.value) =
      some (some [k8sPodNameKey, k8sContainerNameKey, k8sNamespaceNameKey, k8sNodeNameKey, k8sPodNameKey,
        serviceInstanceIDKey, serviceVersionKey]) ∧
    (injectCommonSDKConfig noReplicaSets 1 uidOnInst appNamespace podUIDDeclaredPod 0 0).map
        (fun p => (p.spec.containers.head?.bind fun c => c.env.getLast?).map fun e => declaredKeys e.value) =
      some (some [k8sPodUIDKey, k8sContainerNameKey, k8sNamespaceNameKey, k8sNodeNameKey, k8sPodNameKey,
        k8sPodUIDKey, serviceInstanceIDKey, serviceVersionKey]) := by
  decide

end K8sAgentsOperator.Instrumentation
