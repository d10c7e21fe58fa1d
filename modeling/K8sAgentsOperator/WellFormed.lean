import K8sAgentsOperator.Reinvocation
/-!
# Env vars the API server accepts

The API server refuses a container env var that has both a `value` and a `valueFrom`. Every entry
the steps of `injectCommonSDKConfig` create has only one of them (`AddsWellFormed`). The call also
writes to an entry it did not create: it appends the attributes to the `value` of the container's
first `OTEL_RESOURCE_ATTRIBUTES`, whatever that entry's `valueFrom`. So a well-formed list stays
well formed exactly when that entry, if there is one, takes no `valueFrom`; one that reads the
attributes from a secret comes out with both, and the pod is refused
(`injectCommonSDKConfig_wellFormed_iff`).
-/

namespace K8sAgentsOperator

/-- An env var with a `value` or a `valueFrom`, not both. -/
def EnvVar.WellFormed (e : EnvVar) : Prop :=
  e.value = "" ∨ e.valueFrom = none

instance (e : EnvVar) : Decidable e.WellFormed := inferInstanceAs (Decidable (_ ∨ _))

end K8sAgentsOperator

namespace K8sAgentsOperator.Instrumentation

open Strings

/-- Every entry of the list is well formed. -/
def WellFormedEnv (env : List EnvVar) : Prop :=
  ∀ e ∈ env, e.WellFormed

instance : DecidablePred WellFormedEnv := fun env => inferInstanceAs (Decidable (∀ e ∈ env, e.WellFormed))

@[simp] theorem wellFormedEnv_nil : WellFormedEnv [] := nofun

@[simp] theorem wellFormedEnv_cons (e : EnvVar) (env : List EnvVar) :
    WellFormedEnv (e :: env) ↔ e.WellFormed ∧ WellFormedEnv env :=
  List.forall_mem_cons

@[simp] theorem wellFormedEnv_append (l₁ l₂ : List EnvVar) :
    WellFormedEnv (l₁ ++ l₂) ↔ WellFormedEnv l₁ ∧ WellFormedEnv l₂ :=
  List.forall_mem_append

@[simp] theorem wellFormed_plain (name value : String) : EnvVar.WellFormed { name := name, value := value } :=
  .inr rfl

@[simp] theorem fieldRefEnv_wellFormed (name fieldPath : String) : (fieldRefEnv name fieldPath).WellFormed :=
  .inl rfl

/-! ## The entries the steps create -/

/-- Every entry of `env'` is an entry of `env` or well formed: what a step leaves that creates only
well-formed entries. -/
def AddsWellFormed (env env' : List EnvVar) : Prop :=
  ∀ x ∈ env', x ∈ env ∨ x.WellFormed

theorem AddsWellFormed.trans {l₁ l₂ l₃ : List EnvVar} (h₁ : AddsWellFormed l₁ l₂) (h₂ : AddsWellFormed l₂ l₃) :
    AddsWellFormed l₁ l₃ := fun x hx => (h₂ x hx).elim (h₁ x) .inr

theorem addsWellFormed_append (env : List EnvVar) {A : List EnvVar} (hA : WellFormedEnv A) :
    AddsWellFormed env (env ++ A) := fun x hx => (List.mem_append.1 hx).imp id (hA x)

theorem AddsWellFormed.wellFormedEnv {env env' : List EnvVar} (h : AddsWellFormed env env')
    (hw : WellFormedEnv env) : WellFormedEnv env' := fun x hx => (h x hx).elim (hw x) id

section Steps

variable (spec : InstrumentationSpec)

theorem withServiceName_addsWellFormed {envName : String} {pod : Pod} {m : Attrs} {index : Nat}
    {env env' : List EnvVar} (h : withServiceName envName pod m index env = some env') : AddsWellFormed env env' := by
  obtain ⟨name, -, rfl⟩ := withServiceName_some h
  exact addsWellFormed_append env (by split <;> simp)

theorem downwardAttr_addsWellFormed (key envName fieldPath : String) (s : SdkState) :
    AddsWellFormed s.env (downwardAttr key envName fieldPath s).env := by
  rw [downwardAttr_env]
  exact addsWellFormed_append _ (by split <;> simp)

theorem middleState_addsWellFormed (env₁ : List EnvVar) (m₀ m₁ : Attrs) :
    AddsWellFormed env₁ (middleState spec env₁ m₀ m₁).env := by
  have hexp : AddsWellFormed env₁ (withExporterEndpoint spec env₁) := by
    rw [withExporterEndpoint_eq]
    exact addsWellFormed_append _ (by split <;> simp)
  have hpod : AddsWellFormed env₁ (withPodAttrs spec ⟨withExporterEndpoint spec env₁, m₀⟩).env := by
    simp only [withPodAttrs]
    split
    · exact hexp.trans ((downwardAttr_addsWellFormed _ _ _ _).trans (downwardAttr_addsWellFormed _ _ _ _))
    · exact hexp.trans (downwardAttr_addsWellFormed _ _ _ _)
  exact hpod.trans (downwardAttr_addsWellFormed _ _ _ _)

theorem tailEntries_wellFormed (ns : List String) : WellFormedEnv (tailEntries spec ns) := by
  unfold tailEntries
  split_ifs <;> simp

end Steps

/-- The value `extendAttrs` writes is never empty: it ends with the text appended, after a `,` unless
the old value already ended with one. -/
theorem extendAttrs_value_ne_empty (e : EnvVar) (resStr : String) : (extendAttrs e resStr).value ≠ "" := by
  intro h
  have hd := congrArg String.data h
  simp only [extendAttrs, String.data_append] at hd
  split at hd
  · next hs =>
    have hsuf : [','] <:+ e.value.data := by simpa [hasSuffix] using hs
    obtain ⟨t, ht⟩ := hsuf
    simp [← ht] at hd
  · simp at hd

theorem extendAttrs_wellFormed_iff (e : EnvVar) (resStr : String) :
    (extendAttrs e resStr).WellFormed ↔ e.valueFrom = none :=
  or_iff_right (extendAttrs_value_ne_empty e resStr)

theorem find?_split_first {pre post : List EnvVar} {e : EnvVar} {n : String} (he : e.name = n)
    (hpre : n ∉ names pre) : (pre ++ e :: post).find? (·.name == n) = some e := by
  have hnone : pre.find? (·.name == n) = none :=
    List.find?_eq_none.2 fun x hx hxn => hpre (mem_names.2 ⟨x, hx, beq_iff_eq.1 hxn⟩)
  simp [List.find?_append, hnone, he]

/-- Every entry `injectCommonSDKConfig` creates is well formed, whatever the container held; the one
other entry it changes is the container's first `OTEL_RESOURCE_ATTRIBUTES`, whose `value` it extends
whatever that entry's source. So when the container's list is well formed, the one it writes is
well formed exactly when that entry, if any, takes no `valueFrom`. -/
theorem injectCommonSDKConfig_wellFormed_iff {client : Client} {fuel : Nat} {newrelic : Instrumentation}
    {ns : Namespace} {pod pod' : Pod} {agentIndex appIndex : Nat} {c : Container}
    (h : injectCommonSDKConfig client fuel newrelic ns pod agentIndex appIndex = some pod')
    (hc : pod.spec.containers[agentIndex]? = some c) :
    ∃ c', pod'.spec.containers[agentIndex]? = some c' ∧
      (∀ x ∈ c'.env, x ∉ c.env → x.WellFormed ∨ ∃ e suffix,
        c.env.find? (·.name == envOTELResourceAttrs) = some e ∧ x = { e with value := e.value ++ suffix }) ∧
      (WellFormedEnv c.env → (WellFormedEnv c'.env ↔
        ∀ e, c.env.find? (·.name == envOTELResourceAttrs) = some e → e.valueFrom = none)) := by
  obtain ⟨c₀, m₀, env₁, m₁, hc₀, -, henv₁, -, rfl⟩ := injectCommonSDKConfig_eq_some h
  obtain rfl : c = c₀ := Option.some.inj (hc.symm.trans hc₀)
  refine ⟨_, Pod.setEnv_container hc _, ?_⟩
  dsimp only
  have hmid : AddsWellFormed c.env (middleState newrelic.spec env₁ m₀ m₁).env :=
    (withServiceName_addsWellFormed henv₁).trans (middleState_addsWellFormed newrelic.spec env₁ m₀ m₁)
  have htail := tailEntries_wellFormed newrelic.spec
  rcases finishEnv_cases newrelic.spec (middle_of_eq_some newrelic.spec m₁ henv₁) with
    ⟨hr, hf⟩ | ⟨pre, e, post, A, hce, he, hpre, hA, hf⟩ <;> rw [hf]
  · have hadd : AddsWellFormed c.env ((middleState newrelic.spec env₁ m₀ m₁).env ++
        tailEntries newrelic.spec (names (middleState newrelic.spec env₁ m₀ m₁).env) ++
        [resourceAttrsEnv (resourceMapToStr (middleState newrelic.spec env₁ m₀ m₁).resourceMap)]) := by
      rw [List.append_assoc]
      exact hmid.trans (addsWellFormed_append _ (by simp [htail, resourceAttrsEnv]))
    have hnone : c.env.find? (·.name == envOTELResourceAttrs) = none :=
      List.find?_eq_none.2 fun x hx hxn => hr (mem_names.2 ⟨x, hx, beq_iff_eq.1 hxn⟩)
    exact ⟨fun x hx hxc => .inl ((hadd x hx).resolve_left hxc),
      fun hw => iff_of_true (hadd.wellFormedEnv hw) (by simp [hnone])⟩
  · refine ⟨fun x hx hxc => ?_, fun hw => ?_⟩
    · simp only [List.mem_append, List.mem_singleton] at hx
      rcases hx with (((hx | hx) | hx) | hx) | rfl
      · exact absurd (by rw [hce]; simp [hx]) hxc
      · exact absurd (by rw [hce]; simp [hx]) hxc
      · exact .inl ((hmid x (by rw [hA]; simp [hx])).resolve_left hxc)
      · exact .inl (htail _ x hx)
      · exact .inr ⟨e, _, by rw [hce, find?_split_first he hpre], rfl⟩
    · have hmidw := hmid.wellFormedEnv hw
      rw [hA, hce] at hmidw
      rw [hce, find?_split_first he hpre]
      simp only [wellFormedEnv_append, wellFormedEnv_cons, wellFormedEnv_nil, and_true] at hmidw ⊢
      simp [hmidw, htail, extendAttrs_wellFormed_iff]

/-- A container that reads `OTEL_RESOURCE_ATTRIBUTES` from the secret `attrs`. -/
def secretAttrsContainer : Container :=
  let secret : SecretKeySelector := { name := "attrs", key := "attributes", optional := none }
  { name := "app", env := [{ name := envOTELResourceAttrs, valueFrom := some { secretKeyRef := some secret } }] }

/-- The pod `p` with that container. -/
def secretAttrsPod : Pod :=
  { objectMeta := { name := "p" }, spec := { containers := [secretAttrsContainer] } }

theorem injectCommonSDKConfig_wellFormed_iff_secretAttrsPod :
    ∃ c', ((injectCommonSDKConfig noReplicaSets 1 {} appNamespace secretAttrsPod 0 0).getD
        secretAttrsPod).spec.containers[0]? = some c' ∧
      (∀ x ∈ c'.env, x ∉ secretAttrsContainer.env → x.WellFormed ∨ ∃ e suffix,
        secretAttrsContainer.env.find? (·.name == envOTELResourceAttrs) = some e ∧
          x = { e with value := e.value ++ suffix }) ∧
      (WellFormedEnv secretAttrsContainer.env → (WellFormedEnv c'.env ↔
        ∀ e, secretAttrsContainer.env.find? (·.name == envOTELResourceAttrs) = some e → e.valueFrom = none)) :=
  injectCommonSDKConfig_wellFormed_iff (eq_some_getD _ (by decide)) rfl

/-- The secret-backed entry comes out with a value as well: the API server refuses the pod. -/
example : (injectCommonSDKConfig noReplicaSets 1 {} appNamespace secretAttrsPod 0 0).map
    (fun p => p.spec.containers.all fun c => decide (WellFormedEnv c.env)) = some false := by
  decide

end K8sAgentsOperator.Instrumentation
