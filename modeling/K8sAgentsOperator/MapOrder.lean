import K8sAgentsOperator.Steps
import K8sAgentsOperator.UIDAttributes
/-!
# Up to the order of a map's entries

Go visits a map in a random order. The injectors read the Instrumentation's resource attributes
only through `range` loops that copy them into other maps and through single lookups, and they
write a map only through `resourceMapToStr`, which sorts its keys. So the pods they write depend on
the attributes' entries, not on the order they are stored or visited in: two attribute maps with
the same entries give the same pods (`injectors_ignore_map_order`). For the model this says that
storing Go maps as association lists, in one order, loses nothing.
-/

namespace K8sAgentsOperator.Instrumentation

/-- `a` and `b` hold the same entries. -/
def SameEntries (a b : Attrs) : Prop :=
  ∀ k, a.lookup k = b.lookup k

theorem SameEntries.get {a b : Attrs} (h : SameEntries a b) (k : String) : a.get k = b.get k := by
  rw [Attrs.get, Attrs.get, h k]

theorem SameEntries.insert {a b : Attrs} (h : SameEntries a b) (k v : String) :
    SameEntries (a.insert k v) (b.insert k v) := fun k' => by
  by_cases hk : k' = k
  · subst hk; simp only [AList.lookup_insert]
  · rw [AList.lookup_insert_ne hk, AList.lookup_insert_ne hk, h k']

theorem sameEntries_copyIf (cond : String → String → Bool) {w w' dst dst' : Attrs} (hw : SameEntries w w')
    (hd : SameEntries dst dst') : SameEntries (copyIf cond w dst) (copyIf cond w' dst') := fun k => by
  rw [lookup_copyIf, lookup_copyIf, hw k, hd k]

/-- The Instrumentation with the resource attributes `attrs`, all else as it is. -/
def withResourceAttributes (newrelic : Instrumentation) (attrs : Attrs) : Instrumentation :=
  { newrelic with spec := { newrelic.spec with resource := { newrelic.spec.resource with attributes := attrs } } }

/-! Of the spec, the steps after `createResourceMap` do not read the attributes. -/

section Spec

variable (newrelic : Instrumentation) (attrs : Attrs)

@[simp] theorem withResourceAttributes_attributes :
    (newrelic.withResourceAttributes attrs).spec.resource.attributes = attrs :=
  rfl

@[simp] theorem withResourceAttributes_addK8sUIDAttributes :
    (newrelic.withResourceAttributes attrs).spec.resource.addK8sUIDAttributes =
      newrelic.spec.resource.addK8sUIDAttributes :=
  rfl

@[simp] theorem withExporterEndpoint_withResourceAttributes (env : List EnvVar) :
    withExporterEndpoint (newrelic.withResourceAttributes attrs).spec env = withExporterEndpoint newrelic.spec env :=
  rfl

@[simp] theorem withPodAttrs_withResourceAttributes (s : SdkState) :
    withPodAttrs (newrelic.withResourceAttributes attrs).spec s = withPodAttrs newrelic.spec s :=
  rfl

@[simp] theorem finishEnv_withResourceAttributes (s : SdkState) :
    finishEnv (newrelic.withResourceAttributes attrs).spec s = finishEnv newrelic.spec s :=
  rfl

end Spec

/-! ## The steps -/

/-- Two states with one env list and maps of the same entries. -/
def SameState (s s' : SdkState) : Prop :=
  s.env = s'.env ∧ SameEntries s.resourceMap s'.resourceMap

section Steps

variable {client : Client} {fuel : Nat} {newrelic : Instrumentation} {ns : Namespace} {pod : Pod}
  {attrs attrs' : Attrs}

theorem createResourceMap_sameEntries (h : SameEntries attrs attrs') (index : Nat) :
    Option.Rel SameEntries (createResourceMap client fuel (newrelic.withResourceAttributes attrs) ns pod index)
      (createResourceMap client fuel (newrelic.withResourceAttributes attrs') ns pod index) := by
  unfold createResourceMap
  cases pod.spec.containers[index]? with
  | none => exact .none
  | some c =>
    simp only [Option.bind_eq_bind, Option.some_bind, withResourceAttributes_attributes,
      withResourceAttributes_addK8sUIDAttributes]
    cases addParentResourceLabels client newrelic.spec.resource.addK8sUIDAttributes ns fuel pod.objectMeta
      (k8sResourceSeed ns pod c) with
    | none => exact .none
    | some w => exact .some (sameEntries_copyIf _ (fun _ => rfl) (sameEntries_copyIf _ h fun _ => rfl))

theorem withServiceName_sameEntries {m m' : Attrs} (h : SameEntries m m') (envName : String) (index : Nat)
    (env : List EnvVar) : withServiceName envName pod m index env = withServiceName envName pod m' index env := by
  simp only [withServiceName, chooseServiceName, h.get]

theorem downwardAttr_sameState {s s' : SdkState} (h : SameState s s') (key envName fieldPath : String) :
    SameState (downwardAttr key envName fieldPath s) (downwardAttr key envName fieldPath s') := by
  obtain ⟨he, hm⟩ := h
  refine ⟨by simp only [downwardAttr_env, he, hm.get], ?_⟩
  simp only [downwardAttr_resourceMap, hm.get]
  split
  · exact hm.insert _ _
  · exact hm

theorem withPodAttrs_sameState (spec : InstrumentationSpec) {s s' : SdkState} (h : SameState s s') :
    SameState (withPodAttrs spec s) (withPodAttrs spec s') := by
  simp only [withPodAttrs]
  split
  · exact downwardAttr_sameState (downwardAttr_sameState h _ _ _) _ _ _
  · exact downwardAttr_sameState h _ _ _

theorem withServiceVersion_sameEntries {m m' : Attrs} (h : SameEntries m m') (index : Nat) (env : List EnvVar) :
    Option.Rel SameEntries (withServiceVersion pod index env m) (withServiceVersion pod index env m') := by
  unfold withServiceVersion
  dsimp only
  split
  · cases chooseServiceVersion pod index with
    | none => exact .none
    | some vsn =>
      refine .some ?_
      dsimp only
      split
      · exact h.insert _ _
      · exact h
  · exact .some h

theorem sdkState_sameState (h : SameEntries attrs attrs') (c : Container) (appIndex : Nat) :
    Option.Rel SameState (sdkState client fuel (newrelic.withResourceAttributes attrs) ns pod c appIndex)
      (sdkState client fuel (newrelic.withResourceAttributes attrs') ns pod c appIndex) := by
  unfold sdkState
  simp only [Option.bind_eq_bind, withExporterEndpoint_withResourceAttributes, withPodAttrs_withResourceAttributes]
  refine rel_bind (createResourceMap_sameEntries h appIndex) fun m m' hm => ?_
  rw [withServiceName_sameEntries hm]
  cases withServiceName envOTELServiceName pod m' appIndex c.env with
  | none => exact .none
  | some env =>
    obtain ⟨he, hs⟩ := @withPodAttrs_sameState newrelic.spec ⟨withExporterEndpoint newrelic.spec env, m⟩
      ⟨withExporterEndpoint newrelic.spec env, m'⟩ ⟨rfl, hm⟩
    simp only [Option.some_bind, he]
    exact rel_bind (withServiceVersion_sameEntries hs appIndex _) fun r r' hr =>
      .some (@downwardAttr_sameState ⟨_, r⟩ ⟨_, r'⟩ ⟨rfl, hr⟩ _ _ _)

theorem finishEnv_sameState (spec : InstrumentationSpec) {s s' : SdkState} (h : SameState s s') :
    finishEnv spec s = finishEnv spec s' := by
  simp only [finishEnv, h.1, resourceMapToStr_eq_of_lookup h.2]

end Steps

/-! ## The injectors -/

/-- The injectors read the Instrumentation's resource attributes only through their entries: two
attribute maps with the same entries, in whatever order they are stored, give the same pods from
`injectCommonSDKConfig` and from `injectNewrelicConfig`, or `none` from both. -/
theorem injectors_ignore_map_order {client : Client} {fuel : Nat} {newrelic : Instrumentation}
    {attrs attrs' : Attrs} (h : SameEntries attrs attrs') (ns : Namespace) (pod : Pod) :
    (∀ agentIndex appIndex,
      injectCommonSDKConfig client fuel (newrelic.withResourceAttributes attrs) ns pod agentIndex appIndex =
        injectCommonSDKConfig client fuel (newrelic.withResourceAttributes attrs') ns pod agentIndex appIndex) ∧
    ∀ index, injectNewrelicConfig client fuel (newrelic.withResourceAttributes attrs) ns pod index =
      injectNewrelicConfig client fuel (newrelic.withResourceAttributes attrs') ns pod index := by
  constructor
  · intro agentIndex appIndex
    unfold injectCommonSDKConfig
    cases pod.spec.containers[agentIndex]? with
    | none => rfl
    | some c =>
      simp only [Option.bind_eq_bind, Option.some_bind, finishEnv_withResourceAttributes]
      exact bind_eq_of_rel (sdkState_sameState h c appIndex) fun s s' hs => by rw [finishEnv_sameState _ hs]
  · intro index
    unfold injectNewrelicConfig
    cases pod.spec.containers[index]? with
    | none => rfl
    | some c =>
      simp only [Option.bind_eq_bind, Option.some_bind]
      exact bind_eq_of_rel (createResourceMap_sameEntries h index) fun m m' hm => by
        rw [withServiceName_sameEntries hm]

/-- The attributes `{a: 1, b: 2}`, stored with `a` last. -/
def abAttrs : Attrs := ((∅ : Attrs).insert "a" "1").insert "b" "2"

/-- The same attributes, stored with `b` last. -/
def baAttrs : Attrs := ((∅ : Attrs).insert "b" "2").insert "a" "1"

/-- The two store their keys in different orders. -/
example : abAttrs.keys = ["b", "a"] ∧ baAttrs.keys = ["a", "b"] := by decide

theorem injectors_ignore_map_order_swapped :
    SameEntries abAttrs baAttrs ∧
    (∀ agentIndex appIndex,
      injectCommonSDKConfig noReplicaSets 1 (withResourceAttributes {} abAttrs) appNamespace appPod agentIndex appIndex =
        injectCommonSDKConfig noReplicaSets 1 (withResourceAttributes {} baAttrs) appNamespace appPod agentIndex appIndex) ∧
    ∀ index, injectNewrelicConfig noReplicaSets 1 (withResourceAttributes {} abAttrs) appNamespace appPod index =
      injectNewrelicConfig noReplicaSets 1 (withResourceAttributes {} baAttrs) appNamespace appPod index :=
  have h : SameEntries abAttrs baAttrs := fun _ => AList.perm_lookup (AList.insert_insert_of_ne _ (by decide))
  ⟨h, injectors_ignore_map_order h appNamespace appPod⟩

end K8sAgentsOperator.Instrumentation
