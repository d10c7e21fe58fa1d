import K8sAgentsOperator.ResourceMap
import K8sAgentsOperator.Owners
/-!
# The attribute map

`createResourceMap` seeds a map with the user's attributes, computes the
topology attributes and the owners, and copies the non-empty ones over the
seed, always skipping the keys the container's `OTEL_RESOURCE_ATTRIBUTES`
already declares. `Labelled` says what the walk may add to a map; from it,
`createResourceMap_entries` bounds every entry of the result.
-/

namespace K8sAgentsOperator.Instrumentation

open Strings

/-- `for k, v := range src { if cond(k, v) { dst[k] = v } }`. -/
def copyIf (cond : String → String → Bool) (src dst : Attrs) : Attrs :=
  src.foldl (fun res k v => if cond k v then res.insert k v else res) dst

/-- `createServiceInstanceId`: `namespace.pod.container`, or `""` when a part is empty. -/
def createServiceInstanceId (namespaceName podName containerName : String) : String :=
  if namespaceName ≠ "" ∧ podName ≠ "" ∧ containerName ≠ "" then
    join [namespaceName, podName, containerName] "."
  else ""

/-- `existingRes`: the keys the first `OTEL_RESOURCE_ATTRIBUTES` entry of an env list declares. -/
def existingResourceKeys (envs : List EnvVar) : List String :=
  let idx := getIndexOfEnv envs envOTELResourceAttrs
  if idx > -1 then ((envs[idx.toNat]?).map fun e => declaredKeys e.value).getD [] else []

/-- `k8sResources` before the walk. -/
def k8sResourceSeed (ns : Namespace) (pod : Pod) (container : Container) : Attrs :=
  ((((((∅ : Attrs).insert k8sNamespaceNameKey ns.objectMeta.name).insert
    k8sContainerNameKey container.name).insert
    k8sPodNameKey pod.objectMeta.name).insert
    k8sPodUIDKey pod.objectMeta.uid).insert
    k8sNodeNameKey pod.spec.nodeName).insert
    serviceInstanceIDKey (createServiceInstanceId ns.objectMeta.name pod.objectMeta.name container.name)

/-- `createResourceMap`, with `fuel` for the ownership walk. -/
def createResourceMap (client : Client) (fuel : Nat) (newrelic : Instrumentation) (ns : Namespace)
    (pod : Pod) (index : Nat) : Option Attrs := do
  let container ← pod.spec.containers[index]?
  let existingRes := existingResourceKeys container.env
  let res := copyIf (fun k _ => k ∉ existingRes) newrelic.spec.resource.attributes ∅
  let k8sResources ← addParentResourceLabels client newrelic.spec.resource.addK8sUIDAttributes ns fuel
    pod.objectMeta (k8sResourceSeed ns pod container)
  pure (copyIf (fun k v => k ∉ existingRes ∧ v ≠ "") k8sResources res)

/-! ## Copying between maps -/

private theorem lookup_foldl_insertIf (cond : String → String → Bool) :
    ∀ (l : List (Σ _ : String, String)), l.NodupKeys → ∀ (dst : Attrs) (k : String),
    (l.foldl (fun r a => if cond a.1 a.2 then r.insert a.1 a.2 else r) dst).lookup k =
      match l.dlookup k with
      | some v => if cond k v then some v else dst.lookup k
      | none => dst.lookup k
  | [], _, _, _ => rfl
  | ⟨k', v'⟩ :: l, hl, dst, k => by
    rw [List.nodupKeys_cons] at hl
    rw [List.foldl_cons, lookup_foldl_insertIf cond l hl.2]
    by_cases hk : k = k'
    · subst hk
      rw [List.dlookup_eq_none.2 hl.1, List.dlookup_cons_eq]
      by_cases hc : cond k v' <;> simp [hc, AList.lookup_insert]
    · rw [List.dlookup_cons_ne _ _ hk]
      cases l.dlookup k <;> by_cases hc : cond k' v' <;> simp [hc, AList.lookup_insert_ne hk]

theorem lookup_copyIf (cond : String → String → Bool) (src dst : Attrs) (k : String) :
    (copyIf cond src dst).lookup k =
      match src.lookup k with
      | some v => if cond k v then some v else dst.lookup k
      | none => dst.lookup k :=
  lookup_foldl_insertIf cond src.entries src.nodupKeys dst k

theorem createResourceMap_eq_some {client : Client} {fuel : Nat} {newrelic : Instrumentation}
    {ns : Namespace} {pod : Pod} {index : Nat} {m : Attrs}
    (h : createResourceMap client fuel newrelic ns pod index = some m) :
    ∃ c w, pod.spec.containers[index]? = some c ∧
      addParentResourceLabels client newrelic.spec.resource.addK8sUIDAttributes ns fuel pod.objectMeta
        (k8sResourceSeed ns pod c) = some w ∧
      m = copyIf (fun k v => k ∉ existingResourceKeys c.env ∧ v ≠ "") w
        (copyIf (fun k _ => k ∉ existingResourceKeys c.env) newrelic.spec.resource.attributes ∅) := by
  simp only [createResourceMap, Option.bind_eq_bind, Option.bind_eq_some, Option.pure_def,
    Option.some.injEq] at h
  obtain ⟨c, hc, w, hw, rfl⟩ := h
  exact ⟨c, w, hc, hw, rfl⟩

/-! ## When the map is built -/

/-- Once the walk returns, `createResourceMap` returns: the converse of `createResourceMap_eq_some`. -/
theorem createResourceMap_of_walk {client : Client} {fuel : Nat} {newrelic : Instrumentation}
    {ns : Namespace} {pod : Pod} {index : Nat} {c : Container} (hc : pod.spec.containers[index]? = some c)
    {w : Attrs} (hw : addParentResourceLabels client newrelic.spec.resource.addK8sUIDAttributes ns fuel
      pod.objectMeta (k8sResourceSeed ns pod c) = some w) :
    createResourceMap client fuel newrelic ns pod index =
      some (copyIf (fun k v => k ∉ existingResourceKeys c.env ∧ v ≠ "") w
        (copyIf (fun k _ => k ∉ existingResourceKeys c.env) newrelic.spec.resource.attributes ∅)) := by
  simp only [createResourceMap, hc, hw, Option.bind_eq_bind, Option.some_bind]
  rfl

theorem createResourceMap_returns_iff (client : Client) (newrelic : Instrumentation) (ns : Namespace)
    (pod : Pod) (index : Nat) :
    (∃ fuel m, createResourceMap client fuel newrelic ns pod index = some m) ↔
      index < pod.spec.containers.length ∧ Acc (WalksTo client ns) pod.objectMeta := by
  constructor
  · rintro ⟨fuel, m, h⟩
    obtain ⟨c, w, hc, hw, -⟩ := createResourceMap_eq_some h
    exact ⟨(List.getElem?_eq_some_iff.1 hc).1, acc_of_returns hw⟩
  · rintro ⟨hi, hacc⟩
    obtain ⟨fuel, hf⟩ := @returns_of_acc client newrelic.spec.resource.addK8sUIDAttributes ns _ hacc
    obtain ⟨w, hw⟩ := hf (k8sResourceSeed ns pod pod.spec.containers[index])
    exact ⟨fuel, _, createResourceMap_of_walk (List.getElem?_eq_getElem hi) hw⟩

/-- The walk returns, from any accumulator, exactly when the ReplicaSets it fetches form no
infinite chain below the object; `createResourceMap` returns exactly when, in addition, the
container index is in range. -/
theorem walk_returns_iff_no_infinite_chain (client : Client) (ns : Namespace) :
    (∀ uid m a, (∃ fuel r, addParentResourceLabels client uid ns fuel m a = some r) ↔
      Acc (WalksTo client ns) m) ∧
    (∀ newrelic pod index, (∃ fuel m, createResourceMap client fuel newrelic ns pod index = some m) ↔
      index < pod.spec.containers.length ∧ Acc (WalksTo client ns) pod.objectMeta) :=
  ⟨fun _ => addParentResourceLabels_returns_iff, fun newrelic => createResourceMap_returns_iff client newrelic ns⟩

/-- At a key the container does not declare, a non-empty value of the walk wins over the user's. -/
theorem createResourceMap_lookup {client : Client} {fuel : Nat} {newrelic : Instrumentation}
    {ns : Namespace} {pod : Pod} {index : Nat} {m : Attrs}
    (h : createResourceMap client fuel newrelic ns pod index = some m) {c : Container}
    (hc : pod.spec.containers[index]? = some c) {w : Attrs}
    (hw : addParentResourceLabels client newrelic.spec.resource.addK8sUIDAttributes ns fuel pod.objectMeta
      (k8sResourceSeed ns pod c) = some w) {k : String} (hex : k ∉ existingResourceKeys c.env) :
    m.lookup k = if w.get k ≠ "" then some (w.get k) else newrelic.spec.resource.attributes.lookup k := by
  obtain ⟨c', w', hc', hw', rfl⟩ := createResourceMap_eq_some h
  obtain rfl : c' = c := Option.some.inj (hc'.symm.trans hc)
  obtain rfl : w' = w := Option.some.inj (hw'.symm.trans hw)
  rw [lookup_copyIf, lookup_copyIf]
  cases newrelic.spec.resource.attributes.lookup k <;> cases hwk : w'.lookup k <;>
    simp [Attrs.get, hwk, hex]

/-- A key the container declares is not in the map. -/
theorem createResourceMap_lookup_existing {client : Client} {fuel : Nat} {newrelic : Instrumentation}
    {ns : Namespace} {pod : Pod} {index : Nat} {m : Attrs}
    (h : createResourceMap client fuel newrelic ns pod index = some m) {c : Container}
    (hc : pod.spec.containers[index]? = some c) {k : String} (hk : k ∈ existingResourceKeys c.env) :
    m.lookup k = none := by
  obtain ⟨c', w, hc', -, rfl⟩ := createResourceMap_eq_some h
  obtain rfl : c' = c := Option.some.inj (hc'.symm.trans hc)
  rw [lookup_copyIf, lookup_copyIf]
  cases w.lookup k <;> cases newrelic.spec.resource.attributes.lookup k <;> simp [hk]

/-! ## What the walk writes -/

/-- The owner name keys `addParentResourceLabels` writes. -/
def ownerNameKeys : List String :=
  [k8sReplicaSetNameKey, k8sDeploymentNameKey, k8sStatefulSetNameKey, k8sDaemonSetNameKey,
    k8sJobNameKey, k8sCronJobNameKey]

/-- The owner UID keys, written only under `AddK8sUIDAttributes`. -/
def ownerUIDKeys : List String :=
  [k8sReplicaSetUIDKey, k8sDeploymentUIDKey, k8sStatefulSetUIDKey, k8sDaemonSetUIDKey,
    k8sJobUIDKey, k8sCronJobUIDKey]

/-- `r` is `a` with owner labels added: owner names, and owner UIDs only when `uid` is set. -/
def Labelled (uid : Bool) (a r : Attrs) : Prop :=
  ∀ k v, r.lookup k = some v → a.lookup k = some v ∨ k ∈ ownerNameKeys ∨ (k ∈ ownerUIDKeys ∧ uid = true)

section Labelled

variable {uid : Bool} {a b c : Attrs}

theorem Labelled.refl (uid : Bool) (a : Attrs) : Labelled uid a a := fun _ _ h => .inl h

theorem Labelled.trans (h₁ : Labelled uid a b) (h₂ : Labelled uid b c) : Labelled uid a c := by
  intro k v h
  rcases h₂ k v h with h | h | h
  · exact h₁ k v h
  · exact .inr (.inl h)
  · exact .inr (.inr h)

theorem labelled_insert {k v : String} (h : k ∈ ownerNameKeys ∨ (k ∈ ownerUIDKeys ∧ uid = true)) :
    Labelled uid a (a.insert k v) := by
  intro k' v' h'
  by_cases hk : k' = k
  · exact .inr (hk ▸ h)
  · exact .inl (by rwa [AList.lookup_insert_ne hk] at h')

theorem labelled_labelOwner {nk uk : String} (hn : nk ∈ ownerNameKeys) (hu : uk ∈ ownerUIDKeys)
    (o : OwnerReference) (a : Attrs) : Labelled uid a (labelOwner nk uk uid o a) := by
  have hname : Labelled uid a (a.insert nk o.name) := labelled_insert (.inl hn)
  unfold labelOwner
  cases uid with
  | false => exact hname
  | true => exact hname.trans (labelled_insert (.inr ⟨hu, rfl⟩))

theorem labelled_foldlM {f : Attrs → OwnerReference → Option Attrs}
    (hf : ∀ a o r, f a o = some r → Labelled uid a r) :
    ∀ (l : List OwnerReference) (a r : Attrs), l.foldlM f a = some r → Labelled uid a r
  | [], _, _, h => by cases h; exact .refl _ _
  | o :: os, a, r, h => by
    simp only [List.foldlM_cons, Option.bind_eq_bind, Option.bind_eq_some] at h
    obtain ⟨b, hb, h⟩ := h
    exact (hf a o b hb).trans (labelled_foldlM hf os b r h)

theorem labelled_addOwnerLabels {client : Client} {ns : Namespace}
    {recurse : ObjectMeta → Attrs → Option Attrs} (hrec : ∀ m a r, recurse m a = some r → Labelled uid a r)
    (a : Attrs) (o : OwnerReference) (r : Attrs) (h : addOwnerLabels client uid ns recurse a o = some r) :
    Labelled uid a r := by
  unfold addOwnerLabels at h
  split at h
  · exact (labelled_labelOwner (by decide) (by decide) o a).trans (hrec _ _ _ h)
  all_goals cases h
  all_goals first
    | exact labelled_labelOwner (by decide) (by decide) o a
    | exact .refl _ _

/-- At every depth, the walk adds owner labels only. -/
theorem labelled_addParentResourceLabels {client : Client} {ns : Namespace} :
    ∀ {fuel : Nat} {m : ObjectMeta} {a r : Attrs},
      addParentResourceLabels client uid ns fuel m a = some r → Labelled uid a r
  | 0, _, _, _, h => by simp [addParentResourceLabels] at h
  | _ + 1, _, _, _, h =>
    labelled_foldlM (labelled_addOwnerLabels fun _ _ _ => labelled_addParentResourceLabels) _ _ _ h

end Labelled

/-! ## The entries of the map -/

theorem lookup_copyIf_some {cond : String → String → Bool} {src dst : Attrs} {k v : String}
    (h : (copyIf cond src dst).lookup k = some v) :
    (src.lookup k = some v ∧ cond k v = true) ∨ dst.lookup k = some v := by
  rw [lookup_copyIf] at h
  split at h
  · split at h
    · cases h; exact .inl ⟨‹_›, ‹_›⟩
    · exact .inr h
  · exact .inr h

/-- The keys of `k8sResourceSeed`. -/
def seedKeys : List String :=
  [k8sNamespaceNameKey, k8sContainerNameKey, k8sPodNameKey, k8sPodUIDKey, k8sNodeNameKey,
    serviceInstanceIDKey]

theorem mem_k8sResourceSeed {ns : Namespace} {pod : Pod} {c : Container} {k : String}
    (h : k ∈ k8sResourceSeed ns pod c) : k ∈ seedKeys := by
  simp only [k8sResourceSeed, AList.mem_insert, AList.not_mem_empty, or_false] at h
  rcases h with rfl | rfl | rfl | rfl | rfl | rfl <;> simp [seedKeys]

/-- An owner UID key in the walk's result was put there under `AddK8sUIDAttributes`. -/
theorem walk_ownerUID {client : Client} {uid : Bool} {ns : Namespace} {fuel : Nat} {pod : Pod}
    {c : Container} {w : Attrs}
    (hw : addParentResourceLabels client uid ns fuel pod.objectMeta (k8sResourceSeed ns pod c) = some w)
    {k v : String} (hk : w.lookup k = some v) (hu : k ∈ ownerUIDKeys) : uid = true := by
  have hseed : ∀ k ∈ seedKeys, k ∉ ownerUIDKeys := by decide
  have hname : ∀ k ∈ ownerNameKeys, k ∉ ownerUIDKeys := by decide
  rcases labelled_addParentResourceLabels hw k v hk with h | h | h
  · have hmem : k ∈ k8sResourceSeed ns pod c := AList.lookup_isSome.1 (by simp [h])
    exact absurd hu (hseed k (mem_k8sResourceSeed hmem))
  · exact absurd hu (hname k h)
  · exact h.2

/-- Every entry of the map skips the declared keys, comes from the user or is non-empty, and is
an owner UID only under `AddK8sUIDAttributes` unless the user wrote it. -/
theorem createResourceMap_entries {client : Client} {fuel : Nat} {newrelic : Instrumentation}
    {ns : Namespace} {pod : Pod} {index : Nat} {m : Attrs}
    (h : createResourceMap client fuel newrelic ns pod index = some m) (c : Container)
    (hc : pod.spec.containers[index]? = some c) :
    ∀ k v, m.lookup k = some v →
      k ∉ existingResourceKeys c.env ∧
      (k ∈ newrelic.spec.resource.attributes ∨ v ≠ "") ∧
      (k ∉ newrelic.spec.resource.attributes → k ∈ ownerUIDKeys →
        newrelic.spec.resource.addK8sUIDAttributes = true) := by
  obtain ⟨c', w, hc', hw, rfl⟩ := createResourceMap_eq_some h
  obtain rfl : c' = c := Option.some.inj (hc'.symm.trans hc)
  intro k v hk
  rcases lookup_copyIf_some hk with ⟨hw', hx⟩ | hk
  · simp only [decide_eq_true_eq] at hx
    exact ⟨hx.1, .inr hx.2, fun _ hu => walk_ownerUID hw hw' hu⟩
  · rcases lookup_copyIf_some hk with ⟨ha, hx⟩ | hk
    · have hmem : k ∈ newrelic.spec.resource.attributes := AList.lookup_isSome.1 (by simp [ha])
      exact ⟨by simpa using hx, .inl hmem, fun hn => absurd hmem hn⟩
    · simp at hk

/-- The container `app`, image `nginx:1.2`, with no env. -/
def appContainer : Container := { name := "app", image := "nginx:1.2" }

/-- A pod with the one container `app`, on no node, owned by nothing. -/
def appPod : Pod :=
  { objectMeta := { name := "p", uid := "u1" }, spec := { containers := [appContainer] } }

/-- The namespace `ns`. -/
def appNamespace : Namespace := { objectMeta := { name := "ns" } }

theorem createResourceMap_entries_appPod :
    ((createResourceMap noReplicaSets 1 {} appNamespace appPod 0).getD ∅).lookup k8sPodNameKey = some "p" ∧
      k8sPodNameKey ∉ existingResourceKeys ([] : List EnvVar) ∧
      (k8sPodNameKey ∈ ({} : Instrumentation).spec.resource.attributes ∨ "p" ≠ "") ∧
      (k8sPodNameKey ∉ ({} : Instrumentation).spec.resource.attributes → k8sPodNameKey ∈ ownerUIDKeys →
        ({} : Instrumentation).spec.resource.addK8sUIDAttributes = true) :=
  ⟨rfl, @createResourceMap_entries noReplicaSets 1 {} appNamespace appPod 0 _ rfl
    appContainer rfl k8sPodNameKey "p" rfl⟩

end K8sAgentsOperator.Instrumentation
