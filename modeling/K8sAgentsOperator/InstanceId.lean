import K8sAgentsOperator.Reinvocation
import K8sAgentsOperator.UIDAttributes
/-!
# `service.instance.id` tells containers apart

`createServiceInstanceId` joins the namespace, pod and container names with `.`, after the
semantic convention the source cites, which asks the id to be unique for each instance. Kubernetes
names namespaces and containers with DNS labels, which hold no `.`; a pod name is a DNS subdomain
and may hold dots. The first and the last `.` of the id then fall after the namespace and before
the container, so the id gives back all three names (`createServiceInstanceId_injective`).
`createResourceMap` writes that id whatever the Instrumentation's attributes say, for every
container that does not declare the key itself: the ownership walk writes owner keys only
(`addParentResourceLabels_lookup_off`). So two such containers share an id only when they are the
same container of the same pod in the same namespace (`createResourceMap_instanceId_unique`).
-/

namespace K8sAgentsOperator.Instrumentation

open Strings

/-! ## The id -/

/-- Cutting at the first separator: two lists with no separator before it are equal, and so are
the rests. -/
theorem append_cons_inj_of_not_mem {α : Type} {sep : α} :
    ∀ {a a' x y : List α}, sep ∉ a → sep ∉ a' → a ++ sep :: x = a' ++ sep :: y → a = a' ∧ x = y
  | [], [], _, _, _, _, h => ⟨rfl, (List.cons.inj h).2⟩
  | [], b :: _, _, _, _, h', h => absurd ((List.cons.inj h).1 ▸ List.mem_cons_self _ _) h'
  | b :: _, [], _, _, h, _, h'' => absurd ((List.cons.inj h'').1 ▸ List.mem_cons_self _ _) h
  | b :: a, b' :: a', _, _, h, h', e => by
    simp only [List.cons_append, List.cons.injEq] at e
    obtain ⟨rfl, e⟩ := e
    obtain ⟨rfl, rfl⟩ := append_cons_inj_of_not_mem (List.not_mem_of_not_mem_cons h)
      (List.not_mem_of_not_mem_cons h') e
    exact ⟨rfl, rfl⟩

theorem createServiceInstanceId_data {ns pod container : String} (h : ns ≠ "" ∧ pod ≠ "" ∧ container ≠ "") :
    (createServiceInstanceId ns pod container).data = ns.data ++ '.' :: (pod.data ++ '.' :: container.data) := by
  simp [createServiceInstanceId, h, join, List.intercalate]

/-- The names of a container of a running pod, as Kubernetes gives them: none is empty, and the
namespace and container names, DNS labels, hold no `.` (a pod name may). -/
def InstanceNames (ns : Namespace) (pod : Pod) (c : Container) : Prop :=
  ns.objectMeta.name ≠ "" ∧ '.' ∉ ns.objectMeta.name.data ∧ pod.objectMeta.name ≠ "" ∧ c.name ≠ "" ∧
    '.' ∉ c.name.data

instance (ns : Namespace) (pod : Pod) (c : Container) : Decidable (InstanceNames ns pod c) :=
  inferInstanceAs (Decidable (_ ∧ _ ∧ _ ∧ _ ∧ _))

/-- For such names the id gives back the namespace, the pod and the container. -/
theorem createServiceInstanceId_injective {ns ns' : Namespace} {pod pod' : Pod} {c c' : Container}
    (hn : InstanceNames ns pod c) (hn' : InstanceNames ns' pod' c')
    (h : createServiceInstanceId ns.objectMeta.name pod.objectMeta.name c.name =
      createServiceInstanceId ns'.objectMeta.name pod'.objectMeta.name c'.name) :
    ns.objectMeta.name = ns'.objectMeta.name ∧ pod.objectMeta.name = pod'.objectMeta.name ∧ c.name = c'.name := by
  obtain ⟨hns, hnsd, hpod, hc, hcd⟩ := hn
  obtain ⟨hns', hnsd', hpod', hc', hcd'⟩ := hn'
  have hd := congrArg String.data h
  rw [createServiceInstanceId_data ⟨hns, hpod, hc⟩, createServiceInstanceId_data ⟨hns', hpod', hc'⟩] at hd
  obtain ⟨hnsEq, hd⟩ := append_cons_inj_of_not_mem hnsd hnsd' hd
  have hr := congrArg List.reverse hd
  simp only [List.reverse_append, List.reverse_cons, List.append_assoc, List.singleton_append] at hr
  obtain ⟨hcEq, hpEq⟩ := append_cons_inj_of_not_mem (mt List.mem_reverse.1 hcd) (mt List.mem_reverse.1 hcd') hr
  exact ⟨String.ext hnsEq, String.ext (List.reverse_injective hpEq), String.ext (List.reverse_injective hcEq)⟩

/-- Two names of a pod that holds a `.` and a container that would: one id. -/
example : createServiceInstanceId "ns" "p.1" "app" = createServiceInstanceId "ns" "p" "1.app" := by decide

/-! ## The walk writes owner keys only -/

/-- A fold whose every step keeps a reflexive, transitive relation keeps it. -/
theorem foldlM_preserves {α β : Type} {R : β → β → Prop} (hrefl : ∀ b, R b b)
    (htrans : ∀ {a b c}, R a b → R b c → R a c) {f : β → α → Option β} (hf : ∀ b x b', f b x = some b' → R b b') :
    ∀ (l : List α) (b r : β), l.foldlM f b = some r → R b r
  | [], _, _, h => by cases h; exact hrefl _
  | x :: xs, b, r, h => by
    simp only [List.foldlM_cons, Option.bind_eq_bind, Option.bind_eq_some] at h
    obtain ⟨b', hb', h⟩ := h
    exact htrans (hf b x b' hb') (foldlM_preserves hrefl htrans hf xs b' r h)

section Walk

variable {client : Client} {uid : Bool} {ns : Namespace} {k : String}

theorem lookup_labelOwner_off {nk uk : String} (hn : k ≠ nk) (hu : k ≠ uk) (o : OwnerReference) (a : Attrs) :
    (labelOwner nk uk uid o a).lookup k = a.lookup k := by
  rw [lookup_labelOwner_ne hu, AList.lookup_insert_ne hn]

/-- Off the owner keys, the walk changes no entry, at every depth. -/
theorem addParentResourceLabels_lookup_off (hk : k ∉ ownerNameKeys) (hku : k ∉ ownerUIDKeys) :
    ∀ {fuel : Nat} {m : ObjectMeta} {a r : Attrs},
      addParentResourceLabels client uid ns fuel m a = some r → r.lookup k = a.lookup k
  | 0, _, _, _, h => by cases h
  | fuel + 1, m, a, r, h => by
    have off : ∀ {nk uk : String}, nk ∈ ownerNameKeys → uk ∈ ownerUIDKeys → ∀ o b,
        (labelOwner nk uk uid o b).lookup k = b.lookup k :=
      fun hn hu => lookup_labelOwner_off (fun e => hk (e ▸ hn)) (fun e => hku (e ▸ hu))
    have step : ∀ b o b', addOwnerLabels client uid ns (addParentResourceLabels client uid ns fuel) b o = some b' →
        b'.lookup k = b.lookup k := by
      intro b o b' hb
      unfold addOwnerLabels at hb
      split at hb
      · exact (addParentResourceLabels_lookup_off hk hku hb).trans (off (by decide) (by decide) o b)
      all_goals cases hb
      all_goals first
        | exact off (by decide) (by decide) o b
        | rfl
    exact @foldlM_preserves _ _ (fun (b b' : Attrs) => b'.lookup k = b.lookup k) (fun _ => rfl)
      (fun h₁ h₂ => h₂.trans h₁) _ step m.ownerReferences a r h

end Walk

/-! ## The id `createResourceMap` writes -/

/-- For a container that does not declare `service.instance.id`, with names set, the map holds the
id of its namespace, pod and container, whatever the Instrumentation's attributes. -/
theorem createResourceMap_instanceId {client : Client} {fuel : Nat} {newrelic : Instrumentation} {ns : Namespace}
    {pod : Pod} {index : Nat} {m : Attrs} (h : createResourceMap client fuel newrelic ns pod index = some m)
    {c : Container} (hc : pod.spec.containers[index]? = some c)
    (hset : ns.objectMeta.name ≠ "" ∧ pod.objectMeta.name ≠ "" ∧ c.name ≠ "")
    (hex : serviceInstanceIDKey ∉ existingResourceKeys c.env) :
    m.lookup serviceInstanceIDKey =
      some (createServiceInstanceId ns.objectMeta.name pod.objectMeta.name c.name) := by
  obtain ⟨c', w, hc', hw, -⟩ := createResourceMap_eq_some h
  obtain rfl : c = c' := Option.some.inj (hc.symm.trans hc')
  have hwk : w.get serviceInstanceIDKey = createServiceInstanceId ns.objectMeta.name pod.objectMeta.name c.name := by
    rw [Attrs.get, addParentResourceLabels_lookup_off (by decide) (by decide) hw, k8sResourceSeed,
      AList.lookup_insert]
    rfl
  have hne : createServiceInstanceId ns.objectMeta.name pod.objectMeta.name c.name ≠ "" := fun he => by
    have hd := createServiceInstanceId_data hset
    rw [he] at hd
    simp at hd
  rw [createResourceMap_lookup h hc hw hex, hwk, if_pos hne]

/-- Two containers whose names are as Kubernetes gives them and that do not declare
`service.instance.id` get one id from `createResourceMap` only when they are the same container
of the same pod in the same namespace, whatever the Instrumentations and clusters the two calls
see. -/
theorem createResourceMap_instanceId_unique {client₁ client₂ : Client} {fuel₁ fuel₂ : Nat}
    {newrelic₁ newrelic₂ : Instrumentation} {ns₁ ns₂ : Namespace} {pod₁ pod₂ : Pod} {index₁ index₂ : Nat}
    {m₁ m₂ : Attrs} {c₁ c₂ : Container}
    (h₁ : createResourceMap client₁ fuel₁ newrelic₁ ns₁ pod₁ index₁ = some m₁)
    (hc₁ : pod₁.spec.containers[index₁]? = some c₁) (hn₁ : InstanceNames ns₁ pod₁ c₁)
    (hex₁ : serviceInstanceIDKey ∉ existingResourceKeys c₁.env)
    (h₂ : createResourceMap client₂ fuel₂ newrelic₂ ns₂ pod₂ index₂ = some m₂)
    (hc₂ : pod₂.spec.containers[index₂]? = some c₂) (hn₂ : InstanceNames ns₂ pod₂ c₂)
    (hex₂ : serviceInstanceIDKey ∉ existingResourceKeys c₂.env)
    (hid : m₁.lookup serviceInstanceIDKey = m₂.lookup serviceInstanceIDKey) :
    ns₁.objectMeta.name = ns₂.objectMeta.name ∧ pod₁.objectMeta.name = pod₂.objectMeta.name ∧ c₁.name = c₂.name := by
  rw [createResourceMap_instanceId h₁ hc₁ ⟨hn₁.1, hn₁.2.2.1, hn₁.2.2.2.1⟩ hex₁,
    createResourceMap_instanceId h₂ hc₂ ⟨hn₂.1, hn₂.2.2.1, hn₂.2.2.2.1⟩ hex₂] at hid
  exact createServiceInstanceId_injective hn₁ hn₂ (Option.some.inj hid)

/-- An Instrumentation that sets `service.instance.id` itself. -/
def instanceIdInst : Instrumentation :=
  { spec := { resource := { attributes := (∅ : Attrs).insert serviceInstanceIDKey "mine" } } }

/-- `appPod` deleted and created again: the same names, another UID and image. -/
def recreatedPod : Pod :=
  { objectMeta := { name := "p", uid := "u2" }, spec := { containers := [{ appContainer with image := "nginx:1.3" }] } }

theorem createResourceMap_instanceId_unique_recreatedPod :
    createResourceMap noReplicaSets 1 {} appNamespace appPod 0 =
      some ((createResourceMap noReplicaSets 1 {} appNamespace appPod 0).getD ∅) ∧
    createResourceMap noReplicaSets 1 instanceIdInst appNamespace recreatedPod 0 =
      some ((createResourceMap noReplicaSets 1 instanceIdInst appNamespace recreatedPod 0).getD ∅) ∧
    ((createResourceMap noReplicaSets 1 {} appNamespace appPod 0).getD ∅).lookup serviceInstanceIDKey =
      ((createResourceMap noReplicaSets 1 instanceIdInst appNamespace recreatedPod 0).getD ∅).lookup
        serviceInstanceIDKey ∧
    (appNamespace.objectMeta.name = appNamespace.objectMeta.name ∧
      appPod.objectMeta.name = recreatedPod.objectMeta.name ∧ appContainer.name = { appContainer with image := "nginx:1.3" }.name) :=
  have h₁ : createResourceMap noReplicaSets 1 {} appNamespace appPod 0 =
      some ((createResourceMap noReplicaSets 1 {} appNamespace appPod 0).getD ∅) := eq_some_getD ∅ (by decide)
  have h₂ : createResourceMap noReplicaSets 1 instanceIdInst appNamespace recreatedPod 0 =
      some ((createResourceMap noReplicaSets 1 instanceIdInst appNamespace recreatedPod 0).getD ∅) :=
    eq_some_getD ∅ (by decide)
  have hid : ((createResourceMap noReplicaSets 1 {} appNamespace appPod 0).getD ∅).lookup serviceInstanceIDKey =
      ((createResourceMap noReplicaSets 1 instanceIdInst appNamespace recreatedPod 0).getD ∅).lookup
        serviceInstanceIDKey := by decide
  ⟨h₁, h₂, hid, createResourceMap_instanceId_unique h₁ rfl (by decide) (by decide) h₂ rfl (by decide) (by decide) hid⟩

end K8sAgentsOperator.Instrumentation
