import K8sAgentsOperator.Inject
/-!
# The UID switch

`AddK8sUIDAttributes` makes the ownership walk write each owner's UID beside its name. That is all
it changes. Of the Instrumentation, `createResourceMap` reads only the resource attributes and that
switch; with the switch either way it returns for the same pods, and the maps agree on every key
but the six owner-UID keys. The New Relic app name reads workload and pod names only, so
`injectNewrelicConfig` does not depend on the switch at all (`createResourceMap_uid_switch`).
-/

namespace K8sAgentsOperator.Instrumentation

/-- `a` and `b` agree on every key outside `K`. -/
def AgreeOff (K : List String) (a b : Attrs) : Prop :=
  ∀ k, k ∉ K → a.lookup k = b.lookup k

theorem AgreeOff.refl (K : List String) (a : Attrs) : AgreeOff K a a := fun _ _ => rfl

theorem AgreeOff.get {K : List String} {a b : Attrs} (h : AgreeOff K a b) (k : String) (hk : k ∉ K) :
    a.get k = b.get k := by
  rw [Attrs.get, Attrs.get, h k hk]

theorem agreeOff_copyIf {K : List String} (cond : String → String → Bool) {w w' : Attrs} (h : AgreeOff K w w')
    (dst : Attrs) : AgreeOff K (copyIf cond w dst) (copyIf cond w' dst) := fun k hk => by
  rw [lookup_copyIf, lookup_copyIf, h k hk]

/-- Binding two related results with continuations that relate related values. -/
theorem rel_bind {α β γ δ : Type} {R : α → β → Prop} {S : γ → δ → Prop} {u : Option α} {v : Option β}
    {k : α → Option γ} {k' : β → Option δ} (h : Option.Rel R u v) (hk : ∀ a b, R a b → Option.Rel S (k a) (k' b)) :
    Option.Rel S (u.bind k) (v.bind k') := by
  cases h with
  | none => exact .none
  | some hab => exact hk _ _ hab

theorem bind_eq_of_rel {α β γ : Type} {R : α → β → Prop} {u : Option α} {v : Option β} {k : α → Option γ}
    {k' : β → Option γ} (h : Option.Rel R u v) (hk : ∀ a b, R a b → k a = k' b) : u.bind k = v.bind k' := by
  cases h with
  | none => rfl
  | some hab => exact hk _ _ hab

/-- A fold of partial steps that keep a relation between two accumulators keeps it, and the two
folds return together. -/
theorem foldlM_rel {α β γ : Type} {R : β → γ → Prop} {f : β → α → Option β} {g : γ → α → Option γ}
    (h : ∀ b c x, R b c → Option.Rel R (f b x) (g c x)) :
    ∀ (l : List α) {b : β} {c : γ}, R b c → Option.Rel R (l.foldlM f b) (l.foldlM g c)
  | [], _, _, hbc => .some hbc
  | x :: xs, b, c, hbc => by
    simp only [List.foldlM_cons, Option.bind_eq_bind]
    exact rel_bind (h b c x hbc) fun _ _ hr => foldlM_rel h xs hr

/-! ## The walk with and without UIDs -/

section Walk

variable {client : Client} {ns : Namespace}

theorem lookup_labelOwner_ne {nk uk k : String} (hk : k ≠ uk) (uid : Bool) (o : OwnerReference) (a : Attrs) :
    (labelOwner nk uk uid o a).lookup k = (a.insert nk o.name).lookup k := by
  unfold labelOwner
  cases uid
  · rfl
  · exact AList.lookup_insert_ne hk

theorem agreeOff_labelOwner {nk uk : String} (hu : uk ∈ ownerUIDKeys) (uid uid' : Bool) (o : OwnerReference)
    {a b : Attrs} (h : AgreeOff ownerUIDKeys a b) :
    AgreeOff ownerUIDKeys (labelOwner nk uk uid o a) (labelOwner nk uk uid' o b) := by
  intro k hk
  have hne : k ≠ uk := fun h => hk (h ▸ hu)
  rw [lookup_labelOwner_ne hne, lookup_labelOwner_ne hne]
  by_cases hn : k = nk
  · subst hn; simp only [AList.lookup_insert]
  · rw [AList.lookup_insert_ne hn, AList.lookup_insert_ne hn, h k hk]

theorem addOwnerLabels_uid_rel {recurse recurse' : ObjectMeta → Attrs → Option Attrs}
    (hrec : ∀ m {a b}, AgreeOff ownerUIDKeys a b → Option.Rel (AgreeOff ownerUIDKeys) (recurse m a) (recurse' m b))
    (uid uid' : Bool) {a b : Attrs} (h : AgreeOff ownerUIDKeys a b) (o : OwnerReference) :
    Option.Rel (AgreeOff ownerUIDKeys) (addOwnerLabels client uid ns recurse a o)
      (addOwnerLabels client uid' ns recurse' b o) := by
  unfold addOwnerLabels
  split
  · exact hrec _ (agreeOff_labelOwner (by decide) uid uid' o h)
  all_goals first
    | exact .some (agreeOff_labelOwner (by decide) uid uid' o h)
    | exact .some h

/-- The walk with UIDs and the one without return at the same depths, with maps that agree off the
owner-UID keys. -/
theorem addParentResourceLabels_uid_rel (uid uid' : Bool) :
    ∀ (fuel : Nat) (m : ObjectMeta) {a b : Attrs}, AgreeOff ownerUIDKeys a b →
      Option.Rel (AgreeOff ownerUIDKeys) (addParentResourceLabels client uid ns fuel m a)
        (addParentResourceLabels client uid' ns fuel m b)
  | 0, _, _, _, _ => .none
  | fuel + 1, m, _, _, h =>
    foldlM_rel (fun _ _ o h => addOwnerLabels_uid_rel (addParentResourceLabels_uid_rel uid uid' fuel) uid uid' h o)
      m.ownerReferences h

end Walk

/-! ## What the switch changes -/

theorem chooseServiceName_congr {m m' : Attrs} (h : AgreeOff ownerUIDKeys m m') (pod : Pod) (index : Nat) :
    chooseServiceName pod m index = chooseServiceName pod m' index := by
  simp only [chooseServiceName, h.get k8sDeploymentNameKey (by decide), h.get k8sStatefulSetNameKey (by decide),
    h.get k8sJobNameKey (by decide), h.get k8sCronJobNameKey (by decide), h.get k8sPodNameKey (by decide)]

theorem createResourceMap_rel {client : Client} {fuel : Nat} {newrelic newrelic' : Instrumentation}
    (hattrs : newrelic'.spec.resource.attributes = newrelic.spec.resource.attributes) (ns : Namespace) (pod : Pod)
    (index : Nat) :
    Option.Rel (AgreeOff ownerUIDKeys) (createResourceMap client fuel newrelic ns pod index)
      (createResourceMap client fuel newrelic' ns pod index) := by
  unfold createResourceMap
  cases pod.spec.containers[index]? with
  | none => exact .none
  | some c =>
    simp only [Option.bind_eq_bind, Option.some_bind, hattrs]
    exact rel_bind (addParentResourceLabels_uid_rel _ _ fuel pod.objectMeta (AgreeOff.refl _ _))
      fun _ _ hw => .some (agreeOff_copyIf _ hw _)

/-- Two Instrumentations with the same resource attributes, whatever their `AddK8sUIDAttributes`:
`createResourceMap` returns for both or for neither, with maps that differ at most in the owner-UID
keys, and `injectNewrelicConfig` gives the same pod. -/
theorem createResourceMap_uid_switch {client : Client} {fuel : Nat} {newrelic newrelic' : Instrumentation}
    (hattrs : newrelic'.spec.resource.attributes = newrelic.spec.resource.attributes) (ns : Namespace) (pod : Pod)
    (index : Nat) :
    Option.Rel (AgreeOff ownerUIDKeys) (createResourceMap client fuel newrelic ns pod index)
      (createResourceMap client fuel newrelic' ns pod index) ∧
    injectNewrelicConfig client fuel newrelic ns pod index = injectNewrelicConfig client fuel newrelic' ns pod index := by
  refine ⟨createResourceMap_rel hattrs ns pod index, ?_⟩
  unfold injectNewrelicConfig
  cases pod.spec.containers[index]? with
  | none => rfl
  | some c =>
    simp only [Option.bind_eq_bind, Option.some_bind]
    exact bind_eq_of_rel (createResourceMap_rel hattrs ns pod index) fun m m' hm => by
      simp only [withServiceName, chooseServiceName_congr hm]

/-- An Instrumentation with `AddK8sUIDAttributes` on and nothing else set. -/
def uidInst : Instrumentation := { spec := { resource := { addK8sUIDAttributes := true } } }

/-- A pod of the Deployment `shop`, whose UID is `d1`. -/
def deploymentPod : Pod :=
  { objectMeta := { name := "p", ownerReferences := [{ kind := "Deployment", name := "shop", uid := "d1" }] },
    spec := { containers := [appContainer] } }

theorem createResourceMap_uid_switch_deploymentPod :
    Option.Rel (AgreeOff ownerUIDKeys) (createResourceMap noReplicaSets 1 {} appNamespace deploymentPod 0)
      (createResourceMap noReplicaSets 1 uidInst appNamespace deploymentPod 0) ∧
    injectNewrelicConfig noReplicaSets 1 {} appNamespace deploymentPod 0 =
      injectNewrelicConfig noReplicaSets 1 uidInst appNamespace deploymentPod 0 :=
  @createResourceMap_uid_switch noReplicaSets 1 {} uidInst rfl appNamespace deploymentPod 0

/-- Only the switched-on map holds the Deployment's UID. -/
example : ((createResourceMap noReplicaSets 1 {} appNamespace deploymentPod 0).map (·.lookup k8sDeploymentUIDKey),
    (createResourceMap noReplicaSets 1 uidInst appNamespace deploymentPod 0).map (·.lookup k8sDeploymentUIDKey)) =
    (some none, some (some "d1")) := by
  decide

end K8sAgentsOperator.Instrumentation
