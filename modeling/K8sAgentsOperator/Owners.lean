import K8sAgentsOperator.Strings
import K8sAgentsOperator.Types
import K8sAgentsOperator.Retry
/-!
# The ownership walk

`addParentResourceLabels` labels each owner of an object and, for a
ReplicaSet owner, fetches that ReplicaSet and walks its owners in turn. The
recursion has neither a depth bound nor a visited set, so the model carries
fuel, one unit per level, and "the walk returns" means "some fuel is enough".
It returns exactly when the fetched ReplicaSets form no infinite chain
(`addParentResourceLabels_returns_iff`); a ReplicaSet that lists itself as
its owner sends it round forever.
-/

namespace K8sAgentsOperator.Instrumentation

open Strings

/-- The ReplicaSet `rs` after `retry.OnError(backOff, checkError, getReplicaSet)` against a fixed
cluster state: every attempt of `client.Get` gets `client`'s answer for the owner's name in the
pod's namespace. -/
def getReplicaSet (client : Client) (ns : Namespace) (owner : OwnerReference) : ReplicaSet :=
  getReplicaSetAt fun _ => client ⟨ns.objectMeta.name, owner.name⟩

/-- `resources[nameKey] = owner.Name`, then the UID under `uidKey` when `uid` is set: what
`addParentResourceLabels` does for every owner kind it knows. -/
def labelOwner (nameKey uidKey : String) (uid : Bool) (owner : OwnerReference) (resources : Attrs) :
    Attrs :=
  let resources := resources.insert nameKey owner.name
  if uid then resources.insert uidKey owner.uid else resources

/-- One owner reference in `addParentResourceLabels`; `recurse` walks a fetched ReplicaSet. -/
def addOwnerLabels (client : Client) (uid : Bool) (ns : Namespace)
    (recurse : ObjectMeta → Attrs → Option Attrs) (resources : Attrs) (owner : OwnerReference) :
    Option Attrs :=
  match toLower owner.kind with
  | "replicaset" =>
    recurse (getReplicaSet client ns owner).objectMeta
      (labelOwner k8sReplicaSetNameKey k8sReplicaSetUIDKey uid owner resources)
  | "deployment" => some (labelOwner k8sDeploymentNameKey k8sDeploymentUIDKey uid owner resources)
  | "statefulset" => some (labelOwner k8sStatefulSetNameKey k8sStatefulSetUIDKey uid owner resources)
  | "daemonset" => some (labelOwner k8sDaemonSetNameKey k8sDaemonSetUIDKey uid owner resources)
  | "job" => some (labelOwner k8sJobNameKey k8sJobUIDKey uid owner resources)
  | "cronjob" => some (labelOwner k8sCronJobNameKey k8sCronJobUIDKey uid owner resources)
  | _ => some resources

/-- `addParentResourceLabels`, with `fuel` levels of recursion; `none` when they run out. -/
def addParentResourceLabels (client : Client) (uid : Bool) (ns : Namespace) :
    Nat → ObjectMeta → Attrs → Option Attrs
  | 0, _, _ => none
  | fuel + 1, objectMeta, resources =>
    objectMeta.ownerReferences.foldlM
      (addOwnerLabels client uid ns (addParentResourceLabels client uid ns fuel)) resources

/-- Against a fixed cluster state every attempt gets the same answer, so the retries change
nothing: the first answer is the result. -/
theorem getReplicaSet_eq (client : Client) (ns : Namespace) (owner : OwnerReference) :
    getReplicaSet client ns owner =
      match client ⟨ns.objectMeta.name, owner.name⟩ with
      | .ok rs => rs
      | .error _ => {} :=
  getReplicaSetAt_const _

/-! ## More fuel never hurts -/

theorem foldlM_option_mono {α β : Type} {f g : β → α → Option β}
    (h : ∀ b x b', f b x = some b' → g b x = some b') :
    ∀ (l : List α) (b r : β), l.foldlM f b = some r → l.foldlM g b = some r
  | [], _, _, hr => hr
  | x :: xs, b, r, hr => by
    simp only [List.foldlM_cons, Option.bind_eq_bind, Option.bind_eq_some] at hr ⊢
    obtain ⟨b', hb', hr⟩ := hr
    exact ⟨b', h _ _ _ hb', foldlM_option_mono h xs b' r hr⟩

/-- Every step of a successful fold succeeded from some accumulator. -/
theorem foldlM_option_step {α β : Type} {f : β → α → Option β} :
    ∀ {l : List α} {b r : β}, l.foldlM f b = some r → ∀ x ∈ l, ∃ b' r', f b' x = some r'
  | [], _, _, _, x, hx => absurd hx (List.not_mem_nil x)
  | y :: ys, b, r, hr, x, hx => by
    simp only [List.foldlM_cons, Option.bind_eq_bind, Option.bind_eq_some] at hr
    obtain ⟨b', hb', hr⟩ := hr
    rcases List.mem_cons.1 hx with rfl | hx
    · exact ⟨b, b', hb'⟩
    · exact foldlM_option_step hr x hx

section Walk

variable {client : Client} {uid : Bool} {ns : Namespace}

theorem addOwnerLabels_mono {recurse recurse' : ObjectMeta → Attrs → Option Attrs}
    (h : ∀ m a r, recurse m a = some r → recurse' m a = some r) (a : Attrs) (o : OwnerReference)
    (r : Attrs) :
    addOwnerLabels client uid ns recurse a o = some r → addOwnerLabels client uid ns recurse' a o = some r := by
  unfold addOwnerLabels
  split
  · exact h _ _ _
  all_goals exact id

theorem addParentResourceLabels_succ :
    ∀ {fuel : Nat} {m : ObjectMeta} {a r : Attrs}, addParentResourceLabels client uid ns fuel m a = some r →
      addParentResourceLabels client uid ns (fuel + 1) m a = some r
  | 0, _, _, _, h => by simp [addParentResourceLabels] at h
  | _ + 1, _, _, _, h =>
    foldlM_option_mono (addOwnerLabels_mono fun _ _ _ => addParentResourceLabels_succ) _ _ _ h

theorem addParentResourceLabels_mono {fuel fuel' : Nat} {m : ObjectMeta} {a r : Attrs}
    (h : addParentResourceLabels client uid ns fuel m a = some r) (hle : fuel ≤ fuel') :
    addParentResourceLabels client uid ns fuel' m a = some r := by
  induction hle with
  | refl => exact h
  | step _ ih => exact addParentResourceLabels_succ ih

/-! ## When the walk returns -/

/-- `m'` is walked right after `m`: it is the ReplicaSet fetched for one of `m`'s ReplicaSet
owners. -/
def WalksTo (client : Client) (ns : Namespace) (m' m : ObjectMeta) : Prop :=
  ∃ owner ∈ m.ownerReferences, toLower owner.kind = "replicaset" ∧
    m' = (getReplicaSet client ns owner).objectMeta

/-- A walk that returns has no infinite chain of fetched ReplicaSets below it. -/
theorem acc_of_returns : ∀ {fuel : Nat} {m : ObjectMeta} {a r : Attrs},
    addParentResourceLabels client uid ns fuel m a = some r → Acc (WalksTo client ns) m
  | 0, _, _, _, h => by simp [addParentResourceLabels] at h
  | _ + 1, _, _, _, h => by
    refine ⟨_, fun m' ⟨o, ho, hk, hm'⟩ => ?_⟩
    obtain ⟨b, r', hb⟩ := foldlM_option_step h o ho
    simp only [addOwnerLabels, hk] at hb
    exact hm' ▸ acc_of_returns hb

/-- Finitely many goals that more fuel keeps have one fuel for all. -/
theorem exists_fuel_forall {α : Type} (P : Nat → α → Prop)
    (mono : ∀ {n n'} x, n ≤ n' → P n x → P n' x) :
    ∀ l : List α, (∀ x ∈ l, ∃ n, P n x) → ∃ n, ∀ x ∈ l, P n x
  | [], _ => ⟨0, by simp⟩
  | x :: xs, h => by
    obtain ⟨n₁, h₁⟩ := h x (List.mem_cons_self _ _)
    obtain ⟨n₂, h₂⟩ := exists_fuel_forall P mono xs fun y hy => h y (List.mem_cons_of_mem _ hy)
    refine ⟨max n₁ n₂, fun y hy => ?_⟩
    rcases List.mem_cons.1 hy with rfl | hy
    · exact mono _ (le_max_left _ _) h₁
    · exact mono _ (le_max_right _ _) (h₂ y hy)

theorem foldlM_addOwnerLabels_some {fuel : Nat} : ∀ (os : List OwnerReference),
    (∀ o ∈ os, toLower o.kind = "replicaset" → ∀ a, ∃ r,
      addParentResourceLabels client uid ns fuel (getReplicaSet client ns o).objectMeta a = some r) →
    ∀ a, ∃ r, os.foldlM (addOwnerLabels client uid ns (addParentResourceLabels client uid ns fuel)) a = some r
  | [], _, a => ⟨a, rfl⟩
  | o :: os, h, a => by
    obtain ⟨b, hb⟩ : ∃ b, addOwnerLabels client uid ns (addParentResourceLabels client uid ns fuel) a o = some b := by
      unfold addOwnerLabels
      split
      · next hk => exact h o (List.mem_cons_self _ _) hk _
      all_goals exact ⟨_, rfl⟩
    obtain ⟨r, hr⟩ := foldlM_addOwnerLabels_some os (fun o' ho' => h o' (List.mem_cons_of_mem _ ho')) b
    exact ⟨r, by simp [List.foldlM_cons, hb, hr]⟩

/-- With no infinite chain below it, some fuel walks an object from every accumulator. -/
theorem returns_of_acc {m : ObjectMeta} (h : Acc (WalksTo client ns) m) :
    ∃ fuel, ∀ a, ∃ r, addParentResourceLabels client uid ns fuel m a = some r := by
  induction h with
  | intro m _ ih =>
    obtain ⟨fuel, hf⟩ := exists_fuel_forall
      (fun n o => toLower o.kind = "replicaset" → ∀ a, ∃ r,
        addParentResourceLabels client uid ns n (getReplicaSet client ns o).objectMeta a = some r)
      (fun x hle (h : toLower x.kind = "replicaset" → _) hk a =>
        (h hk a).imp fun _ hr => addParentResourceLabels_mono hr hle)
      m.ownerReferences
      (fun o ho => by
        by_cases hk : toLower o.kind = "replicaset"
        · obtain ⟨n, hn⟩ := ih _ ⟨o, ho, hk, rfl⟩
          exact ⟨n, fun _ => hn⟩
        · exact ⟨0, fun h => absurd h hk⟩)
    exact ⟨fuel + 1, foldlM_addOwnerLabels_some _ hf⟩

theorem addParentResourceLabels_returns_iff (m : ObjectMeta) (a : Attrs) :
    (∃ fuel r, addParentResourceLabels client uid ns fuel m a = some r) ↔ Acc (WalksTo client ns) m := by
  refine ⟨fun ⟨_, _, h⟩ => acc_of_returns h, fun h => ?_⟩
  obtain ⟨fuel, hf⟩ := @returns_of_acc client uid ns m h
  exact ⟨fuel, hf a⟩

end Walk

/-! ## A ReplicaSet that owns itself -/

theorem not_acc_of_self {α : Type} {r : α → α → Prop} {x : α} (h : r x x) : ¬ Acc r x := by
  intro hacc
  induction hacc with
  | intro x _ ih => exact ih x h h

/-- The ReplicaSet `rs`, as an owner reference. -/
def rsOwner : OwnerReference := { kind := "ReplicaSet", name := "rs" }

/-- A cluster in which the ReplicaSet `rs` lists itself as its owner. -/
def selfOwnedCluster : Client :=
  fun _ => .ok { objectMeta := { name := "rs", ownerReferences := [rsOwner] } }

theorem selfOwned_walk_never_returns :
    ¬ ∃ fuel r, addParentResourceLabels selfOwnedCluster false {} fuel
      { name := "pod", ownerReferences := [rsOwner] } ∅ = some r := by
  rintro ⟨fuel, r, h⟩
  have hk : toLower rsOwner.kind = "replicaset" := by decide
  have hstep : ∀ m : ObjectMeta, m.ownerReferences = [rsOwner] →
      WalksTo selfOwnedCluster {} { name := "rs", ownerReferences := [rsOwner] } m :=
    fun m hm => ⟨rsOwner, by simp [hm], hk, rfl⟩
  exact not_acc_of_self (hstep _ rfl) ((acc_of_returns h).inv (hstep _ rfl))

/-- A cluster with no ReplicaSet: every lookup answers `NotFound`. -/
def noReplicaSets : Client := fun _ => .error .notFound

end K8sAgentsOperator.Instrumentation
