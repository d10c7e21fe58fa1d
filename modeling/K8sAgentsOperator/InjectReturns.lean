import K8sAgentsOperator.InjectRun
/-!
# When `inject` returns

`inject` walks the pod's ReplicaSet owners once for every language it configures, and the walk
ends only above a finite chain of owners (`Owners`). Given agent injectors that keep the pod's
metadata and remove no container, and an ownership walk with no endless chain, `inject` returns: no
index is out of range and some depth bounds the walk (`inject_returns`). Conversely, when the agent
injectors succeed and some language is configured, an endless chain of owners makes `inject` return
at no depth (`inject_never_returns`): the admission request is never answered. A larger depth never
changes a pod once one is returned (`inject_fuel_mono`), so the bound is only a bound.
-/

namespace K8sAgentsOperator.Instrumentation

/-! ## `inject` returns -/

/-- With `fuel`, the ownership walk of `objectMeta` returns from every map, with UIDs or without. -/
def WalkReturns (client : Client) (ns : Namespace) (fuel : Nat) (objectMeta : ObjectMeta) : Prop :=
  ∀ uid a, ∃ r, addParentResourceLabels client uid ns fuel objectMeta a = some r

theorem walkReturns_of_acc {client : Client} {ns : Namespace} {m : ObjectMeta} (h : Acc (WalksTo client ns) m) :
    ∃ fuel, WalkReturns client ns fuel m := by
  obtain ⟨f₁, h₁⟩ := @returns_of_acc client false ns m h
  obtain ⟨f₂, h₂⟩ := @returns_of_acc client true ns m h
  refine ⟨max f₁ f₂, fun uid a => ?_⟩
  cases uid
  · exact (h₁ a).imp fun _ hr => addParentResourceLabels_mono hr (le_max_left _ _)
  · exact (h₂ a).imp fun _ hr => addParentResourceLabels_mono hr (le_max_right _ _)

/-- A chain of `if`s whose branches all give a value gives one. -/
theorem exists_ite_some {c : Prop} [Decidable c] {a : String} {x : Option String} (h : ∃ n, x = some n) :
    ∃ n, (if c then some a else x) = some n := by
  by_cases hc : c
  · exact ⟨a, if_pos hc⟩
  · rw [if_neg hc]; exact h

theorem chooseServiceName_isSome {pod : Pod} {index : Nat} {c : Container}
    (hc : pod.spec.containers[index]? = some c) (m : Attrs) : ∃ name, chooseServiceName pod m index = some name :=
  exists_ite_some <| exists_ite_some <| exists_ite_some <| exists_ite_some <| exists_ite_some ⟨c.name, by rw [hc]; rfl⟩

theorem withServiceVersion_isSome {pod : Pod} {index : Nat} {c : Container}
    (hc : pod.spec.containers[index]? = some c) (env : List EnvVar) (m : Attrs) :
    ∃ m', withServiceVersion pod index env m = some m' := by
  simp only [withServiceVersion, chooseServiceVersion, hc, Option.map_some']
  split <;> simp

theorem withInstrumentation_returns {Q : Pod → Prop} {inst : Option Instrumentation}
    {step : Instrumentation → Pod → Option Pod} {pod : Pod} (hq : Q pod)
    (hstep : ∀ newrelic, inst = some newrelic → ∀ p, Q p → ∃ p', step newrelic p = some p' ∧ Q p') :
    ∃ p', withInstrumentation inst step pod = some p' ∧ Q p' := by
  cases inst with
  | none => exact ⟨pod, rfl, hq⟩
  | some newrelic => exact hstep newrelic rfl pod hq

section Returns

variable {client : Client} {fuel : Nat} {ns : Namespace}

theorem createResourceMap_returns (newrelic : Instrumentation) {pod : Pod} {index : Nat} {c : Container}
    (hc : pod.spec.containers[index]? = some c) (hw : WalkReturns client ns fuel pod.objectMeta) :
    ∃ m, createResourceMap client fuel newrelic ns pod index = some m := by
  obtain ⟨w, hw⟩ := hw newrelic.spec.resource.addK8sUIDAttributes (k8sResourceSeed ns pod c)
  exact ⟨_, createResourceMap_of_walk hc hw⟩

theorem injectNewrelicConfig_returns {newrelic : Instrumentation} {pod : Pod} {index : Nat} {c : Container}
    (hc : pod.spec.containers[index]? = some c) (hw : WalkReturns client ns fuel pod.objectMeta) :
    ∃ pod', injectNewrelicConfig client fuel newrelic ns pod index = some pod' ∧ Grows pod pod' := by
  obtain ⟨m, hm⟩ := createResourceMap_returns newrelic hc hw
  obtain ⟨name, hname⟩ := chooseServiceName_isSome hc m
  exact ⟨_, injectNewrelicConfig_of name hc hm fun _ => hname, grows_setEnv ..⟩

theorem sdkState_returns {newrelic : Instrumentation} {pod : Pod} {appIndex : Nat} {a : Container}
    (ha : pod.spec.containers[appIndex]? = some a) (hw : WalkReturns client ns fuel pod.objectMeta) (c : Container) :
    ∃ s, sdkState client fuel newrelic ns pod c appIndex = some s := by
  obtain ⟨m₀, hm₀⟩ := createResourceMap_returns newrelic ha hw
  obtain ⟨name, hname⟩ := chooseServiceName_isSome ha m₀
  have henv : withServiceName envOTELServiceName pod m₀ appIndex c.env = some _ := withServiceName_of fun _ => hname
  simp only [sdkState, hm₀, henv, Option.bind_eq_bind, Option.some_bind]
  exact ⟨_, by rw [(withServiceVersion_isSome ha _ _).choose_spec]; rfl⟩

theorem injectCommonSDKConfig_returns {newrelic : Instrumentation} {pod : Pod} {agentIndex appIndex : Nat}
    {c a : Container} (hc : pod.spec.containers[agentIndex]? = some c)
    (ha : pod.spec.containers[appIndex]? = some a) (hw : WalkReturns client ns fuel pod.objectMeta) :
    ∃ pod', injectCommonSDKConfig client fuel newrelic ns pod agentIndex appIndex = some pod' ∧ Grows pod pod' := by
  obtain ⟨s, hs⟩ := sdkState_returns ha hw c
  exact ⟨_, injectCommonSDKConfig_of_sdkState hc hs, grows_setEnv ..⟩

theorem injectCommonEnvVar_returns (newrelic : Instrumentation) {pod : Pod} {index : Nat}
    (hi : index < pod.spec.containers.length) :
    ∃ pod', injectCommonEnvVar newrelic pod index = some pod' ∧ Grows pod pod' :=
  let ⟨_, h, _⟩ := @injectCommonEnvVar_eq newrelic _ _ _ (List.getElem?_eq_getElem hi)
  ⟨_, h, grows_setEnv ..⟩

theorem injectLanguage_returns {newrelic : Instrumentation} {agent : Pod → Nat → Pod × Option String}
    {index : Nat} {pod : Pod} (hagent : Grows pod (agent pod index).1) (hi : index < pod.spec.containers.length)
    (hw : WalkReturns client ns fuel pod.objectMeta) :
    ∃ pod', injectLanguage client fuel ns newrelic agent index pod = some pod' ∧ Grows pod pod' := by
  obtain ⟨c, hc⟩ : ∃ c, (agent pod index).1.spec.containers[index]? = some c :=
    ⟨_, List.getElem?_eq_getElem (hi.trans_le hagent.2)⟩
  unfold injectLanguage
  rcases hag : agent pod index with ⟨p₁, _ | e⟩ <;> rw [hag] at hc hagent
  · obtain ⟨p₂, h₂, g₂⟩ := injectNewrelicConfig_returns hc (hagent.1 ▸ hw)
    exact ⟨p₂, h₂, hagent.trans g₂⟩
  · exact ⟨p₁, by simp [hc], hagent⟩

theorem injectGo_returns {apm : Apm} {goContainers : String} {newrelic : Instrumentation} {pod : Pod}
    (hgo : Grows pod (apm.injectGoSDK newrelic.spec.go pod).1) (hpos : 0 < pod.spec.containers.length)
    (hw : WalkReturns client ns fuel pod.objectMeta) :
    ∃ pod', injectGo client fuel ns apm goContainers newrelic pod = some pod' ∧ Grows pod pod' := by
  unfold injectGo
  rcases hag : apm.injectGoSDK newrelic.spec.go pod with ⟨p₁, _ | e⟩ <;> rw [hag] at hgo <;> dsimp only at hgo ⊢
  · have hlen₁ := hpos.trans_le hgo.2
    obtain ⟨p₂, h₂, g₂⟩ := injectCommonEnvVar_returns newrelic (show p₁.spec.containers.length - 1 < p₁.spec.containers.length by omega)
    have hlen₂ := hlen₁.trans_le g₂.2
    obtain ⟨p₃, h₃, g₃⟩ := @injectCommonSDKConfig_returns client fuel ns newrelic p₂
      (p₂.spec.containers.length - 1) 0 _ _ (List.getElem?_eq_getElem (by omega)) (List.getElem?_eq_getElem hlen₂)
      ((hgo.trans g₂).1 ▸ hw)
    exact ⟨p₃, by simp only [h₂, Option.bind_eq_bind, Option.some_bind, h₃], (hgo.trans g₂).trans g₃⟩
  · exact ⟨p₁, by simp [List.getElem?_eq_getElem ((getContainerIndex_lt goContainers hpos).trans_le hgo.2)], hgo⟩

end Returns

/-- With agent injectors that keep the pod's metadata and remove no container, and a cluster whose
ReplicaSets form no infinite chain of owners above the pod, `inject` returns: it indexes no
container out of range, and some depth bounds the ownership walk. -/
theorem inject_returns {client : Client} {apm : Apm} (hapm : apm.Keeps Grows) (insts : LanguageInstrumentations)
    {ns : Namespace} {pod : Pod} (hacc : Acc (WalksTo client ns) pod.objectMeta) (containerName goContainers : String) :
    ∃ fuel pod', inject client fuel apm insts ns pod containerName goContainers = some pod' := by
  obtain ⟨fuel, hw⟩ := walkReturns_of_acc hacc
  refine ⟨fuel, ?_⟩
  by_cases hlen : pod.spec.containers.length < 1
  · exact ⟨pod, by simp [inject, hlen]⟩
  have hpos : 0 < pod.spec.containers.length := by omega
  have hi := getContainerIndex_lt containerName hpos
  have lang : ∀ (inst : Option Instrumentation) {agent : Instrumentation → Pod → Nat → Pod × Option String},
      (∀ nr p i, Grows p (agent nr p i).1) → ∀ p, Grows pod p → ∃ p', withInstrumentation inst
        (fun nr => injectLanguage client fuel ns nr (agent nr) (getContainerIndex containerName pod)) p = some p' ∧
          Grows pod p' := by
    intro inst agent hk p hp
    refine withInstrumentation_returns hp fun nr _ q hq => ?_
    obtain ⟨q', h, g⟩ := injectLanguage_returns (hk nr q _) (hi.trans_le hq.2) (hq.1 ▸ hw)
    exact ⟨q', h, hq.trans g⟩
  obtain ⟨p₁, h₁, g₁⟩ := lang insts.java (fun nr => hapm.javaagent nr.spec.java) pod ⟨rfl, le_rfl⟩
  obtain ⟨p₂, h₂, g₂⟩ := lang insts.nodeJS (fun nr => hapm.nodeJSSDK nr.spec.nodeJS) p₁ g₁
  obtain ⟨p₃, h₃, g₃⟩ := lang insts.python (fun nr => hapm.pythonSDK nr.spec.python) p₂ g₂
  obtain ⟨p₄, h₄, g₄⟩ := lang insts.dotNet (fun nr => hapm.dotNetSDK nr.spec.dotNet) p₃ g₃
  obtain ⟨p₅, h₅, g₅⟩ := lang insts.php (fun nr => hapm.phpagent nr.spec.php) p₄ g₄
  obtain ⟨p₆, h₆, -⟩ := @withInstrumentation_returns (Grows pod) insts.go
    (injectGo client fuel ns apm goContainers) p₅ g₅ fun nr _ q hq => (injectGo_returns (hapm.goSDK _ q) (hpos.trans_le hq.2) (hq.1 ▸ hw)).imp
      fun _ hg => ⟨hg.1, hq.trans hg.2⟩
  exact ⟨p₆, by simp only [inject, if_neg hlen, h₁, h₂, h₃, h₄, h₅, h₆, Option.bind_eq_bind, Option.some_bind]⟩

theorem goSidecarApm_grows : goSidecarApm.Keeps Grows where
  javaagent _ _ _ := ⟨rfl, le_rfl⟩
  nodeJSSDK _ _ _ := ⟨rfl, le_rfl⟩
  pythonSDK _ _ _ := ⟨rfl, le_rfl⟩
  dotNetSDK _ _ _ := ⟨rfl, le_rfl⟩
  phpagent _ _ _ := ⟨rfl, le_rfl⟩
  goSDK _ _ := ⟨rfl, by simp [goSidecarApm]⟩

theorem acc_of_no_owners {client : Client} {ns : Namespace} {m : ObjectMeta} (h : m.ownerReferences = []) :
    Acc (WalksTo client ns) m :=
  ⟨_, fun _ ⟨_, ho, _⟩ => by simp [h] at ho⟩

theorem inject_returns_proxyAppPod :
    goSidecarApm.Keeps Grows ∧ Acc (WalksTo noReplicaSets appNamespace) proxyAppPod.objectMeta ∧
    ∃ fuel pod', inject noReplicaSets fuel goSidecarApm { java := some {}, go := some {} } appNamespace proxyAppPod
      "app" "app" = some pod' :=
  ⟨goSidecarApm_grows, acc_of_no_owners rfl, inject_returns goSidecarApm_grows _ (acc_of_no_owners rfl) "app" "app"⟩

/-! ## More fuel gives the same pod -/

/-- A bind whose first result persists, and whose continuations' results persist, keeps its
result. -/
theorem bind_eq_some_mono {α β : Type} {u u' : Option α} {k k' : α → Option β}
    (hu : ∀ a, u = some a → u' = some a) (hk : ∀ a b, k a = some b → k' a = some b) (b : β)
    (h : u.bind k = some b) : u'.bind k' = some b := by
  obtain ⟨a, ha, hb⟩ := Option.bind_eq_some.1 h
  rw [hu a ha]
  exact hk a b hb

section Fuel

variable {client : Client} {fuel fuel' : Nat} {ns : Namespace} {newrelic : Instrumentation}

theorem createResourceMap_fuel_mono (hle : fuel ≤ fuel') (pod : Pod) (index : Nat) (m : Attrs)
    (h : createResourceMap client fuel newrelic ns pod index = some m) :
    createResourceMap client fuel' newrelic ns pod index = some m := by
  obtain ⟨c, w, hc, hw, rfl⟩ := createResourceMap_eq_some h
  exact createResourceMap_of_walk hc (addParentResourceLabels_mono hw hle)

theorem injectNewrelicConfig_fuel_mono (hle : fuel ≤ fuel') (pod : Pod) (index : Nat) (pod' : Pod)
    (h : injectNewrelicConfig client fuel newrelic ns pod index = some pod') :
    injectNewrelicConfig client fuel' newrelic ns pod index = some pod' := by
  obtain ⟨c, m, name, hc, hm, hname, rfl⟩ := injectNewrelicConfig_eq_some h
  exact injectNewrelicConfig_of name hc (createResourceMap_fuel_mono hle pod index m hm) hname

theorem injectCommonSDKConfig_fuel_mono (hle : fuel ≤ fuel') (pod : Pod) (agentIndex appIndex : Nat) (pod' : Pod)
    (h : injectCommonSDKConfig client fuel newrelic ns pod agentIndex appIndex = some pod') :
    injectCommonSDKConfig client fuel' newrelic ns pod agentIndex appIndex = some pod' := by
  obtain ⟨c, s, hc, hs, rfl⟩ := injectCommonSDKConfig_eq_some_state h
  refine injectCommonSDKConfig_of_sdkState hc ?_
  simp only [sdkState, Option.bind_eq_bind] at hs ⊢
  exact bind_eq_some_mono (createResourceMap_fuel_mono hle pod appIndex) (fun _ _ => id) s hs

theorem injectLanguage_fuel_mono (hle : fuel ≤ fuel') (agent : Pod → Nat → Pod × Option String) (index : Nat)
    (pod pod' : Pod) (h : injectLanguage client fuel ns newrelic agent index pod = some pod') :
    injectLanguage client fuel' ns newrelic agent index pod = some pod' := by
  revert h
  unfold injectLanguage
  rcases agent pod index with ⟨p₁, _ | e⟩
  · exact injectNewrelicConfig_fuel_mono hle p₁ index pod'
  · exact id

theorem injectGo_fuel_mono (hle : fuel ≤ fuel') (apm : Apm) (goContainers : String) (pod pod' : Pod)
    (h : injectGo client fuel ns apm goContainers newrelic pod = some pod') :
    injectGo client fuel' ns apm goContainers newrelic pod = some pod' := by
  revert h
  unfold injectGo
  rcases apm.injectGoSDK newrelic.spec.go pod with ⟨p₁, _ | e⟩
  · exact bind_eq_some_mono (fun _ => id) (fun p₂ => injectCommonSDKConfig_fuel_mono hle p₂ _ 0) pod'
  · exact id

end Fuel

theorem withInstrumentation_mono {inst : Option Instrumentation} {step step' : Instrumentation → Pod → Option Pod}
    (hstep : ∀ newrelic p p', step newrelic p = some p' → step' newrelic p = some p') (pod pod' : Pod)
    (h : withInstrumentation inst step pod = some pod') : withInstrumentation inst step' pod = some pod' := by
  cases inst with
  | none => exact h
  | some newrelic => exact hstep newrelic pod pod' h

/-- The depth bound of the model only cuts the ownership walk short, as Go's unbounded recursion
does not: a run of `inject` that returns a pod with some depth returns that pod with every larger
one. With `inject_returns`, the pod the model gives does not depend on the bound. -/
theorem inject_fuel_mono {client : Client} {fuel fuel' : Nat} (hle : fuel ≤ fuel') {apm : Apm}
    {insts : LanguageInstrumentations} {ns : Namespace} {pod pod' : Pod} {containerName goContainers : String}
    (h : inject client fuel apm insts ns pod containerName goContainers = some pod') :
    inject client fuel' apm insts ns pod containerName goContainers = some pod' := by
  unfold inject at h ⊢
  by_cases hlen : pod.spec.containers.length < 1
  · rwa [if_pos hlen] at h ⊢
  · rw [if_neg hlen] at h ⊢
    simp only [Option.bind_eq_bind] at h ⊢
    have lang : ∀ (inst : Option Instrumentation) (agent : Instrumentation → Pod → Nat → Pod × Option String) p p',
        withInstrumentation inst (fun nr => injectLanguage client fuel ns nr (agent nr)
          (getContainerIndex containerName pod)) p = some p' →
        withInstrumentation inst (fun nr => injectLanguage client fuel' ns nr (agent nr)
          (getContainerIndex containerName pod)) p = some p' :=
      fun _ agent => withInstrumentation_mono fun nr => injectLanguage_fuel_mono hle (agent nr) _
    exact bind_eq_some_mono (lang _ _ _) (fun _ => bind_eq_some_mono (lang _ _ _) fun _ =>
      bind_eq_some_mono (lang _ _ _) fun _ => bind_eq_some_mono (lang _ _ _) fun _ =>
      bind_eq_some_mono (lang _ _ _) fun _ => withInstrumentation_mono (fun _ => injectGo_fuel_mono hle apm goContainers) _)
      pod' h

theorem inject_fuel_mono_proxyAppPod :
    inject noReplicaSets 5 goSidecarApm { java := some {}, go := some logLevelInst } appNamespace proxyAppPod
      "app" "app" =
    some ((inject noReplicaSets 1 goSidecarApm { java := some {}, go := some logLevelInst } appNamespace proxyAppPod
      "app" "app").getD proxyAppPod) :=
  inject_fuel_mono (by decide) (eq_some_getD _ (by decide))

/-! ## `inject` hangs on an endless chain of owners -/

/-- Every agent injector of `apm` succeeds. -/
structure Apm.Succeeds (apm : Apm) : Prop where
  javaagent : ∀ lang pod index, (apm.injectJavaagent lang pod index).2 = none
  nodeJSSDK : ∀ lang pod index, (apm.injectNodeJSSDK lang pod index).2 = none
  pythonSDK : ∀ lang pod index, (apm.injectPythonSDK lang pod index).2 = none
  dotNetSDK : ∀ lang pod index, (apm.injectDotNetSDK lang pod index).2 = none
  phpagent : ∀ lang pod index, (apm.injectPhpagent lang pod index).2 = none
  goSDK : ∀ lang pod, (apm.injectGoSDK lang pod).2 = none

/-- Some language has an Instrumentation. -/
def LanguageInstrumentations.Any (insts : LanguageInstrumentations) : Prop :=
  insts.java.isSome ∨ insts.nodeJS.isSome ∨ insts.python.isSome ∨ insts.dotNet.isSome ∨ insts.php.isSome ∨
    insts.go.isSome

section Walks

variable {client : Client} {fuel : Nat} {ns : Namespace} {newrelic : Instrumentation} {pod pod' : Pod}

theorem injectNewrelicConfig_acc {index : Nat} (h : injectNewrelicConfig client fuel newrelic ns pod index = some pod') :
    Acc (WalksTo client ns) pod.objectMeta := by
  obtain ⟨-, m, -, -, hm, -⟩ := injectNewrelicConfig_eq_some h
  exact ((createResourceMap_returns_iff client newrelic ns pod index).1 ⟨fuel, m, hm⟩).2

theorem injectCommonSDKConfig_acc {agentIndex appIndex : Nat}
    (h : injectCommonSDKConfig client fuel newrelic ns pod agentIndex appIndex = some pod') :
    Acc (WalksTo client ns) pod.objectMeta := by
  obtain ⟨-, m₀, -, -, -, hm₀, -⟩ := injectCommonSDKConfig_eq_some h
  exact ((createResourceMap_returns_iff client newrelic ns pod appIndex).1 ⟨fuel, m₀, hm₀⟩).2

theorem injectLanguage_acc {agent : Pod → Nat → Pod × Option String} {index : Nat}
    (hok : (agent pod index).2 = none) (hmeta : (agent pod index).1.objectMeta = pod.objectMeta)
    (h : injectLanguage client fuel ns newrelic agent index pod = some pod') : Acc (WalksTo client ns) pod.objectMeta := by
  unfold injectLanguage at h
  rcases hag : agent pod index with ⟨p₁, _ | e⟩ <;> rw [hag] at h hok hmeta <;> dsimp only at h hok hmeta
  · exact hmeta ▸ injectNewrelicConfig_acc h
  · cases hok

theorem injectGo_acc {apm : Apm} {goContainers : String} (hok : (apm.injectGoSDK newrelic.spec.go pod).2 = none)
    (hmeta : (apm.injectGoSDK newrelic.spec.go pod).1.objectMeta = pod.objectMeta)
    (h : injectGo client fuel ns apm goContainers newrelic pod = some pod') : Acc (WalksTo client ns) pod.objectMeta := by
  unfold injectGo at h
  rcases hag : apm.injectGoSDK newrelic.spec.go pod with ⟨p₁, _ | e⟩ <;> rw [hag] at h hok hmeta <;>
    dsimp only at h hok hmeta
  · simp only [Option.bind_eq_bind, Option.bind_eq_some] at h
    obtain ⟨p₂, h₂, h₃⟩ := h
    exact ((injectCommonEnvVar_keeps h₂).frame.1.trans hmeta) ▸ injectCommonSDKConfig_acc h₃
  · cases hok

end Walks

/-- A run of `inject` that configures some language has walked the pod's owners to the end. -/
theorem acc_of_inject_eq_some {client : Client} {fuel : Nat} {apm : Apm} (hapm : apm.Keeps Grows)
    (hok : apm.Succeeds) {insts : LanguageInstrumentations} (hany : insts.Any) {ns : Namespace} {pod pod' : Pod}
    {containerName goContainers : String} (hpos : 0 < pod.spec.containers.length)
    (h : inject client fuel apm insts ns pod containerName goContainers = some pod') :
    Acc (WalksTo client ns) pod.objectMeta := by
  rw [inject, if_neg (by omega)] at h
  simp only [Option.bind_eq_bind, Option.bind_eq_some] at h
  obtain ⟨p₁, h₁, p₂, h₂, p₃, h₃, p₄, h₄, p₅, h₅, h₆⟩ := h
  have lang : ∀ {inst : Option Instrumentation} {agent : Instrumentation → Pod → Nat → Pod × Option String},
      (∀ nr p i, Grows p (agent nr p i).1) → (∀ nr p i, (agent nr p i).2 = none) → ∀ {p p' : Pod},
      withInstrumentation inst (fun nr => injectLanguage client fuel ns nr (agent nr)
        (getContainerIndex containerName pod)) p = some p' →
      p'.objectMeta = p.objectMeta ∧ (inst.isSome → Acc (WalksTo client ns) p.objectMeta) := by
    intro inst agent hg hs p p' h
    cases inst with
    | none => cases h; exact ⟨rfl, nofun⟩
    | some nr =>
      exact ⟨(injectLanguage_rel (fun q => hg nr q _) (fun _ _ h => (injectNewrelicConfig_keeps h).grows)
        Grows.trans h).1, fun _ => injectLanguage_acc (hs nr p _) (hg nr p _).1 h⟩
  obtain ⟨e₁, a₁⟩ := lang (fun nr => hapm.javaagent nr.spec.java) (fun nr => hok.javaagent nr.spec.java) h₁
  obtain ⟨e₂, a₂⟩ := lang (fun nr => hapm.nodeJSSDK nr.spec.nodeJS) (fun nr => hok.nodeJSSDK nr.spec.nodeJS) h₂
  obtain ⟨e₃, a₃⟩ := lang (fun nr => hapm.pythonSDK nr.spec.python) (fun nr => hok.pythonSDK nr.spec.python) h₃
  obtain ⟨e₄, a₄⟩ := lang (fun nr => hapm.dotNetSDK nr.spec.dotNet) (fun nr => hok.dotNetSDK nr.spec.dotNet) h₄
  obtain ⟨e₅, a₅⟩ := lang (fun nr => hapm.phpagent nr.spec.php) (fun nr => hok.phpagent nr.spec.php) h₅
  rcases hany with hs | hs | hs | hs | hs | hs
  · exact a₁ hs
  · exact e₁ ▸ a₂ hs
  · exact (e₂.trans e₁) ▸ a₃ hs
  · exact (e₃.trans (e₂.trans e₁)) ▸ a₄ hs
  · exact (e₄.trans (e₃.trans (e₂.trans e₁))) ▸ a₅ hs
  · obtain ⟨nr, hnr⟩ := Option.isSome_iff_exists.1 hs
    rw [hnr] at h₆
    exact (e₅.trans (e₄.trans (e₃.trans (e₂.trans e₁)))) ▸
      injectGo_acc (hok.goSDK _ _) (hapm.goSDK _ _).1 h₆

/-- The converse of `inject_returns`: with agent injectors that keep the pod's metadata and succeed,
and an Instrumentation for some language, `inject` returns on a pod with a container only when the
ownership walk ends. Above an endless chain of ReplicaSet owners (one that owns itself, say) it
returns at no depth: the admission request never gets its answer. -/
theorem inject_never_returns {client : Client} {apm : Apm} (hapm : apm.Keeps Grows) (hok : apm.Succeeds)
    {insts : LanguageInstrumentations} (hany : insts.Any) {ns : Namespace} {pod : Pod}
    (hpos : 0 < pod.spec.containers.length) (hcyc : ¬ Acc (WalksTo client ns) pod.objectMeta)
    (containerName goContainers : String) :
    ¬ ∃ fuel pod', inject client fuel apm insts ns pod containerName goContainers = some pod' :=
  fun ⟨_, _, h⟩ => hcyc (acc_of_inject_eq_some hapm hok hany hpos h)

theorem goSidecarApm_succeeds : goSidecarApm.Succeeds :=
  ⟨fun _ _ _ => rfl, fun _ _ _ => rfl, fun _ _ _ => rfl, fun _ _ _ => rfl, fun _ _ _ => rfl, fun _ _ => rfl⟩

/-- A pod owned by the ReplicaSet `rs` of `selfOwnedCluster`, which owns itself. -/
def selfOwnedPod : Pod :=
  { objectMeta := { name := "pod", ownerReferences := [rsOwner] }, spec := { containers := [appContainer] } }

theorem not_acc_selfOwnedPod : ¬ Acc (WalksTo selfOwnedCluster {}) selfOwnedPod.objectMeta := fun hacc =>
  have hstep : ∀ m : ObjectMeta, m.ownerReferences = [rsOwner] →
      WalksTo selfOwnedCluster {} { name := "rs", ownerReferences := [rsOwner] } m :=
    fun m hm => ⟨rsOwner, by simp [hm], by decide, rfl⟩
  not_acc_of_self (hstep _ rfl) (hacc.inv (hstep _ rfl))

theorem inject_never_returns_selfOwnedPod :
    ¬ ∃ fuel pod', inject selfOwnedCluster fuel goSidecarApm { java := some {} } {} selfOwnedPod "app" "" = some pod' :=
  inject_never_returns goSidecarApm_grows goSidecarApm_succeeds (.inl (by rfl)) (by decide) not_acc_selfOwnedPod "app" ""

end K8sAgentsOperator.Instrumentation
