import K8sAgentsOperator.Reinvocation
import K8sAgentsOperator.SdkInjector
/-!
# A whole run of `inject`

`inject` runs up to six language steps on a pod, each an agent injector of the `apm` package
followed by the operator's own injectors. What the `apm` package does is not among the sources,
so each theorem here assumes of it only what it needs, as `Apm.Keeps R`: every agent injector
relates its input and its output by `R`. A relation that the operator's steps keep as well is
then kept by the whole run (`inject_rel`).

Given agent injectors that drop no env entry, `inject` drops none (`inject_keeps_env`). With no Go
Instrumentation it also keeps env names distinct (`inject_keeps_distinct_names`); the Go branch does
not, through `injectCommonSDKConfig`'s downward-API entries, and those are the only names a run
can repeat (`inject_adds_absent`). The operator's steps configure the
container `getContainerIndex` chooses: the last one of the requested name, or the first container
(`getContainerIndex_last`). With agent injectors that write only that container, and an
`InjectGoSDK` that adds the sidecar, no other container of the pod is written (`inject_writes_only`).
-/

namespace K8sAgentsOperator.Instrumentation

/-! ## The chosen container -/

/-- The loop of `getContainerIndex` from position `n` and index `init`: the position of the last
container named `containerName`, or `init` when none is. -/
theorem foldl_enumFrom_last (containerName : String) : ∀ (l : List Container) (n init : Nat),
    ((l.enumFrom n).foldl (fun index ic => if ic.2.name = containerName then ic.1 else index) init = init ∧
      ∀ c ∈ l, c.name ≠ containerName) ∨
    ∃ i c, (l.enumFrom n).foldl (fun index ic => if ic.2.name = containerName then ic.1 else index) init = n + i ∧
      l[i]? = some c ∧ c.name = containerName ∧ ∀ j c', i < j → l[j]? = some c' → c'.name ≠ containerName
  | [], _, _ => .inl ⟨rfl, by simp⟩
  | x :: xs, n, init => by
    rw [List.enumFrom_cons, List.foldl_cons]
    dsimp only
    rcases foldl_enumFrom_last containerName xs (n + 1) (if x.name = containerName then n else init) with
      ⟨hr, hnone⟩ | ⟨i, c, hr, hi, hc, hlater⟩
    · rw [hr]
      by_cases hx : x.name = containerName
      · refine .inr ⟨0, x, by simp [hx], List.getElem?_cons_zero, hx, fun j c' hj hc' => ?_⟩
        obtain ⟨j, rfl⟩ := Nat.exists_eq_add_of_lt hj
        exact hnone c' (List.getElem?_mem (by simpa using hc'))
      · exact .inl ⟨if_neg hx, fun c hc => (List.mem_cons.1 hc).elim (fun h => h ▸ hx) (hnone c)⟩
    · refine .inr ⟨i + 1, c, by omega, by simpa using hi, hc, fun j c' hj hc' => ?_⟩
      obtain ⟨j, rfl⟩ := Nat.exists_eq_add_of_lt (Nat.lt_of_succ_lt hj)
      exact hlater (i + j + 1 - 1) c' (by omega) (by simpa [Nat.add_right_comm] using hc')

/-- `getContainerIndex` chooses the last container named `containerName`, and the first container
when none has that name. -/
theorem getContainerIndex_last (containerName : String) (pod : Pod) :
    (getContainerIndex containerName pod = 0 ∧ ∀ c ∈ pod.spec.containers, c.name ≠ containerName) ∨
    ∃ c, pod.spec.containers[getContainerIndex containerName pod]? = some c ∧ c.name = containerName ∧
      ∀ j c', getContainerIndex containerName pod < j → pod.spec.containers[j]? = some c' → c'.name ≠ containerName := by
  rcases foldl_enumFrom_last containerName pod.spec.containers 0 0 with h | ⟨i, c, hr, hi, hc, hlater⟩
  · exact .inl h
  · rw [getContainerIndex, List.enum, hr, Nat.zero_add]
    exact .inr ⟨c, hi, hc, hlater⟩

theorem getContainerIndex_lt (containerName : String) {pod : Pod} (h : 0 < pod.spec.containers.length) :
    getContainerIndex containerName pod < pod.spec.containers.length := by
  rcases foldl_enumFrom_last containerName pod.spec.containers 0 0 with ⟨h0, -⟩ | ⟨i, c, hr, hi, -⟩
  · rwa [getContainerIndex, List.enum, h0]
  · rw [getContainerIndex, List.enum, hr, Nat.zero_add]
    exact (List.getElem?_eq_some_iff.1 hi).1

/-! ## What a run keeps -/

/-- Every agent injector of `apm` relates the pod it is given to the pod it returns by `R`,
whether it reports an error or not. -/
structure Apm.Keeps (apm : Apm) (R : Pod → Pod → Prop) : Prop where
  javaagent : ∀ lang pod index, R pod (apm.injectJavaagent lang pod index).1
  nodeJSSDK : ∀ lang pod index, R pod (apm.injectNodeJSSDK lang pod index).1
  pythonSDK : ∀ lang pod index, R pod (apm.injectPythonSDK lang pod index).1
  dotNetSDK : ∀ lang pod index, R pod (apm.injectDotNetSDK lang pod index).1
  phpagent : ∀ lang pod index, R pod (apm.injectPhpagent lang pod index).1
  goSDK : ∀ lang pod, R pod (apm.injectGoSDK lang pod).1

/-- The agent injectors of the languages other than Go relate input and output by `R` when they
are given container `index`, the one `inject` gives them. -/
structure Apm.AgentsKeep (apm : Apm) (index : Nat) (R : Pod → Pod → Prop) : Prop where
  javaagent : ∀ lang pod, R pod (apm.injectJavaagent lang pod index).1
  nodeJSSDK : ∀ lang pod, R pod (apm.injectNodeJSSDK lang pod index).1
  pythonSDK : ∀ lang pod, R pod (apm.injectPythonSDK lang pod index).1
  dotNetSDK : ∀ lang pod, R pod (apm.injectDotNetSDK lang pod index).1
  phpagent : ∀ lang pod, R pod (apm.injectPhpagent lang pod index).1

theorem Apm.Keeps.agentsKeep {apm : Apm} {R : Pod → Pod → Prop} (h : apm.Keeps R) (index : Nat) :
    apm.AgentsKeep index R :=
  ⟨fun l p => h.javaagent l p index, fun l p => h.nodeJSSDK l p index, fun l p => h.pythonSDK l p index,
    fun l p => h.dotNetSDK l p index, fun l p => h.phpagent l p index⟩

section Run

variable {client : Client} {fuel : Nat} {ns : Namespace} {R : Pod → Pod → Prop}

theorem injectLanguage_rel {newrelic : Instrumentation} {agent : Pod → Nat → Pod × Option String}
    {index : Nat} (hagent : ∀ p, R p (agent p index).1)
    (hnr : ∀ p p', injectNewrelicConfig client fuel newrelic ns p index = some p' → R p p')
    (trans : ∀ {p q r}, R p q → R q r → R p r) {pod pod' : Pod} (h : injectLanguage client fuel ns newrelic agent index pod = some pod') : R pod pod' := by
  unfold injectLanguage at h
  split at h
  · next p₁ _ heq =>
    obtain ⟨-, -, rfl⟩ := Option.map_eq_some'.1 h
    simpa [heq] using hagent pod
  · next p₁ heq => exact trans (by simpa [heq] using hagent pod) (hnr _ _ h)

theorem injectGo_rel {apm : Apm} {goContainers : String} {newrelic : Instrumentation}
    (hgo : ∀ p, R p (apm.injectGoSDK newrelic.spec.go p).1)
    (henv : ∀ p p' i, injectCommonEnvVar newrelic p i = some p' → R p p')
    (hsdk : ∀ p p' i j, injectCommonSDKConfig client fuel newrelic ns p i j = some p' → R p p')
    (trans : ∀ {p q r}, R p q → R q r → R p r) {pod pod' : Pod} (h : injectGo client fuel ns apm goContainers newrelic pod = some pod') : R pod pod' := by
  unfold injectGo at h
  split at h
  · next p₁ _ heq =>
    obtain ⟨-, -, rfl⟩ := Option.map_eq_some'.1 h
    simpa [heq] using hgo pod
  · next p₁ heq =>
    simp only [Option.bind_eq_bind, Option.bind_eq_some] at h
    obtain ⟨p₂, h₂, h₃⟩ := h
    exact trans (trans (by simpa [heq] using hgo pod) (henv _ _ _ h₂)) (hsdk _ _ _ _ h₃)

theorem withInstrumentation_rel (refl : ∀ p, R p p) {inst : Option Instrumentation}
    {step : Instrumentation → Pod → Option Pod}
    (hstep : ∀ newrelic, inst = some newrelic → ∀ p p', step newrelic p = some p' → R p p') {pod pod' : Pod}
    (h : withInstrumentation inst step pod = some pod') : R pod pod' := by
  cases inst with
  | none => cases h; exact refl pod
  | some newrelic => exact hstep newrelic rfl _ _ h

/-- A relation that the agent injectors, `injectNewrelicConfig` and the Go step keep, at the
container `inject` chooses, is kept by `inject`. -/
theorem inject_rel {apm : Apm} {pod : Pod} {containerName : String}
    (hapm : apm.AgentsKeep (getContainerIndex containerName pod) R)
    (hnr : ∀ newrelic p p', injectNewrelicConfig client fuel newrelic ns p (getContainerIndex containerName pod) =
      some p' → R p p')
    {insts : LanguageInstrumentations} {goContainers : String}
    (hgo : ∀ newrelic, insts.go = some newrelic →
      ∀ p p', injectGo client fuel ns apm goContainers newrelic p = some p' → R p p')
    (refl : ∀ p, R p p) (trans : ∀ {p q r}, R p q → R q r → R p r) {pod' : Pod}
    (h : inject client fuel apm insts ns pod containerName goContainers = some pod') : R pod pod' := by
  unfold inject at h
  split at h
  · cases h; exact refl pod
  · simp only [Option.bind_eq_bind, Option.bind_eq_some] at h
    obtain ⟨p₁, h₁, p₂, h₂, p₃, h₃, p₄, h₄, p₅, h₅, h₆⟩ := h
    have lang : ∀ {inst : Option Instrumentation} {agent : Instrumentation → Pod → Nat → Pod × Option String},
        (∀ newrelic p, R p (agent newrelic p (getContainerIndex containerName pod)).1) → ∀ p p',
          withInstrumentation inst (fun nr => injectLanguage client fuel ns nr (agent nr)
            (getContainerIndex containerName pod)) p = some p' → R p p' := by
      intro inst agent hk p p' h
      refine withInstrumentation_rel refl (fun nr _ q q' hq => ?_) h
      exact injectLanguage_rel (fun p => hk nr p) (hnr nr) trans hq
    exact trans (lang (fun nr => hapm.javaagent nr.spec.java) _ _ h₁) <| trans
      (lang (fun nr => hapm.nodeJSSDK nr.spec.nodeJS) _ _ h₂) <| trans
      (lang (fun nr => hapm.pythonSDK nr.spec.python) _ _ h₃) <| trans
      (lang (fun nr => hapm.dotNetSDK nr.spec.dotNet) _ _ h₄) <| trans
      (lang (fun nr => hapm.phpagent nr.spec.php) _ _ h₅) (withInstrumentation_rel refl hgo h₆)

end Run

/-! ## Env entries survive -/

/-- `e` is in `env'` with its name and source, and a value that extends its old one. -/
def EntrySurvives (env' : List EnvVar) (e : EnvVar) : Prop :=
  ∃ e' ∈ env', e'.name = e.name ∧ e'.valueFrom = e.valueFrom ∧ e.value.data <+: e'.value.data

theorem entrySurvives_of_mem {env' : List EnvVar} {e : EnvVar} (h : e ∈ env') : EntrySurvives env' e :=
  ⟨e, h, rfl, rfl, List.prefix_refl _⟩

/-- Every container of `pod` is at its position in `pod'` under its name, and each of its env
entries survives there. -/
def EnvSurvives (pod pod' : Pod) : Prop :=
  ∀ (i : Nat) (c : Container), pod.spec.containers[i]? = some c →
    ∃ c' : Container, pod'.spec.containers[i]? = some c' ∧ c'.name = c.name ∧ ∀ e ∈ c.env, EntrySurvives c'.env e

theorem EnvSurvives.refl (pod : Pod) : EnvSurvives pod pod := fun _ c hc =>
  ⟨c, hc, rfl, fun _ => entrySurvives_of_mem⟩

theorem EnvSurvives.trans {p q r : Pod} (h₁ : EnvSurvives p q) (h₂ : EnvSurvives q r) : EnvSurvives p r := by
  intro i c hc
  obtain ⟨c₁, hc₁, hn₁, he₁⟩ := h₁ i c hc
  obtain ⟨c₂, hc₂, hn₂, he₂⟩ := h₂ i c₁ hc₁
  refine ⟨c₂, hc₂, hn₂.trans hn₁, fun e he => ?_⟩
  obtain ⟨e₁, hm₁, hn, hv, hp⟩ := he₁ e he
  obtain ⟨e₂, hm₂, hn', hv', hp'⟩ := he₂ e₁ hm₁
  exact ⟨e₂, hm₂, hn'.trans hn, hv'.trans hv, hp.trans hp'⟩

theorem KeepsEntries.survives {env env' : List EnvVar} (h : KeepsEntries env env') :
    ∀ e ∈ env, EntrySurvives env' e := by
  rcases h with h | ⟨pre, e₀, post, added, s, rfl, -, -, rfl⟩
  · exact fun e he => entrySurvives_of_mem (h.subset he)
  · intro e he
    rcases List.mem_append.1 he with he | he
    · exact entrySurvives_of_mem (by simp [he])
    rcases List.mem_cons.1 he with rfl | he
    · exact ⟨{ e with value := e.value ++ s }, by simp, rfl, rfl, by simp⟩
    · exact entrySurvives_of_mem (by simp [he])

theorem KeepsPod.envSurvives {pod pod' : Pod} {index : Nat} (h : KeepsPod pod pod' index) :
    EnvSurvives pod pod' := by
  obtain ⟨c, env', hc, rfl, hk⟩ := h
  intro i c' hc'
  by_cases hi : i = index
  · subst hi
    obtain rfl : c' = c := Option.some.inj (hc'.symm.trans hc)
    exact ⟨_, Pod.setEnv_container hc env', rfl, hk.survives⟩
  · exact ⟨c', (Pod.setEnv_ne c env' (Ne.symm hi)).trans hc', rfl, fun _ => entrySurvives_of_mem⟩

/-- With agent injectors that drop no container and no env entry, `inject` drops none: every env
entry of every container is still there, with its name and source and its value at most extended. -/
theorem inject_keeps_env {client : Client} {fuel : Nat} {apm : Apm} (hapm : apm.Keeps EnvSurvives)
    {insts : LanguageInstrumentations} {ns : Namespace} {pod pod' : Pod} {containerName goContainers : String}
    (h : inject client fuel apm insts ns pod containerName goContainers = some pod') : EnvSurvives pod pod' :=
  inject_rel (hapm.agentsKeep _) (fun _ _ _ h => (injectNewrelicConfig_keeps h).envSurvives)
    (fun _ _ _ _ h => injectGo_rel (hapm.goSDK _) (fun _ _ _ h => (injectCommonEnvVar_keeps h).envSurvives)
      (fun _ _ _ _ h => (injectCommonSDKConfig_keeps h).envSurvives) EnvSurvives.trans h)
    EnvSurvives.refl EnvSurvives.trans h

/-- With no Go Instrumentation, and agent injectors that keep each container's env names
distinct, `inject` keeps them distinct. -/
theorem inject_keeps_distinct_names {client : Client} {fuel : Nat} {apm : Apm}
    (hapm : apm.Keeps fun p p' => DistinctEnvNames p → DistinctEnvNames p') {insts : LanguageInstrumentations}
    (hgo : insts.go = none) {ns : Namespace} {pod pod' : Pod} {containerName goContainers : String}
    (h : inject client fuel apm insts ns pod containerName goContainers = some pod') (hd : DistinctEnvNames pod) :
    DistinctEnvNames pod' :=
  inject_rel (hapm.agentsKeep _) (fun _ _ _ h => injectNewrelicConfig_distinct h) (fun _ h => by simp [hgo] at h)
    (fun _ => id) (fun h₁ h₂ => h₂ ∘ h₁) h hd

/-! ### The sidecar `apm` package of `SdkInjector` -/

/-- The sidecar's `InjectGoSDK` keeps every container at its position. -/
theorem goSidecarApm_keeps_containers (lang : LanguageSpec) {pod : Pod} {j : Nat} {c : Container}
    (hc : pod.spec.containers[j]? = some c) : (goSidecarApm.injectGoSDK lang pod).1.spec.containers[j]? = some c :=
  (List.getElem?_append_left (List.getElem?_eq_some_iff.1 hc).1).trans hc

theorem goSidecarApm_envSurvives : goSidecarApm.Keeps EnvSurvives where
  javaagent _ pod _ := EnvSurvives.refl pod
  nodeJSSDK _ pod _ := EnvSurvives.refl pod
  pythonSDK _ pod _ := EnvSurvives.refl pod
  dotNetSDK _ pod _ := EnvSurvives.refl pod
  phpagent _ pod _ := EnvSurvives.refl pod
  goSDK lang _ _ c hc := ⟨c, goSidecarApm_keeps_containers lang hc, rfl, fun _ => entrySurvives_of_mem⟩

theorem goSidecarApm_distinct : goSidecarApm.Keeps fun p p' => DistinctEnvNames p → DistinctEnvNames p' where
  javaagent _ _ _ := id
  nodeJSSDK _ _ _ := id
  pythonSDK _ _ _ := id
  dotNetSDK _ _ _ := id
  phpagent _ _ _ := id
  goSDK _ _ hd c hc := by
    simp only [goSidecarApm, List.mem_append, List.mem_singleton] at hc
    rcases hc with hc | rfl
    · exact hd c hc
    · exact List.nodup_nil

theorem inject_keeps_env_proxyAppPod :
    EnvSurvives proxyAppPod ((inject noReplicaSets 1 goSidecarApm { java := some {}, go := some {} } appNamespace
      proxyAppPod "app" "app").getD proxyAppPod) :=
  @inject_keeps_env noReplicaSets 1 goSidecarApm goSidecarApm_envSurvives { java := some {}, go := some {} }
    appNamespace proxyAppPod _ "app" "app" (eq_some_getD _ (by decide))

theorem inject_keeps_distinct_names_appPod :
    DistinctEnvNames appPod ∧
    DistinctEnvNames ((inject noReplicaSets 1 goSidecarApm { java := some {} } appNamespace appPod "app" "").getD
      appPod) :=
  ⟨by decide, @inject_keeps_distinct_names noReplicaSets 1 goSidecarApm goSidecarApm_distinct { java := some {} } rfl
    appNamespace appPod _ "app" "" (eq_some_getD _ (by decide)) (by decide)⟩

/-! ## Names added only where absent -/

/-- Every container of `pod` is at its position in `pod'`, and gained a name outside `S` only
where it had none. -/
def PodAddsAbsent (S : List String) (pod pod' : Pod) : Prop :=
  ∀ (j : Nat) (c : Container), pod.spec.containers[j]? = some c →
    ∃ c' : Container, pod'.spec.containers[j]? = some c' ∧ AddsAbsent S c.env c'.env

theorem PodAddsAbsent.refl (S : List String) (pod : Pod) : PodAddsAbsent S pod pod :=
  fun _ c hc => ⟨c, hc, .refl S c.env⟩

theorem PodAddsAbsent.trans {S : List String} {p q r : Pod} (h₁ : PodAddsAbsent S p q)
    (h₂ : PodAddsAbsent S q r) : PodAddsAbsent S p r := by
  intro j c hc
  obtain ⟨c₁, hc₁, a₁⟩ := h₁ j c hc
  obtain ⟨c₂, hc₂, a₂⟩ := h₂ j c₁ hc₁
  exact ⟨c₂, hc₂, a₁.trans a₂⟩

theorem podAddsAbsent_setEnv {S : List String} {pod : Pod} {index : Nat} {c : Container}
    (hc : pod.spec.containers[index]? = some c) {env : List EnvVar} (h : AddsAbsent S c.env env) :
    PodAddsAbsent S pod (pod.setEnv index c env) := by
  intro j c' hc'
  by_cases hj : j = index
  · subst hj
    obtain rfl := Option.some.inj (hc'.symm.trans hc)
    exact ⟨_, Pod.setEnv_container hc env, h⟩
  · exact ⟨c', (Pod.setEnv_ne c env (Ne.symm hj)).trans hc', .refl S c'.env⟩

/-- With agent injectors that add an env name to a container only where it has none, the three
downward-API names apart, `inject` does the same to every container of the pod: a name the Go step
appends without a look is the only kind a run can repeat. -/
theorem inject_adds_absent {client : Client} {fuel : Nat} {apm : Apm} (hapm : apm.Keeps (PodAddsAbsent fallbackNames))
    {insts : LanguageInstrumentations} {ns : Namespace} {pod pod' : Pod} {containerName goContainers : String}
    (h : inject client fuel apm insts ns pod containerName goContainers = some pod') :
    PodAddsAbsent fallbackNames pod pod' := by
  have fold : ∀ {p : Pod} {index : Nat} {c : Container} (l : List EnvVar), p.spec.containers[index]? = some c →
      PodAddsAbsent fallbackNames p (p.setEnv index c (l.foldl appendIfAbsent c.env)) :=
    fun l hc => podAddsAbsent_setEnv hc (addsAbsent_foldl_appendIfAbsent _ l _)
  refine inject_rel (hapm.agentsKeep _) (fun _ _ _ h => ?_) (fun _ _ _ _ h => injectGo_rel (hapm.goSDK _)
    (fun _ _ _ h => ?_) (fun _ _ _ _ h => ?_) PodAddsAbsent.trans h) (PodAddsAbsent.refl _) PodAddsAbsent.trans h
  · obtain ⟨c, -, -, hc, -, -, rfl⟩ := injectNewrelicConfig_eq_some h
    exact fold _ hc
  · obtain ⟨c, hc, rfl⟩ := injectCommonEnvVar_eq_some h
    exact fold _ hc
  · obtain ⟨c, env', hc, rfl, hA⟩ := injectCommonSDKConfig_env_addsAbsent h
    exact podAddsAbsent_setEnv hc hA

theorem goSidecarApm_addsAbsent : goSidecarApm.Keeps (PodAddsAbsent fallbackNames) where
  javaagent _ pod _ := PodAddsAbsent.refl _ pod
  nodeJSSDK _ pod _ := PodAddsAbsent.refl _ pod
  pythonSDK _ pod _ := PodAddsAbsent.refl _ pod
  dotNetSDK _ pod _ := PodAddsAbsent.refl _ pod
  phpagent _ pod _ := PodAddsAbsent.refl _ pod
  goSDK lang _ _ c hc := ⟨c, goSidecarApm_keeps_containers lang hc, .refl _ c.env⟩

theorem inject_adds_absent_proxyAppPod :
    PodAddsAbsent fallbackNames proxyAppPod ((inject noReplicaSets 1 goSidecarApm
      { java := some {}, go := some logLevelInst } appNamespace proxyAppPod "app" "app").getD proxyAppPod) :=
  inject_adds_absent goSidecarApm_addsAbsent (eq_some_getD _ (by decide))

/-! ## The Go step writes to the sidecar only -/

/-- An injector that keeps container `index`'s entries changes nothing else of the pod. -/
theorem KeepsPod.frame {pod pod' : Pod} {index : Nat} (h : KeepsPod pod pod' index) :
    pod'.objectMeta = pod.objectMeta ∧ pod'.spec.containers.length = pod.spec.containers.length ∧
      ∀ j, j ≠ index → pod'.spec.containers[j]? = pod.spec.containers[j]? := by
  obtain ⟨c, env', -, rfl, -⟩ := h
  exact ⟨rfl, Pod.setEnv_length .., fun j hj => Pod.setEnv_ne c env' (Ne.symm hj)⟩

/-- After a successful `InjectGoSDK`, the Go step writes only to the last container of the pod it
returned, where the sidecar is: every other container, the application's among them, is left as
the agent injector left it. -/
theorem injectGo_writes_last {client : Client} {fuel : Nat} {ns : Namespace} {apm : Apm} {goContainers : String}
    {newrelic : Instrumentation} {pod pod' p₁ : Pod} (hgo : apm.injectGoSDK newrelic.spec.go pod = (p₁, none))
    (h : injectGo client fuel ns apm goContainers newrelic pod = some pod') :
    pod'.objectMeta = p₁.objectMeta ∧ pod'.spec.containers.length = p₁.spec.containers.length ∧
      ∀ j, j ≠ p₁.spec.containers.length - 1 → pod'.spec.containers[j]? = p₁.spec.containers[j]? := by
  simp only [injectGo, hgo, Option.bind_eq_bind, Option.bind_eq_some] at h
  obtain ⟨p₂, h₂, h₃⟩ := h
  obtain ⟨m₂, l₂, f₂⟩ := (injectCommonEnvVar_keeps h₂).frame
  obtain ⟨m₃, l₃, f₃⟩ := (injectCommonSDKConfig_keeps h₃).frame
  rw [l₂] at f₃
  exact ⟨m₃.trans m₂, l₃.trans l₂, fun j hj => (f₃ j hj).trans (f₂ j hj)⟩

theorem injectGo_writes_last_proxyAppPod :
    ((injectGo noReplicaSets 1 appNamespace goSidecarApm "app" {} proxyAppPod).getD proxyAppPod).objectMeta =
      (goSidecarApm.injectGoSDK ({} : Instrumentation).spec.go proxyAppPod).1.objectMeta ∧
    ((injectGo noReplicaSets 1 appNamespace goSidecarApm "app" {} proxyAppPod).getD proxyAppPod).spec.containers.length =
      (goSidecarApm.injectGoSDK ({} : Instrumentation).spec.go proxyAppPod).1.spec.containers.length ∧
    ∀ j, j ≠ (goSidecarApm.injectGoSDK ({} : Instrumentation).spec.go proxyAppPod).1.spec.containers.length - 1 →
      ((injectGo noReplicaSets 1 appNamespace goSidecarApm "app" {} proxyAppPod).getD proxyAppPod).spec.containers[j]? =
        (goSidecarApm.injectGoSDK ({} : Instrumentation).spec.go proxyAppPod).1.spec.containers[j]? :=
  @injectGo_writes_last noReplicaSets 1 appNamespace goSidecarApm "app" {} proxyAppPod _ _ rfl
    (eq_some_getD _ (by decide))

/-! ## Runs that keep the metadata -/

/-- The pod keeps its metadata and loses no container. -/
def Grows (pod pod' : Pod) : Prop :=
  pod'.objectMeta = pod.objectMeta ∧ pod.spec.containers.length ≤ pod'.spec.containers.length

theorem Grows.trans {p q r : Pod} (h₁ : Grows p q) (h₂ : Grows q r) : Grows p r :=
  ⟨h₂.1.trans h₁.1, h₁.2.trans h₂.2⟩

theorem grows_setEnv (pod : Pod) (index : Nat) (c : Container) (env : List EnvVar) :
    Grows pod (pod.setEnv index c env) :=
  ⟨rfl, (Pod.setEnv_length ..).ge⟩

theorem KeepsPod.grows {pod pod' : Pod} {index : Nat} (h : KeepsPod pod pod' index) : Grows pod pod' := by
  obtain ⟨c, env', -, rfl, -⟩ := h
  exact grows_setEnv ..

/-! ## Which containers a run writes -/

/-- `pod'` keeps the metadata of `pod` and each of its containers at a position outside `S`; it
may add containers after them. -/
def WritesOnly (S : Nat → Prop) (pod pod' : Pod) : Prop :=
  Grows pod pod' ∧ ∀ j < pod.spec.containers.length, ¬ S j → pod'.spec.containers[j]? = pod.spec.containers[j]?

theorem WritesOnly.refl (S : Nat → Prop) (pod : Pod) : WritesOnly S pod pod :=
  ⟨⟨rfl, le_rfl⟩, fun _ _ _ => rfl⟩

theorem WritesOnly.trans {S : Nat → Prop} {p q r : Pod} (h₁ : WritesOnly S p q) (h₂ : WritesOnly S q r) :
    WritesOnly S p r :=
  ⟨h₁.1.trans h₂.1, fun j hj hS => (h₂.2 j (hj.trans_le h₁.1.2) hS).trans (h₁.2 j hj hS)⟩

theorem WritesOnly.mono {S S' : Nat → Prop} (hS : ∀ j, S j → S' j) {p q : Pod} (h : WritesOnly S p q) :
    WritesOnly S' p q :=
  ⟨h.1, fun j hj hS' => h.2 j hj (hS' ∘ hS j)⟩

theorem KeepsPod.writesOnly {pod pod' : Pod} {index : Nat} (h : KeepsPod pod pod' index) :
    WritesOnly (· = index) pod pod' :=
  let ⟨hm, hl, hf⟩ := h.frame
  ⟨⟨hm, hl.ge⟩, fun j _ hj => hf j hj⟩

/-- `InjectGoSDK` writes none of the pod's containers, and adds one when it succeeds: the sidecar
of the Go agent. -/
def Apm.GoSDKAppends (apm : Apm) : Prop :=
  ∀ lang pod, WritesOnly (fun _ => False) pod (apm.injectGoSDK lang pod).1 ∧
    ((apm.injectGoSDK lang pod).2 = none →
      pod.spec.containers.length < (apm.injectGoSDK lang pod).1.spec.containers.length)

/-- When `InjectGoSDK` adds the sidecar, the Go step writes none of the containers it was given. -/
theorem injectGo_writes_none {client : Client} {fuel : Nat} {ns : Namespace} {apm : Apm} (hgo : apm.GoSDKAppends)
    {goContainers : String} {newrelic : Instrumentation} {pod pod' : Pod}
    (h : injectGo client fuel ns apm goContainers newrelic pod = some pod') : WritesOnly (fun _ => False) pod pod' := by
  obtain ⟨hw, hlen⟩ := hgo newrelic.spec.go pod
  unfold injectGo at h
  split at h
  · next p₁ _ heq =>
    obtain ⟨-, -, rfl⟩ := Option.map_eq_some'.1 h
    simpa [heq] using hw
  · next p₁ heq =>
    rw [heq] at hw hlen; dsimp only at hw hlen
    simp only [Option.bind_eq_bind, Option.bind_eq_some] at h
    obtain ⟨p₂, h₂, h₃⟩ := h
    obtain ⟨m₂, l₂, f₂⟩ := (injectCommonEnvVar_keeps h₂).frame
    obtain ⟨m₃, l₃, f₃⟩ := (injectCommonSDKConfig_keeps h₃).frame
    have hl := hlen rfl
    refine ⟨⟨m₃.trans (m₂.trans hw.1.1), by omega⟩, fun j hj _ => ?_⟩
    have hne : j ≠ p₁.spec.containers.length - 1 := by omega
    rw [f₃ j (l₂ ▸ hne), f₂ j hne, hw.2 j hj id]

/-- With agent injectors that write only the container they are given, and an `InjectGoSDK` that
adds the sidecar, `inject` writes only the container it chose: every other container of the pod
is left as it was, and the metadata too. Without the sidecar the Go step would write the pod's
last container. -/
theorem inject_writes_only {client : Client} {fuel : Nat} {apm : Apm}
    (hagents : ∀ index, apm.AgentsKeep index (WritesOnly (· = index))) (hgo : apm.GoSDKAppends)
    {insts : LanguageInstrumentations} {ns : Namespace} {pod pod' : Pod} {containerName goContainers : String}
    (h : inject client fuel apm insts ns pod containerName goContainers = some pod') :
    WritesOnly (· = getContainerIndex containerName pod) pod pod' :=
  inject_rel (hagents _) (fun _ _ _ h => (injectNewrelicConfig_keeps h).writesOnly)
    (fun _ _ _ _ h => (injectGo_writes_none hgo h).mono fun _ => False.elim)
    (WritesOnly.refl _) WritesOnly.trans h

theorem goSidecarApm_agentsWriteOnly (index : Nat) : goSidecarApm.AgentsKeep index (WritesOnly (· = index)) where
  javaagent _ pod := WritesOnly.refl _ pod
  nodeJSSDK _ pod := WritesOnly.refl _ pod
  pythonSDK _ pod := WritesOnly.refl _ pod
  dotNetSDK _ pod := WritesOnly.refl _ pod
  phpagent _ pod := WritesOnly.refl _ pod

theorem goSidecarApm_goSDKAppends : goSidecarApm.GoSDKAppends := fun _ pod =>
  ⟨⟨⟨rfl, by simp [goSidecarApm]⟩, fun j hj _ => by simp [goSidecarApm, List.getElem?_append_left hj]⟩,
    fun _ => by simp [goSidecarApm]⟩

/-- Java configures container `app`, the Go step the sidecar; container `proxy` is left as it was. -/
theorem inject_writes_only_proxyAppPod :
    WritesOnly (· = getContainerIndex "app" proxyAppPod) proxyAppPod
      ((inject noReplicaSets 1 goSidecarApm { java := some {}, go := some {} } appNamespace proxyAppPod
        "app" "app").getD proxyAppPod) :=
  inject_writes_only goSidecarApm_agentsWriteOnly goSidecarApm_goSDKAppends (eq_some_getD _ (by decide))

end K8sAgentsOperator.Instrumentation
