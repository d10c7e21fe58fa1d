import K8sAgentsOperator.Rerun
/-!
# Running an injector again

The admission webhook may see a pod it has already injected. `injectCommonEnvVar` and
`injectNewrelicConfig` append an entry only when no entry has its name, and after one run every
name they append is there, so a second run gives its input back (`injectCommonEnvVar_idempotent`,
`injectNewrelicConfig_idempotent`). The same check keeps a container's env names distinct
(`injectNewrelicConfig_distinct`) and decides which entry of a name comes first: the container's
own, else the first of the spec's (`injectCommonEnvVar_find`).
`injectCommonSDKConfig` has no such fixed point (`Rerun`), but outside the three downward-API
entries, which it appends unchecked, it too adds a name only when the container has none
(`injectCommonSDKConfig_adds_absent`).
-/

namespace K8sAgentsOperator.Instrumentation

/-! ## The insert-if-absent fold -/

theorem mem_names_appendIfAbsent (env : List EnvVar) (e : EnvVar) : e.name ∈ names (appendIfAbsent env e) := by
  rw [appendIfAbsent_eq]; split <;> simp_all

theorem appendIfAbsent_of_mem {env : List EnvVar} {e : EnvVar} (h : e.name ∈ names env) :
    appendIfAbsent env e = env := by
  rw [appendIfAbsent_eq, if_pos h, List.append_nil]

/-- After the fold every name of `l` is in the list. -/
theorem mem_names_foldl_appendIfAbsent (l env : List EnvVar) :
    ∀ e ∈ l, e.name ∈ names (l.foldl appendIfAbsent env) := by
  induction l generalizing env with
  | nil => simp
  | cons x xs ih =>
    intro e he
    rcases List.mem_cons.1 he with rfl | he
    · exact ((prefix_foldl_appendIfAbsent xs _).map _).subset (mem_names_appendIfAbsent env e)
    · exact ih _ e he

/-- A fold over entries whose names are all there changes nothing. -/
theorem foldl_appendIfAbsent_of_mem {l env : List EnvVar} (h : ∀ e ∈ l, e.name ∈ names env) :
    l.foldl appendIfAbsent env = env := by
  induction l with
  | nil => rfl
  | cons x xs ih =>
    rw [List.foldl_cons, appendIfAbsent_of_mem (h x (List.mem_cons_self _ _)),
      ih fun e he => h e (List.mem_cons_of_mem _ he)]

theorem nodup_names_appendIfAbsent {env : List EnvVar} (h : (names env).Nodup) (e : EnvVar) :
    (names (appendIfAbsent env e)).Nodup := by
  rw [appendIfAbsent_eq]
  split
  · simpa using h
  · next hn => simpa [List.nodup_append, h] using hn

theorem nodup_names_foldl_appendIfAbsent (l : List EnvVar) {env : List EnvVar} (h : (names env).Nodup) :
    (names (l.foldl appendIfAbsent env)).Nodup := by
  induction l generalizing env with
  | nil => exact h
  | cons x xs ih => exact ih (nodup_names_appendIfAbsent h x)

theorem find?_isSome_of_mem {env : List EnvVar} {n : String} (h : n ∈ names env) :
    (env.find? (·.name == n)).isSome := by
  obtain ⟨e, he, rfl⟩ := mem_names.1 h
  exact List.find?_isSome.2 ⟨e, he, beq_self_eq_true _⟩

/-- The first entry of a name after the fold: the list's own, else the first of `l`. -/
theorem find?_foldl_appendIfAbsent (l env : List EnvVar) (n : String) :
    (l.foldl appendIfAbsent env).find? (·.name == n) = (env.find? (·.name == n)).or (l.find? (·.name == n)) := by
  induction l generalizing env with
  | nil => simp
  | cons x xs ih =>
    rw [List.foldl_cons, ih, appendIfAbsent_eq, List.find?_append, List.find?_cons]
    by_cases hx : x.name ∈ names env
    · rw [if_pos hx, List.find?_nil, Option.or_none]
      cases hn : x.name == n
      · rfl
      · obtain ⟨e, he⟩ := Option.isSome_iff_exists.1 (find?_isSome_of_mem (beq_iff_eq.1 hn ▸ hx))
        simp [he]
    · rw [if_neg hx, Option.or_assoc, List.find?_singleton]
      cases x.name == n <;> rfl

/-! ## `injectCommonEnvVar` -/

/-- `injectCommonEnvVar` only appends, and then the container's first entry of each name is its
own one when it had one, else the first of the spec's env list. -/
theorem injectCommonEnvVar_find {newrelic : Instrumentation} {pod : Pod} {index : Nat} {c : Container}
    (hc : pod.spec.containers[index]? = some c) :
    ∃ added, injectCommonEnvVar newrelic pod index = some (pod.setEnv index c (c.env ++ added)) ∧
      ∀ n, (c.env ++ added).find? (·.name == n) =
        (c.env.find? (·.name == n)).or (newrelic.spec.env.find? (·.name == n)) := by
  obtain ⟨added, h, -⟩ := foldl_appendIfAbsent_eq newrelic.spec.env c.env
  exact ⟨added, by simp [injectCommonEnvVar, hc, h], fun n => h ▸ find?_foldl_appendIfAbsent _ _ n⟩

/-- An Instrumentation whose spec sets `NEW_RELIC_LOG_LEVEL`. -/
def logLevelInst : Instrumentation :=
  { spec := { env := [{ name := "NEW_RELIC_LOG_LEVEL", value := "info" }] } }

theorem injectCommonEnvVar_find_appPod :
    ∃ added, injectCommonEnvVar logLevelInst appPod 0 = some (appPod.setEnv 0 appContainer (appContainer.env ++ added)) ∧
      ∀ n, (appContainer.env ++ added).find? (·.name == n) =
        (appContainer.env.find? (·.name == n)).or (logLevelInst.spec.env.find? (·.name == n)) :=
  injectCommonEnvVar_find rfl

theorem injectCommonEnvVar_eq_some {newrelic : Instrumentation} {pod pod' : Pod} {index : Nat}
    (h : injectCommonEnvVar newrelic pod index = some pod') :
    ∃ c, pod.spec.containers[index]? = some c ∧
      pod' = pod.setEnv index c (newrelic.spec.env.foldl appendIfAbsent c.env) := by
  simp only [injectCommonEnvVar, Option.bind_eq_bind, Option.bind_eq_some, Option.pure_def,
    Option.some.injEq] at h
  obtain ⟨c, hc, rfl⟩ := h
  exact ⟨c, hc, rfl⟩

/-- A second `injectCommonEnvVar` on the output of a first gives it back. -/
theorem injectCommonEnvVar_idempotent {newrelic : Instrumentation} {pod pod' : Pod} {index : Nat}
    (h : injectCommonEnvVar newrelic pod index = some pod') : injectCommonEnvVar newrelic pod' index = some pod' := by
  obtain ⟨c, hc, rfl⟩ := injectCommonEnvVar_eq_some h
  simp [injectCommonEnvVar, Pod.setEnv_container hc,
    foldl_appendIfAbsent_of_mem (mem_names_foldl_appendIfAbsent newrelic.spec.env c.env)]

theorem injectCommonEnvVar_idempotent_appPod :
    injectCommonEnvVar logLevelInst appPod 0 = some (appPod.setEnv 0 appContainer logLevelInst.spec.env) ∧
    injectCommonEnvVar logLevelInst (appPod.setEnv 0 appContainer logLevelInst.spec.env) 0 =
      some (appPod.setEnv 0 appContainer logLevelInst.spec.env) :=
  ⟨rfl, @injectCommonEnvVar_idempotent logLevelInst appPod _ 0 rfl⟩

/-! ## `injectNewrelicConfig` -/

/-- The service name under `envName`, when no entry has that name: an insert-if-absent. -/
theorem withServiceName_of {envName : String} {pod : Pod} {m : Attrs} {index : Nat} {env : List EnvVar}
    {name : String} (h : envName ∉ names env → chooseServiceName pod m index = some name) :
    withServiceName envName pod m index env = some (appendIfAbsent env { name := envName, value := name }) := by
  by_cases hn : envName ∈ names env
  · rw [appendIfAbsent_of_mem hn]
    simp [withServiceName, getIndexOfEnv_eq_neg_one, hn]
  · simp [withServiceName, getIndexOfEnv_eq_neg_one.2 hn, h hn, appendIfAbsent_eq, hn]

/-- The entries `injectNewrelicConfig` inserts when absent, for the app name `name`. -/
def newrelicEntries (name : String) : List EnvVar :=
  [{ name := envNewRelicAppName, value := name }, licenseKeyEnv,
    { name := "NEW_RELIC_LABELS", value := "operator:auto-injection" }]

/-- `injectNewrelicConfig` is the insert-if-absent fold of its three entries. -/
theorem injectNewrelicConfig_eq_some {client : Client} {fuel : Nat} {newrelic : Instrumentation}
    {ns : Namespace} {pod pod' : Pod} {index : Nat}
    (h : injectNewrelicConfig client fuel newrelic ns pod index = some pod') :
    ∃ c m name, pod.spec.containers[index]? = some c ∧
      createResourceMap client fuel newrelic ns pod index = some m ∧
      (envNewRelicAppName ∉ names c.env → chooseServiceName pod m index = some name) ∧
      pod' = pod.setEnv index c ((newrelicEntries name).foldl appendIfAbsent c.env) := by
  simp only [injectNewrelicConfig, Option.bind_eq_bind, Option.bind_eq_some, Option.pure_def,
    Option.some.injEq] at h
  obtain ⟨c, hc, m, hm, env₁, henv₁, rfl⟩ := h
  obtain ⟨name, hname, rfl⟩ := withServiceName_some henv₁
  refine ⟨c, m, name, hc, hm, hname, ?_⟩
  simp only [newrelicEntries, List.foldl_cons, List.foldl_nil, appendIfAbsent_eq _ { name := envNewRelicAppName, value := name }]
  rfl

theorem injectNewrelicConfig_of {client : Client} {fuel : Nat} {newrelic : Instrumentation}
    {ns : Namespace} {pod : Pod} {index : Nat} {c : Container} {m : Attrs} (name : String)
    (hc : pod.spec.containers[index]? = some c) (hm : createResourceMap client fuel newrelic ns pod index = some m)
    (hname : envNewRelicAppName ∉ names c.env → chooseServiceName pod m index = some name) :
    injectNewrelicConfig client fuel newrelic ns pod index =
      some (pod.setEnv index c ((newrelicEntries name).foldl appendIfAbsent c.env)) := by
  simp only [injectNewrelicConfig, hc, hm, withServiceName_of hname, Option.bind_eq_bind, Option.some_bind]
  rfl

/-- `createResourceMap` reads of the target container only what an env write keeps: once it
returned, it returns on the pod with that container's env list replaced. -/
theorem createResourceMap_setEnv {client : Client} {fuel : Nat} {newrelic : Instrumentation} {ns : Namespace}
    {pod : Pod} {index : Nat} {c : Container} {m : Attrs} (hc : pod.spec.containers[index]? = some c)
    (hm : createResourceMap client fuel newrelic ns pod index = some m) (env : List EnvVar) :
    ∃ m', createResourceMap client fuel newrelic ns (pod.setEnv index c env) index = some m' := by
  obtain ⟨c', w, hc', hw, -⟩ := createResourceMap_eq_some hm
  obtain rfl : c' = c := Option.some.inj (hc'.symm.trans hc)
  exact ⟨_, createResourceMap_of_walk (Pod.setEnv_container hc env) hw⟩

/-- A second `injectNewrelicConfig` on the output of a first gives it back. -/
theorem injectNewrelicConfig_idempotent {client : Client} {fuel : Nat} {newrelic : Instrumentation}
    {ns : Namespace} {pod pod' : Pod} {index : Nat}
    (h : injectNewrelicConfig client fuel newrelic ns pod index = some pod') :
    injectNewrelicConfig client fuel newrelic ns pod' index = some pod' := by
  obtain ⟨c, m, name, hc, hm, -, rfl⟩ := injectNewrelicConfig_eq_some h
  have hall := mem_names_foldl_appendIfAbsent (newrelicEntries name) c.env
  obtain ⟨m', hm'⟩ := createResourceMap_setEnv hc hm ((newrelicEntries name).foldl appendIfAbsent c.env)
  rw [injectNewrelicConfig_of name (Pod.setEnv_container hc _) hm'
    fun h => absurd (hall _ (List.mem_cons_self _ _)) h]
  simp [foldl_appendIfAbsent_of_mem hall]

theorem injectNewrelicConfig_idempotent_appPod :
    injectNewrelicConfig noReplicaSets 1 {} appNamespace appPod 0 =
      some (appPod.setEnv 0 appContainer (newrelicEntries "p")) ∧
    injectNewrelicConfig noReplicaSets 1 {} appNamespace (appPod.setEnv 0 appContainer (newrelicEntries "p")) 0 =
      some (appPod.setEnv 0 appContainer (newrelicEntries "p")) :=
  ⟨by decide, @injectNewrelicConfig_idempotent noReplicaSets 1 {} appNamespace appPod _ 0 (by decide)⟩

/-! ## Distinct names -/

/-- No container of the pod holds two env entries of one name. -/
def DistinctEnvNames (pod : Pod) : Prop :=
  ∀ c ∈ pod.spec.containers, (names c.env).Nodup

instance : DecidablePred DistinctEnvNames := fun pod =>
  inferInstanceAs (Decidable (∀ c ∈ pod.spec.containers, (names c.env).Nodup))

theorem DistinctEnvNames.setEnv {pod : Pod} (h : DistinctEnvNames pod) {index : Nat} (c : Container)
    {env : List EnvVar} (henv : (names env).Nodup) : DistinctEnvNames (pod.setEnv index c env) := fun c' hc' =>
  (List.mem_or_eq_of_mem_set hc').elim (h c') fun h' => h' ▸ henv

theorem injectNewrelicConfig_distinct {client : Client} {fuel : Nat} {newrelic : Instrumentation}
    {ns : Namespace} {pod pod' : Pod} {index : Nat}
    (h : injectNewrelicConfig client fuel newrelic ns pod index = some pod') (hd : DistinctEnvNames pod) :
    DistinctEnvNames pod' := by
  obtain ⟨c, -, -, hc, -, -, rfl⟩ := injectNewrelicConfig_eq_some h
  exact hd.setEnv c (nodup_names_foldl_appendIfAbsent _ (hd c (List.getElem?_mem hc)))

/-! ## `injectCommonSDKConfig` adds a name only when it is absent -/

/-- Outside the names `S`, each name keeps its count from `env` to `env'`, or goes from none to
one: an entry of such a name is added only when the list has none. -/
def AddsAbsent (S : List String) (env env' : List EnvVar) : Prop :=
  ∀ n, n ∉ S → (names env').count n = (names env).count n ∨
    ((names env).count n = 0 ∧ (names env').count n = 1)

theorem AddsAbsent.trans {S : List String} {e₁ e₂ e₃ : List EnvVar} (h₁ : AddsAbsent S e₁ e₂)
    (h₂ : AddsAbsent S e₂ e₃) : AddsAbsent S e₁ e₃ := fun n hn => by
  rcases h₁ n hn with h₁ | h₁ <;> rcases h₂ n hn with h₂ | h₂ <;> omega

theorem AddsAbsent.refl (S : List String) (env : List EnvVar) : AddsAbsent S env env := fun _ _ => .inl rfl

theorem AddsAbsent.mono {S S' : List String} (hS : ∀ n ∈ S, n ∈ S') {env env' : List EnvVar}
    (h : AddsAbsent S env env') : AddsAbsent S' env env' :=
  fun n hn => h n (hn ∘ hS n)

theorem AddsAbsent.perm {S : List String} {env env' env'' : List EnvVar} (h : AddsAbsent S env env')
    (hp : (names env').Perm (names env'')) : AddsAbsent S env env'' := fun n hn =>
  hp.count_eq n ▸ h n hn

/-- Appending entries whose names, outside `S`, are absent and appended once. -/
theorem addsAbsent_append {S : List String} {env X : List EnvVar}
    (h : ∀ n ∈ names X, n ∉ S → n ∉ names env ∧ (names X).count n = 1) : AddsAbsent S env (env ++ X) := by
  intro n hn
  rw [names_append, List.count_append]
  by_cases hx : n ∈ names X
  · obtain ⟨h₁, h₂⟩ := h n hx hn
    exact .inr ⟨List.count_eq_zero.2 h₁, by rw [List.count_eq_zero.2 h₁, h₂]⟩
  · exact .inl (by rw [List.count_eq_zero.2 hx, Nat.add_zero])

theorem addsAbsent_ite {S : List String} {env : List EnvVar} {e : EnvVar} (c : Prop) [Decidable c]
    (hc : c → e.name ∉ names env) : AddsAbsent S env (env ++ if c then [e] else []) :=
  addsAbsent_append fun n hn _ => by
    split at hn
    · next h => simp_all
    · simp at hn

/-- The insert-if-absent fold adds a name only where it is absent. -/
theorem addsAbsent_foldl_appendIfAbsent (S : List String) (l env : List EnvVar) :
    AddsAbsent S env (l.foldl appendIfAbsent env) := by
  induction l generalizing env with
  | nil => exact .refl S env
  | cons x xs ih =>
    have hx : AddsAbsent S env (appendIfAbsent env x) := by
      rw [appendIfAbsent_eq, ← ite_not]; exact addsAbsent_ite _ id
    exact hx.trans (ih _)

theorem AppendsIn.addsAbsent {S : List String} {env env' : List EnvVar} (h : AppendsIn S env env') :
    AddsAbsent S env env' := by
  obtain ⟨added, rfl, hS⟩ := h
  exact addsAbsent_append fun n hn hnS => absurd (hS n hn) hnS

/-- The propagators and the sampler entries are appended only when absent, each once. -/
theorem tailEntries_fresh (spec : InstrumentationSpec) (env : List EnvVar) :
    ∀ n ∈ names (tailEntries spec (names env)),
      n ∉ names env ∧ (names (tailEntries spec (names env))).count n = 1 := by
  have h₁ : envOTELPropagators ≠ envOTELTracesSampler := by decide
  have h₂ : envOTELPropagators ≠ envOTELTracesSamplerArg := by decide
  have h₃ : envOTELTracesSampler ≠ envOTELTracesSamplerArg := by decide
  intro n hn
  have hT := names_tailEntries spec (names env) n hn
  simp only [tailEntries] at hn ⊢
  split_ifs at hn ⊢ <;> rcases hT with rfl | rfl | rfl <;> simp_all [List.count_cons, h₁.symm, h₂.symm, h₃.symm]

theorem finishEnv_addsAbsent (S : List String) (spec : InstrumentationSpec) (s : SdkState) :
    AddsAbsent S s.env (finishEnv spec s) := by
  by_cases hr : envOTELResourceAttrs ∈ names s.env
  · obtain ⟨pre, e, rest, hs, he, hpre⟩ := split_first hr
    refine (addsAbsent_append fun n hn _ => tailEntries_fresh spec s.env n hn).perm ?_
    rw [finishEnv_split spec hs he hpre, hs]
    simpa using List.Perm.append_left (names pre) (List.perm_append_singleton e.name (names rest ++ _)).symm
  · rw [finishEnv_absent spec s hr, List.append_assoc]
    refine addsAbsent_append fun n hn _ => ?_
    rw [names_append, List.mem_append] at hn
    have hT := names_tailEntries spec (names s.env)
    rcases hn with hn | hn
    · obtain ⟨h₁, h₂⟩ := tailEntries_fresh spec s.env n hn
      have : n ≠ envOTELResourceAttrs := by rcases hT n hn with rfl | rfl | rfl <;> decide
      simp [h₁, h₂, this]
    · obtain rfl : n = envOTELResourceAttrs := by simpa using hn
      have : envOTELResourceAttrs ∉ names (tailEntries spec (names s.env)) := fun hm => by
        rcases hT _ hm with h | h | h <;> exact absurd h (by decide)
      simp [hr, List.count_eq_zero.2 this]

/-- The list `injectCommonSDKConfig` gives the agent container adds a name only where absent, the
three downward-API names apart. -/
theorem injectCommonSDKConfig_env_addsAbsent {client : Client} {fuel : Nat} {newrelic : Instrumentation}
    {ns : Namespace} {pod pod' : Pod} {agentIndex appIndex : Nat}
    (h : injectCommonSDKConfig client fuel newrelic ns pod agentIndex appIndex = some pod') :
    ∃ c env', pod.spec.containers[agentIndex]? = some c ∧ pod' = pod.setEnv agentIndex c env' ∧
      AddsAbsent fallbackNames c.env env' := by
  obtain ⟨c, m₀, env₁, m₁, hc, -, henv₁, -, rfl⟩ := injectCommonSDKConfig_eq_some h
  refine ⟨c, _, hc, rfl, ?_⟩
  obtain ⟨name, -, henv⟩ := withServiceName_some henv₁
  have hname : AddsAbsent fallbackNames c.env env₁ := by
    rw [henv, ← ite_not]; exact addsAbsent_ite _ id
  have hexp : AddsAbsent fallbackNames env₁ (withExporterEndpoint newrelic.spec env₁) := by
    rw [withExporterEndpoint_eq]; exact addsAbsent_ite _ And.right
  exact hname.trans (hexp.trans ((middleState_fallbacks newrelic.spec env₁ m₀ m₁).addsAbsent.trans
    (finishEnv_addsAbsent _ newrelic.spec _)))

/-- Apart from the three downward-API entries, `injectCommonSDKConfig` adds an entry of a name only
when the agent container has none: every other name's count stays, or goes from none to one. -/
theorem injectCommonSDKConfig_adds_absent {client : Client} {fuel : Nat} {newrelic : Instrumentation}
    {ns : Namespace} {pod pod' : Pod} {agentIndex appIndex : Nat}
    (h : injectCommonSDKConfig client fuel newrelic ns pod agentIndex appIndex = some pod') :
    ∃ c c', pod.spec.containers[agentIndex]? = some c ∧ pod'.spec.containers[agentIndex]? = some c' ∧
      AddsAbsent fallbackNames c.env c'.env := by
  obtain ⟨c, env', hc, rfl, hA⟩ := injectCommonSDKConfig_env_addsAbsent h
  exact ⟨c, _, hc, Pod.setEnv_container hc env', hA⟩

/-- A result that is there, named by its default. -/
theorem eq_some_getD {α : Type} {o : Option α} (d : α) (h : o.isSome) : o = some (o.getD d) := by
  cases o <;> simp_all

theorem injectCommonSDKConfig_adds_absent_appPod :
    ∃ c c', appPod.spec.containers[0]? = some c ∧
      ((injectCommonSDKConfig noReplicaSets 1 {} appNamespace appPod 0 0).getD appPod).spec.containers[0]? = some c' ∧
      AddsAbsent fallbackNames c.env c'.env :=
  injectCommonSDKConfig_adds_absent (eq_some_getD appPod (by decide))

end K8sAgentsOperator.Instrumentation
