import K8sAgentsOperator.Reinvocation
/-!
# The downward-API placeholders resolve

The kubelet expands a reference `$(n)` in an env value from the last entry named `n` ahead of that
value in the container's list. For each of the pod name, the pod UID (under
`AddK8sUIDAttributes`) and the node name that its map left empty, `injectCommonSDKConfig` writes a
placeholder `$(n)` into the map it serialises into `OTEL_RESOURCE_ATTRIBUTES`, appends an entry `n`
that reads the field through the downward API, and moves the attributes to the end of the list.
So each placeholder resolves to the field it stands for
(`injectCommonSDKConfig_placeholders_resolve`). The entry is appended without a look for one of its
name, and a container may end with two; the appended one is the later, and the one the reference
reads.
-/

namespace K8sAgentsOperator.Instrumentation

/-- The last entry named `n`: the one a reference `$(n)` from a later entry reads. -/
def lastDef (env : List EnvVar) (n : String) : Option EnvVar :=
  env.reverse.find? (·.name == n)

theorem lastDef_append_of_not_mem {n : String} {l : List EnvVar} (h : n ∉ names l) (env : List EnvVar) :
    lastDef (env ++ l) n = lastDef env n := by
  have hl : l.reverse.find? (·.name == n) = none :=
    List.find?_eq_none.2 fun x hx hxn => h (mem_names.2 ⟨x, List.mem_reverse.1 hx, beq_iff_eq.1 hxn⟩)
  simp only [lastDef, List.reverse_append, List.find?_append, hl, Option.none_or]

theorem lastDef_append_self (env : List EnvVar) (e : EnvVar) : lastDef (env ++ [e]) e.name = some e := by
  simp [lastDef]

/-- Removing an entry of another name changes no last entry. -/
theorem lastDef_erase {n : String} {e : EnvVar} (he : e.name ≠ n) (pre post : List EnvVar) :
    lastDef (pre ++ e :: post) n = lastDef (pre ++ post) n := by
  rw [← List.singleton_append, ← List.append_assoc, lastDef, lastDef, List.reverse_append,
    List.reverse_append, List.find?_append, List.find?_append, List.reverse_append, List.find?_append]
  simp [he]

/-- The three downward-API fallbacks of `injectCommonSDKConfig`: the attribute key, the entry its
placeholder names, and the field that entry reads. -/
def downwardFields (addK8sUIDAttributes : Bool) : List (String × String × String) :=
  [(k8sPodNameKey, envPodName, "metadata.name")] ++
    (if addK8sUIDAttributes then [(k8sPodUIDKey, envPodUID, "metadata.uid")] else []) ++
    [(k8sNodeNameKey, envNodeName, "spec.nodeName")]

theorem downwardFallbacks_eq_map (b : Bool) :
    downwardFallbacks b = (downwardFields b).map fun t => (t.1, t.2.1) := by
  cases b <;> rfl

theorem mem_downwardFields {b : Bool} {t : String × String × String} :
    t ∈ downwardFields b ↔
      t = (k8sPodNameKey, envPodName, "metadata.name") ∨
        (b = true ∧ t = (k8sPodUIDKey, envPodUID, "metadata.uid")) ∨
        t = (k8sNodeNameKey, envNodeName, "spec.nodeName") := by
  cases b <;> simp [downwardFields]

theorem placeholder_not_mem_tailEntries {b : Bool} {key envName fieldPath : String}
    (ht : (key, envName, fieldPath) ∈ downwardFields b) (spec : InstrumentationSpec) (ns : List String) :
    envName ∉ names (tailEntries spec ns) := fun hn => by
  rcases mem_downwardFields.1 ht with h | ⟨-, h⟩ | h <;> obtain ⟨-, rfl, -⟩ := Prod.mk.inj_iff.1 h <;>
    rcases names_tailEntries spec ns _ hn with h | h | h <;> exact absurd h (by decide)

/-! ## Through the steps -/

section Steps

variable {key envName fieldPath : String} {s : SdkState}

theorem lastDef_downwardAttr_ne {n : String} (hn : envName ≠ n) (key fieldPath : String) (s : SdkState) :
    lastDef (downwardAttr key envName fieldPath s).env n = lastDef s.env n := by
  rw [downwardAttr_env]
  exact lastDef_append_of_not_mem (by split <;> simp [fieldRefEnv, hn.symm]) _

theorem lastDef_downwardAttr_self (h : s.resourceMap.get key = "") :
    lastDef (downwardAttr key envName fieldPath s).env envName = some (fieldRefEnv envName fieldPath) := by
  rw [downwardAttr_env, if_pos h]
  exact lastDef_append_self _ (fieldRefEnv envName fieldPath)

/-- After the middle steps, the last entry a placeholder names is the downward-API entry that
reads its field. -/
theorem lastDef_middleState {spec : InstrumentationSpec} {pod : Pod} {appIndex : Nat} {env₁ : List EnvVar}
    {m₀ m₁ : Attrs}
    (hm₁ : withServiceVersion pod appIndex (withPodAttrs spec ⟨withExporterEndpoint spec env₁, m₀⟩).env
      (withPodAttrs spec ⟨withExporterEndpoint spec env₁, m₀⟩).resourceMap = some m₁)
    (ht : (key, envName, fieldPath) ∈ downwardFields spec.resource.addK8sUIDAttributes) (h0 : m₀.get key = "") :
    lastDef (middleState spec env₁ m₀ m₁).env envName = some (fieldRefEnv envName fieldPath) := by
  rcases mem_downwardFields.1 ht with h | ⟨hu, h⟩ | h <;> obtain ⟨rfl, rfl, rfl⟩ := Prod.mk.inj_iff.1 h
  · rw [middleState, lastDef_downwardAttr_ne (by decide), withPodAttrs]
    dsimp only
    split
    · rw [lastDef_downwardAttr_ne (by decide), lastDef_downwardAttr_self h0]
    · exact lastDef_downwardAttr_self h0
  · rw [middleState, lastDef_downwardAttr_ne (by decide), withPodAttrs]
    dsimp only
    rw [if_pos hu]
    exact lastDef_downwardAttr_self ((get_downwardAttr_ne (by decide)).trans h0)
  · exact lastDef_downwardAttr_self
      ((withServiceVersion_get hm₁ (by decide)).trans ((withPodAttrs_get_ne (by decide) (by decide)).trans h0))

end Steps

theorem extendAttrs_value_suffix (e : EnvVar) (resStr : String) : ∃ v, (extendAttrs e resStr).value = v ++ resStr := by
  unfold extendAttrs
  split
  · exact ⟨_, rfl⟩
  · exact ⟨e.value ++ ",", (String.append_assoc _ _ _).symm⟩

/-- The kubelet reads a reference `$(n)` from the last entry named `n` ahead of it. After
`injectCommonSDKConfig`, the agent container's list ends with the `OTEL_RESOURCE_ATTRIBUTES` entry,
whose value ends with the serialised map `m`; for each downward-API fallback whose key the call's
map left empty, `m` holds the placeholder `$(n)`, and the last entry `n` ahead of the attributes is
the downward-API entry reading the fallback's field, whatever entries `n` the container had. -/
theorem injectCommonSDKConfig_placeholders_resolve {client : Client} {fuel : Nat} {newrelic : Instrumentation}
    {ns : Namespace} {pod pod' : Pod} {agentIndex appIndex : Nat}
    (h : injectCommonSDKConfig client fuel newrelic ns pod agentIndex appIndex = some pod') :
    ∃ c m₀ m pre r, pod.spec.containers[agentIndex]? = some c ∧
      createResourceMap client fuel newrelic ns pod appIndex = some m₀ ∧
      pod' = pod.setEnv agentIndex c (pre ++ [r]) ∧ r.name = envOTELResourceAttrs ∧
      (∃ v, r.value = v ++ resourceMapToStr m) ∧
      ∀ key envName fieldPath, (key, envName, fieldPath) ∈ downwardFields newrelic.spec.resource.addK8sUIDAttributes →
        m₀.get key = "" →
        m.lookup key = some ("$(" ++ envName ++ ")") ∧ lastDef pre envName = some (fieldRefEnv envName fieldPath) := by
  obtain ⟨c, m₀, env₁, m₁, hc, hm₀, henv₁, hm₁, rfl⟩ := injectCommonSDKConfig_eq_some h
  have hres : ∀ key envName fieldPath,
      (key, envName, fieldPath) ∈ downwardFields newrelic.spec.resource.addK8sUIDAttributes → m₀.get key = "" →
      (middleState newrelic.spec env₁ m₀ m₁).resourceMap.lookup key = some ("$(" ++ envName ++ ")") ∧
        lastDef (middleState newrelic.spec env₁ m₀ m₁).env envName = some (fieldRefEnv envName fieldPath) :=
    fun _ _ _ ht h0 => ⟨(placed_middleState hm₁ (downwardFallbacks_eq_map _ ▸ List.mem_map_of_mem _ ht) h0).1,
      lastDef_middleState hm₁ ht h0⟩
  refine ⟨c, m₀, (middleState newrelic.spec env₁ m₀ m₁).resourceMap, ?_⟩
  rcases finishEnv_cases newrelic.spec (middle_of_eq_some newrelic.spec m₁ henv₁) with
    ⟨-, hf⟩ | ⟨pre, e, post, A, hce, he, -, hA, hf⟩ <;> rw [hf]
  · refine ⟨_, _, hc, hm₀, rfl, rfl, ⟨"", (String.empty_append _).symm⟩, fun key envName fieldPath ht h0 => ?_⟩
    obtain ⟨hl, hd⟩ := hres _ _ _ ht h0
    exact ⟨hl, (lastDef_append_of_not_mem (placeholder_not_mem_tailEntries ht _ _) _).trans hd⟩
  · refine ⟨_, _, hc, hm₀, rfl, he, extendAttrs_value_suffix _ _, fun key envName fieldPath ht h0 => ?_⟩
    obtain ⟨hl, hd⟩ := hres _ _ _ ht h0
    have hne : e.name ≠ envName :=
      he ▸ (fallback_ne_attrs (downwardFallbacks_eq_map _ ▸ List.mem_map_of_mem _ ht)).symm
    refine ⟨hl, ?_⟩
    rw [lastDef_append_of_not_mem (placeholder_not_mem_tailEntries ht _ _), List.append_assoc,
      ← lastDef_erase hne, ← List.cons_append, ← List.append_assoc, ← hce, ← hA]
    exact hd

/-- A pod not named yet (the API server names it after admission) whose container sets
`OTEL_RESOURCE_ATTRIBUTES_POD_NAME` itself. -/
def unnamedPod : Pod :=
  { objectMeta := {}, spec := { containers := [{ name := "app", env := [{ name := envPodName, value := "stale" }] }] } }

theorem injectCommonSDKConfig_placeholders_resolve_unnamedPod :
    ∃ c m₀ m pre r, unnamedPod.spec.containers[0]? = some c ∧
      createResourceMap noReplicaSets 1 {} appNamespace unnamedPod 0 = some m₀ ∧
      (injectCommonSDKConfig noReplicaSets 1 {} appNamespace unnamedPod 0 0).getD unnamedPod =
        unnamedPod.setEnv 0 c (pre ++ [r]) ∧ r.name = envOTELResourceAttrs ∧
      (∃ v, r.value = v ++ resourceMapToStr m) ∧
      ∀ key envName fieldPath, (key, envName, fieldPath) ∈ downwardFields false → m₀.get key = "" →
        m.lookup key = some ("$(" ++ envName ++ ")") ∧ lastDef pre envName = some (fieldRefEnv envName fieldPath) :=
  injectCommonSDKConfig_placeholders_resolve (eq_some_getD _ (by decide))

/-- The container ends with two `OTEL_RESOURCE_ATTRIBUTES_POD_NAME` entries: its own, then the
downward-API one, which the placeholder reads. -/
example : (injectCommonSDKConfig noReplicaSets 1 {} appNamespace unnamedPod 0 0).map
    (fun p => (p.spec.containers.map fun c => (names c.env).count envPodName,
      p.spec.containers.map fun c => (lastDef c.env envPodName).bind (·.valueFrom))) =
    some ([2], [some { fieldRef := some { fieldPath := "metadata.name" } }]) := by
  decide

end K8sAgentsOperator.Instrumentation
