import K8sAgentsOperator.Frame
/-!
# The Instrumentation webhook's validation

`instrumentation_webhook.go` refuses an Instrumentation, on create and on update, when an env var
of the spec or of one of the six language blocks is named with neither `NEW_RELIC_` nor `OTEL_`
(`validate_eq_ok`); the error names the first such entry (`validateEnv_eq_error`). The spec's own
list is what `injectCommonEnvVar` copies into pods, so after validation every entry it adds is
vendor-prefixed (`validate_guards_injection`). The seven checks are one loop over the seven lists
in turn (`validate_eq_validateEnv_append`).

`Default`, the mutating webhook, sets the managed-by label and fills each empty language image from
its annotation; a second run changes nothing (`default_idempotent`).
-/

namespace K8sAgentsOperator.Instrumentation

open Strings

def envNewRelicPrefix : String := "NEW_RELIC_"
def envOtelPrefix : String := "OTEL_"

/-- `validateEnv`: the first entry whose name has neither prefix is refused, with its name in the
error. The receiver is not read. -/
def validateEnv (envs : List EnvVar) : Except String Unit :=
  envs.forM fun env =>
    if !hasPrefix env.name envNewRelicPrefix && !hasPrefix env.name envOtelPrefix then
      throw ("env name should start with \"NEW_RELIC_\" or \"OTEL_\": " ++ env.name)
    else pure ()

/-- `validate`: the spec's env vars, then those of Java, NodeJS, Python, DotNet, Php and Go. -/
def validate (r : Instrumentation) : Except String Unit := do
  validateEnv r.spec.env
  validateEnv r.spec.java.env
  validateEnv r.spec.nodeJS.env
  validateEnv r.spec.python.env
  validateEnv r.spec.dotNet.env
  validateEnv r.spec.php.env
  validateEnv r.spec.go.env

/-- `ValidateCreate`. -/
def validateCreate (r : Instrumentation) : Except String Unit := r.validate

/-- `ValidateUpdate`: the old object is not read. -/
def validateUpdate (r : Instrumentation) (_old : Instrumentation) : Except String Unit := r.validate

/-- `ValidateDelete`: every deletion is accepted. -/
def validateDelete (_r : Instrumentation) : Except String Unit := .ok ()

/-- A name `validateEnv` accepts: it starts with `NEW_RELIC_` or with `OTEL_`. -/
def VendorPrefixed (name : String) : Prop :=
  envNewRelicPrefix.data <+: name.data ∨ envOtelPrefix.data <+: name.data

instance (name : String) : Decidable (VendorPrefixed name) := inferInstanceAs (Decidable (_ ∨ _))

/-! ## One list -/

theorem validateEnv_nil : validateEnv [] = .ok () := rfl

theorem validateEnv_cons (env : EnvVar) (envs : List EnvVar) :
    validateEnv (env :: envs) = if VendorPrefixed env.name then validateEnv envs
      else .error ("env name should start with \"NEW_RELIC_\" or \"OTEL_\": " ++ env.name) := by
  have hc : (!hasPrefix env.name envNewRelicPrefix && !hasPrefix env.name envOtelPrefix) = true ↔
      ¬ VendorPrefixed env.name := by
    simp [hasPrefix, VendorPrefixed, not_or]
  by_cases h : VendorPrefixed env.name
  · rw [if_pos h]
    show (if _ then _ else pure ()) >>= (fun _ => validateEnv envs) = validateEnv envs
    rw [if_neg fun h' => hc.1 h' h]; rfl
  · rw [if_neg h]
    show (if _ then throw _ else _) >>= (fun _ => validateEnv envs) = _
    rw [if_pos (hc.2 h)]; rfl

/-- `validateEnv` refuses the first entry with neither prefix, and only that one. -/
theorem validateEnv_eq_find (envs : List EnvVar) :
    validateEnv envs = match envs.find? (fun e => !decide (VendorPrefixed e.name)) with
      | some env => .error ("env name should start with \"NEW_RELIC_\" or \"OTEL_\": " ++ env.name)
      | none => .ok () := by
  induction envs with
  | nil => rfl
  | cons env envs ih =>
    rw [validateEnv_cons, List.find?_cons]
    by_cases h : VendorPrefixed env.name <;> simp [h, ih]

theorem validateEnv_eq_ok (envs : List EnvVar) :
    validateEnv envs = .ok () ↔ ∀ env ∈ envs, VendorPrefixed env.name := by
  rw [validateEnv_eq_find]
  split
  · next env h =>
    obtain ⟨hv, pre, post, rfl, -⟩ := List.find?_eq_some.1 h
    exact iff_of_false nofun fun hall => absurd (hall env (by simp)) (by simpa using hv)
  · next h => simpa using h

/-- A refusal names the first entry with neither prefix. -/
theorem validateEnv_eq_error (envs : List EnvVar) (msg : String) :
    validateEnv envs = .error msg ↔ ∃ pre env post, envs = pre ++ env :: post ∧
      (∀ e ∈ pre, VendorPrefixed e.name) ∧ ¬ VendorPrefixed env.name ∧
      msg = "env name should start with \"NEW_RELIC_\" or \"OTEL_\": " ++ env.name := by
  rw [validateEnv_eq_find]
  constructor
  · split
    · next env h =>
      rintro ⟨⟩
      obtain ⟨hv, pre, post, rfl, hpre⟩ := List.find?_eq_some.1 h
      exact ⟨pre, env, post, rfl, fun e he => by simpa using hpre e he, by simpa using hv, rfl⟩
    · exact nofun
  · rintro ⟨pre, env, post, rfl, hpre, hv, rfl⟩
    rw [List.find?_eq_some.2 ⟨by simpa using hv, pre, post, rfl, fun e he => by simpa using hpre e he⟩]

/-! ## The Instrumentation -/

theorem except_bind_eq_ok {ε : Type} {x y : Except ε Unit} :
    (x >>= fun _ => y) = .ok () ↔ x = .ok () ∧ y = .ok () := by
  cases x <;> simp [bind, Except.bind]

theorem validate_eq_ok (r : Instrumentation) :
    r.validate = .ok () ↔ ∀ envs ∈ [r.spec.env, r.spec.java.env, r.spec.nodeJS.env, r.spec.python.env,
      r.spec.dotNet.env, r.spec.php.env, r.spec.go.env], ∀ env ∈ envs, VendorPrefixed env.name := by
  simp only [validate, except_bind_eq_ok, validateEnv_eq_ok, List.mem_cons, List.mem_singleton,
    forall_eq_or_imp, forall_eq, List.not_mem_nil, false_implies, implies_true, and_true]

example : ({ spec := { java := { env := [{ name := "OTEL_X" }, { name := "FOO" }] } } } : Instrumentation).validate =
    .error "env name should start with \"NEW_RELIC_\" or \"OTEL_\": FOO" := by
  rfl

theorem validateEnv_append (l₁ l₂ : List EnvVar) :
    validateEnv (l₁ ++ l₂) = (validateEnv l₁ >>= fun _ => validateEnv l₂) :=
  List.forM_append l₁ l₂ _

/-- The seven checks of `validate` behave as one loop over the seven lists in turn: the same
verdict, and on a refusal the same message, naming the first entry with neither prefix. -/
theorem validate_eq_validateEnv_append (r : Instrumentation) :
    r.validate = validateEnv (r.spec.env ++ r.spec.java.env ++ r.spec.nodeJS.env ++ r.spec.python.env ++
      r.spec.dotNet.env ++ r.spec.php.env ++ r.spec.go.env) := by
  simp only [List.append_assoc, validateEnv_append]
  rfl

/-- `validate` refuses exactly the Instrumentations with an env var, in the spec or in a language
block, named with neither `NEW_RELIC_` nor `OTEL_`; one it accepts makes `injectCommonEnvVar` add
only vendor-prefixed entries, to any container of any pod. -/
theorem validate_guards_injection (r : Instrumentation) :
    ((∃ msg, r.validate = .error msg) ↔
      ∃ envs ∈ [r.spec.env, r.spec.java.env, r.spec.nodeJS.env, r.spec.python.env, r.spec.dotNet.env,
        r.spec.php.env, r.spec.go.env], ∃ env ∈ envs, ¬ VendorPrefixed env.name) ∧
    (r.validate = .ok () → ∀ (pod : Pod) (index : Nat) (c : Container), pod.spec.containers[index]? = some c →
      ∃ added, injectCommonEnvVar r pod index = some (pod.setEnv index c (c.env ++ added)) ∧
        ∀ e ∈ added, VendorPrefixed e.name) := by
  refine ⟨?_, fun hr pod index c hc => ?_⟩
  · have herr : (∃ msg, r.validate = .error msg) ↔ ¬ r.validate = .ok () := by
      cases r.validate <;> simp
    rw [herr, validate_eq_ok]
    push_neg
    rfl
  · obtain ⟨added, h, hmem⟩ := @injectCommonEnvVar_eq r pod index c hc
    exact ⟨added, h, fun e he => (validate_eq_ok r).1 hr _ (List.mem_cons_self _ _) e (hmem e he)⟩

/-! ## Defaulting -/

def annotationDefaultAutoInstrumentationJava : String :=
  "instrumentation.newrelic.com/default-auto-instrumentation-java-image"
def annotationDefaultAutoInstrumentationNodeJS : String :=
  "instrumentation.newrelic.com/default-auto-instrumentation-nodejs-image"
def annotationDefaultAutoInstrumentationPython : String :=
  "instrumentation.newrelic.com/default-auto-instrumentation-python-image"
def annotationDefaultAutoInstrumentationDotNet : String :=
  "instrumentation.newrelic.com/default-auto-instrumentation-dotnet-image"
def annotationDefaultAutoInstrumentationPhp : String :=
  "instrumentation.newrelic.com/default-auto-instrumentation-php-image"
def annotationDefaultAutoInstrumentationGo : String :=
  "instrumentation.newrelic.com/default-auto-instrumentation-go-image"

/-- The label `Default` sets. -/
def managedByLabel : String := "app.kubernetes.io/managed-by"

/-- The labels and annotations of an Instrumentation's `ObjectMeta`, which `Default` reads beside
the spec. A `nil` label map reads as the empty map, and `Default` makes it non-nil before it
writes, so both are maps here. -/
structure InstrumentationMeta where
  labels : Attrs := ∅
  annotations : Attrs := ∅
deriving DecidableEq

/-- One language block of `Default`: an empty image is taken from the annotation `key`, when the
annotation is there. -/
def defaultImage (annotations : Attrs) (key : String) (lang : LanguageSpec) : LanguageSpec :=
  if lang.image = "" then
    match annotations.lookup key with
    | some val => { lang with image := val }
    | none => lang
  else lang

/-- `Default`: the managed-by label when it is empty, then each language's image from its
annotation when the image is empty. -/
def default (meta : InstrumentationMeta) (r : Instrumentation) : InstrumentationMeta × Instrumentation :=
  let labels := if meta.labels.get managedByLabel = "" then
      meta.labels.insert managedByLabel "k8s-agents-operator"
    else meta.labels
  ({ meta with labels := labels },
    { r with spec := { r.spec with
      java := defaultImage meta.annotations annotationDefaultAutoInstrumentationJava r.spec.java
      nodeJS := defaultImage meta.annotations annotationDefaultAutoInstrumentationNodeJS r.spec.nodeJS
      python := defaultImage meta.annotations annotationDefaultAutoInstrumentationPython r.spec.python
      dotNet := defaultImage meta.annotations annotationDefaultAutoInstrumentationDotNet r.spec.dotNet
      php := defaultImage meta.annotations annotationDefaultAutoInstrumentationPhp r.spec.php
      go := defaultImage meta.annotations annotationDefaultAutoInstrumentationGo r.spec.go } })

theorem defaultImage_idempotent (annotations : Attrs) (key : String) (lang : LanguageSpec) :
    defaultImage annotations key (defaultImage annotations key lang) =
      defaultImage annotations key lang := by
  by_cases h : lang.image = ""
  · cases hv : annotations.lookup key <;> simp [defaultImage, h, hv]
  · simp [defaultImage, h]

/-- A second `Default` changes nothing: the label it sets is not empty, and an image it takes from
an annotation is taken from that annotation again. -/
theorem default_idempotent (meta : InstrumentationMeta) (r : Instrumentation) :
    default (default meta r).1 (default meta r).2 = default meta r := by
  have hlabel : Attrs.get (if meta.labels.get managedByLabel = "" then
      meta.labels.insert managedByLabel "k8s-agents-operator" else meta.labels) managedByLabel ≠ "" := by
    split
    · simp
    · assumption
  simp only [default, if_neg hlabel, defaultImage_idempotent]

end K8sAgentsOperator.Instrumentation
