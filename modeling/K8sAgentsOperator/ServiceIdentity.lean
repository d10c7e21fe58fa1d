import K8sAgentsOperator.Inject
/-!
# The service name and version

`chooseServiceVersion` reads an image reference as its comment says: the text after the last `:`,
unless that text holds a `/`, which makes the `:` a registry port (`chooseServiceVersion_tag`).
For a reference `name:tag` that is the tag; a reference with no `:` gives the whole reference, and
one with a digest the digest's hex part (`chooseServiceVersion_untagged`).

`chooseServiceName` reads the map `createResourceMap` builds, from which the keys the application
container already declares are removed: a declared workload name is never seen, and the chooser
falls through to a lower one (`serviceName_skips_declared_deployment`).
-/

namespace K8sAgentsOperator.Instrumentation

open Strings

/-! ## The version -/

/-- The version is the last `:`-part of the image, or `""` when that part holds a `/`. -/
theorem chooseServiceVersion_of_last {pod : Pod} {index : Nat} {c : Container}
    (hc : pod.spec.containers[index]? = some c) {tag : String}
    (hlast : (split c.image ':').getLastD "" = tag) :
    chooseServiceVersion pod index = some (if '/' ∈ tag.data then "" else tag) := by
  simp only [chooseServiceVersion, hc, Option.map_some', hlast]
  rw [show ("/" : String) = ⟨['/']⟩ from rfl, contains_singleton]
  simp

/-- The version `chooseServiceVersion` reads from container `index`: the text after the image's
last `:` (the whole image when it has none), or `""` when that text holds a `/`. -/
theorem chooseServiceVersion_tag {pod : Pod} {index : Nat} {c : Container}
    (hc : pod.spec.containers[index]? = some c) :
    (∀ pre tag, c.image = pre ++ ":" ++ tag → ':' ∉ tag.data →
      chooseServiceVersion pod index = some (if '/' ∈ tag.data then "" else tag)) ∧
    (':' ∉ c.image.data →
      chooseServiceVersion pod index = some (if '/' ∈ c.image.data then "" else c.image)) := by
  refine ⟨fun pre tag himg htag => chooseServiceVersion_of_last hc ?_, fun himg =>
    chooseServiceVersion_of_last hc (by rw [split_of_not_mem himg]; rfl)⟩
  rw [himg]
  exact split_getLastD_append_sep pre tag htag

theorem chooseServiceVersion_tag_appPod :
    (∀ pre tag, appContainer.image = pre ++ ":" ++ tag → ':' ∉ tag.data →
      chooseServiceVersion appPod 0 = some (if '/' ∈ tag.data then "" else tag)) ∧
    (':' ∉ appContainer.image.data →
      chooseServiceVersion appPod 0 = some (if '/' ∈ appContainer.image.data then "" else appContainer.image)) :=
  @chooseServiceVersion_tag appPod 0 appContainer rfl

/-- A pod whose one container `app` runs `image`. -/
def imagePod (image : String) : Pod :=
  { objectMeta := { name := "p" }, spec := { containers := [{ name := "app", image := image }] } }

/-- References without a tag still give a version: the whole name when it has no `:`, the digest's
hex part when it has a digest, after a tag too. -/
theorem chooseServiceVersion_untagged :
    chooseServiceVersion (imagePod "nginx") 0 = some "nginx" ∧
    chooseServiceVersion (imagePod "nginx@sha256:abc") 0 = some "abc" ∧
    chooseServiceVersion (imagePod "nginx:1.2@sha256:abc") 0 = some "abc" := by
  decide

/-! ## The name -/

/-- A pod `p` owned by the Deployment `shop`, with the one container `app`. -/
def shopPod : Pod :=
  { objectMeta := { name := "p", ownerReferences := [{ kind := "Deployment", name := "shop" }] },
    spec := { containers := [appContainer] } }

/-- `shopPod`, its container already declaring `k8s.deployment.name=shop`. -/
def shopDeclaredPod : Pod :=
  { shopPod with
    spec := { containers :=
      [{ appContainer with env := [{ name := envOTELResourceAttrs, value := "k8s.deployment.name=shop" }] }] } }

/-- The value of the first container's entry `name`. -/
def firstEnvValue (name : String) (pod : Pod) : Option String :=
  (pod.spec.containers.head?.bind fun c => c.env.find? (·.name == name)).map (·.value)

/-- The Deployment's name is the service name until the container declares that same name: then
both injectors name the service after the pod. -/
theorem serviceName_skips_declared_deployment :
    (injectNewrelicConfig noReplicaSets 1 {} appNamespace shopPod 0).map (firstEnvValue envNewRelicAppName) =
      some (some "shop") ∧
    (injectNewrelicConfig noReplicaSets 1 {} appNamespace shopDeclaredPod 0).map
      (firstEnvValue envNewRelicAppName) = some (some "p") ∧
    (injectCommonSDKConfig noReplicaSets 1 {} appNamespace shopDeclaredPod 0 0).map
      (firstEnvValue envOTELServiceName) = some (some "p") := by
  decide

end K8sAgentsOperator.Instrumentation
