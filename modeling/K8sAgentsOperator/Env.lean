import K8sAgentsOperator.Types
/-!
# The env-list editor

`getIndexOfEnv` and `moveEnvToListEnd` of `sdk.go`, and the insert-if-absent
pattern every injector repeats. Everything later reads an env list through
`split_first`: a list holding a name is `pre ++ e :: post` with `e` its first
entry of that name, and `getIndexOfEnv` is `pre.length`.
-/

namespace K8sAgentsOperator.Instrumentation

/-- The names of an env list. -/
def names (envs : List EnvVar) : List String :=
  envs.map (·.name)

/-- `getIndexOfEnv`: the index of the first entry named `name`, or `-1`. -/
def getIndexOfEnv (envs : List EnvVar) (name : String) : Int :=
  match envs.findIdx? (·.name == name) with
  | some i => i
  | none => -1

/-- `moveEnvToListEnd`: the entry at `idx` taken out and appended; an index out of
range changes nothing. -/
def moveEnvToListEnd (envs : List EnvVar) (idx : Int) : List EnvVar :=
  if h : 0 ≤ idx ∧ idx < envs.length then
    envs.take idx.toNat ++ envs.drop (idx.toNat + 1) ++ [envs.get ⟨idx.toNat, by omega⟩]
  else envs

/-- `if getIndexOfEnv(env, e.Name) == -1 { env = append(env, e) }`, as the injectors write it. -/
def appendIfAbsent (envs : List EnvVar) (e : EnvVar) : List EnvVar :=
  if getIndexOfEnv envs e.name = -1 then envs ++ [e] else envs

/-! ## Names -/

@[simp] theorem names_nil : names [] = [] := rfl

@[simp] theorem names_cons (e : EnvVar) (envs : List EnvVar) :
    names (e :: envs) = e.name :: names envs := rfl

@[simp] theorem names_append (l₁ l₂ : List EnvVar) : names (l₁ ++ l₂) = names l₁ ++ names l₂ :=
  List.map_append _ _ _

theorem mem_names {envs : List EnvVar} {n : String} : n ∈ names envs ↔ ∃ e ∈ envs, e.name = n :=
  List.mem_map

/-! ## `getIndexOfEnv` -/

theorem getIndexOfEnv_cons (e : EnvVar) (envs : List EnvVar) (n : String) :
    getIndexOfEnv (e :: envs) n = if e.name = n then 0 else
      if n ∈ names envs then getIndexOfEnv envs n + 1 else -1 := by
  simp only [getIndexOfEnv, List.findIdx?_cons, beq_iff_eq]
  split_ifs with h₁ h₂
  · rfl
  · obtain ⟨i, hi⟩ : ∃ i, envs.findIdx? (·.name == n) = some i := by
      rw [← Option.isSome_iff_exists, List.findIdx?_isSome, List.any_eq_true]
      simpa [mem_names] using h₂
    simp [hi]
  · have : envs.findIdx? (·.name == n) = none := by
      rw [List.findIdx?_eq_none_iff]
      simpa [mem_names] using h₂
    simp [this]

/-- The first entry of a name splits the list. -/
theorem split_first {envs : List EnvVar} {n : String} (h : n ∈ names envs) :
    ∃ pre e post, envs = pre ++ e :: post ∧ e.name = n ∧ n ∉ names pre := by
  induction envs with
  | nil => simp at h
  | cons x xs ih =>
    by_cases hx : x.name = n
    · exact ⟨[], x, xs, rfl, hx, by simp⟩
    · obtain ⟨pre, e, post, rfl, he, hpre⟩ := ih ((List.mem_cons.1 h).resolve_left (Ne.symm hx))
      exact ⟨x :: pre, e, post, rfl, he, by simp [hpre, Ne.symm hx]⟩

theorem getIndexOfEnv_split {pre post : List EnvVar} {e : EnvVar} {n : String}
    (he : e.name = n) (hpre : n ∉ names pre) : getIndexOfEnv (pre ++ e :: post) n = pre.length := by
  induction pre with
  | nil => simp [getIndexOfEnv_cons, he]
  | cons x xs ih =>
    simp only [names_cons, List.mem_cons, not_or] at hpre
    rw [List.cons_append, getIndexOfEnv_cons, if_neg (Ne.symm hpre.1), if_pos (by simp [he]),
      ih hpre.2]
    simp

/-- The first entry of a name is unique. -/
theorem split_first_unique {pre pre' post post' : List EnvVar} {e e' : EnvVar} {n : String}
    (h : pre ++ e :: post = pre' ++ e' :: post') (he : e.name = n) (he' : e'.name = n)
    (hpre : n ∉ names pre) (hpre' : n ∉ names pre') : pre = pre' ∧ e = e' ∧ post = post' := by
  have hlen : (pre.length : Int) = pre'.length := by
    rw [← @getIndexOfEnv_split pre post e n he hpre, h, getIndexOfEnv_split he' hpre']
  obtain ⟨rfl, h'⟩ := List.append_inj h (by exact_mod_cast hlen)
  exact ⟨rfl, List.cons.inj h'⟩

theorem getIndexOfEnv_eq_neg_one {envs : List EnvVar} {n : String} :
    getIndexOfEnv envs n = -1 ↔ n ∉ names envs := by
  constructor
  · intro h hn
    obtain ⟨pre, e, post, rfl, he, hpre⟩ := split_first hn
    rw [getIndexOfEnv_split he hpre] at h
    omega
  · intro h
    simp only [getIndexOfEnv]
    rw [(List.findIdx?_eq_none_iff).2 (by simpa [mem_names] using h)]

/-- Appending after an entry of that name does not move the index. -/
theorem getIndexOfEnv_append {envs : List EnvVar} {n : String} (h : n ∈ names envs)
    (more : List EnvVar) : getIndexOfEnv (envs ++ more) n = getIndexOfEnv envs n := by
  obtain ⟨pre, e, post, rfl, he, hpre⟩ := split_first h
  rw [List.append_assoc, List.cons_append, getIndexOfEnv_split he hpre, getIndexOfEnv_split he hpre]

/-! ## `moveEnvToListEnd` and the insert-if-absent pattern -/

theorem moveEnvToListEnd_split (pre post : List EnvVar) (e : EnvVar) :
    moveEnvToListEnd (pre ++ e :: post) pre.length = pre ++ post ++ [e] := by
  have hlt : 0 ≤ (pre.length : Int) ∧ (pre.length : Int) < (pre ++ e :: post).length := by
    simp only [List.length_append, List.length_cons]; omega
  rw [moveEnvToListEnd, dif_pos hlt]
  simp [List.drop_append_eq_append_drop, List.getElem_append_right]

theorem moveEnvToListEnd_of_absent {envs : List EnvVar} {n : String} (h : n ∉ names envs) :
    moveEnvToListEnd envs (getIndexOfEnv envs n) = envs := by
  rw [getIndexOfEnv_eq_neg_one.2 h, moveEnvToListEnd, dif_neg (by omega)]

theorem appendIfAbsent_eq (envs : List EnvVar) (e : EnvVar) :
    appendIfAbsent envs e = envs ++ if e.name ∈ names envs then [] else [e] := by
  by_cases h : e.name ∈ names envs
  · simp [appendIfAbsent, h, getIndexOfEnv_eq_neg_one]
  · simp [appendIfAbsent, h, getIndexOfEnv_eq_neg_one.2 h]

end K8sAgentsOperator.Instrumentation
