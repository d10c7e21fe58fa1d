import K8sAgentsOperator.Types
/-!
# The ReplicaSet lookup's retry loop

`addParentResourceLabels` fetches a ReplicaSet through `retry.OnError` because "a single call to
client.get fails occasionally": the cluster may not find a ReplicaSet and find it a moment later.
`retry.OnError` runs `wait.ExponentialBackoff`, which runs its condition while a step is left and
sleeps `Backoff.Step()` between runs. The backoff here starts at 10 ms, grows by 1.5 and has 20
steps, but `Step` ends the steps once the next sleep would pass the 2 s `Cap`, which happens at
the fourteenth: the loop makes at most 14 attempts (`replicaSetBackoff_attempts`).

Attempt `i` gets its own answer, so the model covers a cluster that changes between attempts. The
loop tries again only after `NotFound`, and the walk goes on with the first answer among the 14
that is not `NotFound`, or with the zero ReplicaSet when that answer is another error or all 14
are `NotFound` (`getReplicaSetAt_first`). On a cluster whose answer does not change, the retries
change nothing (`getReplicaSetAt_const`).
-/

namespace K8sAgentsOperator.Instrumentation

/-! ## `wait.Backoff` -/

/-- The part of `wait.Backoff` that decides how often `wait.ExponentialBackoff` runs its
condition: `Duration` and `Cap` in nanoseconds, `Factor` as the fraction `factorNum / factorDen`,
and `Steps`. `Jitter` changes only the sleeps, which are not modelled. -/
structure Backoff where
  duration : Nat
  factorNum : Nat
  factorDen : Nat
  steps : Nat
  cap : Nat
deriving DecidableEq, Repr

/-- `Backoff.Step` (apimachinery's `delay`): with a step left, one is used and the duration is
multiplied by `Factor`; past `Cap` the duration is `Cap` and no step is left. Go multiplies a
`float64` and truncates, which for a factor of 1.5 and durations under 2^52 ns is the floor taken
here. -/
def Backoff.step (b : Backoff) : Backoff :=
  if b.steps < 1 then b
  else if b.factorNum = 0 then { b with steps := b.steps - 1 }
  else
    let next := b.duration * b.factorNum / b.factorDen
    if 0 < b.cap ∧ b.cap < next then { b with duration := b.cap, steps := 0 }
    else { b with duration := next, steps := b.steps - 1 }

/-- The `backOff` of `addParentResourceLabels`:
`{Duration: 10ms, Factor: 1.5, Jitter: 0.1, Steps: 20, Cap: 2s}`. -/
def replicaSetBackoff : Backoff :=
  { duration := 10000000, factorNum := 3, factorDen := 2, steps := 20, cap := 2000000000 }

/-! ## `retry.OnError` over `wait.ExponentialBackoff` -/

/-- The loop of `wait.ExponentialBackoff` with `retry.OnError`'s condition, attempt `i` answered
by `answers i`: the answer `OnError` ends with, `none` for the `nil` of a loop that made no
attempt. While a step is left the condition runs; the loop ends at an answer that is not a
retriable error, after a retriable error on the last step, and when `Step` has used up the steps
at the `Cap`. `OnError` returns `lastErr` on both timeouts. Every round that goes on uses up a
step, so `Steps` rounds of fuel let the loop reach its own end (`onError`). -/
def onErrorLoop {ε α : Type} (retriable : ε → Bool) (answers : Nat → Except ε α) :
    Nat → Nat → Backoff → Option ε → Option (Except ε α)
  | 0, _, _, lastErr => lastErr.map .error
  | fuel + 1, i, b, lastErr =>
    if b.steps = 0 then lastErr.map .error
    else
      match answers i with
      | .error e =>
        if retriable e then
          if b.steps = 1 then some (.error e)
          else onErrorLoop retriable answers fuel (i + 1) b.step (some e)
        else some (.error e)
      | .ok a => some (.ok a)

/-- `retry.OnError(backoff, retriable, fn)`, attempt `i` of `fn` answered by `answers i`. -/
def onError {ε α : Type} (retriable : ε → Bool) (answers : Nat → Except ε α) (backoff : Backoff) :
    Option (Except ε α) :=
  onErrorLoop retriable answers backoff.steps 0 backoff none

/-- The ReplicaSet `rs` after `retry.OnError(backOff, checkError, getReplicaSet)`, attempt `i` of
`client.Get` answered by `answers i`: `checkError` retries on `IsNotFound`, and unless an attempt
finds the ReplicaSet, `rs` keeps its zero value. -/
def getReplicaSetAt (answers : Nat → Except GetError ReplicaSet) : ReplicaSet :=
  match onError (· == GetError.notFound) answers replicaSetBackoff with
  | some (.ok rs) => rs
  | _ => {}

/-! ## The attempts a backoff allows -/

/-- How many times the loop runs a condition that always asks for another attempt. -/
def attemptsLoop : Nat → Backoff → Nat
  | 0, _ => 0
  | fuel + 1, b => if b.steps = 0 then 0 else if b.steps = 1 then 1 else attemptsLoop fuel b.step + 1

/-- The attempts `wait.ExponentialBackoff` allows with `backoff`. -/
def Backoff.attempts (backoff : Backoff) : Nat := attemptsLoop backoff.steps backoff

/-- The durations 10 ms · 1.5^k pass 2 s at k = 14, so the backoff allows 14 attempts, not 20. -/
theorem replicaSetBackoff_attempts : replicaSetBackoff.attempts = 14 := by decide

/-- `onError` given its number of attempts: at most `steps + 1`, from attempt `i`. -/
def onErrorAt {ε α : Type} (retriable : ε → Bool) (answers : Nat → Except ε α) : Nat → Nat → Except ε α
  | i, 0 => answers i
  | i, steps + 1 =>
    match answers i with
    | .error e => if retriable e then onErrorAt retriable answers (i + 1) steps else .error e
    | .ok a => .ok a

/-- The loop is the counted one with the attempts the backoff allows: whether an attempt asks for
another changes when the loop stops, never the backoff. -/
theorem onErrorLoop_eq {ε α : Type} (retriable : ε → Bool) (answers : Nat → Except ε α) :
    ∀ (fuel i : Nat) (b : Backoff) (lastErr : Option ε),
      onErrorLoop retriable answers fuel i b lastErr =
        if attemptsLoop fuel b = 0 then lastErr.map .error
        else some (onErrorAt retriable answers i (attemptsLoop fuel b - 1))
  | 0, _, _, _ => rfl
  | fuel + 1, i, b, lastErr => by
    have ih := onErrorLoop_eq retriable answers fuel (i + 1) b.step
    by_cases h0 : b.steps = 0
    · simp only [onErrorLoop, attemptsLoop, h0, if_true]
    by_cases h1 : b.steps = 1
    · rcases h : answers i with e | a <;> simp [onErrorLoop, onErrorAt, attemptsLoop, h, h1]
    · rcases h : answers i with e | a <;> cases hA : attemptsLoop fuel b.step <;>
        simp [onErrorLoop, onErrorAt, attemptsLoop, h, h0, h1, ih, hA, apply_ite some]

theorem onError_eq {ε α : Type} (retriable : ε → Bool) (answers : Nat → Except ε α) {backoff : Backoff}
    (h : 0 < backoff.attempts) :
    onError retriable answers backoff = some (onErrorAt retriable answers 0 (backoff.attempts - 1)) := by
  rw [onError, onErrorLoop_eq]
  exact if_neg (Nat.pos_iff_ne_zero.1 h)

/-- The lookup as the counted loop of 14 attempts. -/
theorem getReplicaSetAt_eq (answers : Nat → Except GetError ReplicaSet) :
    getReplicaSetAt answers =
      match onErrorAt (· == GetError.notFound) answers 0 13 with
      | .ok rs => rs
      | .error _ => {} := by
  rw [getReplicaSetAt, onError_eq _ _ (by rw [replicaSetBackoff_attempts]; decide), replicaSetBackoff_attempts]
  cases onErrorAt (· == GetError.notFound) answers 0 13 <;> rfl

/-! ## What the loop gives -/

/-- The loop gives the answer of attempt `j`, among attempts `i` to `i + steps`: every attempt
before it was retried, and it is not retried unless it is the last. -/
theorem onErrorAt_first {ε α : Type} (retriable : ε → Bool) (answers : Nat → Except ε α) :
    ∀ (steps i : Nat), ∃ j, i ≤ j ∧ j ≤ i + steps ∧ onErrorAt retriable answers i steps = answers j ∧
      (∀ k, i ≤ k → k < j → ∃ e, answers k = .error e ∧ retriable e = true) ∧
      (j < i + steps → ∀ e, answers j = .error e → retriable e = false)
  | 0, i => ⟨i, le_rfl, le_rfl, rfl, fun _ _ _ => by omega, fun _ => by omega⟩
  | steps + 1, i => by
    rcases h : answers i with e | a
    · by_cases hr : retriable e = true
      · obtain ⟨j, hij, hj, heq, hpre, hlast⟩ := onErrorAt_first retriable answers steps (i + 1)
        refine ⟨j, by omega, by omega, by simp only [onErrorAt, h, hr, if_true, heq], fun k hk hkj => ?_,
          fun hj' => hlast (by omega)⟩
        rcases Nat.eq_or_lt_of_le hk with rfl | hk
        · exact ⟨e, h, hr⟩
        · exact hpre k hk hkj
      · exact ⟨i, le_rfl, by omega, by simp [onErrorAt, h, hr], fun _ _ _ => by omega,
          fun _ e' he' => by cases h.symm.trans he'; simpa using hr⟩
    · exact ⟨i, le_rfl, by omega, by simp only [onErrorAt, h], fun _ _ _ => by omega,
        fun _ e' he' => by cases h.symm.trans he'⟩

theorem onErrorAt_const {ε α : Type} (retriable : ε → Bool) (r : Except ε α) :
    ∀ (i steps : Nat), onErrorAt retriable (fun _ => r) i steps = r
  | _, 0 => rfl
  | i, steps + 1 => by cases r <;> simp [onErrorAt, onErrorAt_const retriable _ (i + 1) steps]

/-- On a cluster whose answer does not change between attempts, the lookup is that answer's
ReplicaSet, or the zero one after an error. -/
theorem getReplicaSetAt_const (r : Except GetError ReplicaSet) :
    getReplicaSetAt (fun _ => r) = match r with
      | .ok rs => rs
      | .error _ => {} := by
  rw [getReplicaSetAt_eq, onErrorAt_const]

/-- The ReplicaSet lookup makes at most 14 attempts and tries again only after `NotFound`: the
walk goes on with the first answer among the first 14 that is not `NotFound` (the zero ReplicaSet
when it is another error), or with the zero ReplicaSet after 14 `NotFound`s. -/
theorem getReplicaSetAt_first (answers : Nat → Except GetError ReplicaSet) :
    ∃ j < 14, (∀ k < j, answers k = .error .notFound) ∧ (j < 13 → answers j ≠ .error .notFound) ∧
      getReplicaSetAt answers = match answers j with
        | .ok rs => rs
        | .error _ => {} := by
  obtain ⟨j, -, hj, heq, hpre, hlast⟩ := onErrorAt_first (· == GetError.notFound) answers 13 0
  refine ⟨j, by omega, fun k hk => ?_, fun hj' he => ?_, by rw [getReplicaSetAt_eq, heq]⟩
  · obtain ⟨e, he, hr⟩ := hpre k (Nat.zero_le k) hk
    rwa [beq_iff_eq.1 hr] at he
  · simpa using hlast hj' _ he

/-- A ReplicaSet the cluster finds only from attempt `n` on. -/
def foundFrom (n : Nat) (rs : ReplicaSet) (i : Nat) : Except GetError ReplicaSet :=
  if i < n then .error .notFound else .ok rs

/-- Found at the fourteenth attempt, the walk goes on with it; found at the fifteenth, which the
backoff never makes, with the zero ReplicaSet. -/
example : getReplicaSetAt (foundFrom 13 { objectMeta := { name := "rs" } }) = { objectMeta := { name := "rs" } } ∧
    getReplicaSetAt (foundFrom 14 { objectMeta := { name := "rs" } }) = {} := by
  decide

end K8sAgentsOperator.Instrumentation
