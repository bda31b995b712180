import Mathlib

/-!
# The reconnect policy

`ReconnectPolicy::Evaluate` (`ReconnectPolicy.cpp`): from a request and the number of completed
attempts, whether to retry, when, or to give up. The caller owns the attempt count and the timer.
-/

namespace PlaybackConnector

/-- Source: `ReconnectRequest` (`ReconnectPolicy.hpp`). -/
inductive ReconnectRequest
  | connectionLoss | startup | resume | userCancellation | policyDisabled
deriving Repr, DecidableEq

/-- Source: `ReconnectDecisionKind` (`ReconnectPolicy.hpp`). -/
inductive ReconnectDecisionKind
  | retry | defer | userCancelled | disabledByPolicy | terminalFailure
deriving Repr, DecidableEq

/-- Source: `ReconnectPolicyInput` (`ReconnectPolicy.hpp`). -/
structure ReconnectPolicyInput where
  request : ReconnectRequest
  completedAttempts : Nat
  isBlocked : Bool
deriving Repr, DecidableEq

/-- A decision; the delay is in seconds. Source: `ReconnectPolicyDecision`
(`ReconnectPolicy.hpp`). -/
structure ReconnectPolicyDecision where
  kind : ReconnectDecisionKind
  attempt : Nat
  maxAttempts : Nat
  delay : Nat
deriving Repr, DecidableEq

namespace ReconnectPolicy

/-- Source: `ReconnectPolicy::MaxAttempts`. -/
def maxAttempts : Nat := 10

/-- Source: `ReconnectPolicy::InitialRetryDelay`, in seconds. -/
def initialRetryDelay : Nat := 5

/-- Source: `ReconnectPolicy::BlockedRetryDelay`, in seconds. -/
def blockedRetryDelay : Nat := 5

/-- Source: `ReconnectPolicy::MaximumRetryDelay`, in seconds. -/
def maximumRetryDelay : Nat := 60

/-- The delay before an attempt: the initial one, doubled for every attempt before it up to the
maximum. Source: `RetryDelayForAttempt` (`ReconnectPolicy.cpp:5`), whose loop runs
`attempt - 1` times. -/
def retryDelayForAttempt (attempt : Nat) : Nat :=
  (List.range (attempt - 1)).foldl (fun delay _ => min (delay * 2) maximumRetryDelay)
    initialRetryDelay

/-- Source: `ReconnectPolicy::Evaluate` (`ReconnectPolicy.cpp:15`). -/
def evaluate (input : ReconnectPolicyInput) : ReconnectPolicyDecision :=
  if input.request = .userCancellation then ⟨.userCancelled, 0, maxAttempts, 0⟩
  else if input.request = .policyDisabled then ⟨.disabledByPolicy, 0, maxAttempts, 0⟩
  else if input.completedAttempts ≥ maxAttempts then
    ⟨.terminalFailure, maxAttempts, maxAttempts, 0⟩
  else
    let attempt := input.completedAttempts + 1
    if input.isBlocked then ⟨.defer, attempt, maxAttempts, blockedRetryDelay⟩
    else ⟨.retry, attempt, maxAttempts, retryDelayForAttempt attempt⟩

/-- A lost connection is given up exactly when the attempts are used up. -/
theorem evaluate_connectionLoss_terminal (n : Nat) :
    (evaluate ⟨.connectionLoss, n, false⟩).kind = .terminalFailure ↔ maxAttempts ≤ n := by
  unfold evaluate
  simp only [reduceCtorEq, if_false, ge_iff_le]
  split <;> simp_all

end ReconnectPolicy

end PlaybackConnector
