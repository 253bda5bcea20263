/-! Run statuses of `domain.py`, with the terminal ones of `store.py`. -/

namespace Taroai

inductive RunStatus where
  | created
  | queued
  | classifying
  | retrievingContext
  | planning
  | awaitingPolicy
  | running
  | awaitingApproval
  | waitingForUser
  | retrying
  | succeeded
  | failed
  | cancelled
  | timedOut
deriving DecidableEq, Repr

namespace RunStatus

def value : RunStatus → String
  | created => "created"
  | queued => "queued"
  | classifying => "classifying"
  | retrievingContext => "retrieving_context"
  | planning => "planning"
  | awaitingPolicy => "awaiting_policy"
  | running => "running"
  | awaitingApproval => "awaiting_approval"
  | waitingForUser => "waiting_for_user"
  | retrying => "retrying"
  | succeeded => "succeeded"
  | failed => "failed"
  | cancelled => "cancelled"
  | timedOut => "timed_out"

/-- `TERMINAL_RUN_STATUSES` -/
def terminal : RunStatus → Bool
  | succeeded | failed | cancelled | timedOut => true
  | created | queued | classifying | retrievingContext | planning | awaitingPolicy | running
  | awaitingApproval | waitingForUser | retrying => false

/-- `RETRYABLE_RUN_STATUSES` -/
def retryable : RunStatus → Bool
  | failed | cancelled | timedOut => true
  | created | queued | classifying | retrievingContext | planning | awaitingPolicy | running
  | awaitingApproval | waitingForUser | retrying | succeeded => false

end RunStatus

end Taroai
