import Mathlib.Logic.Function.Basic
import Taroai.Lib.Machine
import Taroai.Store.Idempotency

/-! `ChatService.execute_idempotently`, for requests with one scope in any number of API
processes. The named lock admits one such request per process; between two accesses to the
store every other process may act, an operation may take any time, and clock readings are
labels. A process may also die. Each request has a ticket; the ghost `owner` is the ticket
of the request that wrote the stored record. -/

namespace Taroai.Chat

open Taroai.Store

inductive Handler (J : Type) where
  | idle
  | lookup (ticket : Nat) (request : IdempotencyRequest)
  | reserving (ticket : Nat) (request : IdempotencyRequest) (createdAt : Time)
  | reclaiming (ticket : Nat) (request : IdempotencyRequest) (createdAt : Time)
  | waiting (ticket : Nat) (request : IdempotencyRequest)
  | running (ticket : Nat) (request : IdempotencyRequest)
  | saving (ticket : Nat) (request : IdempotencyRequest) (response : J)
  | deleting (ticket : Nat) (request : IdempotencyRequest)
deriving DecidableEq, Repr

structure Answer (J : Type) where
  ticket : Nat
  statusCode : Nat
  responseBody : ResponseBody J
deriving DecidableEq, Repr

structure Service (J : Type) where
  records : IdempotencyRecords J
  handlers : Nat → Handler J
  tickets : Nat
  owner : Option Nat
  successes : List Nat
  answers : List (Answer J)

inductive Label (J : Type) where
  | arrive (process : Nat) (requestHash : String)
  | access (process : Nat) (now : Time)
  | operationEnds (process : Nat) (result : Option J)
  | timeout (process : Nat)
  | die (process : Nat)
deriving DecidableEq, Repr

namespace Handler

variable {J : Type}

def request? : Handler J → Option (Nat × IdempotencyRequest)
  | .idle => none
  | .lookup ticket request | .reserving ticket request _ | .reclaiming ticket request _
  | .waiting ticket request | .running ticket request | .saving ticket request _
  | .deleting ticket request => some (ticket, request)

def active : Handler J → Option (Nat × IdempotencyRequest)
  | .running ticket request | .saving ticket request _ | .deleting ticket request =>
    some (ticket, request)
  | .idle | .lookup _ _ | .reserving _ _ _ | .reclaiming _ _ _ | .waiting _ _ => none

def unfinished : Handler J → Option (Nat × IdempotencyRequest)
  | .idle | .saving _ _ _ => none
  | .lookup ticket request | .reserving ticket request _ | .reclaiming ticket request _
  | .waiting ticket request | .running ticket request | .deleting ticket request =>
    some (ticket, request)

/-- A local step keeps the request or ends it, and neither starts nor ends an operation. -/
structure Follows (before after : Handler J) : Prop where
  request : ∀ x, after.request? = some x → before.request? = some x
  active : ∀ x, after.active = some x → before.active = some x
  unfinished : ∀ x, after.unfinished = some x → before.unfinished = some x

theorem Follows.refl (handler : Handler J) : Follows handler handler :=
  ⟨fun _ same => same, fun _ same => same, fun _ same => same⟩

theorem follows_idle (before : Handler J) : Follows before .idle := by
  constructor <;> rintro x ⟨⟩

theorem follows_of_inactive {before after : Handler J} {x : Nat × IdempotencyRequest}
    (request : before.request? = some x) (request' : after.request? = some x)
    (unfinished : before.unfinished = some x) (unfinished' : after.unfinished = some x)
    (inactive : after.active = none) : Follows before after where
  request := fun y held => by rw [request, ← request', held]
  active := fun y held => by simp [inactive] at held
  unfinished := fun y held => by rw [unfinished, ← unfinished', held]

end Handler

namespace Service

variable {J : Type}

def start : Service J := ⟨Table.empty, fun _ => .idle, 0, none, [], []⟩

/-- `_IDEMPOTENCY_RESERVATION_TTL_SECONDS` -/
def reservationTtlSeconds : Int := 30

def setHandler (s : Service J) (process : Nat) (handler : Handler J) : Service J :=
  { s with handlers := Function.update s.handlers process handler }

def answer (s : Service J) (ticket : Nat) (record : IdempotencyRecord J) : Service J :=
  { s with answers := ⟨ticket, record.statusCode, record.responseBody⟩ :: s.answers }

def pendingRecord (request : IdempotencyRequest) (createdAt : Time) : IdempotencyRecord J :=
  buildIdempotencyRecord request 102 .pendingMarker createdAt

def store (s : Service J) (records : IdempotencyRecords J) (owner : Option Nat) : Service J :=
  { s with records := records, owner := owner }

def access (s : Service J) (process : Nat) (now : Time) : Option (Service J) :=
  match s.handlers process with
  | .idle | .running _ _ => none
  | .lookup ticket request =>
    match s.records.findReplay request with
    | .error _ => some (s.setHandler process .idle)
    | .ok none => some (s.setHandler process (.reserving ticket request now))
    | .ok (some replay) =>
      match replay.responseBody with
      | .result _ => some ((s.setHandler process .idle).answer ticket replay)
      | .pendingMarker => some (s.setHandler process (.reclaiming ticket request now))
  | .reserving ticket request createdAt =>
    match s.records.reserve (pendingRecord request createdAt) with
    | (true, records) =>
      some ((s.setHandler process (.running ticket request)).store records (some ticket))
    | (false, _) => some (s.setHandler process (.waiting ticket request))
  | .reclaiming ticket request createdAt =>
    match s.records.reclaimStale (pendingRecord request createdAt)
        (now - seconds reservationTtlSeconds) with
    | (true, records) =>
      some ((s.setHandler process (.running ticket request)).store records (some ticket))
    | (false, _) => some (s.setHandler process (.waiting ticket request))
  | .waiting ticket request =>
    match s.records.findReplay request with
    | .error _ => some (s.setHandler process .idle)
    | .ok none => some s
    | .ok (some replay) =>
      match replay.responseBody with
      | .result _ => some ((s.setHandler process .idle).answer ticket replay)
      | .pendingMarker => some s
  | .saving ticket request response =>
    let record := buildIdempotencyRecord request 202 (.result response) now
    some (((s.setHandler process .idle).store (s.records.save record) (some ticket)).answer ticket
      record)
  | .deleting _ request =>
    let records := s.records.delete request
    some ((s.setHandler process .idle).store records
      (if (records.get? request.scope).isSome then s.owner else none))

variable (scope : IdempotencyScope)

def step (s : Service J) : Label J → Option (Service J)
  | .arrive process requestHash =>
    match s.handlers process with
    | .idle =>
      some { s.setHandler process (.lookup s.tickets ⟨scope, requestHash⟩) with
        tickets := s.tickets + 1 }
    | _ => none
  | .access process now => s.access process now
  | .operationEnds process result =>
    match s.handlers process, result with
    | .running ticket request, some response =>
      some { s.setHandler process (.saving ticket request response) with
        successes := ticket :: s.successes }
    | .running ticket request, none => some (s.setHandler process (.deleting ticket request))
    | _, _ => none
  | .timeout process =>
    match s.handlers process with
    | .waiting _ _ => some (s.setHandler process .idle)
    | _ => none
  | .die process => some (s.setHandler process .idle)

theorem setHandler_handlers (s : Service J) (p q : Nat) (handler : Handler J) :
    (s.setHandler p handler).handlers q = if q = p then handler else s.handlers q :=
  Function.update_apply ..

inductive Accessed (s : Service J) (p : Nat) (now : Time) : Service J → Prop where
  | quiet (handler : Handler J) (follows : (s.handlers p).Follows handler) :
    Accessed s p now (s.setHandler p handler)
  | replayed (ticket : Nat) (request : IdempotencyRequest) (replay : IdempotencyRecord J) (json : J)
    (held : (s.handlers p).request? = some (ticket, request))
    (found : s.records.findReplay request = .ok (some replay))
    (completed : replay.responseBody = .result json) :
    Accessed s p now ((s.setHandler p .idle).answer ticket replay)
  | reserved (ticket : Nat) (request : IdempotencyRequest) (createdAt : Time)
    (here : s.handlers p = .reserving ticket request createdAt)
    (absent : s.records.get? request.scope = none) :
    Accessed s p now ((s.setHandler p (.running ticket request)).store
      (s.records.put (pendingRecord request createdAt)) (some ticket))
  | reclaimed (ticket : Nat) (request : IdempotencyRequest) (createdAt : Time)
    (existing : IdempotencyRecord J)
    (here : s.handlers p = .reclaiming ticket request createdAt)
    (present : s.records.get? request.scope = some existing)
    (stale : IdempotencyRecords.reclaimable existing (pendingRecord request createdAt)
      (now - seconds reservationTtlSeconds) = true) :
    Accessed s p now ((s.setHandler p (.running ticket request)).store
      (s.records.put (pendingRecord request createdAt)) (some ticket))
  | saved (ticket : Nat) (request : IdempotencyRequest) (response : J)
    (here : s.handlers p = .saving ticket request response) :
    Accessed s p now (((s.setHandler p .idle).store (s.records.save
      (buildIdempotencyRecord request 202 (.result response) now)) (some ticket)).answer ticket
        (buildIdempotencyRecord request 202 (.result response) now))
  | deleted (ticket : Nat) (request : IdempotencyRequest)
    (here : s.handlers p = .deleting ticket request) :
    Accessed s p now ((s.setHandler p .idle).store (s.records.delete request)
      (if ((s.records.delete request).get? request.scope).isSome then s.owner else none))

theorem access_cases {s s' : Service J} {p : Nat} {now : Time} (moved : s.access p now = some s') :
    Accessed s p now s' := by
  unfold access at moved
  -- where the access only read, the process goes on, waits or ends with a conflict
  have quiet (handler : Handler J) (follows : (s.handlers p).Follows handler)
      (same : some (s.setHandler p handler) = some s') : Accessed s p now s' :=
    Option.some.inj same ▸ .quiet handler follows
  cases here : s.handlers p with
  | idle | running =>
    rw [here] at moved
    cases moved
  | lookup ticket request =>
    rw [here] at moved quiet
    simp only at moved
    split at moved
    · exact quiet _ (Handler.follows_idle _) moved
    · exact quiet _ (Handler.follows_of_inactive rfl rfl rfl rfl rfl) moved
    · next replay found =>
      split at moved
      · next json result =>
        cases moved
        exact .replayed ticket request replay json (by rw [here]; rfl) found result
      · exact quiet _ (Handler.follows_of_inactive rfl rfl rfl rfl rfl) moved
  | reserving ticket request createdAt =>
    rw [here] at moved quiet
    cases present : s.records.get? request.scope with
    | none =>
      have made : s.records.reserve (pendingRecord request createdAt) =
          (true, s.records.put (pendingRecord request createdAt)) := by
        simp only [IdempotencyRecords.reserve, pendingRecord, buildIdempotencyRecord, present]
      simp only [made] at moved
      cases moved
      exact .reserved ticket request createdAt here present
    | some existing =>
      have refused : s.records.reserve (pendingRecord request createdAt) = (false, s.records) := by
        simp only [IdempotencyRecords.reserve, pendingRecord, buildIdempotencyRecord, present]
      simp only [refused] at moved
      exact quiet _ (Handler.follows_of_inactive rfl rfl rfl rfl rfl) moved
  | reclaiming ticket request createdAt =>
    rw [here] at moved quiet
    simp only [IdempotencyRecords.reclaimStale] at moved
    split at moved
    · next records made =>
      split at made
      · cases made
      · next existing present =>
        split_ifs at made with stale
        · cases made
          cases moved
          exact .reclaimed ticket request createdAt existing here present stale
        · cases made
    · exact quiet _ (Handler.follows_of_inactive rfl rfl rfl rfl rfl) moved
  | waiting ticket request =>
    rw [here] at moved
    have stays (same : some s = some s') : Accessed s p now s' := by
      refine quiet (s.handlers p) (Handler.Follows.refl _) ?_
      rw [← same, setHandler, Function.update_eq_self]
    simp only at moved
    split at moved
    · exact quiet _ (Handler.follows_idle _) moved
    · exact stays moved
    · next replay found =>
      split at moved
      · next json result =>
        cases moved
        exact .replayed ticket request replay json (by rw [here]; rfl) found result
      · exact stays moved
  | saving ticket request response =>
    rw [here] at moved
    cases moved
    exact .saved ticket request response here
  | deleting ticket request =>
    rw [here] at moved
    cases moved
    exact .deleted ticket request here

inductive Stepped (scope : IdempotencyScope) (s : Service J) : Label J → Service J → Prop where
  | arrived (p : Nat) (requestHash : String) (idle : s.handlers p = .idle) :
    Stepped scope s (.arrive p requestHash)
      { s.setHandler p (.lookup s.tickets ⟨scope, requestHash⟩) with tickets := s.tickets + 1 }
  | accessed (p : Nat) (now : Time) (s' : Service J) (moved : Accessed s p now s') :
    Stepped scope s (.access p now) s'
  | succeeded (p ticket : Nat) (request : IdempotencyRequest) (response : J)
    (here : s.handlers p = .running ticket request) :
    Stepped scope s (.operationEnds p (some response))
      { s.setHandler p (.saving ticket request response) with
        successes := ticket :: s.successes }
  | failed (p ticket : Nat) (request : IdempotencyRequest)
    (here : s.handlers p = .running ticket request) :
    Stepped scope s (.operationEnds p none) (s.setHandler p (.deleting ticket request))
  | ended (p : Nat) (label : Label J) (outside : ∀ q now, label ≠ .access q now) :
    Stepped scope s label (s.setHandler p .idle)

theorem step_cases {scope : IdempotencyScope} {s s' : Service J} {label : Label J}
    (moved : step scope s label = some s') : Stepped scope s label s' := by
  cases label with
  | arrive p requestHash =>
    cases here : s.handlers p <;> simp only [step, here] at moved <;> cases moved
    exact .arrived p requestHash here
  | access p now => exact .accessed p now s' (access_cases moved)
  | operationEnds p result =>
    cases here : s.handlers p <;> simp only [step, here] at moved <;> try cases moved
    next ticket request =>
    cases result with
    | none =>
      cases moved
      exact .failed p ticket request here
    | some response =>
      cases moved
      exact .succeeded p ticket request response here
  | timeout p =>
    cases here : s.handlers p <;> simp only [step, here] at moved <;> cases moved
    exact .ended p _ (by intros; simp)
  | die p =>
    cases moved
    exact .ended p _ (by intros; simp)

theorem access_lookup {s : Service J} {p ticket : Nat} {request : IdempotencyRequest}
    {record : IdempotencyRecord J} (now : Time) (here : s.handlers p = .lookup ticket request)
    (present : s.records.get? request.scope = some record)
    (same : record.requestHash = request.requestHash)
    (completed : record.responseBody ≠ .pendingMarker) :
    s.access p now = some ((s.setHandler p .idle).answer ticket record) := by
  have found := IdempotencyRecords.findReplay_of_get? present same
  simp only [access, here, found]
  split
  · rfl
  · contradiction

end Service

end Taroai.Chat
