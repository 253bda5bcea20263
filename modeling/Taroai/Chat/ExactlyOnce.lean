import Taroai.Chat.IdempotentRequests

/-! Requests with one scope run exactly once as long as only orphaned reservations are
reclaimed. A reservation is orphaned when the request that made it is no longer handled and
its operation has not succeeded. -/

namespace Taroai.Chat

open Taroai.Machine
open Taroai.Store

variable {J : Type} {scope : IdempotencyScope}

namespace Service

/-- Nobody works for the stored reservation any more, and nobody did so with success. -/
def Orphaned (s : Service J) : Prop :=
  ∀ ticket, s.owner = some ticket → ticket ∉ s.successes ∧
    ∀ process request, (s.handlers process).active ≠ some (ticket, request)

def reclaims (s : Service J) : Label J → Bool
  | .access process now =>
    match s.handlers process with
    | .reclaiming _ request createdAt => (s.records.get? request.scope).any fun existing =>
      IdempotencyRecords.reclaimable existing (pendingRecord request createdAt)
        (now - seconds reservationTtlSeconds)
    | _ => false
  | _ => false

def ReclaimsOrphan (s : Service J) (label : Label J) : Prop :=
  s.reclaims label = true → s.Orphaned

def Completed (scope : IdempotencyScope) (s : Service J) (record : IdempotencyRecord J) : Prop :=
  s.records.get? scope = some record ∧ record.responseBody ≠ .pendingMarker

/-- What a step may do: a stored response stays, every answer from then on is that response,
a later request with the same body is answered with it at its lookup, and the record that a
request overwrites or deletes at its end is its own. -/
structure Lawful (scope : IdempotencyScope) (s : Service J) (label : Label J) (s' : Service J) :
    Prop where
  succeededOnce : s'.successes.length ≤ 1
  stays : ∀ record, s.Completed scope record → s'.Completed scope record
  answered : ∀ record, s.Completed scope record → ∀ answer ∈ s'.answers,
    answer ∈ s.answers ∨
      answer.statusCode = record.statusCode ∧ answer.responseBody = record.responseBody
  served : ∀ record process now ticket request, s.Completed scope record →
    label = .access process now → s.handlers process = .lookup ticket request →
    record.requestHash = request.requestHash →
    s'.answers = ⟨ticket, record.statusCode, record.responseBody⟩ :: s.answers
  writesOwn : ∀ process now ticket request response, label = .access process now →
    s.handlers process = .saving ticket request response ∨
      s.handlers process = .deleting ticket request → s.owner = some ticket

/-- Each request has its own ticket, and its operation succeeds at most at its end. -/
structure Ticketed (scope : IdempotencyScope) (handlers : Nat → Handler J) (tickets : Nat)
    (successes : List Nat) : Prop where
  inScope : ∀ p ticket request, (handlers p).request? = some (ticket, request) →
    request.scope = scope
  issued : ∀ p ticket request, (handlers p).request? = some (ticket, request) → ticket < tickets
  distinct : ∀ p q ticket request other, (handlers p).request? = some (ticket, request) →
    (handlers q).request? = some (ticket, other) → p = q
  unfinished : ∀ p ticket request, (handlers p).unfinished = some (ticket, request) →
    ticket ∉ successes
  succeeded : ∀ ticket ∈ successes, ticket < tickets

/-- An active request owns the stored reservation, and an operation that succeeded left its
reservation or a response. -/
structure Reserved (scope : IdempotencyScope) (records : IdempotencyRecords J)
    (owner : Option Nat) (handlers : Nat → Handler J) (successes : List Nat) : Prop where
  owned : ∀ p ticket request, (handlers p).active = some (ticket, request) →
    owner = some ticket ∧ ∃ record, records.get? scope = some record ∧
      record.responseBody = .pendingMarker ∧ record.requestHash = request.requestHash
  once : successes = [] ∨ ∃ ticket record, successes = [ticket] ∧
    records.get? scope = some record ∧ (record.responseBody = .pendingMarker → owner = some ticket)
  status : ∀ record, records.get? scope = some record →
    (record.statusCode = 102 ↔ record.responseBody = .pendingMarker)

structure Consistent (scope : IdempotencyScope) (s : Service J) : Prop where
  ticketed : Ticketed scope s.handlers s.tickets s.successes
  reserved : Reserved scope s.records s.owner s.handlers s.successes

theorem consistent_start : Consistent scope (start : Service J) where
  ticketed := by
    constructor
    case succeeded => exact fun ticket none => absurd none List.not_mem_nil
    all_goals
      intros
      contradiction
  reserved := by
    refine ⟨?_, Or.inl rfl, ?_⟩ <;>
    · intros
      contradiction

end Service

namespace Handler

theorem request?_of_active {handler : Handler J} {x : Nat × IdempotencyRequest}
    (active : handler.active = some x) : handler.request? = some x := by
  cases handler <;> first | exact active | cases active

theorem request?_of_unfinished {handler : Handler J} {x : Nat × IdempotencyRequest}
    (unfinished : handler.unfinished = some x) : handler.request? = some x := by
  cases handler <;> first | exact unfinished | cases unfinished

end Handler

namespace Service

variable {s s' : Service J} {p : Nat} {handler : Handler J}

section Ticketed

variable {tickets : Nat} {successes : List Nat}

theorem Ticketed.update (ticketed : Ticketed scope s.handlers tickets successes)
    (request : ∀ x, handler.request? = some x → (s.handlers p).request? = some x)
    (unfinished : ∀ ticket r, handler.unfinished = some (ticket, r) → ticket ∉ successes) :
    Ticketed scope (s.setHandler p handler).handlers tickets successes := by
  -- whatever a process handles after the step it handled before
  have before (q : Nat) (x : Nat × IdempotencyRequest)
      (held : ((s.setHandler p handler).handlers q).request? = some x) :
      (s.handlers q).request? = some x := by
    rw [setHandler_handlers] at held
    split_ifs at held with same
    · subst same
      exact request x held
    · exact held
  refine ⟨?_, ?_, ?_, ?_, ticketed.succeeded⟩
  · exact fun q ticket r held => ticketed.inScope q ticket r (before q _ held)
  · exact fun q ticket r held => ticketed.issued q ticket r (before q _ held)
  · intro q q' ticket r r' held held'
    exact ticketed.distinct q q' ticket r r' (before q _ held) (before q' _ held')
  · intro q ticket r held
    rw [setHandler_handlers] at held
    split_ifs at held with same
    · exact unfinished ticket r held
    · exact ticketed.unfinished q ticket r held

theorem Ticketed.follows (ticketed : Ticketed scope s.handlers tickets successes)
    (follows : (s.handlers p).Follows handler) :
    Ticketed scope (s.setHandler p handler).handlers tickets successes :=
  ticketed.update follows.request fun ticket r held =>
    ticketed.unfinished p ticket r (follows.unfinished _ held)

theorem Ticketed.arrive (ticketed : Ticketed scope s.handlers s.tickets successes)
    (requestHash : String) :
    Ticketed scope (s.setHandler p (.lookup s.tickets ⟨scope, requestHash⟩)).handlers
      (s.tickets + 1) successes := by
  -- the ticket of another process is an older one
  have older (q ticket : Nat) (r : IdempotencyRequest) (other : q ≠ p)
      (held : ((s.setHandler p (.lookup s.tickets ⟨scope, requestHash⟩)).handlers q).request? =
        some (ticket, r)) :
      (s.handlers q).request? = some (ticket, r) := by
    rwa [setHandler_handlers, if_neg other] at held
  have newest (ticket : Nat) (r : IdempotencyRequest)
      (held : ((s.setHandler p (.lookup s.tickets ⟨scope, requestHash⟩)).handlers p).request? =
        some (ticket, r)) : ticket = s.tickets ∧ r = ⟨scope, requestHash⟩ := by
    rw [setHandler_handlers, if_pos rfl] at held
    cases held
    exact ⟨rfl, rfl⟩
  refine ⟨?_, ?_, ?_, ?_, ?_⟩
  · intro q ticket r held
    by_cases same : q = p
    · subst same
      rw [(newest ticket r held).2]
    · exact ticketed.inScope q ticket r (older q ticket r same held)
  · intro q ticket r held
    by_cases same : q = p
    · subst same
      have := (newest ticket r held).1
      omega
    · have := ticketed.issued q ticket r (older q ticket r same held)
      omega
  · intro q q' ticket r r' held held'
    by_cases same : q = p <;> by_cases same' : q' = p
    · rw [same, same']
    · subst same
      have := (newest ticket r held).1
      have := ticketed.issued q' ticket r' (older q' ticket r' same' held')
      omega
    · subst same'
      have := (newest ticket r' held').1
      have := ticketed.issued q ticket r (older q ticket r same held)
      omega
    · exact ticketed.distinct q q' ticket r r' (older q ticket r same held)
        (older q' ticket r' same' held')
  · intro q ticket r held counted
    have earlier := ticketed.succeeded ticket counted
    by_cases same : q = p
    · subst same
      have := (newest ticket r (Handler.request?_of_unfinished held)).1
      omega
    · rw [setHandler_handlers, if_neg same] at held
      exact ticketed.unfinished q ticket r held counted
  · intro ticket counted
    have := ticketed.succeeded ticket counted
    omega

theorem Ticketed.succeed (ticketed : Ticketed scope s.handlers tickets successes) {ticket : Nat}
    {request : IdempotencyRequest} (response : J)
    (held : (s.handlers p).request? = some (ticket, request)) :
    Ticketed scope (s.setHandler p (.saving ticket request response)).handlers tickets
      (ticket :: successes) := by
  have moved : Ticketed scope (s.setHandler p (.saving ticket request response)).handlers tickets
      successes := by
    refine ticketed.update (fun x same => held.trans same) ?_
    rintro t r ⟨⟩
  refine ⟨moved.inScope, moved.issued, moved.distinct, ?_, ?_⟩
  · intro q t r unfinished counted
    rcases List.mem_cons.mp counted with rfl | counted
    · have here := moved.distinct q p t r request (Handler.request?_of_unfinished unfinished)
        (by rw [setHandler_handlers, if_pos rfl]; rfl)
      rw [here, setHandler_handlers, if_pos rfl] at unfinished
      cases unfinished
    · exact moved.unfinished q t r unfinished counted
  · intro t counted
    rcases List.mem_cons.mp counted with rfl | counted
    · exact ticketed.issued p t request held
    · exact ticketed.succeeded t counted

end Ticketed

section Reserved

variable {records : IdempotencyRecords J} {owner : Option Nat} {successes : List Nat}

theorem Reserved.alone {handlers : Nat → Handler J} {tickets : Nat}
    (reserved : Reserved scope records owner handlers successes)
    (ticketed : Ticketed scope handlers tickets successes) {q ticket ticket' : Nat}
    {request request' : IdempotencyRequest} (here : (handlers p).active = some (ticket, request))
    (there : (handlers q).active = some (ticket', request')) : q = p := by
  have mine := (reserved.owned p ticket request here).1
  have theirs := (reserved.owned q ticket' request' there).1
  obtain rfl : ticket' = ticket := Option.some.inj (theirs.symm.trans mine)
  exact ticketed.distinct q p ticket' request' request (Handler.request?_of_active there)
    (Handler.request?_of_active here)

theorem Reserved.update (reserved : Reserved scope records owner s.handlers successes)
    (active : ∀ x, handler.active = some x → (s.handlers p).active = some x) :
    Reserved scope records owner (s.setHandler p handler).handlers successes := by
  refine ⟨?_, reserved.once, reserved.status⟩
  intro q ticket request held
  rw [setHandler_handlers] at held
  split_ifs at held with same
  · subst same
    exact reserved.owned q ticket request (active _ held)
  · exact reserved.owned q ticket request held

theorem Reserved.unsucceeded {handlers : Nat → Handler J} {tickets ticket : Nat}
    (reserved : Reserved scope records owner handlers successes)
    (ticketed : Ticketed scope handlers tickets successes) {request : IdempotencyRequest}
    (active : (handlers p).active = some (ticket, request))
    (unfinished : (handlers p).unfinished = some (ticket, request)) : successes = [] := by
  rcases reserved.once with none | ⟨first, record, counted, stored, owns⟩
  · exact none
  · obtain ⟨mine, held, stored', pending, -⟩ := reserved.owned p ticket request active
    obtain rfl : held = record := Option.some.inj (stored'.symm.trans stored)
    obtain rfl : first = ticket := Option.some.inj ((owns pending).symm.trans mine)
    refine absurd ?_ (ticketed.unfinished p first request unfinished)
    rw [counted]
    exact List.mem_singleton.mpr rfl

theorem Reserved.take (inactive : ∀ q x, (s.handlers q).active ≠ some x) {ticket : Nat}
    {request : IdempotencyRequest} (createdAt : Time) (inScope : request.scope = scope) :
    Reserved scope (records.put (pendingRecord request createdAt)) (some ticket)
      (s.setHandler p (.running ticket request)).handlers [] := by
  subst inScope
  have stored : (records.put (pendingRecord request createdAt)).get? request.scope =
      some (pendingRecord request createdAt) := Table.get?_put_self ..
  refine ⟨?_, Or.inl rfl, ?_⟩
  · intro q t r held
    rw [setHandler_handlers] at held
    split_ifs at held with same
    · cases held
      exact ⟨rfl, _, stored, rfl, rfl⟩
    · exact absurd held (inactive q (t, r))
  · intro record present
    obtain rfl := Option.some.inj (stored.symm.trans present)
    exact ⟨fun _ => rfl, fun _ => rfl⟩

end Reserved

namespace Consistent

variable {ticket : Nat} {request : IdempotencyRequest}

theorem scope_eq (consistent : Consistent scope s)
    (held : (s.handlers p).request? = some (ticket, request)) : request.scope = scope :=
  consistent.ticketed.inScope p ticket request held

theorem follows (consistent : Consistent scope s) (follows : (s.handlers p).Follows handler) :
    Consistent scope (s.setHandler p handler) where
  ticketed := consistent.ticketed.follows follows
  reserved := consistent.reserved.update follows.active

theorem succeed (consistent : Consistent scope s) (response : J)
    (here : s.handlers p = .running ticket request) :
    Consistent scope { s.setHandler p (.saving ticket request response) with
      successes := ticket :: s.successes } := by
  have active : (s.handlers p).active = some (ticket, request) := by rw [here]; rfl
  have unfinished : (s.handlers p).unfinished = some (ticket, request) := by rw [here]; rfl
  have none := consistent.reserved.unsucceeded consistent.ticketed active unfinished
  have kept : Reserved scope s.records s.owner
      (s.setHandler p (.saving ticket request response)).handlers s.successes :=
    consistent.reserved.update fun x same => active.trans same
  obtain ⟨mine, record, stored, pending, -⟩ := consistent.reserved.owned p ticket request active
  refine ⟨consistent.ticketed.succeed response (Handler.request?_of_active active), ?_⟩
  refine ⟨kept.owned, Or.inr ⟨ticket, record, ?_, stored, fun _ => mine⟩, kept.status⟩
  exact congrArg _ none

theorem take (consistent : Consistent scope s) (createdAt : Time)
    (inactive : ∀ q x, (s.handlers q).active ≠ some x) (none : s.successes = [])
    (held : (s.handlers p).request? = some (ticket, request))
    (unfinished : (s.handlers p).unfinished = some (ticket, request)) :
    Consistent scope ((s.setHandler p (.running ticket request)).store
      (s.records.put (pendingRecord request createdAt)) (some ticket)) where
  ticketed := consistent.ticketed.update (fun x same => held.trans same) fun t r same =>
    consistent.ticketed.unfinished p t r (unfinished.trans same)
  reserved := by
    have taken : Reserved scope (s.records.put (pendingRecord request createdAt)) (some ticket)
        (s.setHandler p (.running ticket request)).handlers [] :=
      Reserved.take inactive createdAt (consistent.scope_eq held)
    rw [← none] at taken
    exact taken

theorem absent (consistent : Consistent scope s) (absent : s.records.get? scope = none) :
    (∀ q x, (s.handlers q).active ≠ some x) ∧ s.successes = [] := by
  constructor
  · intro q x active
    obtain ⟨-, record, stored, -⟩ := consistent.reserved.owned q x.1 x.2 active
    rw [absent] at stored
    cases stored
  · rcases consistent.reserved.once with none | ⟨first, record, -, stored, -⟩
    · exact none
    · rw [absent] at stored
      cases stored

theorem orphaned (consistent : Consistent scope s) (orphaned : s.Orphaned)
    {record : IdempotencyRecord J} (present : s.records.get? scope = some record)
    (pending : record.responseBody = .pendingMarker) :
    (∀ q x, (s.handlers q).active ≠ some x) ∧ s.successes = [] := by
  constructor
  · intro q x active
    have owned := (consistent.reserved.owned q x.1 x.2 active).1
    exact (orphaned x.1 owned).2 q x.2 active
  · rcases consistent.reserved.once with none | ⟨first, stored, counted, same, owns⟩
    · exact none
    · obtain rfl := Option.some.inj (present.symm.trans same)
      refine absurd ?_ (orphaned first (owns pending)).1
      rw [counted]
      exact List.mem_singleton.mpr rfl

theorem inactive (consistent : Consistent scope s)
    (active : (s.handlers p).active = some (ticket, request)) (q : Nat)
    (x : Nat × IdempotencyRequest) :
    ((s.setHandler p .idle).handlers q).active ≠ some x := by
  intro there
  rw [setHandler_handlers] at there
  split_ifs at there with same
  · cases there
  · obtain ⟨ticket', request'⟩ := x
    exact same (consistent.reserved.alone consistent.ticketed active there)

theorem idle (consistent : Consistent scope s) (p : Nat) :
    Consistent scope (s.setHandler p .idle) := consistent.follows (Handler.follows_idle _)

theorem save (consistent : Consistent scope s) {response : J} (now : Time)
    (here : s.handlers p = .saving ticket request response) :
    Consistent scope ((s.setHandler p .idle).store (s.records.save
      (buildIdempotencyRecord request 202 (.result response) now)) (some ticket)) := by
  have active : (s.handlers p).active = some (ticket, request) := by rw [here]; rfl
  obtain rfl := consistent.scope_eq (Handler.request?_of_active active)
  have stored : (s.records.save (buildIdempotencyRecord request 202 (.result response) now)).get?
      request.scope = some (buildIdempotencyRecord request 202 (.result response) now) :=
    Table.get?_put_self ..
  refine ⟨(consistent.idle p).ticketed, ?_, ?_, ?_⟩
  · exact fun q t r there => absurd there (consistent.inactive active q (t, r))
  · rcases consistent.reserved.once with none | ⟨first, -, counted, -⟩
    · exact Or.inl none
    · exact Or.inr ⟨first, _, counted, stored, fun pending => by cases pending⟩
  · intro record present
    obtain rfl := Option.some.inj (stored.symm.trans present)
    constructor <;> intro other <;> cases other

theorem delete (consistent : Consistent scope s) (here : s.handlers p = .deleting ticket request) :
    Consistent scope ((s.setHandler p .idle).store (s.records.delete request)
      (if ((s.records.delete request).get? request.scope).isSome then s.owner else none)) := by
  have active : (s.handlers p).active = some (ticket, request) := by rw [here]; rfl
  have unfinished : (s.handlers p).unfinished = some (ticket, request) := by rw [here]; rfl
  have none := consistent.reserved.unsucceeded consistent.ticketed active unfinished
  obtain rfl := consistent.scope_eq (Handler.request?_of_active active)
  obtain ⟨-, record, stored, -, same⟩ := consistent.reserved.owned p ticket request active
  have gone := IdempotencyRecords.get?_delete_of_same stored same
  refine ⟨(consistent.idle p).ticketed, ?_, Or.inl none, ?_⟩
  · exact fun q t r there => absurd there (consistent.inactive active q (t, r))
  · intro left present
    rw [show ((s.setHandler p .idle).store (s.records.delete request) _).records =
      s.records.delete request from rfl, gone] at present
    cases present

theorem answer (consistent : Consistent scope s) (ticket : Nat) (record : IdempotencyRecord J) :
    Consistent scope (s.answer ticket record) := ⟨consistent.ticketed, consistent.reserved⟩

theorem accessed (consistent : Consistent scope s) {now : Time}
    (safe : s.ReclaimsOrphan (.access p now)) (moved : Accessed s p now s') :
    Consistent scope s' := by
  cases moved with
  | quiet handler follows => exact consistent.follows follows
  | replayed ticket request replay json held found completed =>
    exact (consistent.idle p).answer ticket replay
  | reserved ticket request createdAt here absent =>
    have held : (s.handlers p).request? = some (ticket, request) := by rw [here]; rfl
    rw [consistent.scope_eq held] at absent
    obtain ⟨inactive, none⟩ := consistent.absent absent
    exact consistent.take createdAt inactive none held (by rw [here]; rfl)
  | reclaimed ticket request createdAt existing here present stale =>
    have held : (s.handlers p).request? = some (ticket, request) := by rw [here]; rfl
    have orphaned := safe (by simp only [reclaims, here, present, Option.any_some, stale])
    rw [consistent.scope_eq held] at present
    have pending := (consistent.reserved.status existing present).mp
      (IdempotencyRecords.status_of_reclaimable stale)
    obtain ⟨inactive, none⟩ := consistent.orphaned orphaned present pending
    exact consistent.take createdAt inactive none held (by rw [here]; rfl)
  | saved ticket request response here => exact (consistent.save now here).answer _ _
  | deleted ticket request here => exact consistent.delete here

theorem stepped (consistent : Consistent scope s) {label : Label J}
    (safe : s.ReclaimsOrphan label) (moved : Stepped scope s label s') : Consistent scope s' := by
  cases moved with
  | arrived p requestHash idle =>
    refine ⟨consistent.ticketed.arrive requestHash, ?_⟩
    have quiet : Reserved scope s.records s.owner
        (s.setHandler p (.lookup s.tickets ⟨scope, requestHash⟩)).handlers s.successes :=
      consistent.reserved.update (by rintro x ⟨⟩)
    exact ⟨quiet.owned, quiet.once, quiet.status⟩
  | accessed p now s' moved => exact consistent.accessed safe moved
  | succeeded p ticket request response here => exact consistent.succeed response here
  | failed p ticket request here =>
    refine consistent.follows ?_
    rw [here]
    exact ⟨fun _ same => same, fun _ same => same, fun _ same => same⟩
  | ended p label outside => exact consistent.idle p

theorem succeededOnce (consistent : Consistent scope s) : s.successes.length ≤ 1 := by
  rcases consistent.reserved.once with none | ⟨ticket, record, counted, -⟩
  · rw [none]
    exact Nat.zero_le 1
  · rw [counted]
    exact Nat.le_refl 1

theorem completed (consistent : Consistent scope s) {label : Label J}
    (moved : Stepped scope s label s') {record : IdempotencyRecord J}
    (completed : s.Completed scope record) :
    s'.Completed scope record ∧ ∀ answer ∈ s'.answers, answer ∈ s.answers ∨
      answer.statusCode = record.statusCode ∧ answer.responseBody = record.responseBody := by
  have same (answer : Answer J) (given : answer ∈ s.answers) : answer ∈ s.answers ∨
      answer.statusCode = record.statusCode ∧ answer.responseBody = record.responseBody :=
    Or.inl given
  -- nobody that could write is active beside a stored response
  have inactive (q : Nat) (x : Nat × IdempotencyRequest) : (s.handlers q).active ≠ some x := by
    intro active
    obtain ⟨-, other, stored, pending, -⟩ := consistent.reserved.owned q x.1 x.2 active
    obtain rfl := Option.some.inj (stored.symm.trans completed.1)
    exact completed.2 pending
  cases moved with
  | arrived | succeeded | failed | ended => exact ⟨completed, same⟩
  | accessed p now s' moved =>
    cases moved with
    | quiet handler follows => exact ⟨completed, same⟩
    | replayed ticket request replay json held found result =>
      refine ⟨completed, ?_⟩
      have stored := IdempotencyRecords.get?_of_findReplay found
      rw [consistent.scope_eq held] at stored
      obtain rfl := Option.some.inj (stored.symm.trans completed.1)
      intro answer given
      rcases List.mem_cons.mp given with rfl | given
      · exact Or.inr ⟨rfl, rfl⟩
      · exact Or.inl given
    | reserved ticket request createdAt here absent =>
      rw [consistent.scope_eq (by rw [here]; rfl), completed.1] at absent
      cases absent
    | reclaimed ticket request createdAt existing here present stale =>
      rw [consistent.scope_eq (by rw [here]; rfl)] at present
      have pending := (consistent.reserved.status existing present).mp
        (IdempotencyRecords.status_of_reclaimable stale)
      obtain rfl := Option.some.inj (present.symm.trans completed.1)
      exact absurd pending completed.2
    | saved ticket request response here => exact absurd (by rw [here]; rfl) (inactive p _)
    | deleted ticket request here => exact absurd (by rw [here]; rfl) (inactive p _)

theorem lawful (consistent : Consistent scope s) {label : Label J}
    (safe : s.ReclaimsOrphan label) (moved : step scope s label = some s') :
    Lawful scope s label s' := by
  have stepped := step_cases moved
  refine ⟨(consistent.stepped safe stepped).succeededOnce, ?_, ?_, ?_, ?_⟩
  · exact fun record stored => (consistent.completed stepped stored).1
  · exact fun record stored => (consistent.completed stepped stored).2
  · rintro record process now ticket request ⟨stored, completed⟩ rfl here same
    rw [← consistent.scope_eq (by rw [here]; rfl)] at stored
    have answered := access_lookup now here stored same completed
    obtain rfl := Option.some.inj (answered.symm.trans moved)
    rfl
  · rintro process now ticket request response rfl (here | here)
    all_goals
      have active : (s.handlers process).active = some (ticket, request) := by rw [here]; rfl
      exact (consistent.reserved.owned process ticket request active).1

end Consistent

/-- When only orphaned reservations are reclaimed, the operation of a scope succeeds at most
once, and every step of the run is lawful. -/
theorem exactly_once (scope : IdempotencyScope) (labels : List (Label J)) (s : Service J)
    (safe : Conforms (step scope) ReclaimsOrphan start labels)
    (ran : run (step scope) start labels = some s) :
    s.successes.length ≤ 1 ∧ Along (step scope) (Lawful scope) start labels := by
  have each (s : Service J) (label : Label J) (s' : Service J) (consistent : Consistent scope s)
      (safe : s.ReclaimsOrphan label) (moved : step scope s label = some s') :
      Consistent scope s' := consistent.stepped safe (step_cases moved)
  refine ⟨(invariant_conforms each consistent_start safe ran).succeededOnce, ?_⟩
  exact Along.of_invariant (I := Consistent scope) (fun s label s' consistent safe moved =>
    ⟨each s label s' consistent safe moved, consistent.lawful safe moved⟩) consistent_start safe

section Runs

def postThreads : IdempotencyScope := ⟨"tenant_1", "key_1", "POST", "/chat/threads"⟩

/-- The first process reserves and dies; the second reclaims the reservation after its 30
seconds, succeeds and saves; the third is answered with the stored response. -/
def reservation : List (Label Nat) :=
  [.arrive 1 "hash", .access 1 0, .access 1 0, .die 1, .arrive 2 "hash", .access 2 (seconds 30)]

def completion : List (Label Nat) :=
  [.operationEnds 2 (some 7), .access 2 (seconds 31), .arrive 3 "hash", .access 3 (seconds 32)]

theorem exactly_once_orphan :
    (final (step postThreads) start (reservation ++ .access 2 (seconds 30) :: completion)
      rfl).successes.length ≤ 1 ∧
    Along (step postThreads) (Lawful postThreads) start
      (reservation ++ .access 2 (seconds 30) :: completion) := by
  refine exactly_once postThreads _ _ ?_ (run_final (step postThreads) start _ rfl)
  have quiet (s : Service Nat) (label : Label Nat) (none : s.reclaims label = false) :
      s.ReclaimsOrphan label := fun reclaims => by rw [none] at reclaims; cases reclaims
  refine Conforms.append (Conforms.mono quiet (by decide)) fun s ran => ?_
  obtain rfl := Option.some.inj ((run_final (step postThreads) start reservation rfl).symm.trans ran)
  have reclaim : step postThreads (final (step postThreads) start reservation rfl)
      (.access 2 (seconds 30)) = some (final (step postThreads) start
        (reservation ++ [.access 2 (seconds 30)]) rfl) := rfl
  refine Along.cons reclaim (fun _ => ?_) (Conforms.mono quiet (by decide))
  rintro ticket ⟨⟩
  refine ⟨List.not_mem_nil, fun process request active => ?_⟩
  match process with
  | 0 | 1 | 2 => cases active
  | n + 3 => cases active

/-- The first operation outlives the 30 seconds, the second request with the same body reclaims
the reservation, and both operations succeed. -/
def overtaken : List (Label Nat) :=
  [.arrive 1 "hash", .access 1 0, .access 1 0, .arrive 2 "hash", .access 2 (seconds 30),
    .access 2 (seconds 30), .operationEnds 2 (some 7), .access 2 (seconds 31),
    .operationEnds 1 (some 8), .access 1 (seconds 32)]

theorem overtaken_succeeds_twice : ¬ ∀ (labels : List (Label Nat)) (s : Service Nat),
    run (step postThreads) start labels = some s →
      s.successes.length ≤ 1 ∧ Along (step postThreads) (Lawful postThreads) start labels := by
  intro once
  have both := (once overtaken _ (run_final (step postThreads) start overtaken rfl)).1
  exact absurd both (by decide)

end Runs

end Service

end Taroai.Chat
