import Mathlib
import Taroai.Workers.ConnectorSync

/-! What the attempts of one connector-sync job do. Over every run of the worker its documents are
registered and metered at most once, and all of them are registered when the job is acknowledged.
An undisturbed attempt acknowledges the job, and the run fails only with the job's last attempt,
exactly when no attempt before the last is disturbed and every undisturbed one finds each document
acceptable and not yet stored. -/

namespace Taroai.Workers.SyncSystem

open Knowledge.Registration (KnowledgeDocument KnowledgeService)
open Machine (Along Conforms)

section Documents

variable {payload : ConnectorSyncJob} {faults : Nat → Option Fault}

structure Storable (payload : ConnectorSyncJob) (documents : List ConnectorSyncDocument)
    (service : KnowledgeService) : Prop where
  distinct : (documents.map ConnectorSyncDocument.contentHash).Nodup
  accepted : ∀ d ∈ documents, service.Accepts (payload.plan d)
  fresh : ∀ d ∈ documents, d.contentHash ∉ service.contentHashes

def Stored (documents : List ConnectorSyncDocument) (service : KnowledgeService) : Prop :=
  ∀ d ∈ documents, d.contentHash ∈ service.contentHashes

/-- A document and the rest are storable when the document is and, with it stored, the rest is. -/
theorem storable_cons {d : ConnectorSyncDocument} {rest : List ConnectorSyncDocument}
    {service : KnowledgeService} (fresh : d.contentHash ∉ service.contentHashes) :
    Storable payload (d :: rest) service ↔
      service.Accepts (payload.plan d) ∧
        Storable payload rest (service.add (payload.plan d) fresh) := by
  constructor
  · rintro ⟨distinct, accepted, new⟩
    rw [List.map_cons, List.nodup_cons] at distinct
    refine ⟨accepted d (List.mem_cons_self ..), distinct.2,
      fun e member => accepted e (List.mem_cons_of_mem _ member), fun e member stored => ?_⟩
    obtain old | same := List.mem_append.mp stored
    · exact new e (List.mem_cons_of_mem _ member) old
    · have twice : e.contentHash = d.contentHash := List.mem_singleton.mp same
      exact distinct.1 (twice ▸ List.mem_map_of_mem member)
  · rintro ⟨accepts, distinct, accepted, new⟩
    refine ⟨?_, ?_, ?_⟩
    · rw [List.map_cons, List.nodup_cons]
      refine ⟨fun repeated => ?_, distinct⟩
      obtain ⟨e, member, same⟩ := List.mem_map.mp repeated
      refine new e member (List.mem_append_right _ (List.mem_singleton.mpr ?_))
      exact same
    · intro e member
      obtain rfl | member := List.mem_cons.mp member
      · exact accepts
      · exact accepted e member
    · intro e member
      obtain rfl | member := List.mem_cons.mp member
      · exact fresh
      · exact fun stored => new e member (List.mem_append_left _ stored)

variable (payload faults)

theorem registerDocuments_grows (n : Nat) (documents : List ConnectorSyncDocument)
    (service : KnowledgeService) :
    service.contentHashes ⊆
      (registerDocuments payload faults n documents service).2.contentHashes := by
  induction documents generalizing n service with
  | nil => exact List.Subset.refl _
  | cons d rest ih =>
    simp only [registerDocuments]
    cases stored : service.register (payload.plan d) with
    | error message =>
      cases faults n with
      | none => exact List.Subset.refl _
      | some fault => cases fault <;> exact List.Subset.refl _
    | ok later =>
      obtain ⟨-, fresh, rfl⟩ := KnowledgeService.register_eq_ok.mp stored
      have first : service.contentHashes ⊆ (service.add (payload.plan d) fresh).contentHashes :=
        List.subset_append_left _ _
      cases faults n with
      | none => exact List.Subset.trans first (ih (n + 1) _)
      | some fault =>
        cases fault with
        | beforeWrite message => exact List.Subset.refl _
        | afterWrite message => exact first

/-- The loop comes to its end exactly where nothing disturbs it and every document is storable. -/
theorem registerDocuments_ok_iff (n : Nat) (documents : List ConnectorSyncDocument)
    (service : KnowledgeService) :
    (registerDocuments payload faults n documents service).1 = .ok () ↔
      (∀ i < documents.length, faults (n + i) = none) ∧ Storable payload documents service := by
  induction documents generalizing n service with
  | nil =>
    refine iff_of_true rfl ⟨nofun, List.nodup_nil, ?_, ?_⟩
    · exact fun d member => absurd member List.not_mem_nil
    · exact fun d member => absurd member List.not_mem_nil
  | cons d rest ih =>
    simp only [registerDocuments]
    cases stored : service.register (payload.plan d) with
    | error message =>
      have refused : ¬Storable payload (d :: rest) service := by
        intro storable
        have taken : service.register (payload.plan d) = .ok (service.add (payload.plan d)
            (storable.fresh d (List.mem_cons_self ..))) :=
          KnowledgeService.register_eq_ok.mpr
            ⟨storable.accepted d (List.mem_cons_self ..), _, rfl⟩
        rw [taken] at stored
        cases stored
      refine iff_of_false ?_ fun both => refused both.2
      cases faults n with
      | none => simp
      | some fault => cases fault <;> simp
    | ok later =>
      obtain ⟨accepts, fresh, rfl⟩ := KnowledgeService.register_eq_ok.mp stored
      cases fault : faults n with
      | some fault' =>
        have disturbed : ¬∀ i < (d :: rest).length, faults (n + i) = none := fun quiet => by
          have := quiet 0 (Nat.zero_lt_succ _)
          rw [Nat.add_zero, fault] at this
          cases this
        refine iff_of_false ?_ fun both => disturbed both.1
        cases fault' <;> simp
      | none =>
        rw [ih, storable_cons fresh]
        have shifted : (∀ i < (d :: rest).length, faults (n + i) = none) ↔
            ∀ i < rest.length, faults (n + 1 + i) = none := by
          constructor
          · intro quiet i bound
            rw [Nat.add_assoc, Nat.add_comm 1 i]
            exact quiet (i + 1) (Nat.succ_lt_succ bound)
          · intro quiet i bound
            cases i with
            | zero => exact fault
            | succ i =>
              rw [Nat.add_comm i 1, ← Nat.add_assoc]
              exact quiet i (Nat.lt_of_succ_lt_succ bound)
        rw [shifted]
        exact ⟨fun both => ⟨both.1, accepts, both.2⟩, fun both => ⟨both.1, both.2.2⟩⟩

variable {payload faults}

theorem registerDocuments_stores {n : Nat} {documents : List ConnectorSyncDocument}
    {service : KnowledgeService}
    (finished : (registerDocuments payload faults n documents service).1 = .ok ()) :
    Stored documents (registerDocuments payload faults n documents service).2 := by
  induction documents generalizing n service with
  | nil => exact fun d member => absurd member List.not_mem_nil
  | cons d rest ih =>
    obtain ⟨quiet, storable⟩ := (registerDocuments_ok_iff _ _ _ _ _).mp finished
    have calm : faults n = none := quiet 0 (Nat.zero_lt_succ _)
    have stored : service.register (payload.plan d) = .ok (service.add (payload.plan d)
        (storable.fresh d (List.mem_cons_self ..))) :=
      KnowledgeService.register_eq_ok.mpr ⟨storable.accepted d (List.mem_cons_self ..), _, rfl⟩
    simp only [registerDocuments, calm, stored] at finished ⊢
    intro e member
    obtain rfl | member := List.mem_cons.mp member
    · refine registerDocuments_grows payload faults (n + 1) rest _ (List.mem_append_right _ ?_)
      exact List.mem_singleton_self _
    · exact ih finished e member

end Documents

section Attempt

variable {worker : ConnectorSyncWorker} {s t : SyncSystem} {payload : ConnectorSyncJob}
  {faults : Faults} {now : Time}

structure Synced (payload : ConnectorSyncJob) (s t : SyncSystem) : Prop where
  queue : t.queue = s.queue
  runs : t.runs = s.runs
  grows : s.knowledge.contentHashes ⊆ t.knowledge.contentHashes
  meters : t.meters = s.meters ∨ t.meters = (s.recordMeter payload).meters ∧
    Storable payload payload.documents s.knowledge ∧ Stored payload.documents t.knowledge

variable (s payload faults) in
theorem syncDocuments_synced : Synced payload s (s.syncDocuments payload faults).2 := by
  have grows := registerDocuments_grows payload faults.register 0 payload.documents s.knowledge
  simp only [syncDocuments]
  cases registered : (registerDocuments payload faults.register 0 payload.documents
      s.knowledge).1 with
  | error message => exact ⟨rfl, rfl, grows, .inl rfl⟩
  | ok done =>
    have storable := ((registerDocuments_ok_iff _ _ _ _ _).mp registered).2
    have stored := registerDocuments_stores registered
    cases faults.meter with
    | some fault =>
      cases fault with
      | beforeWrite message => exact ⟨rfl, rfl, grows, .inl rfl⟩
      | afterWrite message => exact ⟨rfl, rfl, grows, .inr ⟨rfl, storable, stored⟩⟩
    | none =>
      cases faults.connectorAudit with
      | none => exact ⟨rfl, rfl, grows, .inr ⟨rfl, storable, stored⟩⟩
      | some message => exact ⟨rfl, rfl, grows, .inr ⟨rfl, storable, stored⟩⟩

theorem syncDocuments_ok_iff :
    (s.syncDocuments payload faults).1 = .ok () ↔
      faults.Undisturbed payload ∧ Storable payload payload.documents s.knowledge := by
  have loop := registerDocuments_ok_iff payload faults.register 0 payload.documents s.knowledge
  simp only [Nat.zero_add] at loop
  simp only [syncDocuments]
  cases registered : (registerDocuments payload faults.register 0 payload.documents
      s.knowledge).1 with
  | error message =>
    refine iff_of_false (by simp) fun ⟨quiet, storable⟩ => ?_
    rw [loop.mpr ⟨quiet.register, storable⟩] at registered
    cases registered
  | ok done =>
    obtain ⟨calm, storable⟩ := loop.mp registered
    cases meter : faults.meter with
    | some fault =>
      refine iff_of_false (by cases fault <;> simp) fun ⟨quiet, _⟩ => ?_
      rw [quiet.meter] at meter
      cases meter
    | none =>
      cases audit : faults.connectorAudit with
      | some message =>
        refine iff_of_false (by simp) fun ⟨quiet, _⟩ => ?_
        rw [quiet.connectorAudit] at audit
        cases audit
      | none => exact iff_of_true rfl ⟨⟨calm, meter, audit⟩, storable⟩

theorem syncDocuments_stores (finished : (s.syncDocuments payload faults).1 = .ok ()) :
    Stored payload.documents (s.syncDocuments payload faults).2.knowledge := by
  obtain ⟨quiet, storable⟩ := syncDocuments_ok_iff.mp finished
  have registered := (registerDocuments_ok_iff payload faults.register 0 _ s.knowledge).mpr ⟨fun i bound => by rw [Nat.zero_add]; exact quiet.register i bound, storable⟩
  have stored := registerDocuments_stores registered
  simp only [syncDocuments, registered, quiet.meter, quiet.connectorAudit]
  exact stored

structure Claimed (s : SyncSystem) (now : Time) (job : JobEnvelope ConnectorSyncJob)
    (queue : InMemoryJobQueue ConnectorSyncJob) : Prop where
  taken : ∃ before, s.queue.get? job.id = some before ∧ before.payload = job.payload ∧
    before.status.final = false
  running : job.status = .running
  get? : ∀ k, queue.get? k = if k = job.id then some job else
    (s.queue.get? k).map fun j => j.swept (some .connectorSync) leaseExpiredError now

theorem swept_final {job : JobEnvelope ConnectorSyncJob} (final : job.status.final = true) :
    job.swept (some .connectorSync) leaseExpiredError now = job :=
  JobEnvelope.swept_of_status_ne_running _ _ _ fun running => by
    rw [running] at final
    cases final

theorem claimed_of_claim {job : JobEnvelope ConnectorSyncJob}
    {queue : InMemoryJobQueue ConnectorSyncJob} (claims : claim worker s now = (some job, queue)) :
    Claimed s now job queue := by
  obtain ⟨before, swept, pending, rfl, get?⟩ :=
    (InMemoryJobQueue.lawful ConnectorSyncJob).claim_some claims
  obtain ⟨stored, present, swept⟩ := Option.map_eq_some_iff.mp swept
  refine ⟨⟨stored, present, ?_, ?_⟩, rfl, get?⟩
  · rw [JobEnvelope.claimedBy_payload, ← swept, JobEnvelope.swept_payload]
  · by_contra final
    rw [Bool.not_eq_false] at final
    rw [swept_final final] at swept
    rw [swept, pending] at final
    cases final

inductive Outcome (worker : ConnectorSyncWorker) (s : SyncSystem) (now : Time) (faults : Faults) :
    SyncSystem → Prop
  | idle {queue} (get? : ∀ k, queue.get? k = (s.queue.get? k).map fun j =>
        j.swept (some .connectorSync) leaseExpiredError now)
      (claims : claim worker s now = (none, queue)) :
      Outcome worker s now faults { s with queue := queue }
  | aborted {job queue} (claimed : Claimed s now job queue)
      (claims : claim worker s now = (some job, queue)) (audit : faults.startedAudit = true) :
      Outcome worker s now faults { s with queue := queue }
  | failed {job queue later message} (claimed : Claimed s now job queue)
      (claims : claim worker s now = (some job, queue)) (audit : faults.startedAudit = false)
      (sync : ({ s with queue := queue } : SyncSystem).syncDocuments job.payload faults =
        (.error message, later)) :
      Outcome worker s now faults
        ({ later with
            queue := queue.put (job.rejected message worker.retryDelaySeconds now) }.updateRunStatus
          job.payload .failed)
  | succeeded {job queue later} (claimed : Claimed s now job queue)
      (claims : claim worker s now = (some job, queue)) (audit : faults.startedAudit = false)
      (sync : ({ s with queue := queue } : SyncSystem).syncDocuments job.payload faults =
        (.ok (), later)) :
      Outcome worker s now faults
        ({ later with queue := queue.put (job.acked now) }.updateRunStatus job.payload .succeeded)

theorem processNext_outcome : Outcome worker s now faults (processNext worker s now faults) := by
  unfold processNext
  cases claims : claim worker s now with
  | mk found queue =>
    cases found with
    | none =>
      exact .idle ((InMemoryJobQueue.lawful ConnectorSyncJob).claim_none claims) claims
    | some job =>
      have claimed := claimed_of_claim claims
      have here : queue.get? job.id = some job := by rw [claimed.get?, if_pos rfl]
      dsimp only [attempt]
      cases audit : faults.startedAudit with
      | true => exact .aborted claimed claims audit
      | false =>
        have synced := syncDocuments_synced { s with queue := queue } job.payload faults
        cases sync : ({ s with queue := queue } : SyncSystem).syncDocuments job.payload faults with
        | mk result later =>
          rw [sync] at synced
          have same : later.queue = queue := synced.queue
          cases result with
          | error message =>
            have rejects : InMemoryJobQueue.reject later.queue job.id message now
                worker.retryDelaySeconds = .ok (job.rejected message worker.retryDelaySeconds now,
                  queue.put (job.rejected message worker.retryDelaySeconds now)) := by
              rw [same]
              exact InMemoryJobQueue.finish_of_get? here (.reject message _) now
            simp only [Bool.false_eq_true, if_false, rejects]
            exact .failed claimed claims audit sync
          | ok done =>
            have acks : InMemoryJobQueue.ack later.queue job.id now =
                .ok (job.acked now, queue.put (job.acked now)) := by
              rw [same]
              exact InMemoryJobQueue.finish_of_get? here .ack now
            simp only [Bool.false_eq_true, if_false, acks]
            exact .succeeded claimed claims audit sync

end Attempt

section Delivery

def status (s : SyncSystem) (jobId : String) : Option JobStatus :=
  (s.queue.get? jobId).map JobEnvelope.status

def payloadOf (s : SyncSystem) (jobId : String) : Option ConnectorSyncJob :=
  (s.queue.get? jobId).map JobEnvelope.payload

def metered (s : SyncSystem) (payload : ConnectorSyncJob) : Nat :=
  ((s.meters.filter fun m =>
    (m.tenantId, m.runId) = payload.runKey ∧ m.meterType = connectorSyncDocumentMeter).map
      MeterEvent.quantity).sum

variable (worker : ConnectorSyncWorker) (jobId : String) (payload : ConnectorSyncJob)

/-- The job as it is enqueued, with a run of its own that nothing has metered or ended. -/
structure Submitted (s : SyncSystem) : Prop where
  job : payloadOf s jobId = some payload
  waiting : status s jobId = some .pending
  alone : ∀ k p, payloadOf s k = some p → p.runKey = payload.runKey → k = jobId
  active : (s.runs payload.runKey).terminal = false
  unmetered : metered s payload = 0

/-- Every document is registered and metered at most once, and registered once when the job is
acknowledged. -/
structure DeliveredOnce (s : SyncSystem) : Prop where
  registered : ∀ d ∈ payload.documents, s.knowledge.registrations d.contentHash ≤ 1
  acked : status s jobId = some .succeeded →
    ∀ d ∈ payload.documents, s.knowledge.registrations d.contentHash = 1
  metered : metered s payload ≤ payload.documents.length

/-- An undisturbed attempt acknowledges the job, the run is failed only when the job has no
attempt left, and a status that ends the run stays. -/
structure EndsWell (s : SyncSystem) (call : Time × Faults) (t : SyncSystem) : Prop where
  acks : ∀ job queue, claim worker s call.1 = (some job, queue) → job.id = jobId →
    call.2.startedAudit = false → call.2.Undisturbed payload → status t jobId = some .succeeded
  fails : t.runs payload.runKey = .failed → status t jobId = some .deadLetter
  keeps : (s.runs payload.runKey).terminal = true → t.runs payload.runKey = s.runs payload.runKey

/-- An attempt that comes to the documents finds them all storable, or is disturbed and the last. -/
def Fits (s : SyncSystem) (call : Time × Faults) : Prop :=
  ∀ job queue, claim worker s call.1 = (some job, queue) → job.id = jobId →
    call.2.startedAudit = false →
    (call.2.Undisturbed payload → Storable payload payload.documents s.knowledge) ∧
      (¬call.2.Undisturbed payload → job.maxAttempts ≤ job.attempts)

structure Known (s : SyncSystem) : Prop where
  job : payloadOf s jobId = some payload
  alone : ∀ k p, payloadOf s k = some p → p.runKey = payload.runKey → k = jobId
  metered : metered s payload ≤ payload.documents.length
  stored : 0 < SyncSystem.metered s payload → Stored payload.documents s.knowledge
  acked : status s jobId = some .succeeded → Stored payload.documents s.knowledge

structure Settled (s : SyncSystem) : Prop where
  failed : s.runs payload.runKey = .failed → status s jobId = some .deadLetter
  final : (s.runs payload.runKey).terminal = true →
    ∃ ended, status s jobId = some ended ∧ ended.final = true

variable {worker jobId payload} {s t : SyncSystem} {call : Time × Faults} {now : Time}
  {faults : Faults}

theorem Submitted.known (submitted : Submitted jobId payload s) : Known jobId payload s where
  job := submitted.job
  alone := submitted.alone
  metered := by
    rw [submitted.unmetered]
    exact Nat.zero_le _
  stored positive := by
    rw [submitted.unmetered] at positive
    exact absurd positive (Nat.lt_irrefl 0)
  acked finished := by
    rw [submitted.waiting] at finished
    cases finished

theorem Submitted.settled (submitted : Submitted jobId payload s) : Settled jobId payload s where
  failed failed := by
    have active := submitted.active
    rw [failed] at active
    cases active
  final terminal := by
    rw [submitted.active] at terminal
    cases terminal

theorem Known.delivered (known : Known jobId payload s) : DeliveredOnce jobId payload s where
  registered d _ := s.knowledge.registrations_le_one d.contentHash
  acked finished d member := KnowledgeService.registrations_eq_one (known.acked finished d member)
  metered := known.metered

theorem metered_recordMeter (other : ConnectorSyncJob) :
    metered (s.recordMeter other) payload =
      metered s payload + if other.runKey = payload.runKey then other.documents.length else 0 := by
  unfold metered recordMeter
  rw [List.filter_append, List.map_append, List.sum_append]
  by_cases same : other.runKey = payload.runKey
  · have key : (other.tenantId, other.runId) = payload.runKey := same
    simp [same, key]
  · have key : ¬(other.tenantId, other.runId) = payload.runKey := same
    simp [same, key]

theorem status_swept {ended : JobStatus}
    (get? : t.queue.get? jobId = (s.queue.get? jobId).map fun j =>
      j.swept (some .connectorSync) leaseExpiredError now)
    (stands : status s jobId = some ended) (final : ended.final = true) :
    status t jobId = some ended := by
  obtain ⟨job, present, rfl⟩ := Option.map_eq_some_iff.mp stands
  simp only [status, get?, present, Option.map_some]
  rw [swept_final final]

theorem succeeded_of_swept
    (get? : t.queue.get? jobId = (s.queue.get? jobId).map fun j =>
      j.swept (some .connectorSync) leaseExpiredError now)
    (finished : status t jobId = some .succeeded) : status s jobId = some .succeeded := by
  simp only [status, get?, Option.map_map, Option.map_eq_some_iff] at finished ⊢
  obtain ⟨job, present, ended⟩ := finished
  refine ⟨job, present, ?_⟩
  simp only [Function.comp, JobEnvelope.swept] at ended
  split at ended
  · rw [JobEnvelope.reaped_status] at ended
    split at ended <;> cases ended
  · exact ended

theorem payload_swept {queue : InMemoryJobQueue ConnectorSyncJob} {k : String}
    (get? : queue.get? k = (s.queue.get? k).map fun j =>
      j.swept (some .connectorSync) leaseExpiredError now) :
    (queue.get? k).map JobEnvelope.payload = payloadOf s k := by
  rw [get?, Option.map_map]
  exact congrArg (fun f => (s.queue.get? k).map f) (funext fun j => j.swept_payload _ _ _)

theorem Claimed.stored {job : JobEnvelope ConnectorSyncJob}
    {queue : InMemoryJobQueue ConnectorSyncJob} (claimed : Claimed s now job queue) (k : String) :
    (queue.get? k).map JobEnvelope.payload = payloadOf s k := by
  by_cases same : k = job.id
  · obtain ⟨before, present, payload, -⟩ := claimed.taken
    subst same
    rw [claimed.get?, if_pos rfl, payloadOf, present, Option.map_some, Option.map_some, payload]
  · exact payload_swept (by rw [claimed.get?, if_neg same])

theorem Claimed.payload_put {job updated : JobEnvelope ConnectorSyncJob}
    {queue : InMemoryJobQueue ConnectorSyncJob} (claimed : Claimed s now job queue)
    (id : updated.id = job.id) (payload : updated.payload = job.payload) (k : String) :
    ((queue.put updated).get? k).map JobEnvelope.payload = payloadOf s k := by
  rw [← claimed.stored k, Table.get?_put]
  split
  · next same => rw [same, id, claimed.get?, if_pos rfl, Option.map_some, Option.map_some, payload]
  · rfl

theorem Outcome.payloadOf (outcome : Outcome worker s now faults t) (k : String) :
    payloadOf t k = SyncSystem.payloadOf s k := by
  cases outcome with
  | idle get? claims => exact payload_swept (get? k)
  | aborted claimed claims audit => exact claimed.stored k
  | failed claimed claims audit sync =>
    exact claimed.payload_put (JobEnvelope.finished_id _ now (.reject _ _))
      (JobEnvelope.finished_payload _ now (.reject _ _)) k
  | succeeded claimed claims audit sync =>
    exact claimed.payload_put (JobEnvelope.finished_id _ now .ack)
      (JobEnvelope.finished_payload _ now .ack) k

theorem Claimed.payload_eq {job : JobEnvelope ConnectorSyncJob}
    {queue : InMemoryJobQueue ConnectorSyncJob} (claimed : Claimed s now job queue)
    (known : Known jobId payload s) (same : job.id = jobId) : job.payload = payload := by
  have stored := claimed.stored job.id
  rw [claimed.get?, if_pos rfl, same, known.job, Option.map_some] at stored
  exact Option.some.inj stored

theorem Claimed.runKey_ne {job : JobEnvelope ConnectorSyncJob}
    {queue : InMemoryJobQueue ConnectorSyncJob} (claimed : Claimed s now job queue)
    (known : Known jobId payload s) (other : job.id ≠ jobId) :
    job.payload.runKey ≠ payload.runKey := by
  have stored := claimed.stored job.id
  rw [claimed.get?, if_pos rfl, Option.map_some] at stored
  exact fun shared => other (known.alone job.id job.payload stored.symm shared)

/-- The sync of a job, of this one or another, keeps the meter of this one within its documents,
and what it has metered is stored. -/
theorem Synced.metered {job : JobEnvelope ConnectorSyncJob}
    {queue : InMemoryJobQueue ConnectorSyncJob} (claimed : Claimed s now job queue)
    (known : Known jobId payload s)
    (synced : Synced job.payload { s with queue := queue } t) :
    metered t payload ≤ payload.documents.length ∧
      (0 < SyncSystem.metered t payload → Stored payload.documents t.knowledge) := by
  have grows : s.knowledge.contentHashes ⊆ t.knowledge.contentHashes := synced.grows
  have unchanged (same : SyncSystem.metered t payload = SyncSystem.metered s payload) :
      SyncSystem.metered t payload ≤ payload.documents.length ∧
        (0 < SyncSystem.metered t payload → Stored payload.documents t.knowledge) := by
    rw [same]
    exact ⟨known.metered, fun positive d member => grows (known.stored positive d member)⟩
  obtain same | ⟨recorded, storable, stored⟩ := synced.meters
  · exact unchanged (by rw [SyncSystem.metered, same]; rfl)
  · have total : SyncSystem.metered t payload = SyncSystem.metered (s.recordMeter job.payload) payload := by
      rw [SyncSystem.metered, recorded]
      rfl
    rw [metered_recordMeter] at total
    by_cases own : job.id = jobId
    · rw [claimed.payload_eq known own] at total storable stored
      have first : SyncSystem.metered s payload = 0 := by
        by_contra before
        have present := known.stored (Nat.pos_of_ne_zero before)
        cases documents : payload.documents with
        | nil =>
          have := known.metered
          rw [documents] at this
          exact before (Nat.le_zero.mp this)
        | cons d rest =>
          have member : d ∈ payload.documents := by
            rw [documents]
            exact List.mem_cons_self ..
          exact storable.fresh d member (present d member)
      rw [first, if_pos rfl, Nat.zero_add] at total
      exact ⟨Nat.le_of_eq total, fun _ => stored⟩
    · rw [if_neg (claimed.runKey_ne known own), Nat.add_zero] at total
      exact unchanged total

theorem get?_put_other {job updated : JobEnvelope ConnectorSyncJob}
    {queue : InMemoryJobQueue ConnectorSyncJob} (claimed : Claimed s now job queue)
    (id : updated.id = job.id) (other : job.id ≠ jobId) :
    (queue.put updated).get? jobId = (s.queue.get? jobId).map fun j =>
      j.swept (some .connectorSync) leaseExpiredError now := by
  rw [Table.get?_put, id, if_neg (Ne.symm other), claimed.get?, if_neg (Ne.symm other)]

theorem get?_put_own {job updated : JobEnvelope ConnectorSyncJob}
    (queue : InMemoryJobQueue ConnectorSyncJob) (id : updated.id = job.id) (own : job.id = jobId) :
    (queue.put updated).get? jobId = some updated := by
  rw [Table.get?_put, id, if_pos own.symm]

theorem rejected_status {job : JobEnvelope ConnectorSyncJob} {message : String} {delay : Int} :
    (job.rejected message delay now).status =
      if job.attempts < job.maxAttempts then .pending else .deadLetter :=
  JobEnvelope.returned_status _ _ _ _

theorem status_failed {job : JobEnvelope ConnectorSyncJob}
    (queue : InMemoryJobQueue ConnectorSyncJob) (later : SyncSystem) (message : String)
    (delay : Int) (now : Time) (own : job.id = jobId) :
    status ({ later with queue := queue.put (job.rejected message delay now) }.updateRunStatus
      job.payload .failed) jobId =
      some (if job.attempts < job.maxAttempts then .pending else .deadLetter) := by
  have here : (queue.put (job.rejected message delay now)).get? jobId =
      some (job.rejected message delay now) :=
    get?_put_own queue (JobEnvelope.finished_id job now (.reject message delay)) own
  change ((queue.put (job.rejected message delay now)).get? jobId).map JobEnvelope.status = _
  rw [here, Option.map_some, rejected_status]

theorem status_succeeded {job : JobEnvelope ConnectorSyncJob}
    (queue : InMemoryJobQueue ConnectorSyncJob) (later : SyncSystem) (now : Time)
    (own : job.id = jobId) :
    status ({ later with queue := queue.put (job.acked now) }.updateRunStatus job.payload
      .succeeded) jobId = some .succeeded := by
  have here : (queue.put (job.acked now)).get? jobId = some (job.acked now) :=
    get?_put_own queue (JobEnvelope.finished_id job now .ack) own
  change ((queue.put (job.acked now)).get? jobId).map JobEnvelope.status = _
  rw [here]
  rfl

theorem Known.step (known : Known jobId payload s) (outcome : Outcome worker s now faults t) :
    Known jobId payload t := by
  have job : SyncSystem.payloadOf t jobId = some payload := by rw [outcome.payloadOf, known.job]
  have alone : ∀ k p, SyncSystem.payloadOf t k = some p → p.runKey = payload.runKey → k = jobId :=
    fun k p stored => known.alone k p (by rw [← outcome.payloadOf, stored])
  cases outcome with
  | idle get? claims =>
    exact ⟨job, alone, known.metered, known.stored,
      fun finished => known.acked (succeeded_of_swept (get? jobId) finished)⟩
  | aborted claimed claims audit =>
    refine ⟨job, alone, known.metered, known.stored, fun finished => known.acked ?_⟩
    rename_i claimedJob queue
    by_cases own : claimedJob.id = jobId
    · have here : queue.get? jobId = some claimedJob := by rw [claimed.get?, if_pos own.symm]
      rw [status, here, Option.map_some, claimed.running] at finished
      cases finished
    · exact succeeded_of_swept (by rw [claimed.get?, if_neg (Ne.symm own)]) finished
  | failed claimed claims audit sync =>
    rename_i claimedJob queue later message
    have synced := syncDocuments_synced { s with queue := queue } claimedJob.payload faults
    rw [sync] at synced
    obtain ⟨metered, stored⟩ := synced.metered claimed known
    refine ⟨job, alone, metered, stored, fun finished => ?_⟩
    by_cases own : claimedJob.id = jobId
    · rw [status_failed _ _ _ _ _ own, Option.some.injEq] at finished
      split at finished <;> cases finished
    · have swept := get?_put_other claimed
        (JobEnvelope.finished_id claimedJob now (.reject message worker.retryDelaySeconds)) own
      have before := known.acked (succeeded_of_swept swept finished)
      exact fun d member => synced.grows (before d member)
  | succeeded claimed claims audit sync =>
    rename_i claimedJob queue later
    have synced := syncDocuments_synced { s with queue := queue } claimedJob.payload faults
    have stores := @syncDocuments_stores { s with queue := queue } claimedJob.payload faults
    rw [sync] at synced stores
    obtain ⟨metered, stored⟩ := synced.metered claimed known
    refine ⟨job, alone, metered, stored, fun finished => ?_⟩
    by_cases own : claimedJob.id = jobId
    · rw [← claimed.payload_eq known own]
      exact stores rfl
    · have swept := get?_put_other claimed (JobEnvelope.finished_id claimedJob now .ack) own
      have before := known.acked (succeeded_of_swept swept finished)
      exact fun d member => synced.grows (before d member)

theorem Claimed.not_final {job : JobEnvelope ConnectorSyncJob}
    {queue : InMemoryJobQueue ConnectorSyncJob} (claimed : Claimed s now job queue)
    {ended : JobStatus} (stands : status s job.id = some ended) : ended.final = false := by
  obtain ⟨before, present, -, active⟩ := claimed.taken
  rw [status, present, Option.map_some] at stands
  rw [← Option.some.inj stands]
  exact active

theorem Settled.active {job : JobEnvelope ConnectorSyncJob}
    {queue : InMemoryJobQueue ConnectorSyncJob} (settled : Settled jobId payload s)
    (claimed : Claimed s now job queue) (own : job.id = jobId) :
    (s.runs payload.runKey).terminal = false := by
  by_contra terminal
  obtain ⟨ended, stands, final⟩ := settled.final (Bool.not_eq_false _ ▸ terminal)
  rw [claimed.not_final (own ▸ stands)] at final
  cases final

theorem Settled.of_same (settled : Settled jobId payload s)
    (runs : t.runs payload.runKey = s.runs payload.runKey)
    (kept : ∀ ended, status s jobId = some ended → ended.final = true →
      status t jobId = some ended) : Settled jobId payload t where
  failed failed := kept _ (settled.failed (runs ▸ failed)) rfl
  final terminal := by
    obtain ⟨ended, stands, final⟩ := settled.final (runs ▸ terminal)
    exact ⟨ended, kept ended stands final, final⟩

theorem Settled.bystander (settled : Settled jobId payload s)
    (runs : t.runs payload.runKey = s.runs payload.runKey)
    (get? : t.queue.get? jobId = (s.queue.get? jobId).map fun j =>
      j.swept (some .connectorSync) leaseExpiredError now)
    (other : ∀ job queue, claim worker s now = (some job, queue) → job.id ≠ jobId) :
    Settled jobId payload t ∧ EndsWell worker jobId payload s (now, faults) t := by
  have kept := settled.of_same runs fun ended stands final => status_swept get? stands final
  exact ⟨kept, fun job queue claimed own => absurd own (other job queue claimed), kept.failed,
    fun _ => runs⟩

theorem only_claim {job : JobEnvelope ConnectorSyncJob}
    {queue : InMemoryJobQueue ConnectorSyncJob} (claims : claim worker s now = (some job, queue))
    (other : job.id ≠ jobId) (job' : JobEnvelope ConnectorSyncJob)
    (queue' : InMemoryJobQueue ConnectorSyncJob)
    (again : claim worker s now = (some job', queue')) : job'.id ≠ jobId := by
  rw [claims] at again
  cases again
  exact other

theorem Settled.step (known : Known jobId payload s) (settled : Settled jobId payload s)
    (fits : Fits worker jobId payload s (now, faults)) (outcome : Outcome worker s now faults t) :
    Settled jobId payload t ∧ EndsWell worker jobId payload s (now, faults) t := by
  cases outcome with
  | idle get? claims =>
    refine settled.bystander rfl (get? jobId) fun job queue claimed => ?_
    rw [claims] at claimed
    cases claimed
  | aborted claimed claims audit =>
    rename_i claimedJob queue
    by_cases own : claimedJob.id = jobId
    · have kept : Settled jobId payload { s with queue := queue } :=
        settled.of_same rfl fun ended stands final => by
          rw [claimed.not_final (own ▸ stands)] at final
          cases final
      refine ⟨kept, fun _ _ _ _ started => ?_, kept.failed, fun _ => rfl⟩
      rw [audit] at started
      cases started
    · exact settled.bystander rfl (by rw [claimed.get?, if_neg (Ne.symm own)])
        (only_claim claims own)
  | failed claimed claims audit sync =>
    rename_i claimedJob queue later message
    by_cases own : claimedJob.id = jobId
    · have succeeds := @syncDocuments_ok_iff { s with queue := queue } claimedJob.payload faults
      rw [sync, claimed.payload_eq known own] at succeeds
      obtain ⟨storable, last⟩ := fits claimedJob queue claims own audit
      have disturbed : ¬faults.Undisturbed payload := fun quiet => by
        cases succeeds.mpr ⟨quiet, storable quiet⟩
      have dead := status_failed queue later message worker.retryDelaySeconds now own
      rw [if_neg (Nat.not_lt.mpr (last disturbed))] at dead
      refine ⟨⟨fun _ => dead, fun _ => ⟨_, dead, rfl⟩⟩, fun _ _ _ _ _ quiet => ?_, fun _ => dead,
        fun terminal => ?_⟩
      · exact absurd quiet disturbed
      · rw [settled.active claimed own] at terminal
        cases terminal
    · have synced := syncDocuments_synced { s with queue := queue } claimedJob.payload faults
      rw [sync] at synced
      refine settled.bystander ?_ (get?_put_other claimed
        (JobEnvelope.finished_id claimedJob now (.reject message worker.retryDelaySeconds)) own)
        (only_claim claims own)
      exact (if_neg (Ne.symm (claimed.runKey_ne known own))).trans (congrFun synced.runs _)
  | succeeded claimed claims audit sync =>
    rename_i claimedJob queue later
    by_cases own : claimedJob.id = jobId
    · have done := status_succeeded queue later now own
      have runs : (if payload.runKey = claimedJob.payload.runKey then RunStatus.succeeded
          else later.runs payload.runKey) = RunStatus.succeeded := by
        rw [claimed.payload_eq known own, if_pos rfl]
      have other : RunStatus.succeeded ≠ RunStatus.failed := nofun
      refine ⟨⟨fun failed => absurd (runs.symm.trans failed) other, fun _ => ⟨_, done, rfl⟩⟩,
        fun _ _ _ _ _ _ => done, fun failed => absurd (runs.symm.trans failed) other,
        fun terminal => ?_⟩
      rw [settled.active claimed own] at terminal
      cases terminal
    · have synced := syncDocuments_synced { s with queue := queue } claimedJob.payload faults
      rw [sync] at synced
      refine settled.bystander ?_
        (get?_put_other claimed (JobEnvelope.finished_id claimedJob now .ack) own)
        (only_claim claims own)
      exact (if_neg (Ne.symm (claimed.runKey_ne known own))).trans (congrFun synced.runs _)

theorem EndsWell.fits (ends : EndsWell worker jobId payload s (now, faults) t)
    (known : Known jobId payload s) (outcome : Outcome worker s now faults t) :
    Fits worker jobId payload s (now, faults) := by
  intro job queue claims own started
  cases outcome with
  | idle get? claims' =>
    rw [claims'] at claims
    cases claims
  | aborted claimed claims' audit =>
    rw [audit] at started
    cases started
  | failed claimed claims' audit sync =>
    rename_i claimedJob queue' later message
    obtain rfl : claimedJob = job := by
      rw [claims'] at claims
      cases claims
      rfl
    have same := claimed.payload_eq known own
    have status_eq := status_failed queue' later message worker.retryDelaySeconds now own
    refine ⟨fun quiet => ?_, fun _ => ?_⟩
    · have done := ends.acks claimedJob queue' claims' own audit quiet
      rw [status_eq, Option.some.injEq] at done
      split at done <;> cases done
    · have run : (if payload.runKey = claimedJob.payload.runKey then RunStatus.failed
          else later.runs payload.runKey) = RunStatus.failed := by
        rw [same, if_pos rfl]
      have dead := ends.fails run
      rw [status_eq, Option.some.injEq] at dead
      split at dead
      · cases dead
      · next spent => exact Nat.not_lt.mp spent
  | succeeded claimed claims' audit sync =>
    rename_i claimedJob queue' later
    obtain rfl : claimedJob = job := by
      rw [claims'] at claims
      cases claims
      rfl
    have succeeds := @syncDocuments_ok_iff { s with queue := queue' } claimedJob.payload faults
    rw [sync, claimed.payload_eq known own] at succeeds
    obtain ⟨quiet, storable⟩ := succeeds.mp rfl
    exact ⟨fun _ => storable, fun disturbed => absurd quiet disturbed⟩

/-- In every run the documents are delivered at most once, and once when the job is acknowledged.
The attempts of a run all end well exactly when they all fit. -/
theorem documents_delivered_once (worker : ConnectorSyncWorker) {jobId : String}
    {payload : ConnectorSyncJob} {s : SyncSystem} (submitted : Submitted jobId payload s)
    (calls : List (Time × Faults)) :
    Along (step worker) (fun _ _ t => DeliveredOnce jobId payload t) s calls ∧
      (Conforms (step worker) (Fits worker jobId payload) s calls ↔
        Along (step worker) (EndsWell worker jobId payload) s calls) := by
  have outcome {s t : SyncSystem} {call : Time × Faults}
      (moved : step worker s call = some t) : Outcome worker s call.1 call.2 t :=
    Option.some.inj moved ▸ processNext_outcome
  constructor
  · refine Along.of_invariant (I := Known jobId payload) (fun s call t known _ moved => ?_)
      submitted.known (Machine.along_true (step worker) s calls)
    have kept := known.step (outcome moved)
    exact ⟨kept, kept.delivered⟩
  · refine Machine.along_congr_of_invariant
      (I := fun s => Known jobId payload s ∧ Settled jobId payload s) ?_ ?_
      ⟨submitted.known, submitted.settled⟩
    · intro s call t inv moved
      exact ⟨fun fits => (inv.2.step inv.1 fits (outcome moved)).2,
        fun ends => ends.fits inv.1 (outcome moved)⟩
    · intro s call t inv moved fits
      exact ⟨inv.1.step (outcome moved), (inv.2.step inv.1 fits (outcome moved)).1⟩

end Delivery

section Retried

def syncDocument (contentHash : String) : ConnectorSyncDocument where
  tenantId := "tenant_acme"
  workspaceId := "workspace_sales"
  sourceUri := "https://wiki/" ++ contentHash
  sourceDocumentId := contentHash
  title := contentHash
  documentVersion := "1"
  contentHash := contentHash

def twoDocuments : ConnectorSyncJob where
  tenantId := "tenant_acme"
  workspaceId := "workspace_sales"
  connectorId := "c1"
  runId := "r1"
  knowledgeBaseId := "kb1"
  requestedByUserId := "u1"
  documents := [syncDocument "h1", syncDocument "h2"]

def freshSystem : SyncSystem where
  queue := Table.empty.put (JobEnvelope.create "j1" .connectorSync twoDocuments 0 3 three_attempts)
  knowledge :=
    { bases := Table.empty.put
        { id := "kb1", tenantId := "tenant_acme", workspaceId := "workspace_sales" } }
  runs _ := .queued

theorem freshSystem_submitted : Submitted "j1" twoDocuments freshSystem where
  job := rfl
  waiting := rfl
  alone k p stored _ := by
    obtain ⟨job, present, -⟩ := Option.map_eq_some_iff.mp stored
    have member : job ∈ [JobEnvelope.create "j1" .connectorSync twoDocuments 0 3 (by decide)] :=
      Table.mem_of_get? present
    obtain rfl := List.mem_singleton.mp member
    exact (Table.key_of_get? present).symm
  active := rfl
  unmetered := rfl

/-- The second document times out in the first attempt, and nothing goes wrong in the second. -/
def timedOutOnce : List (Time × Faults) :=
  [(0, { register := fun n => if n = 1 then some (.beforeWrite "timeout") else none }),
    (seconds 60, {})]

def afterTimeout : SyncSystem := processNext {} freshSystem 0
  { register := fun n => if n = 1 then some (.beforeWrite "timeout") else none }

theorem documents_delivered_once_timeout :
    ¬Conforms (step {}) (Fits {} "j1" twoDocuments) freshSystem timedOutOnce := by
  intro fits
  have along := (documents_delivered_once {} freshSystem_submitted timedOutOnce).2.mp fits
  have failed := (along afterTimeout rfl).1.fails (by decide +kernel)
  exact absurd failed (by decide +kernel)

/-- The job is not acknowledged by the undisturbed retry, which meets the first document again, and
the run is failed while two attempts are left. -/
theorem retry_meets_stored_document :
    ¬∀ jobId payload s, Submitted jobId payload s → ∀ calls,
      Along (step {}) (EndsWell {} jobId payload) s calls := by
  intro ends
  have along := ends "j1" twoDocuments freshSystem freshSystem_submitted timedOutOnce
  obtain ⟨-, later⟩ := along afterTimeout rfl
  have second := (later (processNext {} afterTimeout (seconds 60) {}) rfl).1
  have done : status (processNext {} afterTimeout (seconds 60) {}) "j1" = some .succeeded := by
    cases claims : claim {} afterTimeout (seconds 60) with
    | mk found queue =>
      have taken : (claim {} afterTimeout (seconds 60)).1.map JobEnvelope.id = some "j1" := by
        decide +kernel
      rw [claims] at taken
      obtain ⟨job, rfl, own⟩ := Option.map_eq_some_iff.mp taken
      exact second.acks job queue claims own rfl ⟨fun _ _ => rfl, rfl, rfl⟩
  exact absurd done (by decide +kernel)

end Retried

end Taroai.Workers.SyncSystem
