import Taroai.Lib.Machine
import Taroai.Lifecycle.Effects

/-! What clean-ups and offboarding executions leave of the data under active legal holds. The
lookups of an execution ask for holds on the tenant in each category of the plan, and for the
holds on each stored object. A hold on memory or knowledge of one workspace or run is asked for
by no lookup, and the SQL store takes a hold for expired by the texts of two instants. -/

namespace Taroai.Lifecycle

section Cleanups

variable {s t : System} {request : StorageLifecycleCleanupRequest}

theorem readable_of_sqlite {backend : Backend} (sqlite : backend = .sqlite) (hold : LegalHold)
    (now : Time) : ∃ active, backend.takesActive hold now = .ok active := by
  obtain ⟨memory, -⟩ | ⟨-, answer⟩ := takesActive_eq backend hold now
  · rw [sqlite] at memory
    cases memory
  · exact answer

theorem legalHoldsForScopes_congr (holds : t.legalHolds = s.legalHolds)
    (backend : t.policyBackend = s.policyBackend) (object : StorageObject)
    (scopes : List (LegalHoldScopeType × Option String)) (now : Time) :
    t.legalHoldsForScopes object scopes now = s.legalHoldsForScopes object scopes now := by
  unfold System.legalHoldsForScopes
  rw [holds, backend]

theorem deletes_cleanupObject (fails : StorageObject → Bool)
    (request : StorageLifecycleCleanupRequest) (object : StorageObject) (s : System) :
    System.Deletes (fun item => (∃ o : StorageObject, item = .object o ∧ o.id = object.id) ∧
        request.dryRun = false ∧
        s.legalHoldsForScopes object object.cleanupScopes request.now = .ok [])
      s (cleanupObject fails request object s).2 := by
  unfold cleanupObject
  cases asked : s.legalHoldsForScopes object object.cleanupScopes request.now with
  | error e =>
    rw [Raising.bind_of_error (by rw [Raising.consult_apply, asked])]
    exact System.Deletes.refl s
  | ok activeHolds =>
    rw [Raising.bind_of_ok (by rw [Raising.consult_apply, asked])]
    by_cases found : activeHolds = []
    · rw [if_neg (not_not.mpr found)]
      cases dry : request.dryRun with
      | true =>
        rw [if_pos rfl]
        exact System.Deletes.refl s
      | false =>
        rw [if_neg Bool.false_ne_true, Raising.bind_pure_state]
        refine (deletes_deleteObject fails request.tenantId request.now object s).mono ?_
        exact fun item there => ⟨there, rfl, by rw [found]⟩
    · rw [if_pos found]
      exact System.Deletes.refl s

theorem deletes_cleanupObjects (fails : StorageObject → Bool)
    (request : StorageLifecycleCleanupRequest) (objects : List StorageObject) (s : System) :
    System.Deletes (fun item => ∃ object ∈ objects,
        (∃ o : StorageObject, item = .object o ∧ o.id = object.id) ∧ request.dryRun = false ∧
        s.legalHoldsForScopes object object.cleanupScopes request.now = .ok [])
      s (cleanupObjects fails request objects s).2 := by
  induction objects generalizing s with
  | nil => exact System.Deletes.refl s
  | cons object rest ih =>
    have first := deletes_cleanupObject fails request object s
    unfold cleanupObjects
    cases ran : cleanupObject fails request object s with
    | mk answer t =>
      rw [ran] at first
      have here := first.mono (Q := fun item => ∃ object' ∈ object :: rest,
        (∃ o : StorageObject, item = .object o ∧ o.id = object'.id) ∧ request.dryRun = false ∧
        s.legalHoldsForScopes object' object'.cleanupScopes request.now = .ok [])
        fun item there => ⟨object, List.mem_cons_self, there⟩
      cases answer with
      | error e =>
        rw [Raising.bind_of_error ran]
        exact here
      | ok result =>
        rw [Raising.bind_of_ok ran, Raising.bind_pure_state]
        refine here.trans ((ih t).mono fun item => ?_)
        rintro ⟨object', member, named, dry, nothing⟩
        rw [legalHoldsForScopes_congr first.legalHolds first.policyBackend] at nothing
        exact ⟨object', List.mem_cons_of_mem object member, named, dry, nothing⟩

theorem listExpiredForRetention_ok {tenantId : String} {now : Time} {workspaceId : Option String}
    {expired : List StorageObject}
    (listed : s.listExpiredForRetention tenantId now workspaceId = .ok expired) :
    (∀ object ∈ expired, s.Stored (.object object) ∧ object.tenantId = tenantId) ∧
      (expired.map (·.id)).Nodup := by
  have selects (object : StorageObject) (ys : List StorageObject)
      (answer : s.catalogBackend.selectsExpired object tenantId now workspaceId = .ok ys) :
      ys = [] ∨ ys = [object] ∧ object.deletedAt = none ∧ object.tenantId = tenantId := by
    unfold Backend.selectsExpired at answer
    split at answer
    · next chosen =>
      split at answer
      · cases answer
        exact .inl rfl
      · next expiresAt _ =>
        cases compared : s.catalogBackend.isAfter expiresAt now with
        | error e =>
          rw [compared] at answer
          cases answer
        | ok later =>
          rw [compared] at answer
          cases later <;> cases answer
          · exact .inr ⟨rfl, chosen.2.2, chosen.1⟩
          · exact .inl rfl
    · cases answer
      exact .inl rfl
  unfold System.listExpiredForRetention at listed
  cases gathered : gather (fun object =>
      s.catalogBackend.selectsExpired object tenantId now workspaceId) s.objects.entries with
  | error e =>
    rw [gathered] at listed
    cases listed
  | ok found =>
    rw [gathered] at listed
    cases listed
    constructor
    · intro object member
      obtain ⟨x, stored, ys, answer, inside⟩ :=
        ((gather_ok gathered).2 object).mp (List.mem_mergeSort.mp member)
      obtain rfl | ⟨rfl, active, tenant⟩ := selects x ys answer
      · cases inside
      · obtain rfl := List.mem_singleton.mp inside
        exact ⟨⟨stored, active⟩, tenant⟩
    · have sub : found.Sublist s.objects.entries := by
        refine gather_sublist (fun object ys answer => ?_) gathered
        obtain rfl | ⟨rfl, -⟩ := selects object ys answer
        · exact List.nil_sublist _
        · exact List.Sublist.refl _
      have distinct := (sub.map (·.id)).nodup s.objects.nodup
      exact ((List.mergeSort_perm found _).map (·.id)).nodup_iff.mpr distinct

theorem cleanupObject_deletes {object : StorageObject} (wet : request.dryRun = false)
    (stored : s.Stored (.object object)) (tenant : object.tenantId = request.tenantId)
    (nothing : s.legalHoldsForScopes object object.cleanupScopes request.now = .ok []) :
    ∃ result t, cleanupObject (fun _ => false) request object s = (.ok result, t) ∧
      ¬t.Stored (.object object) := by
  obtain ⟨t, deleted, gone⟩ := deleteObject_of_stored request.now stored tenant
  refine ⟨⟨[object.id], [], []⟩, t, ?_, gone⟩
  unfold cleanupObject
  rw [Raising.bind_of_ok (by rw [Raising.consult_apply, nothing]), if_neg (not_not.mpr rfl),
    if_neg (by rw [wet]; exact Bool.false_ne_true), Raising.bind_of_ok deleted]
  rfl

/-- Where no comparison and no deletion raises, the clean-up deletes every object that no hold
is found for. -/
theorem cleanupObjects_all (sqlite : s.policyBackend = .sqlite) (wet : request.dryRun = false)
    (objects : List StorageObject) (distinct : (objects.map (·.id)).Nodup)
    (stored : ∀ object ∈ objects,
      s.Stored (.object object) ∧ object.tenantId = request.tenantId) :
    ∃ result t, cleanupObjects (fun _ => false) request objects s = (.ok result, t) ∧
      ∀ object ∈ objects,
        s.legalHoldsForScopes object object.cleanupScopes request.now = .ok [] →
        ¬t.Stored (.object object) := by
  induction objects generalizing s with
  | nil => exact ⟨⟨[], [], []⟩, s, rfl, fun _ member => (by cases member)⟩
  | cons object rest ih =>
    rw [List.map_cons, List.nodup_cons] at distinct
    have first := deletes_cleanupObject (fun _ => false) request object s
    have later (object' : StorageObject) (member : object' ∈ rest) :=
      stored object' (List.mem_cons_of_mem object member)
    -- the head is deleted, or a hold is found for it
    have head : ∃ result t, cleanupObject (fun _ => false) request object s = (.ok result, t) ∧
        (s.legalHoldsForScopes object object.cleanupScopes request.now = .ok [] →
          ¬t.Stored (.object object)) := by
      obtain ⟨holds, asked⟩ := legalHoldsForScopes_total object object.cleanupScopes
        fun hold _ _ => readable_of_sqlite sqlite hold request.now
      by_cases found : holds = []
      · obtain ⟨here, tenant⟩ := stored object List.mem_cons_self
        rw [found] at asked
        obtain ⟨result, t, ran, gone⟩ := cleanupObject_deletes wet here tenant asked
        exact ⟨result, t, ran, fun _ => gone⟩
      · refine ⟨⟨[], [object.id], []⟩, s, ?_, fun nothing => ?_⟩
        · unfold cleanupObject
          rw [Raising.bind_of_ok (by rw [Raising.consult_apply, asked]), if_pos found]
          rfl
        · rw [asked] at nothing
          exact absurd (Except.ok.inj nothing) found
    obtain ⟨result, t, ran, gone⟩ := head
    rw [ran] at first
    have remain (object' : StorageObject) (member : object' ∈ rest) :
        t.Stored (.object object') ∧ object'.tenantId = request.tenantId := by
      obtain ⟨there, tenant⟩ := later object' member
      refine ⟨(first.kept _ there).resolve_right ?_, tenant⟩
      rintro ⟨⟨o, same, named⟩, -⟩
      cases same
      exact distinct.1 (List.mem_map.mpr ⟨object', member, named⟩)
    obtain ⟨result', u, ran', gone'⟩ :=
      ih (first.policyBackend.trans sqlite) distinct.2 remain
    have second := deletes_cleanupObjects (fun _ => false) request rest t
    rw [ran'] at second
    refine ⟨_, u, by rw [cleanupObjects, Raising.bind_of_ok ran, Raising.bind_of_ok ran']; rfl, ?_⟩
    intro object' member nothing
    obtain rfl | inside := List.mem_cons.mp member
    · exact fun still => gone nothing (second.only _ still)
    · rw [← legalHoldsForScopes_congr first.legalHolds first.policyBackend] at nothing
      exact gone' object' inside nothing

end Cleanups

inductive Call where
  | createLegalHold (hold : LegalHold)
  | releaseLegalHold (tenantId legalHoldId : String) (releasedAt : Time)
  | createPlan (request : TenantOffboardingRequest) (planId : String) (now : Time)
  | approvePlan (request : TenantOffboardingApprovalRequest) (now : Time)
  | completeExport (request : TenantOffboardingExportCompletionRequest) (now : Time)
  | write (item : Item)
  | cleanup (fails : StorageObject → Bool) (request : StorageLifecycleCleanupRequest)
  | execute (fails : StorageObject → Bool) (request : TenantOffboardingDeletionRequest)

/-- The hold is on memory or knowledge, but not on all of it in the tenant of the plan. -/
def LegalHold.Beyond (hold : LegalHold) (plan : TenantOffboardingPlan) : Prop :=
  hold.category ≠ .storageObject ∧ (hold.scopeType ≠ .tenant ∨ hold.tenantId ≠ plan.tenantId)

namespace System

def write (s : System) : Item → System
  | .object o => if s.objects.get? o.id = none then { s with objects := s.objects.put o } else s
  | .memory record => { s with memories := s.memories ++ [record] }
  | .shortTermMemory entry => { s with shortTermMemories := s.shortTermMemories ++ [entry] }
  | .base b => { s with bases := s.bases ++ [b] }
  | .document d => { s with documents := s.documents ++ [d] }

def putPlan (s : System) : Except Raised TenantOffboardingPlan → System
  | .ok plan => { s with plans := s.plans.put plan }
  | .error _ => s

def perform (s : System) : Call → System
  | .createLegalHold hold => { s with legalHolds := s.legalHolds ++ [hold] }
  | .releaseLegalHold tenantId legalHoldId releasedAt =>
    match releaseLegalHold s.legalHolds tenantId legalHoldId releasedAt with
    | .ok legalHolds => { s with legalHolds := legalHolds }
    | .error _ => s
  | .createPlan request planId now =>
    s.putPlan ((tenantLegalHolds s.policyBackend s.legalHolds request.tenantId request.categories
      now).map fun blockingHolds => planFor request planId blockingHolds now)
  | .approvePlan request now =>
    s.putPlan ((getPlan s.plans request.tenantId request.planId).bind (·.approve request now))
  | .completeExport request now =>
    s.putPlan
      ((getPlan s.plans request.tenantId request.planId).bind (·.completeExport request now))
  | .write item => s.write item
  | .cleanup fails request => (cleanupExpiredObjects fails request s).2
  | .execute fails request => (Lifecycle.execute fails request s).2

def step (s : System) (call : Call) : Option System := some (s.perform call)

def CleansFree (s : System) (request : StorageLifecycleCleanupRequest) : Prop :=
  ∀ fails item, s.Stored item → ¬(cleanupExpiredObjects fails request s).2.Stored item →
    ¬s.Held request.now item

/-- The execution deletes nothing that is held; if the plan has something held in its scope, it
deletes nothing and blocks the plan; and the export stays. -/
structure ExecutesFree (s : System) (request : TenantOffboardingDeletionRequest) (s' : System) :
    Prop where
  free : ∀ item, s.Stored item → ¬s'.Stored item → ¬s.Held request.now item
  blocks : ∀ plan, getPlan s.plans request.tenantId request.planId = .ok plan →
    plan.state = .deletionPending →
    (∃ item, s.Stored item ∧ s.InScope plan item ∧ s.Held request.now item) →
    (∀ item, s.Stored item → s'.Stored item) ∧
      ∃ blocked, getPlan s'.plans request.tenantId request.planId = .ok blocked ∧
        blocked.state = .blocked
  exported : ∀ plan, getPlan s.plans request.tenantId request.planId = .ok plan →
    ∀ o : StorageObject, plan.exportStorageObjectId = some o.id → s.Stored (.object o) →
      s'.Stored (.object o)

def Spares (s : System) : Call → Prop
  | .cleanup _ request => s.CleansFree request
  | .execute _ request => ∀ fails, s.ExecutesFree request (Lifecycle.execute fails request s).2
  | _ => True

/-- Every active hold on an expired object is taken for active by the store, or another hold
that the clean-up asks for is. -/
def CleanupMeets (s : System) (request : StorageLifecycleCleanupRequest) : Prop :=
  request.dryRun = false → ∀ expired,
    s.listExpiredForRetention request.tenantId request.now request.workspaceId = .ok expired →
    ∀ object ∈ expired, ∀ hold ∈ s.legalHolds, hold.isActive request.now = .ok true →
      hold.Covers (.object object) →
      s.policyBackend.takesActive hold request.now = .ok true ∨
        ∃ other ∈ s.legalHolds, other.Concerns object object.cleanupScopes ∧
          s.policyBackend.takesActive other request.now = .ok true

/-- For every active hold on data in the scope of a pending plan, the store can read the holds
that are asked for, and the hold is asked for and taken for active, or another one is. -/
def ExecutionMeets (s : System) (request : TenantOffboardingDeletionRequest) : Prop :=
  ∀ plan, getPlan s.plans request.tenantId request.planId = .ok plan →
    plan.state = .deletionPending →
    ∀ hold ∈ s.legalHolds, hold.isActive request.now = .ok true →
      (∃ item, s.Stored item ∧ s.InScope plan item ∧ hold.Covers item) →
      (∀ other ∈ s.legalHolds, s.LooksUp plan other →
        ∃ active, s.policyBackend.takesActive other request.now = .ok active) ∧
      (¬hold.Beyond plan ∧ s.policyBackend.takesActive hold request.now = .ok true ∨
        ∃ other ∈ s.legalHolds, s.LooksUp plan other ∧
          s.policyBackend.takesActive other request.now = .ok true)

def Meets (s : System) : Call → Prop
  | .cleanup _ request => s.CleanupMeets request
  | .execute _ request => s.ExecutionMeets request
  | _ => True

variable {s : System}

theorem cleansFree_iff (request : StorageLifecycleCleanupRequest) :
    s.CleansFree request ↔ s.CleanupMeets request := by
  constructor
  · intro free wet expired listed object member hold held active covers
    by_contra missed
    rw [not_or] at missed
    obtain ⟨untaken, alone⟩ := missed
    have sqlite : s.policyBackend = .sqlite := by
      obtain ⟨-, same⟩ | ⟨sqlite, -⟩ := takesActive_eq s.policyBackend hold request.now
      · exact absurd (same.trans active) untaken
      · exact sqlite
    obtain ⟨holds, asked⟩ := legalHoldsForScopes_total object object.cleanupScopes
      fun other _ _ => readable_of_sqlite sqlite other request.now
    have nothing : holds = [] := by
      rw [List.eq_nil_iff_forall_not_mem]
      intro other inside
      exact alone ⟨other, ((legalHoldsForScopes_ok asked).2 other).mp inside⟩
    obtain ⟨stored, distinct⟩ := listExpiredForRetention_ok listed
    obtain ⟨result, t, ran, gone⟩ := cleanupObjects_all sqlite wet expired distinct stored
    refine free (fun _ => false) (.object object) (stored object member).1 ?_
      ⟨hold, held, active, covers⟩
    unfold cleanupExpiredObjects
    rw [Raising.bind_of_ok (by rw [Raising.consult_apply, listed]), ran]
    exact gone object member (by rw [asked, nothing])
  · rintro meets fails item stored gone ⟨hold, held, active, covers⟩
    unfold cleanupExpiredObjects at gone
    cases listed : s.listExpiredForRetention request.tenantId request.now request.workspaceId with
    | error e =>
      rw [Raising.bind_of_error (by rw [Raising.consult_apply, listed])] at gone
      exact gone stored
    | ok expired =>
      rw [Raising.bind_of_ok (by rw [Raising.consult_apply, listed])] at gone
      obtain ⟨object, member, ⟨o, rfl, same⟩, wet, nothing⟩ :=
        ((deletes_cleanupObjects fails request expired s).kept item stored).resolve_left gone
      have there := ((listExpiredForRetention_ok listed).1 object member).1
      obtain rfl : o = object := List.inj_on_of_nodup_map s.objects.nodup stored.1 there.1 same
      have unfound (other : LegalHold) (listed : other ∈ s.legalHolds)
          (concerns : other.Concerns o o.cleanupScopes)
          (taken : s.policyBackend.takesActive other request.now = .ok true) : False :=
        List.not_mem_nil (((legalHoldsForScopes_ok nothing).2 other).mpr ⟨listed, concerns, taken⟩)
      obtain taken | ⟨other, listed, concerns, taken⟩ :=
        meets wet expired listed o member hold held active covers
      · exact unfound hold held (covers_object covers).2 taken
      · exact unfound other listed concerns taken

theorem looksUp_of_covers {plan : TenantOffboardingPlan} {item : Item} {hold : LegalHold}
    (inScope : s.InScope plan item) (covers : hold.Covers item) (within : ¬hold.Beyond plan) :
    s.LooksUp plan hold := by
  have byCategory (other : item.category ≠ .storageObject)
      (listed : item.category ∈ plan.categories) : s.LooksUp plan hold := by
    obtain ⟨tenant, category, scope⟩ := covers
    have whole : hold.scopeType = .tenant ∧ hold.tenantId = plan.tenantId := by
      rw [← category] at other
      by_contra elsewhere
      rw [not_and_or] at elsewhere
      exact within ⟨other, elsewhere⟩
    rw [whole.1] at scope
    have named : hold.scopeId = item.tenantId := scope
    refine .inr ⟨item.category, listed, decide_eq_true ⟨whole.2, category, whole.1, ?_⟩⟩
    rw [named, ← tenant, whole.2]
  cases item with
  | object o => exact .inl ⟨o, inScope, (covers_object covers).1⟩
  | memory => exact byCategory nofun inScope.1
  | shortTermMemory => exact byCategory nofun inScope.1
  | base => exact byCategory nofun inScope.1
  | document => exact byCategory nofun inScope.1

theorem found_of_meets {request : TenantOffboardingDeletionRequest} {plan : TenantOffboardingPlan}
    (meets : s.ExecutionMeets request)
    (found : getPlan s.plans request.tenantId request.planId = .ok plan)
    (pending : plan.state = .deletionPending) {item : Item} (stored : s.Stored item)
    (inScope : s.InScope plan item) (held : s.Held request.now item) :
    (∀ other ∈ s.legalHolds, s.LooksUp plan other →
        ∃ active, s.policyBackend.takesActive other request.now = .ok active) ∧
      ∃ other ∈ s.legalHolds, s.LooksUp plan other ∧
        s.policyBackend.takesActive other request.now = .ok true := by
  obtain ⟨hold, listed, active, covers⟩ := held
  obtain ⟨readable, ⟨within, taken⟩ | other⟩ :=
    meets plan found pending hold listed active ⟨item, stored, inScope, covers⟩
  · exact ⟨readable, hold, listed, looksUp_of_covers inScope covers within, taken⟩
  · exact ⟨readable, other⟩

theorem executesFree_of_meets {request : TenantOffboardingDeletionRequest}
    (meets : s.ExecutionMeets request) (fails : StorageObject → Bool) :
    s.ExecutesFree request (Lifecycle.execute fails request s).2 := by
  obtain ⟨same, idle⟩ | ⟨plan, found, pending, heldObjects, categoryHolds, asked,
    ⟨met, after⟩ | ⟨free, after⟩⟩ := execute_cases fails request s
  · -- the execution has not begun
    rw [same]
    refine ⟨fun item stored gone => absurd stored gone, ?_, fun _ _ _ _ stored => stored⟩
    rintro plan found pending ⟨item, stored, inScope, held⟩
    obtain ⟨readable, -⟩ := found_of_meets meets found pending stored inScope held
    obtain ⟨holds, asked⟩ := lookups_total readable
    obtain elsewhere | ⟨e, failed⟩ := idle plan found
    · exact absurd pending elsewhere
    · rw [asked] at failed
      cases failed
  · -- the plan is blocked
    have kept (item : Item) (stored : s.Stored item) :
        (Lifecycle.execute fails request s).2.Stored item := by
      rw [after]
      exact (System.stored_with_plans _ item).mpr stored
    refine ⟨fun item stored gone => absurd (kept item stored) gone, fun plan' found' _ _ =>
      ⟨kept, ?_⟩, fun _ _ o _ stored => kept (.object o) stored⟩
    rw [after, ← id_of_getPlan found]
    exact ⟨_, getPlan_put (getPlan_eq_ok.mp found).2, rfl⟩
  · -- the lookups have found nothing
    obtain ⟨t, deletes, ends⟩ := deletes_executeDeletion fails request found
    have unmet (item : Item) (stored : s.Stored item) (inScope : s.InScope plan item) :
        ¬s.Held request.now item := by
      intro held
      obtain ⟨-, other, listed, concerns, taken⟩ :=
        found_of_meets meets found pending stored inScope held
      exact (lookups_ok asked).2.mp free other listed concerns taken
    have kept (item : Item) (stored : s.Stored item) :
        (Lifecycle.execute fails request s).2.Stored item ∨ s.InScope plan item := by
      refine (deletes.kept item stored).imp (fun there => ?_) fun inScope => inScope stored
      rw [after]
      obtain same | same := ends
      · rwa [same]
      · rw [same]
        exact (System.stored_with_plans _ item).mpr there
    refine ⟨fun item stored gone => unmet item stored ((kept item stored).resolve_left gone), ?_, ?_⟩
    · rintro plan' found' - ⟨item, stored, inScope, held⟩
      rw [found] at found'
      cases found'
      exact absurd held (unmet item stored inScope)
    · intro plan' found' o exported stored
      rw [found] at found'
      cases found'
      refine (kept (.object o) stored).resolve_right fun inScope => ?_
      exact (s.candidate_stored inScope).2.2 exported

theorem meets_of_executesFree {request : TenantOffboardingDeletionRequest}
    {fails : StorageObject → Bool}
    (free : s.ExecutesFree request (Lifecycle.execute fails request s).2) :
    s.ExecutionMeets request := by
  intro plan found pending hold listed active ⟨item, stored, inScope, covers⟩
  obtain ⟨-, blocked, after, isBlocked⟩ := free.blocks plan found pending
    ⟨item, stored, inScope, hold, listed, active, covers⟩
  obtain ⟨same, -⟩ | ⟨plan', found', -, heldObjects, categoryHolds, asked,
    ⟨met, -⟩ | ⟨-, ran⟩⟩ := execute_cases fails request s
  · rw [same, found] at after
    cases after
    rw [pending] at isBlocked
    cases isBlocked
  · rw [found] at found'
    cases found'
    refine ⟨(lookups_ok asked).1, .inr ?_⟩
    by_contra nowhere
    have idle := (lookups_ok asked).2.mpr fun other listed concerns taken =>
      nowhere ⟨other, listed, concerns, taken⟩
    exact met.elim (· idle.1) (· idle.2)
  · -- after deletions the plan is as it was, or it is deleted
    obtain ⟨t, deletes, ends⟩ := deletes_executeDeletion fails request found
    rw [found] at found'
    cases found'
    rw [ran] at after
    obtain same | same := ends
    · rw [same, deletes.plans, found] at after
      cases after
      rw [pending] at isBlocked
      cases isBlocked
    · have put : getPlan (t.plans.put (plan.markDeleted request.deletedByUserId request.now))
          request.tenantId plan.id = .ok (plan.markDeleted request.deletedByUserId request.now) :=
        getPlan_put (getPlan_eq_ok.mp found).2
      rw [same, ← id_of_getPlan found, put] at after
      cases after
      cases isBlocked

/-- In every sequence of calls, clean-ups and executions spare what is under an active legal
hold, and executions that meet one delete nothing and block their plan, as long as the lookups
ask for a hold that the store takes for active. -/
theorem legal_holds_prevent_deletion (s : System) (calls : List Call) :
    Machine.Conforms step Spares s calls ↔ Machine.Conforms step Meets s calls := by
  refine Machine.along_congr fun s call _ _ => ?_
  cases call with
  | cleanup fails request => exact s.cleansFree_iff request
  | execute fails request =>
    exact ⟨fun free => meets_of_executesFree (free fails), fun meets other =>
      executesFree_of_meets meets other⟩
  | createLegalHold => exact Iff.rfl
  | releaseLegalHold => exact Iff.rfl
  | createPlan => exact Iff.rfl
  | approvePlan => exact Iff.rfl
  | completeExport => exact Iff.rfl
  | write => exact Iff.rfl

section Missed

def approvedPlan : TenantOffboardingPlan where
  id := "plan"
  tenantId := "tenant"
  requestedByUserId := "owner"
  state := .deletionPending
  approvalRequired := false
  approvalStatus := .approved
  nextStateAfterApproval := some .deletionPending
  exportBeforeDelete := false
  categories := [.memory, .storageObject]
  reasonLength := 8
  blockedReason := none
  blockingLegalHoldIds := []
  deletionScope := ["memory", "storage_object"]
  approvedByUserId := some "admin"
  approvedAt := some 20
  exportBundleId := none
  exportStorageObjectId := none
  exportCompletedByUserId := none
  exportCompletedAt := none
  deletedByUserId := none
  deletedAt := none
  createdAt := 10
  updatedAt := 20

def heldWorkspace : LegalHold where
  id := "hold"
  tenantId := "tenant"
  category := .memory
  scopeType := .workspace
  scopeId := "workspace"
  reason := "litigation"
  createdByUserId := "admin"
  expiresAt := none
  releasedAt := none
  createdAt := 5

def heldRecord : MemoryRecord where
  id := "memory"
  tenantId := "tenant"
  workspaceId := "workspace"
  sourceRunId := "run"
  content := "what was said"
  status := .active

def offboarding (backend : Backend) (hold : LegalHold) : System where
  policyBackend := backend
  catalogBackend := .memory
  legalHolds := [hold]
  plans := Table.empty.put approvedPlan
  objects := Table.empty
  memories := [heldRecord]
  shortTermMemories := []
  bases := []
  documents := []

def deletion : TenantOffboardingDeletionRequest where
  tenantId := "tenant"
  planId := "plan"
  deletedByUserId := "admin"
  now := 30

def heldTenant : LegalHold :=
  { heldWorkspace with
    scopeType := .tenant
    scopeId := "tenant"
    expiresAt := some ⟨20636 * Triggers.day + 20 * Triggers.hour, some (-8 * Triggers.hour)⟩ }

/-- A hold on the memory of a workspace is not asked for, and the hold on the tenant is taken
for expired at midnight UTC, four hours before it expires. -/
theorem held_data_is_deleted :
    ¬(offboarding .memory heldWorkspace).Spares (.execute (fun _ => false) deletion) ∧
      ¬(offboarding .sqlite heldTenant).Spares
        (.execute (fun _ => false) { deletion with now := 20637 * Triggers.day }) := by
  constructor
  · intro spares
    refine (spares fun _ => false).free (.memory heldRecord)
      ⟨List.mem_singleton_self _, nofun⟩ ?_
      ⟨heldWorkspace, by decide, by decide, rfl, rfl, rfl⟩
    have emptied : heldRecord ∉
        (execute (fun _ => false) deletion (offboarding .memory heldWorkspace)).2.memories := by
      decide +kernel
    exact fun stored => emptied stored.1
  · intro spares
    refine (spares fun _ => false).free (.memory heldRecord)
      ⟨List.mem_singleton_self _, nofun⟩ ?_
      ⟨heldTenant, by decide, by decide, rfl, rfl, rfl⟩
    have emptied : heldRecord ∉ (execute (fun _ => false)
        { deletion with now := 20637 * Triggers.day } (offboarding .sqlite heldTenant)).2.memories := by
      decide +kernel
    exact fun stored => emptied stored.1

end Missed

end System

end Taroai.Lifecycle
