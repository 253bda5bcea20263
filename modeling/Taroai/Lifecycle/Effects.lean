import Mathlib.Tactic.Basic
import Taroai.Lifecycle.Deletion

/-! What the lookups and the deletions of clean-ups and executions come to: which holds are
found, and which records are gone afterwards. -/

namespace Taroai.Lifecycle

inductive Item where
  | object (object : StorageObject)
  | memory (record : MemoryRecord)
  | shortTermMemory (entry : ShortTermMemoryEntry)
  | base (base : KnowledgeBase)
  | document (document : KnowledgeDocument)
deriving DecidableEq, Repr

namespace Item

def category : Item → DataCategory
  | .object _ => .storageObject
  | .memory _ | .shortTermMemory _ => .memory
  | .base _ | .document _ => .knowledge

def tenantId : Item → String
  | .object o => o.tenantId
  | .memory record => record.tenantId
  | .shortTermMemory entry => entry.tenantId
  | .base b => b.tenantId
  | .document d => d.tenantId

def workspaceId : Item → Option String
  | .object o => o.workspaceId
  | .memory record => some record.workspaceId
  | .shortTermMemory entry => some entry.workspaceId
  | .base b => some b.workspaceId
  | .document d => some d.workspaceId

def runId : Item → Option String
  | .object o => o.runId
  | .memory record => some record.sourceRunId
  | .shortTermMemory entry => some entry.runId
  | .base _ | .document _ => none

def storageObjectId : Item → Option String
  | .object o => some o.id
  | .document d => d.storageObjectId
  | .memory _ | .shortTermMemory _ | .base _ => none

end Item

/-- A hold covers the data of its category in the tenant, workspace, run or object it names. -/
def LegalHold.Covers (hold : LegalHold) (item : Item) : Prop :=
  hold.tenantId = item.tenantId ∧ hold.category = item.category ∧
    match hold.scopeType with
    | .tenant => hold.scopeId = item.tenantId
    | .workspace => item.workspaceId = some hold.scopeId
    | .run => item.runId = some hold.scopeId
    | .storageObject => item.storageObjectId = some hold.scopeId
    | .user | .knowledgeBase => False

def LegalHold.Concerns (hold : LegalHold) (object : StorageObject)
    (scopes : List (LegalHoldScopeType × Option String)) : Prop :=
  ∃ scope ∈ scopes, hold.concerns object.tenantId .storageObject scope.1 scope.2 = true

namespace System

def Stored (s : System) : Item → Prop
  | .object object => object ∈ s.objects.entries ∧ object.deletedAt = none
  | .memory record => record ∈ s.memories ∧ record.status ≠ .expired
  | .shortTermMemory entry => entry ∈ s.shortTermMemories
  | .base base => base ∈ s.bases
  | .document document => document ∈ s.documents

def Held (s : System) (now : Time) (item : Item) : Prop :=
  ∃ hold ∈ s.legalHolds, hold.isActive now = .ok true ∧ hold.Covers item

def InScope (s : System) (plan : TenantOffboardingPlan) : Item → Prop
  | .object object => object ∈ s.storageDeletionCandidates plan
  | .memory record => .memory ∈ plan.categories ∧ record.tenantId = plan.tenantId
  | .shortTermMemory entry =>
    .memory ∈ plan.categories ∧ entry.underPrefix plan.tenantId = true
  | .base base => .knowledge ∈ plan.categories ∧ base.tenantId = plan.tenantId
  | .document document => .knowledge ∈ plan.categories ∧ document.tenantId = plan.tenantId

def LooksUp (s : System) (plan : TenantOffboardingPlan) (hold : LegalHold) : Prop :=
  (∃ object ∈ s.storageDeletionCandidates plan, hold.Concerns object object.scopes) ∨
    ∃ category ∈ plan.categories,
      hold.concerns plan.tenantId category .tenant (some plan.tenantId) = true

/-- Deletions of items with `P`, and of nothing else. -/
structure Deletes (P : Item → Prop) (s s' : System) : Prop where
  plans : s'.plans = s.plans
  legalHolds : s'.legalHolds = s.legalHolds
  policyBackend : s'.policyBackend = s.policyBackend
  kept : ∀ item, s.Stored item → s'.Stored item ∨ P item
  only : ∀ item, s'.Stored item → s.Stored item

end System

theorem System.candidate_stored (s : System) {plan : TenantOffboardingPlan}
    {object : StorageObject} (candidate : object ∈ s.storageDeletionCandidates plan) :
    s.Stored (.object object) ∧ object.tenantId = plan.tenantId ∧
      plan.exportStorageObjectId ≠ some object.id := by
  unfold System.storageDeletionCandidates at candidate
  split at candidate
  · cases candidate
  · obtain ⟨listed, free⟩ := List.mem_filter.mp candidate
    obtain ⟨member, active⟩ := List.mem_filter.mp (List.mem_mergeSort.mp listed)
    obtain ⟨tenant, present⟩ := of_decide_eq_true active
    refine ⟨⟨member, present⟩, tenant, fun exported => ?_⟩
    have preserved : object.id ∈ plan.preservedStorageObjectIds := by
      rw [TenantOffboardingPlan.preservedStorageObjectIds, exported]
      exact List.mem_singleton_self _
    exact of_decide_eq_true free preserved

section Lookups

variable {s : System} {plan : TenantOffboardingPlan} {now : Time}

theorem covers_object {hold : LegalHold} {object : StorageObject}
    (covers : hold.Covers (.object object)) :
    hold.Concerns object object.scopes ∧ hold.Concerns object object.cleanupScopes := by
  obtain ⟨tenant, category, scope⟩ := covers
  dsimp only [Item.tenantId, Item.category, Item.workspaceId, Item.runId,
    Item.storageObjectId] at tenant category scope
  have asked (scopes : List (LegalHoldScopeType × Option String))
      (member : (hold.scopeType, some hold.scopeId) ∈ scopes) : hold.Concerns object scopes :=
    ⟨_, member, decide_eq_true ⟨tenant, category, rfl, rfl⟩⟩
  unfold StorageObject.scopes StorageObject.cleanupScopes
  cases scopeType : hold.scopeType with
  | tenant =>
    rw [scopeType] at scope asked
    have named : hold.scopeId = object.tenantId := scope
    constructor <;> exact asked _ (by simp [named])
  | workspace =>
    rw [scopeType] at scope asked
    have named : object.workspaceId = some hold.scopeId := scope
    constructor <;> exact asked _ (by simp [named])
  | run =>
    rw [scopeType] at scope asked
    have named : object.runId = some hold.scopeId := scope
    constructor <;> exact asked _ (by simp [named])
  | storageObject =>
    rw [scopeType] at scope asked
    have named : object.id = hold.scopeId := Option.some.inj scope
    constructor <;> exact asked _ (by simp [named])
  | user =>
    rw [scopeType] at scope
    exact scope.elim
  | knowledgeBase =>
    rw [scopeType] at scope
    exact scope.elim

theorem legalHoldsForScopes_ok {object : StorageObject}
    {scopes : List (LegalHoldScopeType × Option String)} {holds : List LegalHold}
    (found : s.legalHoldsForScopes object scopes now = .ok holds) :
    (∀ hold ∈ s.legalHolds, hold.Concerns object scopes →
      ∃ active, s.policyBackend.takesActive hold now = .ok active) ∧
    ∀ hold, hold ∈ holds ↔ hold ∈ s.legalHolds ∧ hold.Concerns object scopes ∧
      s.policyBackend.takesActive hold now = .ok true := by
  obtain ⟨answers, members⟩ := gather_ok found
  constructor
  · rintro hold member ⟨scope, listed, concerns⟩
    obtain ⟨ys, answer⟩ := answers scope listed
    exact (listActiveLegalHolds_ok answer).1 hold member concerns
  · intro hold
    rw [members]
    constructor
    · rintro ⟨scope, listed, ys, answer, inside⟩
      obtain ⟨member, concerns, taken⟩ := ((listActiveLegalHolds_ok answer).2 hold).mp inside
      exact ⟨member, ⟨scope, listed, concerns⟩, taken⟩
    · rintro ⟨member, ⟨scope, listed, concerns⟩, taken⟩
      obtain ⟨ys, answer⟩ := answers scope listed
      exact ⟨scope, listed, ys, answer,
        ((listActiveLegalHolds_ok answer).2 hold).mpr ⟨member, concerns, taken⟩⟩

theorem legalHoldsForScopes_total (object : StorageObject)
    (scopes : List (LegalHoldScopeType × Option String))
    (readable : ∀ hold ∈ s.legalHolds, hold.Concerns object scopes →
      ∃ active, s.policyBackend.takesActive hold now = .ok active) :
    ∃ holds, s.legalHoldsForScopes object scopes now = .ok holds :=
  gather_total fun scope listed => listActiveLegalHolds_total fun hold member concerns =>
    readable hold member ⟨scope, listed, concerns⟩

/-- The lookups of an execution read every hold that they ask for, and find those that the
store takes for active. -/
theorem lookups_ok {heldObjects : List (String × List LegalHold)} {categoryHolds : List LegalHold}
    (found : s.lookups plan now = .ok (heldObjects, categoryHolds)) :
    (∀ hold ∈ s.legalHolds, s.LooksUp plan hold →
      ∃ active, s.policyBackend.takesActive hold now = .ok active) ∧
    (heldObjects = [] ∧ categoryHolds = [] ↔ ∀ hold ∈ s.legalHolds, s.LooksUp plan hold →
      s.policyBackend.takesActive hold now ≠ .ok true) := by
  unfold System.lookups at found
  cases objects : s.heldStorageObjects (s.storageDeletionCandidates plan) now with
  | error e =>
    rw [objects] at found
    cases found
  | ok held =>
    cases categories : s.activeCategoryHolds plan now with
    | error e =>
      rw [objects, categories] at found
      cases found
    | ok holds =>
      rw [objects, categories] at found
      cases found
      have perObject : ∀ object ∈ s.storageDeletionCandidates plan, ∃ found,
          s.legalHoldsForScopes object object.scopes now = .ok found := by
        intro object candidate
        obtain ⟨ys, answer⟩ := (gather_ok objects).1 object candidate
        cases asked : s.legalHoldsForScopes object object.scopes now with
        | error e =>
          rw [asked] at answer
          cases answer
        | ok found => exact ⟨found, rfl⟩
      have perCategory := (gather_ok categories).1
      constructor
      · rintro hold member (⟨object, candidate, concerns⟩ | ⟨category, listed, concerns⟩)
        · obtain ⟨found, asked⟩ := perObject object candidate
          exact (legalHoldsForScopes_ok asked).1 hold member concerns
        · obtain ⟨found, asked⟩ := perCategory category listed
          exact (listActiveLegalHolds_ok asked).1 hold member concerns
      · rw [gather_nil objects, gather_nil categories]
        constructor
        · rintro ⟨noObject, noCategory⟩ hold member
            (⟨object, candidate, concerns⟩ | ⟨category, listed, concerns⟩) taken
          · obtain ⟨found, asked⟩ := perObject object candidate
            have nothing := noObject object candidate
            have inside := ((legalHoldsForScopes_ok asked).2 hold).mpr ⟨member, concerns, taken⟩
            rw [asked] at nothing
            by_cases none_found : found = []
            · rw [none_found] at inside
              cases inside
            · rw [Except.map, if_neg none_found] at nothing
              cases nothing
          · have inside := ((listActiveLegalHolds_ok (noCategory category listed)).2 hold).mpr
              ⟨member, concerns, taken⟩
            cases inside
        · intro idle
          constructor
          · intro object candidate
            obtain ⟨found, asked⟩ := perObject object candidate
            have nothing : found = [] := by
              rw [List.eq_nil_iff_forall_not_mem]
              intro hold inside
              obtain ⟨member, concerns, taken⟩ := ((legalHoldsForScopes_ok asked).2 hold).mp inside
              exact idle hold member (.inl ⟨object, candidate, concerns⟩) taken
            rw [asked, nothing]
            rfl
          · intro category listed
            obtain ⟨found, asked⟩ := perCategory category listed
            have nothing : found = [] := by
              rw [List.eq_nil_iff_forall_not_mem]
              intro hold inside
              obtain ⟨member, concerns, taken⟩ := ((listActiveLegalHolds_ok asked).2 hold).mp inside
              exact idle hold member (.inr ⟨category, listed, concerns⟩) taken
            rw [asked, nothing]

theorem lookups_total (readable : ∀ hold ∈ s.legalHolds, s.LooksUp plan hold →
      ∃ active, s.policyBackend.takesActive hold now = .ok active) :
    ∃ found, s.lookups plan now = .ok found := by
  have objects : ∃ held,
      s.heldStorageObjects (s.storageDeletionCandidates plan) now = .ok held := by
    refine gather_total fun object candidate => ?_
    obtain ⟨holds, found⟩ := legalHoldsForScopes_total object object.scopes
      fun hold member concerns => readable hold member (.inl ⟨object, candidate, concerns⟩)
    exact ⟨_, by rw [found]; rfl⟩
  have categories : ∃ holds, s.activeCategoryHolds plan now = .ok holds :=
    gather_total fun category listed => listActiveLegalHolds_total fun hold member concerns =>
      readable hold member (.inr ⟨category, listed, concerns⟩)
  obtain ⟨held, objects⟩ := objects
  obtain ⟨holds, categories⟩ := categories
  exact ⟨(held, holds), by unfold System.lookups; rw [objects, categories]; rfl⟩

end Lookups

section Deletions

variable {s s' : System} {P Q : Item → Prop}

namespace System

theorem Deletes.refl (s : System) : Deletes P s s := ⟨rfl, rfl, rfl, fun _ => .inl, fun _ => id⟩

theorem Deletes.trans {t : System} (first : Deletes P s s') (next : Deletes P s' t) :
    Deletes P s t where
  plans := next.plans.trans first.plans
  legalHolds := next.legalHolds.trans first.legalHolds
  policyBackend := next.policyBackend.trans first.policyBackend
  kept item stored := (first.kept item stored).elim (next.kept item) .inr
  only item stored := first.only item (next.only item stored)

theorem Deletes.mono (weaken : ∀ item, P item → Q item) (deletes : Deletes P s s') :
    Deletes Q s s' :=
  { deletes with kept := fun item stored => (deletes.kept item stored).imp_right (weaken item) }

theorem stored_with_plans (plans : Plans) (item : Item) :
    ({ s with plans := plans } : System).Stored item ↔ s.Stored item := by
  cases item <;> rfl

theorem deletes_markDeleted {tenantId storageObjectId : String} {deletedAt : Time}
    (marked : s.markDeleted tenantId storageObjectId deletedAt = .ok s') :
    Deletes (fun item => ∃ o : StorageObject, item = .object o ∧ o.id = storageObjectId) s s' ∧
      ∀ o : StorageObject, o.id = storageObjectId → ¬s'.Stored (.object o) := by
  unfold markDeleted at marked
  split at marked
  · next object found =>
    split at marked
    · next active =>
      cases marked
      have named : object.id = storageObjectId := Table.key_of_get? found
      refine ⟨⟨rfl, rfl, rfl, ?_, ?_⟩, ?_⟩
      · intro item stored
        cases item with
        | object o =>
          by_cases same : o.id = storageObjectId
          · exact .inr ⟨o, rfl, same⟩
          · refine .inl ⟨Table.mem_put.mpr (.inr ⟨stored.1, ?_⟩), stored.2⟩
            rw [← named] at same
            exact same
        | memory => exact .inl stored
        | shortTermMemory => exact .inl stored
        | base => exact .inl stored
        | document => exact .inl stored
      · intro item stored
        cases item with
        | object o =>
          obtain rfl | old := Table.mem_put.mp stored.1
          · cases stored.2
          · exact ⟨old.1, stored.2⟩
        | memory => exact stored
        | shortTermMemory => exact stored
        | base => exact stored
        | document => exact stored
      · intro o same stored
        obtain rfl | old := Table.mem_put.mp stored.1
        · cases stored.2
        · exact old.2 (same.trans named.symm)
    · cases marked
  · cases marked

theorem markDeleted_of_stored (deletedAt : Time) {object : StorageObject}
    (stored : s.Stored (.object object)) :
    ∃ s', s.markDeleted object.tenantId object.id deletedAt = .ok s' := by
  unfold markDeleted
  rw [Table.get?_of_mem stored.1]
  exact ⟨_, if_pos ⟨stored.2, rfl⟩⟩

end System

theorem deletes_deleteObject (fails : StorageObject → Bool) (tenantId : String) (now : Time)
    (object : StorageObject) : (deleteObject fails tenantId now object).Respects
      (System.Deletes fun item => ∃ o : StorageObject, item = .object o ∧ o.id = object.id) := by
  intro s
  unfold deleteObject
  split
  · exact System.Deletes.refl s
  · split
    · next marked => exact (System.deletes_markDeleted marked).1
    · exact System.Deletes.refl s

theorem deletes_deleteLongTermMemory (plan : TenantOffboardingPlan) :
    (deleteLongTermMemory plan).Respects (System.Deletes fun item => ∃ record, item = .memory record ∧
      .memory ∈ plan.categories ∧ record.tenantId = plan.tenantId) := by
  intro s
  unfold deleteLongTermMemory
  split
  · exact System.Deletes.refl s
  · next listed =>
    refine ⟨rfl, rfl, rfl, ?_, ?_⟩
    · intro item stored
      cases item with
      | memory record =>
        by_cases own : record.tenantId = plan.tenantId
        · exact .inr ⟨record, rfl, not_not.mp listed, own⟩
        · refine .inl ⟨List.mem_map.mpr ⟨record, stored.1, ?_⟩, stored.2⟩
          simp [own]
      | object => exact .inl stored
      | shortTermMemory => exact .inl stored
      | base => exact .inl stored
      | document => exact .inl stored
    · intro item stored
      cases item with
      | memory record =>
        obtain ⟨old, member, same⟩ := List.mem_map.mp stored.1
        split at same
        · rw [← same] at stored
          exact absurd rfl stored.2
        · exact ⟨same ▸ member, stored.2⟩
      | object => exact stored
      | shortTermMemory => exact stored
      | base => exact stored
      | document => exact stored

theorem deletes_deleteShortTermMemory (plan : TenantOffboardingPlan) :
    (deleteShortTermMemory plan).Respects (System.Deletes fun item =>
      ∃ entry, item = .shortTermMemory entry ∧
        .memory ∈ plan.categories ∧ entry.underPrefix plan.tenantId = true) := by
  intro s
  unfold deleteShortTermMemory
  split
  · exact System.Deletes.refl s
  · next listed =>
    refine ⟨rfl, rfl, rfl, ?_, ?_⟩
    · intro item stored
      cases item with
      | shortTermMemory entry =>
        cases under : entry.underPrefix plan.tenantId with
        | true => exact .inr ⟨entry, rfl, not_not.mp listed, under⟩
        | false => exact .inl (List.mem_filter.mpr ⟨stored, by rw [under]; rfl⟩)
      | object => exact .inl stored
      | memory => exact .inl stored
      | base => exact .inl stored
      | document => exact .inl stored
    · intro item stored
      cases item with
      | shortTermMemory entry => exact (List.mem_filter.mp stored).1
      | object => exact stored
      | memory => exact stored
      | base => exact stored
      | document => exact stored

theorem deletes_deleteKnowledge (plan : TenantOffboardingPlan) :
    (deleteKnowledge plan).Respects (System.Deletes fun item =>
      item.category = .knowledge ∧ .knowledge ∈ plan.categories ∧
        item.tenantId = plan.tenantId) := by
  intro s
  unfold deleteKnowledge
  split
  · exact System.Deletes.refl s
  · next listed =>
    refine ⟨rfl, rfl, rfl, ?_, ?_⟩
    · intro item stored
      cases item with
      | base b =>
        by_cases own : b.tenantId = plan.tenantId
        · exact .inr ⟨rfl, not_not.mp listed, own⟩
        · exact .inl (List.mem_filter.mpr ⟨stored, decide_eq_true own⟩)
      | document d =>
        by_cases own : d.tenantId = plan.tenantId
        · exact .inr ⟨rfl, not_not.mp listed, own⟩
        · exact .inl (List.mem_filter.mpr ⟨stored, decide_eq_true own⟩)
      | object => exact .inl stored
      | memory => exact .inl stored
      | shortTermMemory => exact .inl stored
    · intro item stored
      cases item with
      | base b => exact (List.mem_filter.mp stored).1
      | document d => exact (List.mem_filter.mp stored).1
      | object => exact stored
      | memory => exact stored
      | shortTermMemory => exact stored

theorem writePlan_of_found {tenantId planId : String} {plan : TenantOffboardingPlan}
    (found : getPlan s.plans tenantId planId = .ok plan) (next : TenantOffboardingPlan)
    (tenant : next.tenantId = plan.tenantId)
    (same : next.id = plan.id) :
    writePlan next s = (.ok next, { s with plans := s.plans.put next }) := by
  unfold writePlan
  rw [updatePlan_of_found found tenant same]

/-- The deletions of an execution stay in the scope of its plan, and leave the plans alone
until the last step. -/
theorem deletes_executeDeletion (fails : StorageObject → Bool)
    (request : TenantOffboardingDeletionRequest) {plan : TenantOffboardingPlan}
    (found : getPlan s.plans request.tenantId request.planId = .ok plan) :
    ∃ t, System.Deletes (fun item => s.Stored item → s.InScope plan item) s t ∧
      ((executeDeletion fails request plan (s.storageDeletionCandidates plan) s).2 = t ∨
        (executeDeletion fails request plan (s.storageDeletionCandidates plan) s).2 =
          { t with
            plans := t.plans.put (plan.markDeleted request.deletedByUserId request.now) }) := by
  let P : Item → Prop := fun item => s.Stored item → s.InScope plan item
  let Ends : System → Prop := fun u => ∃ t, System.Deletes P s t ∧ (u = t ∨ u =
    { t with plans := t.plans.put (plan.markDeleted request.deletedByUserId request.now) })
  have stop (t : System) (deleted : System.Deletes P s t) : Ends t := ⟨t, deleted, .inl rfl⟩
  have longTerm : (deleteLongTermMemory plan).Respects (System.Deletes P) := fun t =>
    (deletes_deleteLongTermMemory plan t).mono fun item => by
      rintro ⟨record, rfl, listed, own⟩ -
      exact ⟨listed, own⟩
  have shortTerm : (deleteShortTermMemory plan).Respects (System.Deletes P) := fun t =>
    (deletes_deleteShortTermMemory plan t).mono fun item => by
      rintro ⟨entry, rfl, listed, under⟩ -
      exact ⟨listed, under⟩
  have knowledge : (deleteKnowledge plan).Respects (System.Deletes P) := fun t =>
    (deletes_deleteKnowledge plan t).mono fun item => by
      rintro ⟨category, listed, own⟩ -
      cases item with
      | base => exact ⟨listed, own⟩
      | document => exact ⟨listed, own⟩
      | object => cases category
      | memory => cases category
      | shortTermMemory => cases category
  have objects : (Raising.each (s.storageDeletionCandidates plan)
      (deleteObject fails request.tenantId request.now)).Respects (System.Deletes P) := by
    refine Raising.Respects.each System.Deletes.refl (fun _ _ _ => System.Deletes.trans) _
      fun object candidate t => ?_
    refine (deletes_deleteObject fails request.tenantId request.now object t).mono fun item => ?_
    rintro ⟨o, rfl, same⟩ stored
    have listed := (s.candidate_stored candidate).1
    have : o = object := List.inj_on_of_nodup_map s.objects.nodup stored.1 listed.1 same
    rwa [this]
  unfold executeDeletion
  refine longTerm.bind_ends (F := Ends) stop fun _ t₁ first => ?_
  refine shortTerm.bind_ends (F := Ends) (fun t more => stop t (first.trans more))
    fun _ t₂ second => ?_
  refine knowledge.bind_ends (F := Ends)
    (fun t more => stop t ((first.trans second).trans more)) fun _ t₃ third => ?_
  refine objects.bind_ends (F := Ends)
    (fun t more => stop t (((first.trans second).trans third).trans more)) fun _ t₄ fourth => ?_
  have deleted := ((first.trans second).trans third).trans fourth
  rw [← deleted.plans] at found
  have written := writePlan_of_found found
    (plan.markDeleted request.deletedByUserId request.now) rfl rfl
  refine ⟨t₄, deleted, .inr ?_⟩
  rw [Raising.bind_pure_state]
  exact congrArg Prod.snd written

end Deletions

section Execution

variable {s : System}

theorem execute_cases (fails : StorageObject → Bool) (request : TenantOffboardingDeletionRequest)
    (s : System) :
    (execute fails request s).2 = s ∧
      (∀ plan, getPlan s.plans request.tenantId request.planId = .ok plan →
        plan.state ≠ .deletionPending ∨ ∃ e, s.lookups plan request.now = .error e) ∨
    ∃ plan, getPlan s.plans request.tenantId request.planId = .ok plan ∧
      plan.state = .deletionPending ∧ ∃ heldObjects categoryHolds,
      s.lookups plan request.now = .ok (heldObjects, categoryHolds) ∧
      ((heldObjects ≠ [] ∨ categoryHolds ≠ []) ∧
        (execute fails request s).2 = { s with plans := s.plans.put (plan.block
          (dedupeHoldIds (heldObjects.flatMap (·.2) ++ categoryHolds)) request.now) } ∨
      (heldObjects = [] ∧ categoryHolds = []) ∧
        (execute fails request s).2 =
          (executeDeletion fails request plan (s.storageDeletionCandidates plan) s).2) := by
  unfold execute
  cases found : getPlan s.plans request.tenantId request.planId with
  | error e =>
    refine .inl ⟨?_, fun plan there => (by cases there)⟩
    rw [Raising.bind_of_error (by rw [Raising.consult_apply, found])]
  | ok plan =>
    rw [Raising.bind_of_ok (by rw [Raising.consult_apply, found])]
    by_cases pending : plan.state = .deletionPending
    · rw [if_neg (not_not.mpr pending), Raising.read_bind]
      cases asked : s.lookups plan request.now with
      | error e =>
        refine .inl ⟨?_, fun other there => (by cases there; exact .inr ⟨e, asked⟩)⟩
        rw [Raising.bind_of_error (by rw [Raising.consult_apply, asked])]
      | ok holds =>
        obtain ⟨heldObjects, categoryHolds⟩ := holds
        rw [Raising.bind_of_ok (by rw [Raising.consult_apply, asked])]
        refine .inr ⟨plan, rfl, pending, heldObjects, categoryHolds, asked, ?_⟩
        dsimp only
        by_cases met : heldObjects ≠ [] ∨ categoryHolds ≠ []
        · rw [if_pos met]
          refine .inl ⟨met, ?_⟩
          rw [executeBlocked, Raising.bind_pure_state]
          have written := writePlan_of_found found (plan.block
            (dedupeHoldIds (heldObjects.flatMap (·.2) ++ categoryHolds)) request.now) rfl rfl
          exact congrArg Prod.snd written
        · rw [if_neg met]
          rw [not_or, not_not, not_not] at met
          exact .inr ⟨met, rfl⟩
    · rw [if_pos pending]
      exact .inl ⟨rfl, fun other there => (by cases there; exact .inl pending)⟩

end Execution

section Completion

variable {s : System} {plan : TenantOffboardingPlan}

theorem deleteObject_of_stored (now : Time) {tenantId : String} {object : StorageObject}
    (stored : s.Stored (.object object)) (tenant : object.tenantId = tenantId) :
    ∃ t, deleteObject (fun _ => false) tenantId now object s = (.ok (), t) ∧
      ¬t.Stored (.object object) := by
  obtain ⟨t, marked⟩ := System.markDeleted_of_stored now stored
  refine ⟨t, ?_, (System.deletes_markDeleted marked).2 object rfl⟩
  rw [tenant] at marked
  unfold deleteObject
  rw [if_neg Bool.false_ne_true, marked]

theorem deleteObjects_all {request : TenantOffboardingDeletionRequest}
    (objects : List StorageObject) (distinct : (objects.map (·.id)).Nodup)
    (stored : ∀ object ∈ objects,
      s.Stored (.object object) ∧ object.tenantId = request.tenantId) :
    ∃ t, Raising.each objects (deleteObject (fun _ => false) request.tenantId request.now) s =
        (.ok (), t) ∧ ∀ object ∈ objects, ¬t.Stored (.object object) := by
  induction objects generalizing s with
  | nil => exact ⟨s, rfl, fun _ member => (by cases member)⟩
  | cons object rest ih =>
    rw [List.map_cons, List.nodup_cons] at distinct
    obtain ⟨here, tenant⟩ := stored object List.mem_cons_self
    obtain ⟨t, ran, gone⟩ := deleteObject_of_stored request.now here tenant
    have first := deletes_deleteObject (fun _ => false) request.tenantId request.now object s
    rw [ran] at first
    have remain (object' : StorageObject) (member : object' ∈ rest) :
        t.Stored (.object object') ∧ object'.tenantId = request.tenantId := by
      obtain ⟨there, own⟩ := stored object' (List.mem_cons_of_mem object member)
      refine ⟨(first.kept _ there).resolve_right ?_, own⟩
      rintro ⟨o, same, named⟩
      cases same
      exact distinct.1 (List.mem_map.mpr ⟨object', member, named⟩)
    obtain ⟨u, ran', gone'⟩ := ih distinct.2 remain
    have second : System.Deletes (fun _ => True) t u := by
      have respects : (Raising.each rest (deleteObject (fun _ => false) request.tenantId
          request.now)).Respects (System.Deletes fun _ => True) :=
        Raising.Respects.each System.Deletes.refl (fun _ _ _ => System.Deletes.trans) rest
          fun object' _ v => (deletes_deleteObject _ _ _ object' v).mono fun _ _ => trivial
      exact respects.state ran'
    refine ⟨u, by rw [Raising.each, Raising.bind_of_ok ran, ran'], ?_⟩
    intro object' member
    obtain rfl | inside := List.mem_cons.mp member
    · exact fun still => gone (second.only _ still)
    · exact gone' object' inside

theorem deleteLongTermMemory_all (plan : TenantOffboardingPlan) (s : System) :
    ∃ ids t, deleteLongTermMemory plan s = (.ok ids, t) ∧ (.memory ∈ plan.categories →
      ∀ record : MemoryRecord, record.tenantId = plan.tenantId → ¬t.Stored (.memory record)) := by
  unfold deleteLongTermMemory
  by_cases listed : .memory ∈ plan.categories
  · rw [if_neg (not_not.mpr listed)]
    refine ⟨_, _, rfl, fun _ record own ⟨member, live⟩ => ?_⟩
    obtain ⟨old, -, same⟩ := List.mem_map.mp member
    split at same
    · exact live (by rw [← same])
    · next kept =>
      subst same
      exact kept (decide_eq_true ⟨own, live⟩)
  · rw [if_pos listed]
    exact ⟨_, _, rfl, fun there => absurd there listed⟩

theorem deleteShortTermMemory_all (plan : TenantOffboardingPlan) (s : System) :
    ∃ n t, deleteShortTermMemory plan s = (.ok n, t) ∧ (.memory ∈ plan.categories →
      ∀ entry : ShortTermMemoryEntry, entry.underPrefix plan.tenantId = true →
        ¬t.Stored (.shortTermMemory entry)) := by
  unfold deleteShortTermMemory
  by_cases listed : .memory ∈ plan.categories
  · rw [if_neg (not_not.mpr listed)]
    refine ⟨_, _, rfl, fun _ entry under stored => ?_⟩
    have kept := (List.mem_filter.mp stored).2
    rw [under] at kept
    cases kept
  · rw [if_pos listed]
    exact ⟨_, _, rfl, fun there => absurd there listed⟩

theorem deleteKnowledge_all (plan : TenantOffboardingPlan) (s : System) :
    ∃ ids t, deleteKnowledge plan s = (.ok ids, t) ∧ (.knowledge ∈ plan.categories →
      ∀ item : Item, item.category = .knowledge → item.tenantId = plan.tenantId →
        ¬t.Stored item) := by
  unfold deleteKnowledge
  by_cases listed : .knowledge ∈ plan.categories
  · rw [if_neg (not_not.mpr listed)]
    refine ⟨_, _, rfl, fun _ item category own stored => ?_⟩
    cases item with
    | base => exact of_decide_eq_true (List.mem_filter.mp stored).2 own
    | document => exact of_decide_eq_true (List.mem_filter.mp stored).2 own
    | object => cases category
    | memory => cases category
    | shortTermMemory => cases category
  · rw [if_pos listed]
    exact ⟨_, _, rfl, fun there => absurd there listed⟩

theorem stored_writePlan (next : TenantOffboardingPlan) (item : Item) :
    (writePlan next s).2.Stored item ↔ s.Stored item := by
  unfold writePlan
  split
  · exact System.stored_with_plans _ item
  · exact Iff.rfl

theorem candidates_distinct (s : System) (plan : TenantOffboardingPlan) :
    ((s.storageDeletionCandidates plan).map (·.id)).Nodup := by
  unfold System.storageDeletionCandidates
  split
  · exact List.nodup_nil
  · unfold System.listActive
    refine (List.filter_sublist.map StorageObject.id).nodup ?_
    refine ((List.mergeSort_perm _ _).map StorageObject.id).nodup_iff.mpr ?_
    exact (List.filter_sublist.map StorageObject.id).nodup s.objects.nodup

theorem executeDeletion_all {request : TenantOffboardingDeletionRequest}
    (tenant : plan.tenantId = request.tenantId) {item : Item} (inScope : s.InScope plan item) :
    ¬(executeDeletion (fun _ => false) request plan (s.storageDeletionCandidates plan) s).2.Stored
      item := by
  obtain ⟨ids, s₁, ran₁, gone₁⟩ := deleteLongTermMemory_all plan s
  obtain ⟨n, s₂, ran₂, gone₂⟩ := deleteShortTermMemory_all plan s₁
  obtain ⟨knowledgeIds, s₃, ran₃, gone₃⟩ := deleteKnowledge_all plan s₂
  have first := (deletes_deleteLongTermMemory plan).state ran₁
  have second := (deletes_deleteShortTermMemory plan).state ran₂
  have third := (deletes_deleteKnowledge plan).state ran₃
  -- the objects are untouched so far
  have present (object : StorageObject) (candidate : object ∈ s.storageDeletionCandidates plan) :
      s₃.Stored (.object object) ∧ object.tenantId = request.tenantId := by
    obtain ⟨there, own, -⟩ := s.candidate_stored candidate
    refine ⟨?_, own.trans tenant⟩
    have there₁ := (first.kept _ there).resolve_right fun ⟨_, same, _⟩ => (by cases same)
    have there₂ := (second.kept _ there₁).resolve_right fun ⟨_, same, _⟩ => (by cases same)
    exact (third.kept _ there₂).resolve_right fun ⟨category, _⟩ => (by cases category)
  obtain ⟨s₄, ran₄, gone₄⟩ := deleteObjects_all _ (candidates_distinct s plan) present
  have fourth : System.Deletes (fun _ => True) s₃ s₄ :=
    (Raising.Respects.each System.Deletes.refl (fun _ _ _ => System.Deletes.trans) _
      fun object _ t => (deletes_deleteObject _ _ _ object t).mono fun _ _ => trivial).state ran₄
  have ends (other : Item) : (executeDeletion (fun _ => false) request plan
      (s.storageDeletionCandidates plan) s).2.Stored other ↔ s₄.Stored other := by
    unfold executeDeletion
    rw [Raising.bind_of_ok ran₁, Raising.bind_of_ok ran₂, Raising.bind_of_ok ran₃,
      Raising.bind_of_ok ran₄, Raising.bind_pure_state]
    exact stored_writePlan _ other
  rw [ends]
  intro stored
  cases item with
  | object o => exact gone₄ o inScope stored
  | memory record =>
    exact gone₁ inScope.1 record inScope.2 (second.only _ (third.only _ (fourth.only _ stored)))
  | shortTermMemory entry =>
    exact gone₂ inScope.1 entry inScope.2 (third.only _ (fourth.only _ stored))
  | base b => exact gone₃ inScope.1 (.base b) rfl inScope.2 (fourth.only _ stored)
  | document d => exact gone₃ inScope.1 (.document d) rfl inScope.2 (fourth.only _ stored)

/-- An execution that meets no hold, and in which no deletion fails, removes exactly what is
stored in the scope of its plan. -/
theorem execute_removes {request : TenantOffboardingDeletionRequest}
    (found : getPlan s.plans request.tenantId request.planId = .ok plan)
    (pending : plan.state = .deletionPending)
    (free : s.lookups plan request.now = .ok ([], [])) (item : Item) :
    (execute (fun _ => false) request s).2.Stored item ↔ s.Stored item ∧ ¬s.InScope plan item := by
  obtain ⟨-, idle⟩ | ⟨plan', found', -, heldObjects, categoryHolds, asked, ⟨met, -⟩ | ⟨-, ran⟩⟩ :=
    execute_cases (fun _ => false) request s
  · obtain elsewhere | ⟨e, failed⟩ := idle plan found
    · exact absurd pending elsewhere
    · rw [free] at failed
      cases failed
  · rw [found] at found'
    cases found'
    rw [free] at asked
    cases asked
    exact absurd met (by simp)
  · rw [found] at found'
    cases found'
    rw [ran]
    obtain ⟨t, deletes, ends⟩ := deletes_executeDeletion (fun _ => false) request found
    have same : (executeDeletion (fun _ => false) request plan (s.storageDeletionCandidates plan)
        s).2.Stored item ↔ t.Stored item := by
      obtain same | same := ends
      · rw [same]
      · rw [same]
        exact System.stored_with_plans _ item
    constructor
    · intro stored
      refine ⟨deletes.only item (same.mp stored), fun inScope => ?_⟩
      exact executeDeletion_all (getPlan_eq_ok.mp found).2 inScope stored
    · rintro ⟨stored, outside⟩
      exact same.mpr ((deletes.kept item stored).resolve_right fun scope => outside (scope stored))

end Completion

end Taroai.Lifecycle
