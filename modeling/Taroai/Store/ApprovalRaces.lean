import Taroai.Lib.Transactions
import Taroai.Store.Approvals

/-! The approval requests of the SQL repository, resolved by sessions whose statements
interleave under read committed isolation. A resolution reads the rows it is for, then updates
each of them by its id alone and inserts an event; the update waits for the lock of the row. The
locks that order the events of a run are left out, and a transaction may be rolled back at any
point. -/

namespace Taroai.Store

open Workflow (ApprovalStatus)

structure ApprovalRow where
  runId : String
  status : ApprovalStatus
  resolvedByUserId : Option String := none
  resolvedAt : Option Time := none
deriving DecidableEq, Repr

/-- A row of `run_events` that a resolution inserts. -/
structure ApprovalEventRow where
  runId : String
  type : String
  approvalId : String
  status : ApprovalStatus
  resolvedByUserId : String
deriving DecidableEq, Repr

inductive Resolution where
  | complete (runId approvalId : String) (status : ApprovalStatus) (userId eventType : String)
  | cancelPending (runId userId : String)
deriving DecidableEq, Repr

namespace Resolution

def runId : Resolution → String
  | complete runId .. | cancelPending runId _ => runId

def status : Resolution → ApprovalStatus
  | complete _ _ status _ _ => status
  | cancelPending .. => .cancelled

def userId : Resolution → String
  | complete _ _ _ userId _ | cancelPending _ userId => userId

def eventType : Resolution → String
  | complete _ _ _ _ eventType => eventType
  | cancelPending .. => "approval.cancelled"

def resolveApprovalRequest (runId approvalId userId : String) : Resolution :=
  complete runId approvalId .approved userId "approval.resolved"

def rejectApprovalRequest (runId approvalId userId : String) : Resolution :=
  complete runId approvalId .rejected userId "approval.rejected"

end Resolution

/-- Where a session is in its transaction: the row whose event is still to be inserted, and the
rows to be updated. -/
inductive Session where
  | idle
  | working (resolution : Resolution) (updated : Option String) (remaining : List String)
deriving DecidableEq, Repr

structure ApprovalTables where
  ids : List String
  rows : String → Cell ApprovalRow
  events : Log ApprovalEventRow
  sessions : Nat → Session

namespace ApprovalTables

inductive Statement where
  | select (resolution : Resolution)
  | update (now : Time)
  | insertEvent
  | commit
  | rollback
deriving DecidableEq, Repr

def setSession (s : ApprovalTables) (c : Nat) (session : Session) : ApprovalTables :=
  { s with sessions := fun other => if other = c then session else s.sessions other }

/-- The rows that the `SELECT` of a resolution finds. -/
def selected (s : ApprovalTables) (c : Nat) : Resolution → List String
  | .complete runId approvalId .. =>
    if ((s.rows approvalId).seenBy c).any fun row => row.runId = runId then [approvalId] else []
  | .cancelPending runId _ => s.ids.filter fun id =>
    ((s.rows id).seenBy c).any fun row => row.runId = runId && row.status = .pending

def resolvedRow (resolution : Resolution) (now : Time) (row : ApprovalRow) : ApprovalRow :=
  { row with
    status := resolution.status
    resolvedByUserId := some resolution.userId
    resolvedAt := some now }

/-- One statement of a session; no result where it waits or is not the session's next. -/
def step (s : ApprovalTables) (c : Nat) : Statement → Option ApprovalTables
  | .select resolution =>
    match s.sessions c with
    | .idle =>
      -- a row that is not found raises, and the transaction ends with nothing written
      some (match resolution, s.selected c resolution with
        | .complete .., [] => s
        | _, remaining => s.setSession c (.working resolution none remaining))
    | .working .. => none
  | .update now =>
    match s.sessions c with
    | .working resolution none (id :: remaining) => do
      let (_, cell) ← (s.rows id).update c fun row => some (resolvedRow resolution now row)
      return { s.setSession c (.working resolution (some id) remaining) with
        rows := fun other => if other = id then cell else s.rows other }
    | _ => none
  | .insertEvent =>
    match s.sessions c with
    | .working resolution (some id) remaining =>
      some { s.setSession c (.working resolution none remaining) with
        events := s.events.insert c
          ⟨resolution.runId, resolution.eventType, id, resolution.status, resolution.userId⟩ }
    | _ => none
  | .commit =>
    match s.sessions c with
    | .working _ none [] =>
      some { s.setSession c .idle with
        rows := fun id => (s.rows id).commit c
        events := s.events.commit c }
    | _ => none
  | .rollback =>
    some { s.setSession c .idle with
      rows := fun id => (s.rows id).rollback c
      events := s.events.rollback c }

/-- The statements of a schedule, one after the other; those that have no result are passed
over. -/
def run (s : ApprovalTables) : List (Nat × Statement) → ApprovalTables
  | [] => s
  | (c, statement) :: rest => run ((s.step c statement).getD s) rest

def FindsPending (s : ApprovalTables) (c : Nat) (statement : Statement) : Prop :=
  ∀ now, statement = .update now → ∀ resolution updated id remaining,
    s.sessions c = .working resolution updated (id :: remaining) →
    ∀ row, (s.rows id).seenBy c = some row → row.status = .pending

def AllFindPending (s : ApprovalTables) : List (Nat × Statement) → Prop
  | [] => True
  | (c, statement) :: rest =>
    s.FindsPending c statement ∧ AllFindPending ((s.step c statement).getD s) rest

structure Quiet (s : ApprovalTables) : Prop where
  rows : ∀ id, (s.rows id).pending = none
  events : ∀ entry ∈ s.events, entry.writer = none
  sessions : ∀ c, s.sessions c = .idle

def eventsOf (s : ApprovalTables) (id : String) : List ApprovalEventRow :=
  s.events.rows.filter fun event => event.approvalId = id

structure Inv (s : ApprovalTables) : Prop where
  present : ∀ c resolution updated remaining, s.sessions c = .working resolution updated remaining →
    ∀ id ∈ remaining, (s.rows id).committed.isSome
  rows : ∀ id writer version, (s.rows id).pending = some (writer, version) →
    ∃ row, (s.rows id).committed = some row ∧ row.status = .pending
  events : ∀ entry ∈ s.events, ∀ c, entry.writer = some c →
    (s.rows entry.row.approvalId).holder = some c
  sessions : ∀ c resolution id remaining, s.sessions c = .working resolution (some id) remaining →
    (s.rows id).holder = some c

section Steps

variable {s s' : ApprovalTables} {c : Nat}

theorem Quiet.inv (quiet : s.Quiet) : s.Inv where
  present c resolution updated remaining working := by
    rw [quiet.sessions c] at working
    cases working
  rows id writer version open_ := by
    rw [quiet.rows id] at open_
    cases open_
  events entry member c wrote := by
    rw [quiet.events entry member] at wrote
    cases wrote
  sessions c resolution id remaining working := by
    rw [quiet.sessions c] at working
    cases working

theorem Inv.committed_of_seen (inv : s.Inv) {id : String} {row : ApprovalRow}
    (seen : (s.rows id).seenBy c = some row) : (s.rows id).committed.isSome := by
  unfold Cell.seenBy at seen
  cases open_ : (s.rows id).pending with
  | none =>
    rw [open_] at seen
    exact Option.isSome_of_mem seen
  | some entry =>
    obtain ⟨before, committed, -⟩ := inv.rows id entry.1 entry.2 open_
    rw [committed]
    rfl

theorem Inv.selected_present (inv : s.Inv) (resolution : Resolution) :
    ∀ id ∈ s.selected c resolution, (s.rows id).committed.isSome := by
  intro id member
  cases resolution with
  | complete runId approvalId status userId eventType =>
    unfold selected at member
    dsimp only at member
    split at member
    · next found =>
      rw [List.mem_singleton.mp member]
      obtain ⟨row, seen, -⟩ := (Option.any_eq_true _ _).mp found
      exact inv.committed_of_seen seen
    · cases member
  | cancelPending runId userId =>
    have found := (List.mem_filter.mp member).2
    obtain ⟨row, seen, -⟩ := (Option.any_eq_true _ _).mp found
    exact inv.committed_of_seen seen

def Keeps (s s' : ApprovalTables) : Prop :=
  ∀ id row, (s.rows id).committed = some row → row.status ≠ .pending →
    (s'.rows id).committed = some row ∧ s'.eventsOf id = s.eventsOf id

theorem Keeps.refl (s : ApprovalTables) : Keeps s s := fun _ _ committed _ => ⟨committed, rfl⟩

theorem Keeps.trans {t : ApprovalTables} (first : Keeps s s') (second : Keeps s' t) : Keeps s t :=
  fun id row committed resolved => by
    obtain ⟨still, events⟩ := first id row committed resolved
    obtain ⟨again, events'⟩ := second id row still resolved
    exact ⟨again, events'.trans events⟩

theorem Inv.of_session (inv : s.Inv) (session : Session)
    (present : ∀ resolution updated remaining, session = .working resolution updated remaining →
      ∀ id ∈ remaining, (s.rows id).committed.isSome)
    (held : ∀ resolution id remaining, session = .working resolution (some id) remaining →
      (s.rows id).holder = some c) : (s.setSession c session).Inv where
  present d resolution updated remaining working := by
    by_cases same : d = c
    · exact present resolution updated remaining (by simpa [setSession, same] using working)
    · exact inv.present d resolution updated remaining (by simpa [setSession, same] using working)
  rows := inv.rows
  events := inv.events
  sessions d resolution id remaining working := by
    by_cases same : d = c
    · subst same
      exact held resolution id remaining (by simpa [setSession] using working)
    · exact inv.sessions d resolution id remaining (by simpa [setSession, same] using working)

theorem select_inv (inv : s.Inv) {resolution : Resolution}
    (ran : s.step c (.select resolution) = some s') : s'.Inv ∧ Keeps s s' := by
  have chosen := inv.selected_present (c := c) resolution
  unfold step at ran
  dsimp only at ran
  split at ran
  · split at ran
    · cases ran
      exact ⟨inv, .refl s⟩
    · cases ran
      refine ⟨inv.of_session _ ?_ ?_, .refl s⟩
      · intro other updated remaining same id member
        cases same
        exact chosen id member
      · intro other id remaining same
        cases same
  · cases ran

theorem update_inv (inv : s.Inv) {now : Time} (finds : s.FindsPending c (.update now))
    (ran : s.step c (.update now) = some s') : s'.Inv ∧ Keeps s s' := by
  unfold step at ran
  dsimp only at ran
  split at ran
  · next resolution id remaining working =>
    obtain ⟨⟨answer, cell⟩, changed, same⟩ := Option.bind_eq_some_iff.mp ran
    cases same
    have pending := finds now rfl resolution none id remaining working
    have there := inv.present c resolution none _ working id List.mem_cons_self
    obtain ⟨-, -, missed⟩ | ⟨before, value, seen, -, -, rfl, free⟩ := Cell.update_cases changed
    · -- the row is there, so the update finds it
      exfalso
      obtain ⟨row, committed⟩ := Option.isSome_iff_exists.mp there
      unfold Cell.seenBy at missed
      cases open_ : (s.rows id).pending with
      | none => simp [open_, committed] at missed
      | some entry =>
        by_cases own : entry.1 = c <;> simp [open_, own, committed] at missed
    · have settled : ∃ row, (s.rows id).committed = some row ∧ row.status = .pending := by
        obtain none_held | held := free
        · have unopened : (s.rows id).pending = none := by
            unfold Cell.holder at none_held
            exact Option.map_eq_none_iff.mp none_held
          unfold Cell.seenBy at seen
          rw [unopened] at seen
          exact ⟨before, seen, pending before (by unfold Cell.seenBy; rw [unopened]; exact seen)⟩
        · obtain ⟨version, open_⟩ := Cell.pending_of_holder held
          exact inv.rows id c version open_
      have held_after (other : String) (d : Nat) (held : (s.rows other).holder = some d) :
          (if other = id then (s.rows id).write c value else s.rows other).holder = some d := by
        split
        · next same =>
          subst same
          obtain none_held | own := free
          · rw [none_held] at held
            cases held
          · rw [← held, own]
            rfl
        · exact held
      refine ⟨⟨?_, ?_, ?_, ?_⟩, ?_⟩
      · intro d other updated left at_work other_id member
        have before_present : (s.rows other_id).committed.isSome := by
          by_cases own : d = c
          · subst own
            have now_working : Session.working resolution (some id) remaining =
                .working other updated left := by simpa [setSession] using at_work
            cases now_working
            exact inv.present d resolution none _ working other_id (List.mem_cons_of_mem _ member)
          · exact inv.present d other updated left (by simpa [setSession, own] using at_work)
              other_id member
        dsimp only
        split
        · next same =>
          subst same
          exact before_present
        · exact before_present
      · intro other writer version open_
        dsimp only at open_ ⊢
        split at open_
        · next same =>
          subst same
          rw [if_pos rfl]
          exact settled
        · next other_row =>
          rw [if_neg other_row]
          exact inv.rows other writer version open_
      · intro entry member d wrote
        exact held_after _ d (inv.events entry member d wrote)
      · intro d other other_id left at_work
        by_cases own : d = c
        · subst own
          have now_working : Session.working resolution (some id) remaining =
              .working other (some other_id) left := by simpa [setSession] using at_work
          cases now_working
          exact (congrArg Cell.holder (if_pos rfl)).trans rfl
        · exact held_after _ d (inv.sessions d other other_id left
            (by simpa [setSession, own] using at_work))
      · intro other row committed resolved
        refine ⟨?_, rfl⟩
        dsimp only
        split
        · next same =>
          subst same
          exact committed
        · exact committed
  · cases ran

theorem insertEvent_inv (inv : s.Inv) (ran : s.step c .insertEvent = some s') :
    s'.Inv ∧ Keeps s s' := by
  unfold step at ran
  dsimp only at ran
  split at ran
  · next resolution id remaining working =>
    cases ran
    have session := inv.of_session (c := c) (.working resolution none remaining)
      (fun other updated left same other_id member => by
        cases same
        exact inv.present c resolution (some id) remaining working other_id member)
      (fun other other_id left same => by cases same)
    refine ⟨⟨session.present, session.rows, ?_, session.sessions⟩, ?_⟩
    · intro entry member d wrote
      obtain old | new := List.mem_append.mp member
      · exact inv.events entry old d wrote
      · rw [List.mem_singleton.mp new] at wrote ⊢
        cases wrote
        exact inv.sessions c resolution id remaining working
    · intro other row committed resolved
      refine ⟨committed, ?_⟩
      unfold eventsOf
      rw [Log.rows_insert]
  · cases ran

theorem commit_inv (inv : s.Inv) (ran : s.step c .commit = some s') : s'.Inv ∧ Keeps s s' := by
  unfold step at ran
  dsimp only at ran
  split at ran
  · next resolution working =>
    cases ran
    have stays (id : String) (d : Nat) (other : d ≠ c) (held : (s.rows id).holder = some d) :
        ((s.rows id).commit c).holder = some d := by
      rw [Cell.holder_commit, held, if_neg fun same => other (Option.some.inj same)]
    have kept (id : String) (row : ApprovalRow) (committed : (s.rows id).committed = some row)
        (resolved : row.status ≠ .pending) : (s.rows id).holder ≠ some c := fun held => by
      obtain ⟨version, open_⟩ := Cell.pending_of_holder held
      obtain ⟨before, same, pending⟩ := inv.rows id c version open_
      rw [committed] at same
      cases same
      exact resolved pending
    refine ⟨⟨?_, ?_, ?_, ?_⟩, ?_⟩
    · intro d other updated left at_work id member
      by_cases own : d = c
      · subst own
        simp [setSession] at at_work
      · have before := inv.present d other updated left (by simpa [setSession, own] using at_work)
          id member
        obtain same | ⟨value, -, committed⟩ := Cell.committed_commit (s.rows id) c
        · exact same ▸ before
        · exact committed ▸ rfl
    · intro id writer version open_
      obtain ⟨before, other⟩ := Cell.pending_commit open_
      obtain ⟨row, committed, pending⟩ := inv.rows id writer version before
      refine ⟨row, ?_, pending⟩
      obtain same | ⟨value, own, -⟩ := Cell.committed_commit (s.rows id) c
      · exact same.trans committed
      · rw [before] at own
        cases own
        exact absurd rfl other
    · intro entry member d wrote
      obtain ⟨present, other⟩ := Log.mem_commit member wrote
      exact stays _ d other (inv.events entry present d wrote)
    · intro d other id left at_work
      by_cases own : d = c
      · subst own
        simp [setSession] at at_work
      · exact stays id d own (inv.sessions d other id left (by simpa [setSession, own] using at_work))
    · intro id row committed resolved
      have unheld := kept id row committed resolved
      constructor
      · obtain same | ⟨value, own, -⟩ := Cell.committed_commit (s.rows id) c
        · exact same.trans committed
        · exact absurd (by unfold Cell.holder; rw [own]; rfl) unheld
      · have unwritten : ∀ entry ∈ s.events.only (fun event => event.approvalId = id),
            entry.writer ≠ some c := by
          intro entry member wrote
          obtain ⟨present, about⟩ := List.mem_filter.mp member
          have held := inv.events entry present c wrote
          rw [of_decide_eq_true about] at held
          exact unheld held
        have same := Log.commit_of_unwritten unwritten
        unfold eventsOf
        rw [← Log.rows_only, ← Log.rows_only, Log.only_commit, same]
  · cases ran

theorem rollback_inv (inv : s.Inv) (ran : s.step c .rollback = some s') : s'.Inv ∧ Keeps s s' := by
  unfold step at ran
  cases ran
  have stays (id : String) (d : Nat) (other : d ≠ c) (held : (s.rows id).holder = some d) :
      ((s.rows id).rollback c).holder = some d := by
    rw [Cell.holder_rollback, held, if_neg fun same => other (Option.some.inj same)]
  refine ⟨⟨?_, ?_, ?_, ?_⟩, ?_⟩
  · intro d other updated left at_work id member
    by_cases own : d = c
    · subst own
      simp [setSession] at at_work
    · dsimp only
      rw [Cell.committed_rollback]
      exact inv.present d other updated left (by simpa [setSession, own] using at_work) id member
  · intro id writer version open_
    dsimp only
    rw [Cell.committed_rollback]
    exact inv.rows id writer version (Cell.pending_rollback open_)
  · intro entry member d wrote
    obtain ⟨present, other⟩ := List.mem_filter.mp member
    refine stays _ d ?_ (inv.events entry present d wrote)
    rintro rfl
    simp [wrote] at other
  · intro d other id left at_work
    by_cases own : d = c
    · subst own
      simp [setSession] at at_work
    · exact stays id d own (inv.sessions d other id left (by simpa [setSession, own] using at_work))
  · intro id row committed resolved
    refine ⟨(Cell.committed_rollback _ _).trans committed, ?_⟩
    unfold eventsOf
    rw [Log.rows_rollback]

theorem step_inv (inv : s.Inv) {statement : Statement} (finds : s.FindsPending c statement)
    (ran : s.step c statement = some s') : s'.Inv ∧ Keeps s s' := by
  cases statement with
  | select resolution => exact select_inv inv ran
  | update now => exact update_inv inv finds ran
  | insertEvent => exact insertEvent_inv inv ran
  | commit => exact commit_inv inv ran
  | rollback => exact rollback_inv inv ran

theorem run_inv (inv : s.Inv) {schedule : List (Nat × Statement)} (finds : s.AllFindPending schedule) :
    (s.run schedule).Inv ∧ Keeps s (s.run schedule) := by
  induction schedule generalizing s with
  | nil => exact ⟨inv, .refl s⟩
  | cons first rest ih =>
    obtain ⟨c, statement⟩ := first
    obtain ⟨here, later⟩ := finds
    rw [run]
    cases ran : s.step c statement with
    | none =>
      rw [ran] at later
      exact ih inv later
    | some s' =>
      rw [ran] at later
      obtain ⟨inv', keeps⟩ := step_inv inv here ran
      obtain ⟨inv'', keeps'⟩ := ih inv' later
      exact ⟨inv'', keeps.trans keeps'⟩

theorem run_append (s : ApprovalTables) (first later : List (Nat × Statement)) :
    s.run (first ++ later) = (s.run first).run later := by
  induction first generalizing s with
  | nil => rfl
  | cons one rest ih => exact ih _

theorem allFindPending_append {first later : List (Nat × Statement)}
    (finds : s.AllFindPending (first ++ later)) :
    s.AllFindPending first ∧ (s.run first).AllFindPending later := by
  induction first generalizing s with
  | nil => exact ⟨trivial, finds⟩
  | cons one rest ih =>
    obtain ⟨here, others⟩ := ih finds.2
    exact ⟨⟨finds.1, here⟩, others⟩

end Steps

end ApprovalTables

/-- A resolution is final as long as no approval is completed again: in memory that is when
every call by id finds its approval pending, in the tables when every update finds its row
pending. -/
theorem approval_resolution_final (s : ApprovalStore) (tables : ApprovalTables) :
    (∀ call : ApprovalStore.Call, s.LeavesResolved call ↔ s.FindsPending call) ∧
    (∀ (runId approvalId : String) (approval : ApprovalRequest),
      s.approval? runId approvalId = some approval → ∀ userId now,
        (s.perform (.resolve runId approvalId userId now)).approval? runId approvalId =
            some (approval.complete .approved userId now) ∧
          (s.perform (.reject runId approvalId userId now)).approval? runId approvalId =
            some (approval.complete .rejected userId now)) ∧
    (∀ calls : List ApprovalStore.Call, s.AllFindPending calls →
      ∀ (runId : String) (i : Nat) (approval : ApprovalRequest),
        (s.approvalRequests runId)[i]? = some approval → approval.status ≠ .pending →
        ((calls.foldl ApprovalStore.perform s).approvalRequests runId)[i]? = some approval) ∧
    (tables.Quiet → ∀ first later : List (Nat × ApprovalTables.Statement),
      tables.AllFindPending (first ++ later) → ∀ id row,
        ((tables.run first).rows id).committed = some row → row.status ≠ .pending →
        ((tables.run (first ++ later)).rows id).committed = some row ∧
          (tables.run (first ++ later)).eventsOf id = (tables.run first).eventsOf id) := by
  refine ⟨ApprovalStore.leavesResolved_iff s, fun runId approvalId approval found userId now => ?_,
    fun calls finds runId i approval there resolved =>
      ApprovalStore.resolved_stays finds there resolved,
    fun quiet first later finds id row committed resolved => ?_⟩
  · obtain ⟨_, _, -, -, approved⟩ :=
      ApprovalStore.complete_found found .approved userId "approval.resolved" now
    obtain ⟨_, _, -, -, rejected⟩ :=
      ApprovalStore.complete_found found .rejected userId "approval.rejected" now
    exact ⟨approved, rejected⟩
  · obtain ⟨before, after⟩ := ApprovalTables.allFindPending_append finds
    obtain ⟨inv, -⟩ := ApprovalTables.run_inv quiet.inv before
    rw [ApprovalTables.run_append]
    exact (ApprovalTables.run_inv inv after).2 id row committed resolved

section Overwritten

open ApprovalTables

def onePending : ApprovalStore where
  runs := ["run"]
  approvalRequests _ :=
    [{ id := "approval", stepId := "step", reason := "Send the mail", createdAt := 0 }]
  runEvents _ := []

def onePendingRow : ApprovalTables where
  ids := ["approval"]
  rows id := if id = "approval" then ⟨some { runId := "run", status := .pending }, none⟩ else .absent
  events := []
  sessions _ := .idle

def approving : List (Nat × Statement) :=
  [(0, .select (.resolveApprovalRequest "run" "approval" "alice")),
    (1, .select (.rejectApprovalRequest "run" "approval" "bob")),
    (0, .update 1), (0, .insertEvent), (0, .commit)]

def rejecting : List (Nat × Statement) := [(1, .update 2), (1, .insertEvent), (1, .commit)]

/-- An approval that was approved is rejected later, in memory and in the tables, and its run is
told so. -/
theorem rejected_after_approval :
    ((onePending.perform (.resolve "run" "approval" "alice" 1)).approval? "run" "approval").map
        ApprovalRequest.status = some .approved ∧
      (((onePending.perform (.resolve "run" "approval" "alice" 1)).perform
        (.reject "run" "approval" "bob" 2)).approval? "run" "approval").map
        ApprovalRequest.status = some .rejected ∧
      ((onePending.perform (.resolve "run" "approval" "alice" 1)).perform
        (.reject "run" "approval" "bob" 2)).runEvents "run" ≠
        (onePending.perform (.resolve "run" "approval" "alice" 1)).runEvents "run" ∧
      (((onePendingRow.run approving).rows "approval").committed.map ApprovalRow.status =
        some .approved) ∧
      ((onePendingRow.run (approving ++ rejecting)).rows "approval").committed.map
        ApprovalRow.status = some .rejected := by
  decide +kernel

end Overwritten

end Taroai.Store
