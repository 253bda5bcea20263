import Mathlib.Data.Option.Basic
import Mathlib.Order.Defs.PartialOrder

/-! Labelled machines with a partial step function. A schedule is a list of labels.
Every choice of the environment (which process moves, what a clock reads, what a
service answers) is part of a label, so a schedule has at most one run.
`Along` states a property of every transition of a run, `Conforms` a condition on
every state and label of it; an invariant may be relative to either. -/

namespace Taroai.Machine

variable {σ α : Type*} (step : σ → α → Option σ)

/-- Run a schedule. A label that the state does not allow ends the run with `none`. -/
def run : σ → List α → Option σ
  | s, [] => some s
  | s, a :: as => (step s a).bind fun s' => run s' as

/-- Every transition of the run of a schedule satisfies `P`. -/
def Along (P : σ → α → σ → Prop) : σ → List α → Prop
  | _, [] => True
  | s, a :: as => ∀ s', step s a = some s' → P s a s' ∧ Along P s' as

def Conforms (C : σ → α → Prop) : σ → List α → Prop :=
  Along step fun s a _ => C s a

variable {step}

theorem run_cons (s : σ) (a : α) (as : List α) :
    run step s (a :: as) = (step s a).bind fun s' => run step s' as := rfl

theorem run_cons_eq_some {s t : σ} {a : α} {as : List α} :
    run step s (a :: as) = some t ↔ ∃ s', step s a = some s' ∧ run step s' as = some t := by
  rw [run_cons, Option.bind_eq_some_iff]

def final (step : σ → α → Option σ) (s : σ) (as : List α)
    (allowed : (run step s as).isSome = true) : σ := (run step s as).get allowed

theorem run_final (step : σ → α → Option σ) (s : σ) (as : List α)
    (allowed : (run step s as).isSome = true) : run step s as = some (final step s as allowed) := (Option.some_get allowed).symm

theorem run_append (s : σ) (as bs : List α) :
    run step s (as ++ bs) = (run step s as).bind fun t => run step t bs := by
  induction as generalizing s with
  | nil => rfl
  | cons a as ih =>
    rw [List.cons_append, run_cons, run_cons]
    cases step s a with
    | none => rfl
    | some s' => exact ih s'

section Along

variable {P Q : σ → α → σ → Prop} {I : σ → Prop}

theorem along_true (step : σ → α → Option σ) (s : σ) (as : List α) :
    Along step (fun _ _ _ => True) s as := by
  induction as generalizing s with
  | nil => trivial
  | cons a as ih => exact fun s' _ => ⟨trivial, ih s'⟩

theorem Along.cons {s s' : σ} {a : α} {as : List α} (moved : step s a = some s')
    (here : P s a s') (later : Along step P s' as) : Along step P s (a :: as) := by
  intro t h
  obtain rfl : s' = t := Option.some.inj (moved.symm.trans h)
  exact ⟨here, later⟩

theorem invariant_run (preserved : ∀ s a s', I s → P s a s' → step s a = some s' → I s')
    {s t : σ} {as : List α} (init : I s) (along : Along step P s as)
    (ran : run step s as = some t) : I t := by
  induction as generalizing s with
  | nil =>
    cases ran
    exact init
  | cons a as ih =>
    obtain ⟨s', moved, rest⟩ := run_cons_eq_some.mp ran
    obtain ⟨here, later⟩ := along s' moved
    exact ih (preserved s a s' init here moved) later rest

theorem invariant_of_step (preserved : ∀ s a s', I s → step s a = some s' → I s')
    {s t : σ} {as : List α} (init : I s) (ran : run step s as = some t) : I t := by
  induction as generalizing s with
  | nil =>
    cases ran
    exact init
  | cons a as ih =>
    obtain ⟨s', moved, rest⟩ := run_cons_eq_some.mp ran
    exact ih (preserved s a s' init moved) rest

theorem invariant_conforms {C : σ → α → Prop}
    (preserved : ∀ s a s', I s → C s a → step s a = some s' → I s')
    {s t : σ} {as : List α} (init : I s) (conforms : Conforms step C s as)
    (ran : run step s as = some t) : I t :=
  invariant_run preserved init conforms ran

theorem Along.of_invariant
    (each : ∀ s a s', I s → P s a s' → step s a = some s' → I s' ∧ Q s a s')
    {s : σ} {as : List α} (init : I s) (along : Along step P s as) : Along step Q s as := by
  induction as generalizing s with
  | nil => trivial
  | cons a as ih =>
    intro s' moved
    obtain ⟨here, later⟩ := along s' moved
    obtain ⟨kept, conclusion⟩ := each s a s' init here moved
    exact ⟨conclusion, ih kept later⟩

theorem Along.mono (weaken : ∀ s a s', step s a = some s' → P s a s' → Q s a s')
    {s : σ} {as : List α} (along : Along step P s as) : Along step Q s as :=
  Along.of_invariant (I := fun _ => True)
    (fun s a s' _ here moved => ⟨trivial, weaken s a s' moved here⟩) trivial along

theorem along_congr (agree : ∀ s a s', step s a = some s' → (P s a s' ↔ Q s a s'))
    {s : σ} {as : List α} : Along step P s as ↔ Along step Q s as :=
  ⟨Along.mono fun s a s' moved => (agree s a s' moved).mp,
    Along.mono fun s a s' moved => (agree s a s' moved).mpr⟩

/-- Two transition properties that agree on the steps from states with an invariant, which each
step with the properties keeps, agree along every run. -/
theorem along_congr_of_invariant
    (agree : ∀ s a s', I s → step s a = some s' → (P s a s' ↔ Q s a s'))
    (kept : ∀ s a s', I s → step s a = some s' → P s a s' → I s')
    {s : σ} {as : List α} (init : I s) : Along step P s as ↔ Along step Q s as := by
  constructor
  · exact Along.of_invariant (fun s a s' inv here moved =>
      ⟨kept s a s' inv moved here, (agree s a s' inv moved).mp here⟩) init
  · refine Along.of_invariant (fun s a s' inv there moved => ?_) init
    have here := (agree s a s' inv moved).mpr there
    exact ⟨kept s a s' inv moved here, here⟩

theorem relation_run {R : σ → σ → Prop} (refl : ∀ s, R s s)
    (trans : ∀ s t u, R s t → R t u → R s u) (each : ∀ s a s', step s a = some s' → R s s')
    {s t : σ} {as : List α} (ran : run step s as = some t) : R s t := by
  induction as generalizing s with
  | nil =>
    obtain rfl : s = t := Option.some.inj ran
    exact refl s
  | cons a as ih =>
    obtain ⟨s', moved, rest⟩ := run_cons_eq_some.mp ran
    exact trans s s' t (each s a s' moved) (ih rest)

def tally (step : σ → α → Option σ) (weight : σ → α → Nat) : σ → List α → Nat
  | _, [] => 0
  | s, a :: as =>
    match step s a with
    | none => 0
    | some s' => weight s a + tally step weight s' as

theorem level_run {weight : σ → α → Nat} (level : σ → Nat)
    (each : ∀ s a s', step s a = some s' → level s' = level s + weight s a) {s t : σ} {as : List α}
    (ran : run step s as = some t) : level t = level s + tally step weight s as := by
  induction as generalizing s with
  | nil =>
    obtain rfl : s = t := Option.some.inj ran
    rfl
  | cons a as ih =>
    obtain ⟨s', moved, rest⟩ := run_cons_eq_some.mp ran
    have unfolded : tally step weight s (a :: as) = weight s a + tally step weight s' as := by
      simp only [tally, moved]
    rw [ih rest, each s a s' moved, unfolded, Nat.add_assoc]

theorem tally_le {weight : σ → α → Nat} (level : σ → Nat)
    (each : ∀ s a s', I s → step s a = some s' → I s' ∧ level s' + weight s a ≤ level s)
    {s : σ} (init : I s) (as : List α) : tally step weight s as ≤ level s := by
  induction as generalizing s with
  | nil => exact Nat.zero_le _
  | cons a as ih =>
    unfold tally
    cases moved : step s a with
    | none => exact Nat.zero_le _
    | some s' =>
      obtain ⟨kept, lower⟩ := each s a s' init moved
      have rest := ih kept
      dsimp only
      omega

theorem stops (level : σ → Nat)
    (each : ∀ s a s', I s → step s a = some s' → I s' ∧ level s' < level s) {s : σ}
    (init : I s) (f : Nat → α) :
    ∃ n ≤ level s, ∃ t, run step s ((List.range n).map f) = some t ∧ step t (f n) = none := by
  induction bound : level s using Nat.strongRecOn generalizing s f with
  | ind bound' ih =>
    subst bound
    cases moved : step s (f 0) with
    | none => exact ⟨0, Nat.zero_le _, s, rfl, moved⟩
    | some s' =>
      obtain ⟨kept, lower⟩ := each s (f 0) s' init moved
      obtain ⟨n, within, t, ran, stopped⟩ := ih _ lower kept (fun k => f (k + 1)) rfl
      refine ⟨n + 1, by omega, t, ?_, stopped⟩
      rw [List.range_succ_eq_map, List.map_cons, List.map_map, run_cons, moved]
      exact ran

theorem along_append {s t : σ} {as bs : List α} (ran : run step s as = some t)
    (whole : Along step P s (as ++ bs)) : Along step P t bs := by
  induction as generalizing s with
  | nil =>
    cases ran
    exact whole
  | cons a as ih =>
    obtain ⟨s', moved, rest⟩ := run_cons_eq_some.mp ran
    exact ih rest (whole s' moved).2

theorem Conforms.mono {C D : σ → α → Prop} (weaken : ∀ s a, C s a → D s a) {s : σ}
    {as : List α} (conforms : Conforms step C s as) : Conforms step D s as :=
  Along.mono (fun s a _ _ here => weaken s a here) conforms

theorem Conforms.append {C : σ → α → Prop} {s : σ} {as bs : List α}
    (first : Conforms step C s as)
    (next : ∀ t, run step s as = some t → Conforms step C t bs) :
    Conforms step C s (as ++ bs) := by
  induction as generalizing s with
  | nil => exact next s rfl
  | cons a as ih =>
    intro s' moved
    obtain ⟨here, later⟩ := first s' moved
    exact ⟨here, ih later fun t ran => next t (run_cons_eq_some.mpr ⟨s', moved, ran⟩)⟩

theorem Conforms.and_labels {C : σ → α → Prop} {L : α → Prop} {s : σ} {as : List α}
    (conforms : Conforms step C s as) (labels : ∀ a ∈ as, L a) :
    Conforms step (fun s a => C s a ∧ L a) s as := by
  induction as generalizing s with
  | nil => trivial
  | cons a as ih =>
    intro s' moved
    obtain ⟨here, later⟩ := conforms s' moved
    exact ⟨⟨here, labels a List.mem_cons_self⟩,
      ih later fun b member => labels b (List.mem_cons_of_mem a member)⟩

theorem Along.at_prefix {s t t' : σ} {a : α} (as : List α) {bs : List α}
    (whole : Along step P s (as ++ a :: bs)) (ran : run step s as = some t)
    (moved : step t a = some t') : P t a t' :=
  (along_append ran whole t' moved).1

def decidableConforms {C : σ → α → Prop} [∀ s a, Decidable (C s a)] :
    (s : σ) → (as : List α) → Decidable (Conforms step C s as)
  | _, [] => isTrue trivial
  | s, a :: as =>
    match moved : step s a with
    | none => isTrue fun s' h => by simp [moved] at h
    | some s' =>
      have := decidableConforms (C := C) s' as
      decidable_of_iff (C s a ∧ Conforms step C s' as) <| by
        constructor
        · intro both t h
          obtain rfl : s' = t := Option.some.inj (moved.symm.trans h)
          exact both
        · exact fun along => along s' moved

instance {C : σ → α → Prop} [∀ s a, Decidable (C s a)] (s : σ) (as : List α) :
    Decidable (Conforms step C s as) := decidableConforms s as

end Along

end Taroai.Machine

/-! Machines whose calls have owners and answer them. A view cuts a state down to what is one
owner's. If a call is answered alike by the state and by its owner's view of it, and calls of
others leave an owner's view alone, then an owner is answered as in the run of their own calls. -/

namespace Taroai.Unwinding

open Machine (Conforms)

variable {σ α β δ : Type*}

def answers (step : σ → α → β × σ) : σ → List α → List (α × β)
  | _, [] => []
  | s, a :: as => (a, (step s a).1) :: answers step (step s a).2 as

def after (step : σ → α → β × σ) (s : σ) (as : List α) : σ :=
  as.foldl (fun s a => (step s a).2) s

def moves (step : σ → α → β × σ) (s : σ) (a : α) : Option σ := some (step s a).2

section Owners

variable [DecidableEq δ] (step : σ → α → β × σ) (owner : α → δ) (view : δ → σ → σ)

structure Unwinds (P : σ → α → Prop) : Prop where
  own : ∀ s a, P s a → step (view (owner a) s) a = ((step s a).1, view (owner a) (step s a).2)
  other : ∀ s a d, P s a → owner a ≠ d → view d (step s a).2 = view d s

variable {step owner view} {P : σ → α → Prop}

/-- Whether the rest of a run answers an owner as the run of their own calls does can be asked
after each call. -/
theorem Unwinds.answers_cons (unwinds : Unwinds step owner view P) {s : σ} {a : α}
    (holds : P s a) (as : List α) (d : δ) :
    (answers step s (a :: as)).filter (fun answer => owner answer.1 = d) =
        answers step (view d s) ((a :: as).filter fun call => owner call = d) ↔
      (answers step (step s a).2 as).filter (fun answer => owner answer.1 = d) =
        answers step (view d (step s a).2) (as.filter fun call => owner call = d) := by
  by_cases own : owner a = d
  · subst own
    simp [answers, unwinds.own s a holds]
  · simp [answers, own, unwinds.other s a d holds own]

theorem Unwinds.answers_filter (unwinds : Unwinds step owner view P) {s : σ} {as : List α}
    (holds : Conforms (moves step) P s as) (d : δ) :
    (answers step s as).filter (fun answer => owner answer.1 = d) =
      answers step (view d s) (as.filter fun call => owner call = d) := by
  induction as generalizing s with
  | nil => rfl
  | cons a as ih =>
    obtain ⟨here, rest⟩ := holds _ rfl
    exact (unwinds.answers_cons here as d).mpr (ih rest)

end Owners

section Names

variable {ν : Type*} {step : σ → α → β × σ} (names : α → List ν) (used : σ → ν → Prop)

structure Fresh (s : σ) (a : α) : Prop where
  nodup : (names a).Nodup
  unused : ∀ n ∈ names a, ¬used s n

variable {names used}

theorem fresh_along (known : ∀ s a n, used (step s a).2 n → used s n ∨ n ∈ names a) {s : σ}
    {as : List α} (unused : ∀ n ∈ as.flatMap names, ¬used s n)
    (nodup : (as.flatMap names).Nodup) : Conforms (moves step) (Fresh names used) s as := by
  induction as generalizing s with
  | nil => trivial
  | cons a as ih =>
    rw [List.flatMap_cons] at unused nodup
    obtain ⟨own, later, apart⟩ := List.nodup_append.mp nodup
    refine Machine.Along.cons rfl ⟨own, fun n new => unused n (List.mem_append_left _ new)⟩ ?_
    refine ih (fun n new there => ?_) later
    obtain before | now := known s a n there
    · exact unused n (List.mem_append_right _ new) before
    · exact apart n now n new rfl

end Names

end Taroai.Unwinding
