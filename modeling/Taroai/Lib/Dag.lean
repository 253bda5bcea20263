import Mathlib.Data.Fintype.Card
import Mathlib.Data.List.Perm.Subperm
import Mathlib.Logic.Relation

/-! Acyclic relations on a finite set, as dependency graphs are: `r a b` says that `a` comes
before `b`. They are well founded, so work that is not finished has a frontier, an unfinished
element behind which everything is finished. -/

namespace Taroai.Dag

open Relation

variable {α : Type*} {r : α → α → Prop}

theorem wellFounded_of_acyclic {field : Set α} (finite : field.Finite)
    (inside : ∀ a b, r a b → a ∈ field) (acyclic : ∀ a, ¬ TransGen r a a) : WellFounded r := by
  have : Finite field := finite
  let before (a b : field) : Prop := TransGen r a b
  have : IsTrans field before := ⟨fun _ _ _ first next => TransGen.trans first next⟩
  have : Std.Irrefl before := ⟨fun a => acyclic a⟩
  have order := Finite.wellFounded_of_trans_of_irrefl before
  -- inside the field by that order, and whatever comes before an element is inside
  have within (a : field) : Acc r a := by
    induction a using order.induction with
    | _ a ih => exact ⟨a.val, fun b earlier => ih ⟨b, inside b a earlier⟩ (.single earlier)⟩
  exact ⟨fun a => ⟨a, fun b earlier => within ⟨b, inside b a earlier⟩⟩⟩

theorem acyclic_of_rank (rank : α → Nat) (grows : ∀ a b, r a b → rank a < rank b) (a : α) :
    ¬ TransGen r a a := by
  intro cycle
  have longer {b : α} (path : TransGen r a b) : rank a < rank b := by
    induction path with
    | single edge => exact grows _ _ edge
    | tail _ edge ih => exact Nat.lt_trans ih (grows _ _ edge)
  exact Nat.lt_irrefl _ (longer cycle)

theorem exists_frontier (order : WellFounded r) {finished : α → Prop} (a : α)
    (unfinished : ¬ finished a) :
    ∃ m, ReflTransGen r m a ∧ ¬ finished m ∧ ∀ d, r d m → finished d := by
  induction a using order.induction with
  | _ a ih =>
    by_cases all : ∀ d, r d a → finished d
    · exact ⟨a, .refl, unfinished, all⟩
    · push Not at all
      obtain ⟨d, earlier, open'⟩ := all
      obtain ⟨m, behind, rest⟩ := ih d earlier open'
      exact ⟨m, behind.tail earlier, rest⟩

end Taroai.Dag

/-! Depth-first search for a cycle. `next a` lists what `a` leads to. The elements the search is
inside of make up the path to where it is, and whatever it has left leads into no cycle: the search
fails exactly if there is a cycle to come to. -/

namespace Taroai.DepthFirst

open Relation

variable {α : Type*} (next : α → List α)

/-- What is visited after the search has left `a`; none if it has met an element it is inside of.
The fuel bounds how many elements it can be inside of. -/
def visit [DecidableEq α] : Nat → List α → List α → α → Option (List α)
  | 0, _, _, _ => none
  | fuel + 1, visiting, visited, a =>
    if a ∈ visiting then none
    else if a ∈ visited then some visited
    else ((next a).foldlM (visit fuel (a :: visiting)) visited).map (a :: ·)

def search [DecidableEq α] (fuel : Nat) (elements : List α) : Option (List α) :=
  elements.foldlM (visit next fuel []) []

def Leads (a b : α) : Prop := b ∈ next a

def Grounded (a : α) : Prop := Acc (fun b c => Leads next c b) a

variable {next}

theorem Grounded.no_cycle {a : α} (grounded : Grounded next a) : ¬TransGen (Leads next) a a := by
  induction grounded with
  | intro a below ih =>
    intro cycle
    obtain ⟨b, first, rest⟩ := TransGen.head'_iff.mp cycle
    exact ih b first (TransGen.trans_right rest (.single first))

section Sound

variable {visited after : List α}

theorem foldlM_sound {f : List α → α → Option (List α)} {elements : List α}
    (each : ∀ a visited after, (∀ b ∈ visited, Grounded next b) → f visited a = some after →
      (∀ b ∈ after, Grounded next b) ∧ visited ⊆ after ∧ a ∈ after)
    (grounded : ∀ b ∈ visited, Grounded next b) (ran : elements.foldlM f visited = some after) :
    (∀ b ∈ after, Grounded next b) ∧ visited ⊆ after ∧ elements ⊆ after := by
  induction elements generalizing visited with
  | nil =>
    cases ran
    exact ⟨grounded, List.Subset.refl _, List.nil_subset _⟩
  | cons a rest ih =>
    rw [List.foldlM_cons] at ran
    obtain ⟨between, first, later⟩ := Option.bind_eq_some_iff.mp ran
    obtain ⟨grounded, kept, left⟩ := each a visited between grounded first
    obtain ⟨grounded, kept', all⟩ := ih grounded later
    exact ⟨grounded, List.Subset.trans kept kept', List.cons_subset.mpr ⟨kept' left, all⟩⟩

theorem visit_sound [DecidableEq α] {fuel : Nat} {visiting : List α} {a : α}
    (grounded : ∀ b ∈ visited, Grounded next b)
    (ran : visit next fuel visiting visited a = some after) :
    (∀ b ∈ after, Grounded next b) ∧ visited ⊆ after ∧ a ∈ after := by
  induction fuel generalizing visiting visited after a with
  | zero => cases ran
  | succ fuel ih =>
    rw [visit] at ran
    split at ran
    · cases ran
    · split at ran
      · next before =>
        cases ran
        exact ⟨grounded, List.Subset.refl _, before⟩
      · obtain ⟨inner, below, rfl⟩ := Option.map_eq_some_iff.mp ran
        obtain ⟨inside, kept, all⟩ :=
          foldlM_sound (fun _ _ _ grounded ran => ih grounded ran) grounded below
        refine ⟨?_, List.subset_cons_of_subset a kept, List.mem_cons_self⟩
        intro b member
        obtain rfl | old := List.mem_cons.mp member
        · exact ⟨b, fun c leads => inside c (all leads)⟩
        · exact inside b old

end Sound

section Complete

variable {field : List α}

theorem foldlM_total {f : List α → α → Option (List α)} {elements : List α}
    (each : ∀ a ∈ elements, ∀ visited, ∃ after, f visited a = some after) (visited : List α) :
    ∃ after, elements.foldlM f visited = some after := by
  induction elements generalizing visited with
  | nil => exact ⟨visited, rfl⟩
  | cons a rest ih =>
    obtain ⟨between, first⟩ := each a List.mem_cons_self visited
    obtain ⟨after, later⟩ := ih (fun b member => each b (List.mem_cons_of_mem a member)) between
    exact ⟨after, by rw [List.foldlM_cons, first]; exact later⟩

/-- Without a cycle the path to where the search is never comes back to itself, so it is no longer
than the field. -/
theorem visit_total [DecidableEq α] (closed : ∀ a ∈ field, ∀ b ∈ next a, b ∈ field)
    (acyclic : ∀ a, ¬TransGen (Leads next) a a) {fuel : Nat} {visiting : List α} {a : α}
    (inside : a ∈ field) (within : visiting ⊆ field) (distinct : visiting.Nodup)
    (path : ∀ b ∈ visiting, TransGen (Leads next) b a)
    (enough : field.length < fuel + visiting.length) (visited : List α) :
    ∃ after, visit next fuel visiting visited a = some after := by
  induction fuel generalizing visiting visited a with
  | zero =>
    have := (List.subperm_of_subset distinct within).length_le
    omega
  | succ fuel ih =>
    rw [visit]
    have off : a ∉ visiting := fun on => acyclic a (path a on)
    rw [if_neg off]
    by_cases before : a ∈ visited
    · exact ⟨visited, if_pos before⟩
    · rw [if_neg before]
      obtain ⟨after, below⟩ : ∃ after,
          (next a).foldlM (visit next fuel (a :: visiting)) visited = some after := by
        refine foldlM_total (fun b leads visited => ?_) visited
        apply ih (closed a inside b leads)
        · exact List.cons_subset.mpr ⟨inside, within⟩
        · exact List.nodup_cons.mpr ⟨off, distinct⟩
        · intro c member
          obtain rfl | earlier := List.mem_cons.mp member
          · exact .single leads
          · exact (path c earlier).tail leads
        · rw [List.length_cons]
          omega
      exact ⟨a :: after, by rw [below]; rfl⟩

end Complete

/-- The search of a closed field, with fuel for the whole of it, goes through exactly if there is
no cycle in it. -/
theorem search_isSome_iff [DecidableEq α] {field : List α} (closed : ∀ a ∈ field, ∀ b ∈ next a, b ∈ field)
    (outside : ∀ a, a ∉ field → next a = []) :
    (search next (field.length + 1) field).isSome = true ↔
      ∀ a, ¬TransGen (Leads next) a a := by
  constructor
  · intro ran a cycle
    obtain ⟨after, ran⟩ := Option.isSome_iff_exists.mp ran
    obtain ⟨grounded, -, all⟩ := foldlM_sound (fun _ _ _ grounded ran => visit_sound grounded ran)
      (by simp) ran
    have inside : a ∈ field := by
      by_contra absent
      obtain ⟨b, first, -⟩ := TransGen.head'_iff.mp cycle
      rw [Leads, outside a absent] at first
      cases first
    exact (grounded a (all inside)).no_cycle cycle
  · intro acyclic
    obtain ⟨after, ran⟩ := foldlM_total (fun a inside visited =>
      visit_total closed acyclic inside (List.nil_subset field) List.nodup_nil
        (fun _ member => (nomatch member)) (Nat.lt_succ_self field.length) visited) []
    exact Option.isSome_iff_exists.mpr ⟨after, ran⟩

end Taroai.DepthFirst
