import Mathlib.Data.List.Sort
import Mathlib.Order.WithBot

/-! Lists put in order by a key. Where no two items share a key, the order of the items before
the sort is lost and a filter may be applied before or after it. -/

namespace Taroai

namespace Ranked

variable {α κ : Type} [LinearOrder κ]

/-- `ORDER BY key`. -/
def orderBy (key : α → κ) (items : List α) : List α := items.mergeSort fun a b => key a ≤ key b

variable {key : α → κ} {items others : List α}

theorem orderBy_perm (key : α → κ) (items : List α) : (orderBy key items).Perm items :=
  List.mergeSort_perm items _

theorem mem_orderBy {item : α} : item ∈ orderBy key items ↔ item ∈ items :=
  (orderBy_perm key items).mem_iff

theorem orderBy_sorted (key : α → κ) (items : List α) :
    (orderBy key items).Pairwise fun a b => key a ≤ key b := by
  have sorted := @List.pairwise_mergeSort α (fun a b => decide (key a ≤ key b))
    (fun a b c first second => by
      simp only [decide_eq_true_eq] at first second ⊢
      exact le_trans first second)
    (fun a b => by
      simp only [Bool.or_eq_true, decide_eq_true_eq]
      exact le_total _ _) items
  exact sorted.imp fun below => of_decide_eq_true below

theorem eq_of_sorted (same : items.Perm others) (keys : (items.map key).Nodup)
    (sorted : items.Pairwise fun a b => key a ≤ key b)
    (sorted' : others.Pairwise fun a b => key a ≤ key b) : items = others := by
  refine List.Perm.eq_of_pairwise ?_ sorted sorted' same
  intro a b here there below above
  exact List.inj_on_of_nodup_map keys here (same.mem_iff.mpr there) (le_antisymm below above)

/-- The rows that a filter keeps come in the same order from any list that has the same of
them. -/
theorem filter_orderBy (p : α → Bool) (keys : (items.map key).Nodup)
    (same : (items.filter p).Perm (others.filter p)) :
    (orderBy key items).filter p = (orderBy key others).filter p := by
  have before : ((orderBy key items).filter p).Perm (items.filter p) :=
    (orderBy_perm key items).filter p
  have after : ((orderBy key others).filter p).Perm (others.filter p) :=
    (orderBy_perm key others).filter p
  refine eq_of_sorted (before.trans (same.trans after.symm)) ?_
    ((orderBy_sorted key items).filter _) ((orderBy_sorted key others).filter _)
  exact (before.map key).nodup_iff.mpr (keys.sublist (List.filter_sublist.map key))

theorem pairwise_of_rank {below : α → α → Bool} (rank : α → κ)
    (agrees : ∀ a ∈ items, ∀ b ∈ items, below a b = decide (rank a ≤ rank b)) :
    (items.mergeSort below).Pairwise fun a b => rank a ≤ rank b := by
  have same : items.mergeSort below = orderBy rank items := by
    have mapped := List.map_mergeSort (f := id) (s := fun a b => decide (rank a ≤ rank b)) agrees
    rwa [List.map_id, List.map_id] at mapped
  rw [same]
  exact orderBy_sorted rank items

theorem head_sorted {weight : α → Nat} (xs : List α) (x : α) :
    (xs.insertionSort fun a b => weight b ≤ weight a).head? = some x ↔
      ∃ before after, xs = before ++ x :: after ∧ (∀ y ∈ before, weight y < weight x) ∧
        ∀ y ∈ after, weight y ≤ weight x := by
  induction xs generalizing x with
  | nil => simp
  | cons first xs ih =>
    rw [List.insertionSort_cons]
    cases sorted : xs.insertionSort fun a b => weight b ≤ weight a with
    | nil =>
      have none_else : xs = [] := by
        rw [← List.length_eq_zero_iff, ← List.length_insertionSort (fun a b => weight b ≤ weight a),
          sorted]
        rfl
      subst none_else
      rw [List.orderedInsert_nil, List.head?_cons, Option.some.injEq]
      constructor
      · rintro rfl
        exact ⟨[], [], rfl, by simp, by simp⟩
      · rintro ⟨before, after, parts, -⟩
        cases before with
        | nil => exact (List.cons.inj parts).1
        | cons b before => exact absurd (List.cons.inj parts).2 (by simp)
    | cons top rest =>
      obtain ⟨front, back, parts, below, at_most⟩ := (ih top).mp (by rw [sorted]; rfl)
      rw [List.orderedInsert]
      by_cases best : weight top ≤ weight first
      · rw [if_pos best, List.head?_cons, Option.some.injEq]
        constructor
        · rintro rfl
          refine ⟨[], xs, rfl, by simp, fun y among => ?_⟩
          rw [parts, List.mem_append, List.mem_cons] at among
          rcases among with low | rfl | low
          · exact (below y low).le.trans best
          · exact best
          · exact (at_most y low).trans best
        · rintro ⟨before, after, parts', below', at_most'⟩
          cases before with
          | nil => exact (List.cons.inj parts').1
          | cons b before =>
            obtain ⟨rfl, rfl⟩ := List.cons.inj parts'
            have over_first := below' first List.mem_cons_self
            have among : x ∈ front ++ top :: back := parts ▸ List.mem_append_right _ List.mem_cons_self
            rw [List.mem_append, List.mem_cons] at among
            rcases among with low | rfl | low
            · exact absurd (below x low) (by omega)
            · exact absurd best (by omega)
            · exact absurd (at_most x low) (by omega)
      · rw [if_neg best, List.head?_cons, Option.some.injEq]
        have unique := ih x
        rw [sorted, List.head?_cons, Option.some.injEq] at unique
        rw [unique]
        constructor
        · rintro ⟨before, after, same, below', at_most'⟩
          refine ⟨first :: before, after, by rw [same]; rfl, ?_, at_most'⟩
          rw [List.forall_mem_cons]
          refine ⟨?_, below'⟩
          obtain rfl := unique.mpr ⟨before, after, same, below', at_most'⟩
          omega
        · rintro ⟨before, after, same, below', at_most'⟩
          cases before with
          | nil =>
            obtain ⟨rfl, rfl⟩ := List.cons.inj same
            have top_low := at_most' top (parts ▸ List.mem_append_right _ List.mem_cons_self)
            exact absurd top_low best
          | cons b before =>
            obtain ⟨rfl, rfl⟩ := List.cons.inj same
            exact ⟨before, after, rfl, fun y low => below' y (List.mem_cons_of_mem _ low), at_most'⟩

end Ranked

end Taroai
