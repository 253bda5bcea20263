import Mathlib.Data.List.Induction
import Taroai.Lib.Table

/-! Grouping a list: one record for each key that its members have, to which the members are added
one by one. -/

namespace Taroai

structure Grouping {κ β : Type*} (key : β → κ) (α : Type*) where
  of : α → κ
  start : κ → β
  add : β → α → β
  key_start : ∀ k, key (start k) = k
  key_add : ∀ b x, key (add b x) = key b

namespace Grouping

variable {α β κ : Type*} {key : β → κ} [DecidableEq κ] (g : Grouping key α)

def collect (t : Table key) (x : α) : Table key :=
  t.put (g.add ((t.get? (g.of x)).getD (g.start (g.of x))) x)

def gather (xs : List α) : Table key := xs.foldl g.collect .empty

def members (k : κ) (xs : List α) : List α := xs.filter fun x => g.of x = k

variable {g} {k : κ} {xs ys : List α}

theorem gather_append (xs : List α) (x : α) : g.gather (xs ++ [x]) = g.collect (g.gather xs) x :=
  List.foldl_concat ..

theorem key_collect (g : Grouping key α) (t : Table key) (x : α) :
    key (g.add ((t.get? (g.of x)).getD (g.start (g.of x))) x) = g.of x := by
  rw [g.key_add]
  cases found : t.get? (g.of x) with
  | none => exact g.key_start _
  | some b => exact Table.key_of_get? found

theorem get?_gather (g : Grouping key α) (k : κ) (xs : List α) : (g.gather xs).get? k =
    if g.members k xs = [] then none else some ((g.members k xs).foldl g.add (g.start k)) := by
  induction xs using List.reverseRecOn with
  | nil => rfl
  | append_singleton xs x ih =>
    rw [gather_append, collect, Table.get?_put, key_collect g]
    by_cases mine : g.of x = k
    · subst mine
      have grown : g.members (g.of x) (xs ++ [x]) = g.members (g.of x) xs ++ [x] := by
        simp [members]
      have total : ((g.gather xs).get? (g.of x)).getD (g.start (g.of x)) =
          (g.members (g.of x) xs).foldl g.add (g.start (g.of x)) := by
        rw [ih]
        split
        · next none_yet => rw [none_yet]; rfl
        · rfl
      rw [if_pos rfl, grown, if_neg (by simp), List.foldl_concat, total]
    · have same : g.members k (xs ++ [x]) = g.members k xs := by simp [members, mine]
      rw [if_neg (Ne.symm mine), ih, same]

theorem mem_gather (g : Grouping key α) {b : β} {xs : List α} : b ∈ (g.gather xs).entries ↔
    g.members (key b) xs ≠ [] ∧ b = (g.members (key b) xs).foldl g.add (g.start (key b)) := by
  have stored : b ∈ (g.gather xs).entries ↔ (g.gather xs).get? (key b) = some b :=
    ⟨Table.get?_of_mem, Table.mem_of_get?⟩
  rw [stored, get?_gather]
  by_cases nothing : g.members (key b) xs = []
  · simp [nothing]
  · simp [nothing, eq_comm]

theorem key_mem_gather (g : Grouping key α) {x : α} {xs : List α} (among : x ∈ xs) : ∃ b ∈ (g.gather xs).entries, key b = g.of x := by
  have mine : x ∈ g.members (g.of x) xs := List.mem_filter.mpr ⟨among, decide_eq_true rfl⟩
  have found : (g.gather xs).get? (g.of x) =
      some ((g.members (g.of x) xs).foldl g.add (g.start (g.of x))) := by
    rw [get?_gather, if_neg (List.ne_nil_of_mem mine)]
  exact ⟨_, Table.mem_of_get? found, Table.key_of_get? found⟩

theorem gather_perm (commutes : ∀ b x y, g.add (g.add b x) y = g.add (g.add b y) x)
    (reordered : xs.Perm ys) : (g.gather xs).entries.Perm (g.gather ys).entries := by
  have distinct : ∀ t : Table key, t.entries.Nodup := fun t => List.Nodup.of_map key t.nodup
  refine (List.perm_ext_iff_of_nodup (distinct _) (distinct _)).mpr fun b => ?_
  have same : (g.members (key b) xs).Perm (g.members (key b) ys) := reordered.filter _
  have total : (g.members (key b) xs).foldl g.add (g.start (key b)) =
      (g.members (key b) ys).foldl g.add (g.start (key b)) :=
    same.foldl_eq' (fun x _ y _ b => commutes b x y) _
  have empty : g.members (key b) xs = [] ↔ g.members (key b) ys = [] :=
    ⟨fun none_of => (none_of ▸ same).nil_eq.symm, fun none_of => (none_of ▸ same).eq_nil⟩
  rw [mem_gather, mem_gather, total, Ne, Ne, empty]

section Amounts

variable {M : Type*} [AddCancelCommMonoid M] {amount : β → M} {ofMember : α → M}

omit [DecidableEq κ] in
theorem amount_foldl (adds : ∀ b x, amount (g.add b x) = amount b + ofMember x) (b : β)
    (xs : List α) : amount (xs.foldl g.add b) = amount b + (xs.map ofMember).sum := by
  induction xs generalizing b with
  | nil => simp
  | cons x rest ih => rw [List.foldl_cons, ih, adds, List.map_cons, List.sum_cons, add_assoc]

theorem amount_gather (starts : ∀ k, amount (g.start k) = 0)
    (adds : ∀ b x, amount (g.add b x) = amount b + ofMember x) {b : β}
    (among : b ∈ (g.gather xs).entries) :
    amount b = ((g.members (key b) xs).map ofMember).sum := by
  have total := (g.mem_gather.mp among).2
  have held := amount_foldl adds (g.start (key b)) (g.members (key b) xs)
  rwa [← total, starts, zero_add] at held

theorem sum_gather (starts : ∀ k, amount (g.start k) = 0)
    (adds : ∀ b x, amount (g.add b x) = amount b + ofMember x) (xs : List α) :
    ((g.gather xs).entries.map amount).sum = (xs.map ofMember).sum := by
  induction xs using List.reverseRecOn with
  | nil => rfl
  | append_singleton xs x ih =>
    have held (found : Option β) :
        amount (found.getD (g.start (g.of x))) = found.elim 0 amount := by
      cases found with
      | none => exact starts _
      | some b => rfl
    have stored := Table.sum_put (g.gather xs)
      (g.add (((g.gather xs).get? (g.of x)).getD (g.start (g.of x))) x) amount
    rw [key_collect g, adds, held, ih, add_comm _ (ofMember x), ← add_assoc] at stored
    rw [gather_append, List.map_append, List.sum_append, List.map_singleton, List.sum_singleton]
    exact add_right_cancel stored

end Amounts

end Grouping

end Taroai
