import Mathlib

/-! Weights of timed entries in sliding windows. A window of some length that ends at an instant
holds the entries after its beginning up to that instant. -/

namespace Taroai.Windows

variable {α : Type}

def total (p : α → Bool) (f : α → Nat) (entries : List α) : Nat := ((entries.filter p).map f).sum

section Total

variable {p q : α → Bool} {f g : α → Nat} {entries : List α}

@[simp] theorem total_nil : total p f [] = 0 := rfl

theorem total_cons (x : α) : total p f (x :: entries) = (if p x then f x else 0) + total p f entries := by
  unfold total
  rw [List.filter_cons]
  split <;> simp

theorem total_append (others : List α) :
    total p f (entries ++ others) = total p f entries + total p f others := by
  unfold total
  rw [List.filter_append, List.map_append, List.sum_append]

theorem total_snoc (x : α) :
    total p f (entries ++ [x]) = total p f entries + if p x then f x else 0 := by
  rw [total_append, total_cons, total_nil, Nat.add_zero]

theorem total_le (narrower : ∀ x ∈ entries, p x = true → q x = true)
    (lighter : ∀ x ∈ entries, p x = true → f x ≤ g x) : total p f entries ≤ total q g entries := by
  induction entries with
  | nil => exact Nat.le_refl _
  | cons x rest ih =>
    have later := ih (fun y member => narrower y (List.mem_cons_of_mem _ member))
      fun y member => lighter y (List.mem_cons_of_mem _ member)
    rw [total_cons, total_cons]
    cases here : p x with
    | true =>
      have there := narrower x List.mem_cons_self here
      have less := lighter x List.mem_cons_self here
      rw [there]
      simp only [if_true]
      omega
    | false =>
      simp only [Bool.false_eq_true, if_false]
      omega

theorem total_add : total p (fun x => f x + g x) entries = total p f entries + total p g entries := by
  induction entries with
  | nil => rfl
  | cons x rest ih =>
    rw [total_cons, total_cons, total_cons, ih]
    split <;> omega

theorem total_filter (kept : ∀ x ∈ entries, p x = true → q x = true) :
    total p f (entries.filter q) = total p f entries := by
  unfold total
  rw [List.filter_filter]
  refine congrArg (fun list => (List.map f list).sum) (List.filter_congr fun x member => ?_)
  cases here : p x with
  | true => rw [kept x member here, Bool.and_self]
  | false => rfl

theorem total_set_le {i : Nat} {x y : α} {d : Nat} (found : entries[i]? = some x)
    (heavier : (if p y then f y else 0) ≤ (if p x then f x else 0) + d) :
    total p f (entries.set i y) ≤ total p f entries + d := by
  induction entries generalizing i with
  | nil => cases found
  | cons z rest ih =>
    cases i with
    | zero =>
      cases found
      rw [List.set_cons_zero, total_cons, total_cons]
      omega
    | succ i =>
      rw [List.set_cons_succ, total_cons, total_cons]
      have later := ih found
      omega

end Total

section Windows

variable (time : α → Int) (length : Int)

def inWindow (p : α → Bool) (instant : Int) (x : α) : Bool :=
  p x && decide (instant - length < time x ∧ time x ≤ instant)

def after (p : α → Bool) (instant : Int) (x : α) : Bool := p x && decide (instant < time x)

variable {time length} {p : α → Bool} {f : α → Nat} {entries : List α}

/-- A new latest entry keeps every window within a bound if there is room for it in the window
that ends with it. -/
theorem inWindow_snoc_le {bound : Nat} {x : α}
    (bounded : ∀ instant, total (inWindow time length p instant) f entries ≤ bound)
    (latest : ∀ y ∈ entries, time y ≤ time x)
    (room : total (after time p (time x - length)) f entries + f x ≤ bound) (instant : Int) :
    total (inWindow time length p instant) f (entries ++ [x]) ≤ bound := by
  rw [total_snoc]
  cases here : inWindow time length p instant x with
  | false => simpa using bounded instant
  | true =>
    unfold inWindow at here
    simp only [Bool.and_eq_true, decide_eq_true_eq] at here
    have earlier : total (inWindow time length p instant) f entries ≤
        total (after time p (time x - length)) f entries := by
      refine total_le (fun y member there => ?_) fun _ _ _ => Nat.le_refl _
      unfold inWindow at there
      unfold after
      simp only [Bool.and_eq_true, decide_eq_true_eq] at there ⊢
      have below := latest y member
      exact ⟨there.1, by omega⟩
    simp only [if_true]
    omega

def Narrow (length : Int) (window : Int → Bool) : Prop :=
  ∀ a b, window a = true → window b = true → b < a + length

theorem narrow_starting (length instant : Int) :
    Narrow length fun a => decide (instant ≤ a ∧ a < instant + length) := by
  intro a b first second
  simp only [decide_eq_true_eq] at first second
  omega

theorem narrow_snoc_le {bound : Nat} {x : α} {window : Int → Bool} (narrow : Narrow length window)
    (bounded : total (fun y => window (time y)) f entries ≤ bound)
    (room : total (fun y => decide (time x - length < time y)) f entries + f x ≤ bound) :
    total (fun y => window (time y)) f (entries ++ [x]) ≤ bound := by
  rw [total_snoc]
  cases here : window (time x) with
  | false => simpa using bounded
  | true =>
    have earlier : total (fun y => window (time y)) f entries ≤
        total (fun y => decide (time x - length < time y)) f entries := by
      refine total_le (fun y _ there => ?_) fun _ _ _ => Nat.le_refl _
      have near := narrow (time y) (time x) there here
      exact decide_eq_true (by omega)
    simp only [if_true]
    omega

end Windows

end Taroai.Windows
