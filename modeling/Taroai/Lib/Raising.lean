import Mathlib.Logic.Basic

/-! Stateful computations that may raise. A raise keeps the state reached so far, as an
exception does that leaves a method after some of its writes. The rules invert a run into the
runs of its parts, and carry a reflexive and transitive relation between the states before
and after through sequencing, loops and raises. -/

namespace Taroai

def Raising (ε σ α : Type) : Type := σ → Except ε α × σ

namespace Raising

variable {ε σ α β : Type}

instance : Monad (Raising ε σ) where
  pure a := fun s => (.ok a, s)
  bind m f := fun s =>
    match m s with
    | (.ok a, s') => f a s'
    | (.error e, s') => (.error e, s')

def raise (e : ε) : Raising ε σ α := fun s => (.error e, s)

def read (f : σ → α) : Raising ε σ α := fun s => (.ok (f s), s)

def update (f : σ → σ) : Raising ε σ Unit := fun s => (.ok (), f s)

def consult (f : σ → Except ε α) : Raising ε σ α := fun s => (f s, s)

def ensure (p : Prop) [Decidable p] (e : ε) : Raising ε σ Unit := if p then pure () else raise e

def each (xs : List α) (f : α → Raising ε σ Unit) : Raising ε σ Unit :=
  match xs with
  | [] => pure ()
  | x :: rest => do
    f x
    each rest f

@[simp] theorem pure_apply (a : α) (s : σ) : (pure a : Raising ε σ α) s = (.ok a, s) := rfl
@[simp] theorem raise_apply (e : ε) (s : σ) : (raise e : Raising ε σ α) s = (.error e, s) := rfl
@[simp] theorem read_apply (f : σ → α) (s : σ) : (read f : Raising ε σ α) s = (.ok (f s), s) :=
  rfl
@[simp] theorem update_apply (f : σ → σ) (s : σ) :
    (update f : Raising ε σ Unit) s = (.ok (), f s) := rfl

@[simp] theorem consult_apply (f : σ → Except ε α) (s : σ) :
    (consult f : Raising ε σ α) s = (f s, s) := rfl

theorem bind_apply (m : Raising ε σ α) (f : α → Raising ε σ β) (s : σ) :
    (m >>= f) s =
      match m s with
      | (.ok a, s') => f a s'
      | (.error e, s') => (.error e, s') := rfl

theorem bind_of_ok {m : Raising ε σ α} {a : α} {s s' : σ} (ran : m s = (.ok a, s'))
    (f : α → Raising ε σ β) : (m >>= f) s = f a s' := by
  rw [bind_apply, ran]

theorem bind_of_error {m : Raising ε σ α} {e : ε} {s s' : σ} (ran : m s = (.error e, s'))
    (f : α → Raising ε σ β) : (m >>= f) s = (.error e, s') := by
  rw [bind_apply, ran]

theorem bind_pure_state (m : Raising ε σ α) (f : α → β) (s : σ) :
    ((m >>= fun a => pure (f a)) s).2 = (m s).2 := by
  rw [bind_apply]
  rcases m s with ⟨e | a, t⟩ <;> rfl

theorem read_bind (f : σ → α) (g : α → Raising ε σ β) (s : σ) :
    (read f >>= g) s = g (f s) s := rfl

theorem update_bind (f : σ → σ) (g : Unit → Raising ε σ β) (s : σ) :
    (update f >>= g) s = g () (f s) := rfl

theorem ensure_bind (p : Prop) [Decidable p] (e : ε) (f : Unit → Raising ε σ β) (s : σ) :
    (ensure p e >>= f) s = if p then f () s else (.error e, s) := by
  unfold ensure
  split <;> rfl

theorem ite_apply (p : Prop) [Decidable p] (m n : Raising ε σ α) (s : σ) :
    (if p then m else n) s = if p then m s else n s := by
  split <;> rfl

theorem bind_eq_ok {m : Raising ε σ α} {f : α → Raising ε σ β} {b : β} {s t : σ} :
    (m >>= f) s = (.ok b, t) ↔ ∃ a s', m s = (.ok a, s') ∧ f a s' = (.ok b, t) := by
  rcases ran : m s with ⟨e | a, s'⟩
  · simp [bind_of_error ran]
  · rw [bind_of_ok ran]
    constructor
    · exact fun next => ⟨a, s', rfl, next⟩
    · rintro ⟨_, _, same, next⟩
      cases same
      exact next

theorem bind_cases {m : Raising ε σ α} {f : α → Raising ε σ β} {r : Except ε β} {s t : σ}
    (ran : (m >>= f) s = (r, t)) :
    (∃ e, m s = (.error e, t) ∧ r = .error e) ∨ ∃ a s', m s = (.ok a, s') ∧ f a s' = (r, t) := by
  rcases first : m s with ⟨e | a, s'⟩
  · rw [bind_of_error first] at ran
    cases ran
    exact .inl ⟨e, rfl, rfl⟩
  · rw [bind_of_ok first] at ran
    exact .inr ⟨a, s', rfl, ran⟩

theorem ensure_eq_ok {p : Prop} [Decidable p] {e : ε} {s t : σ} :
    (ensure p e : Raising ε σ Unit) s = (.ok (), t) ↔ p ∧ s = t := by
  unfold ensure
  split <;> simp [*]

def ReadOnly (m : Raising ε σ α) : Prop := ∀ s, (m s).2 = s

theorem ReadOnly.state {m : Raising ε σ α} (reads : m.ReadOnly) {s s' : σ} {r : Except ε α}
    (ran : m s = (r, s')) : s' = s := by
  have same := reads s
  rw [ran] at same
  exact same

theorem readOnly_pure (a : α) : (pure a : Raising ε σ α).ReadOnly := fun _ => rfl

theorem readOnly_raise (e : ε) : (raise e : Raising ε σ α).ReadOnly := fun _ => rfl

theorem readOnly_read (f : σ → α) : (read f : Raising ε σ α).ReadOnly := fun _ => rfl

theorem readOnly_ensure (p : Prop) [Decidable p] (e : ε) :
    (ensure p e : Raising ε σ Unit).ReadOnly := by
  intro s
  unfold ensure
  split <;> rfl

theorem ReadOnly.bind {m : Raising ε σ α} {f : α → Raising ε σ β} (first : m.ReadOnly)
    (next : ∀ a, (f a).ReadOnly) : (m >>= f).ReadOnly := by
  intro s
  rcases ran : m s with ⟨e | a, s'⟩
  · rw [bind_of_error ran]
    exact first.state ran
  · rw [bind_of_ok ran, next a s']
    exact first.state ran

/-- A run that starts by reading: either the read raised, or the rest runs from the same state. -/
theorem ReadOnly.bind_cases {m : Raising ε σ α} {f : α → Raising ε σ β} (reads : m.ReadOnly)
    {s t : σ} {r : Except ε β} (ran : (m >>= f) s = (r, t)) :
    (t = s ∧ ∃ e, r = .error e) ∨ ∃ a, m s = (.ok a, s) ∧ f a s = (r, t) := by
  rcases first : m s with ⟨e | a, s'⟩
  · rw [bind_of_error first] at ran
    cases ran
    exact Or.inl ⟨reads.state first, e, rfl⟩
  · obtain rfl := reads.state first
    rw [bind_of_ok first] at ran
    exact Or.inr ⟨a, rfl, ran⟩

theorem ReadOnly.bind_ok {m : Raising ε σ α} {f : α → Raising ε σ β} (reads : m.ReadOnly)
    {s t : σ} {b : β} (ran : (m >>= f) s = (.ok b, t)) :
    ∃ a, m s = (.ok a, s) ∧ f a s = (.ok b, t) := by
  rcases reads.bind_cases ran with ⟨-, e, failed⟩ | next
  · cases failed
  · exact next

/-- Every write of the computation respects the relation, also when it raises later. -/
def Respects (R : σ → σ → Prop) (m : Raising ε σ α) : Prop := ∀ s, R s (m s).2

section Respects

variable {R : σ → σ → Prop}

theorem Respects.state {m : Raising ε σ α} (respects : m.Respects R) {s s' : σ} {r : Except ε α}
    (ran : m s = (r, s')) : R s s' := by
  have kept := respects s
  rw [ran] at kept
  exact kept

theorem ReadOnly.respects {m : Raising ε σ α} (refl : ∀ s, R s s) (reads : m.ReadOnly) :
    m.Respects R := by
  intro s
  rw [reads s]
  exact refl s

theorem respects_bind {m : Raising ε σ α} {f : α → Raising ε σ β} {s : σ} (refl : ∀ s, R s s)
    (first : m.ReadOnly) (next : ∀ a, m s = (.ok a, s) → R s (f a s).2) :
    R s ((m >>= f) s).2 := by
  rcases ran : m s with ⟨e | a, s'⟩
  · rw [bind_of_error ran, first.state ran]
    exact refl s
  · obtain rfl : s' = s := first.state ran
    rw [bind_of_ok ran]
    exact next a ran

theorem Respects.bind_ends {m : Raising ε σ α} {f : α → Raising ε σ β} {s : σ} {F : σ → Prop}
    (first : m.Respects R) (stop : ∀ t, R s t → F t) (next : ∀ a t, R s t → F (f a t).2) :
    F ((m >>= f) s).2 := by
  rcases ran : m s with ⟨e | a, t⟩
  · rw [bind_of_error ran]
    exact stop t (first.state ran)
  · rw [bind_of_ok ran]
    exact next a t (first.state ran)

theorem Respects.bind {m : Raising ε σ α} {f : α → Raising ε σ β}
    (trans : ∀ s t u, R s t → R t u → R s u) (first : m.Respects R)
    (next : ∀ a, (f a).Respects R) : (m >>= f).Respects R := by
  intro s
  rcases ran : m s with ⟨e | a, s'⟩
  · rw [bind_of_error ran]
    exact first.state ran
  · rw [bind_of_ok ran]
    exact trans s s' _ (first.state ran) (next a s')

theorem Respects.each {f : α → Raising ε σ Unit} (refl : ∀ s, R s s)
    (trans : ∀ s t u, R s t → R t u → R s u) (xs : List α)
    (body : ∀ x ∈ xs, (f x).Respects R) : (Raising.each xs f).Respects R := by
  induction xs with
  | nil => exact fun s => refl s
  | cons x rest ih =>
    exact (body x List.mem_cons_self).bind trans fun _ =>
      ih fun y member => body y (List.mem_cons_of_mem x member)

end Respects

/-- Two runs from related states: the states reached are related, and either both raised or
both returned related results. -/
def Agree {τ γ ζ : Type} (S : σ → τ → Prop) (R : α → γ → Prop) (p : Except ε α × σ)
    (q : Except ζ γ × τ) : Prop :=
  S p.2 q.2 ∧
    match p.1, q.1 with
    | .ok a, .ok c => R a c
    | .error _, .error _ => True
    | .ok _, .error _ => False
    | .error _, .ok _ => False

section Agree

variable {τ γ δ ζ : Type} {S : σ → τ → Prop} {R : α → γ → Prop} {Q : β → δ → Prop} {s : σ} {t : τ}

theorem agree_pure (states : S s t) {a : α} {c : γ} (results : R a c) :
    Agree S R ((pure a : Raising ε σ α) s) ((pure c : Raising ζ τ γ) t) := ⟨states, results⟩

theorem agree_raise (states : S s t) (e : ε) (e' : ζ) :
    Agree S R ((raise e : Raising ε σ α) s) ((raise e' : Raising ζ τ γ) t) := ⟨states, trivial⟩

theorem Agree.bind {m : Raising ε σ α} {n : Raising ζ τ γ} {f : α → Raising ε σ β}
    {g : γ → Raising ζ τ δ} (first : Agree S R (m s) (n t))
    (next : ∀ a c s' t', m s = (.ok a, s') → n t = (.ok c, t') → R a c → S s' t' →
      Agree S Q (f a s') (g c t')) :
    Agree S Q ((m >>= f) s) ((n >>= g) t) := by
  obtain ⟨states, results⟩ := first
  cases ran : m s with
  | mk answer s' =>
    cases ran' : n t with
    | mk answer' t' =>
      rw [ran, ran'] at states results
      cases answer with
      | ok a =>
        cases answer' with
        | ok c =>
          rw [bind_of_ok ran, bind_of_ok ran']
          exact next a c s' t' ran ran' results states
        | error e' => exact results.elim
      | error e =>
        cases answer' with
        | ok c => exact results.elim
        | error e' =>
          rw [bind_of_error ran, bind_of_error ran']
          exact ⟨states, trivial⟩

theorem Agree.map_left {m : Raising ε σ α} {p : Except ζ γ × τ} (agree : Agree S R (m s) p)
    {Q : β → γ → Prop} (f : α → β) (results : ∀ a c, R a c → Q (f a) c) :
    Agree S Q ((m >>= fun a => pure (f a)) s) p := by
  cases ran : m s with
  | mk answer s' =>
    rw [ran] at agree
    cases answer with
    | ok a =>
      rw [bind_of_ok ran]
      refine ⟨agree.1, ?_⟩
      cases there : p.1 with
      | ok c => exact results a c (by simpa only [there] using agree.2)
      | error e => simpa only [there] using agree.2
    | error e =>
      rw [bind_of_error ran]
      refine ⟨agree.1, ?_⟩
      cases there : p.1 with
      | ok other => simpa only [there] using agree.2
      | error e' => trivial

theorem Agree.map_right {n : Raising ζ τ γ} {p : Except ε α × σ} (agree : Agree S R p (n t))
    {Q : α → δ → Prop} (f : γ → δ) (results : ∀ a c, R a c → Q a (f c)) :
    Agree S Q p ((n >>= fun c => pure (f c)) t) := by
  cases ran : n t with
  | mk answer t' =>
    rw [ran] at agree
    cases answer with
    | ok c =>
      rw [bind_of_ok ran]
      refine ⟨agree.1, ?_⟩
      cases there : p.1 with
      | ok a => exact results a c (by simpa only [there] using agree.2)
      | error e => simpa only [there] using agree.2
    | error e =>
      rw [bind_of_error ran]
      refine ⟨agree.1, ?_⟩
      cases there : p.1 with
      | ok other => simpa only [there] using agree.2
      | error e' => trivial

theorem agree_ensure {p q : Prop} [Decidable p] [Decidable q] (states : S s t) (same : p ↔ q)
    (e : ε) (e' : ζ) :
    Agree S (fun _ _ => p) ((ensure p e : Raising ε σ Unit) s)
      ((ensure q e' : Raising ζ τ Unit) t) := by
  unfold ensure
  by_cases holds : p
  · rw [if_pos holds, if_pos (same.mp holds)]
    exact ⟨states, holds⟩
  · rw [if_neg holds, if_neg fun other => holds (same.mpr other)]
    exact ⟨states, trivial⟩

end Agree

end Raising

section Gather

variable {ε α β : Type}

def gather (f : α → Except ε (List β)) : List α → Except ε (List β)
  | [] => .ok []
  | x :: xs => (f x).bind fun ys => (gather f xs).map (ys ++ ·)

theorem gather_ok {f : α → Except ε (List β)} {xs : List α} {zs : List β}
    (done : gather f xs = .ok zs) :
    (∀ x ∈ xs, ∃ ys, f x = .ok ys) ∧ ∀ z, z ∈ zs ↔ ∃ x ∈ xs, ∃ ys, f x = .ok ys ∧ z ∈ ys := by
  induction xs generalizing zs with
  | nil =>
    cases done
    simp
  | cons x xs ih =>
    rw [gather] at done
    cases here : f x with
    | error e =>
      rw [here] at done
      cases done
    | ok ys =>
      rw [here] at done
      cases later : gather f xs with
      | error e =>
        rw [later] at done
        cases done
      | ok rest =>
        rw [later] at done
        cases done
        obtain ⟨answers, members⟩ := ih later
        constructor
        · intro x' member
          obtain rfl | inside := List.mem_cons.mp member
          · exact ⟨ys, here⟩
          · exact answers x' inside
        · intro z
          rw [List.mem_append, members z]
          simp [here]

theorem gather_nil {f : α → Except ε (List β)} {xs : List α} {zs : List β}
    (done : gather f xs = .ok zs) : zs = [] ↔ ∀ x ∈ xs, f x = .ok [] := by
  obtain ⟨answers, members⟩ := gather_ok done
  constructor
  · rintro rfl x member
    obtain ⟨ys, answer⟩ := answers x member
    rw [answer, List.eq_nil_iff_forall_not_mem.mpr fun y inside =>
      List.not_mem_nil ((members y).mpr ⟨x, member, ys, answer, inside⟩)]
  · intro nothing
    rw [List.eq_nil_iff_forall_not_mem]
    intro z inside
    obtain ⟨x, member, ys, answer, there⟩ := (members z).mp inside
    rw [nothing x member] at answer
    cases answer
    cases there

theorem gather_total {f : α → Except ε (List β)} {xs : List α}
    (answers : ∀ x ∈ xs, ∃ ys, f x = .ok ys) : ∃ zs, gather f xs = .ok zs := by
  induction xs with
  | nil => exact ⟨[], rfl⟩
  | cons x xs ih =>
    obtain ⟨ys, here⟩ := answers x List.mem_cons_self
    obtain ⟨rest, later⟩ := ih fun x' member => answers x' (List.mem_cons_of_mem x member)
    exact ⟨ys ++ rest, by rw [gather, here, later]; rfl⟩

theorem gather_sublist {f : α → Except ε (List α)}
    (each : ∀ x ys, f x = .ok ys → ys.Sublist [x]) {xs zs : List α}
    (done : gather f xs = .ok zs) : zs.Sublist xs := by
  induction xs generalizing zs with
  | nil =>
    cases done
    exact List.Sublist.refl _
  | cons x xs ih =>
    rw [gather] at done
    cases here : f x with
    | error e =>
      rw [here] at done
      cases done
    | ok ys =>
      rw [here] at done
      cases later : gather f xs with
      | error e =>
        rw [later] at done
        cases done
      | ok rest =>
        rw [later] at done
        cases done
        exact (each x ys here).append (ih later)

end Gather

end Taroai
