import Mathlib.Logic.Basic

/-! Sequential programs that call an environment, one call at a time. A program says nothing
about what a call does: the same program runs against an environment of any answers, or against
a state that answers some calls by itself. A protocol is what a caller may ask in a mode and
which answers lead to which mode; the weakest precondition of a program is taken along it. -/

namespace Taroai

inductive Program (C : Type) (A : C → Type) (α : Type) where
  | pure (a : α)
  /-- An exception that nothing catches. -/
  | raise
  | call (c : C) (next : A c → Program C A α)

namespace Program

variable {C : Type} {A : C → Type} {α β M : Type}

protected def bind (p : Program C A α) (f : α → Program C A β) : Program C A β :=
  match p with
  | .pure a => f a
  | .raise => .raise
  | .call c next => .call c fun a => (next a).bind f

instance : Monad (Program C A) where
  pure := .pure
  bind := Program.bind

def perform (c : C) : Program C A (A c) := .call c .pure

def times (n : Nat) (f : α → Program C A α) (a : α) : Program C A α :=
  match n with
  | 0 => pure a
  | n + 1 => do times n f (← f a)

def attempt : Program C A α → Program C A (Option α)
  | .pure a => .pure (some a)
  | .raise => .pure none
  | .call c next => .call c fun a => (next a).attempt

def embed {C' : Type} {A' : C' → Type} (f : C → C') (back : ∀ c, A' (f c) → A c) :
    Program C A α → Program C' A' α
  | .pure a => .pure a
  | .raise => .raise
  | .call c next => .call (f c) fun a => (next (back c a)).embed f back

theorem perform_bind (c : C) (f : A c → Program C A α) : perform c >>= f = call c f := rfl

/-- Run against an environment that answers the `n`-th call from the number on: the value, when
the program returns one. -/
def result (answer : Nat → (c : C) → A c) (n : Nat) : Program C A α → Option α
  | .pure a => some a
  | .raise => none
  | .call c next => (next (answer n c)).result answer (n + 1)

theorem result_bind_eq_some {p : Program C A α} {f : α → Program C A β}
    {answer : Nat → (c : C) → A c} {n : Nat} {b : β}
    (returned : (p >>= f).result answer n = some b) :
    ∃ a m, p.result answer n = some a ∧ (f a).result answer m = some b := by
  induction p generalizing n with
  | pure a => exact ⟨a, n, rfl, returned⟩
  | raise => cases returned
  | call c next ih => exact ih (answer n c) returned

theorem result_bind_pure {p : Program C A α} {answer : Nat → (c : C) → A c} {n : Nat} {a : α}
    (returned : p.result answer n = some a) (f : α → β) :
    (p >>= fun a => pure (f a)).result answer n = some (f a) := by
  induction p generalizing n with
  | pure a' =>
    cases returned
    rfl
  | raise => cases returned
  | call c next ih => exact ih (answer n c) returned

/-- Run to the end against a state that may refuse an answer proposed to it. -/
def runIn {σ : Type} (respond : σ → (c : C) → A c → Option (A c × σ)) (propose : (c : C) → A c)
    (s : σ) : Program C A α → Option (Option α × σ)
  | .pure a => some (some a, s)
  | .raise => some (none, s)
  | .call c next =>
    (respond s c (propose c)).bind fun (a, t) => runIn respond propose t (next a)

theorem runIn_bind {σ : Type} {respond : σ → (c : C) → A c → Option (A c × σ)}
    {propose : (c : C) → A c} {p : Program C A α} {f : α → Program C A β} {s : σ} :
    (p >>= f).runIn respond propose s =
      (p.runIn respond propose s).bind fun (result, t) =>
        match result with
        | some a => (f a).runIn respond propose t
        | none => some (none, t) := by
  induction p generalizing s with
  | pure a => rfl
  | raise => rfl
  | call c next ih =>
    change (respond s c (propose c)).bind _ = ((respond s c (propose c)).bind _).bind _
    rw [Option.bind_assoc]
    congr 1
    funext ⟨a, t⟩
    exact ih a

end Program

structure Protocol (C : Type) (A : C → Type) (M : Type) where
  legal : M → C → Prop
  answers : M → (c : C) → A c → M → Prop

def Protocol.anything {C : Type} {A : C → Type} : Protocol C A Unit where
  legal _ _ := True
  answers _ _ _ _ := True

def Protocol.along {C C' : Type} {A : C → Type} {A' : C' → Type} {M : Type} (P : Protocol C' A' M)
    (f : C → C') (back : ∀ c, A' (f c) → A c) : Protocol C A M where
  legal m c := P.legal m (f c)
  answers m c a m' := ∃ a', back c a' = a ∧ P.answers m (f c) a' m'

namespace Program

variable {C : Type} {A : C → Type} {α β M : Type} {P : Protocol C A M}

/-- From the mode, the program calls only what is legal; what it returns satisfies `Q`, and a
raise leaves a mode that satisfies `R`. -/
def wp (P : Protocol C A M) (Q : α → M → Prop) (R : M → Prop) : Program C A α → M → Prop
  | .pure a, m => Q a m
  | .raise, m => R m
  | .call c next, m => P.legal m c ∧ ∀ a m', P.answers m c a m' → wp P Q R (next a) m'

section Rules

variable {Q : α → M → Prop} {R : M → Prop} {m : M}

theorem wp_pure {a : α} (holds : Q a m) : wp P Q R (pure a) m := holds

theorem wp_weaken {Q' : α → M → Prop} {R' : M → Prop} {p : Program C A α} (holds : wp P Q R p m)
    (value : ∀ a m', Q a m' → Q' a m') (raised : ∀ m', R m' → R' m') : wp P Q' R' p m := by
  induction p generalizing m with
  | pure a => exact value a m holds
  | raise => exact raised m holds
  | call c next ih => exact ⟨holds.1, fun a m' answered => ih a (holds.2 a m' answered)⟩

theorem wp_mono {Q' : α → M → Prop} {p : Program C A α} (holds : wp P Q R p m)
    (weaken : ∀ a m', Q a m' → Q' a m') : wp P Q' R p m :=
  wp_weaken holds weaken fun _ raised => raised

theorem wp_restrict {P' : Protocol C A M} {p : Program C A α}
    (legal : ∀ m c, P.legal m c → P'.legal m c)
    (answers : ∀ m c a m', P'.answers m c a m' → P.answers m c a m') (holds : wp P Q R p m) :
    wp P' Q R p m := by
  induction p generalizing m with
  | pure a => exact holds
  | raise => exact holds
  | call c next ih =>
    exact ⟨legal m c holds.1, fun a m' answered => ih a (holds.2 a m' (answers m c a m' answered))⟩

theorem wp_and {Q' : α → Prop} {R' : Prop} {p : Program C A α} (holds : wp P Q R p m)
    (always : wp .anything (fun a _ => Q' a) (fun _ => R') p ()) :
    wp P (fun a m' => Q a m' ∧ Q' a) (fun m' => R m' ∧ R') p m := by
  induction p generalizing m with
  | pure a => exact ⟨holds, always⟩
  | raise => exact ⟨holds, always⟩
  | call c next ih =>
    exact ⟨holds.1, fun a m' answered => ih a (holds.2 a m' answered) (always.2 a () trivial)⟩

theorem wp_bind {p : Program C A α} {f : α → Program C A β} {Q : β → M → Prop}
    (first : wp P (fun a m' => wp P Q R (f a) m') R p m) : wp P Q R (p >>= f) m := by
  induction p generalizing m with
  | pure a => exact first
  | raise => exact first
  | call c next ih => exact ⟨first.1, fun a m' answered => ih a (first.2 a m' answered)⟩

theorem wp_ite {c : Prop} [Decidable c] {p q : Program C A α} (yes : c → wp P Q R p m)
    (no : ¬c → wp P Q R q m) : wp P Q R (if c then p else q) m := by
  split
  · exact yes ‹_›
  · exact no ‹_›

theorem wp_attempt {p : Program C A α} {Q : Option α → M → Prop}
    (holds : wp P (fun a m' => Q (some a) m') (fun m' => Q none m') p m) :
    wp P Q R p.attempt m := by
  induction p generalizing m with
  | pure a => exact holds
  | raise => exact holds
  | call c next ih => exact ⟨holds.1, fun a m' answered => ih a (holds.2 a m' answered)⟩

theorem wp_embed {C' : Type} {A' : C' → Type} {P : Protocol C' A' M} {f : C → C'}
    {back : ∀ c, A' (f c) → A c} {p : Program C A α} (holds : wp (P.along f back) Q R p m) :
    wp P Q R (p.embed f back) m := by
  induction p generalizing m with
  | pure a => exact holds
  | raise => exact holds
  | call c next ih =>
    exact ⟨holds.1, fun a m' answered => ih (back c a) (holds.2 (back c a) m' ⟨a, rfl, answered⟩)⟩

theorem wp_times {n : Nat} {f : α → Program C A α} {I : α → M → Prop} {a : α} (init : I a m)
    (body : ∀ a m', I a m' → wp P I R (f a) m') : wp P I R (times n f a) m := by
  induction n generalizing a m with
  | zero => exact init
  | succ n ih => exact wp_bind (wp_mono (body a m init) fun a' m' kept => ih kept)

/-- Where every call is legal and nothing is asked of a raise, what holds of every value in every
mode holds after the program. -/
theorem wp_of_forall {p : Program C A α} (legal : ∀ m c, P.legal m c) (raised : ∀ m, R m)
    (all : ∀ a m', Q a m') : wp P Q R p m := by
  induction p generalizing m with
  | pure a => exact all a m
  | raise => exact raised m
  | call c next ih => exact ⟨legal m c, fun a m' _ => ih a⟩

end Rules

theorem result_of_wp {Q : α → Prop} {R : Prop} (answer : Nat → (c : C) → A c) {n : Nat}
    {p : Program C A α} (holds : wp .anything (fun a _ => Q a) (fun _ => R) p ()) :
    (∀ a, p.result answer n = some a → Q a) ∧ (p.result answer n = none → R) := by
  induction p generalizing n with
  | pure a =>
    refine ⟨fun b same => ?_, fun none => by cases none⟩
    cases same
    exact holds
  | raise => exact ⟨fun b same => (by cases same), fun _ => holds⟩
  | call c next ih => exact ih (answer n c) (holds.2 (answer n c) () trivial)

theorem runIn_of_wp {σ : Type} {respond : σ → (c : C) → A c → Option (A c × σ)}
    {propose : (c : C) → A c} {P : Protocol C A σ} {Q : α → σ → Prop} {R : σ → Prop}
    (answers : ∀ s c a s', respond s c (propose c) = some (a, s') → P.answers s c a s')
    {p : Program C A α} {s t : σ} {result : Option α} (holds : wp P Q R p s)
    (ran : runIn respond propose s p = some (result, t)) :
    (∀ a, result = some a → Q a t) ∧ (result = none → R t) := by
  induction p generalizing s with
  | pure a =>
    cases ran
    exact ⟨fun b same => by cases same; exact holds, fun none => by cases none⟩
  | raise =>
    cases ran
    exact ⟨fun b same => (by cases same), fun _ => holds⟩
  | call c next ih =>
    obtain ⟨⟨a, s'⟩, responded, rest⟩ := Option.bind_eq_some_iff.mp ran
    exact ih a (holds.2 a s' (answers s c a s' responded)) rest

/-- A run in a state, next to the mode of a protocol that it keeps: an invariant of both that every
legal call keeps holds at the end. -/
theorem runIn_invariant {σ : Type} {respond : σ → (c : C) → A c → Option (A c × σ)}
    {propose : (c : C) → A c} {P : Protocol C A M} {Q : α → M → Prop} {R : M → Prop}
    {I : M → σ → Prop}
    (each : ∀ m s c a s', I m s → P.legal m c → respond s c (propose c) = some (a, s') →
      ∃ m', P.answers m c a m' ∧ I m' s')
    {p : Program C A α} {m : M} {s t : σ} {result : Option α} (holds : wp P Q R p m)
    (init : I m s) (ran : runIn respond propose s p = some (result, t)) :
    ∃ m', I m' t ∧ (∀ a, result = some a → Q a m') ∧ (result = none → R m') := by
  induction p generalizing m s with
  | pure a =>
    cases ran
    exact ⟨m, init, fun b same => by cases same; exact holds, fun none => by cases none⟩
  | raise =>
    cases ran
    exact ⟨m, init, fun b same => (by cases same), fun _ => holds⟩
  | call c next ih =>
    obtain ⟨⟨a, s'⟩, responded, rest⟩ := Option.bind_eq_some_iff.mp ran
    obtain ⟨m', answered, kept⟩ := each m s c a s' init holds.1 responded
    exact ih a (holds.2 a m' answered) kept rest

end Program

end Taroai
