import Mathlib.Algebra.BigOperators.Group.List.Basic
import Mathlib.Data.List.Nodup
import Mathlib.Data.List.Basic

/-! Keyed tables in insertion order: the data type behind a dictionary, a hash or a
list of records with distinct identifiers. A table carries the proof that its keys are
distinct, so a lookup is the only record of its key. `put` replaces a record in place and
appends a record of a new key; `map` rewrites every record without touching its key. -/

namespace Taroai

structure Table {κ β : Type*} (key : β → κ) where
  entries : List β
  nodup : (entries.map key).Nodup

namespace Table

variable {κ β : Type*} {key : β → κ}

@[ext] theorem ext {t u : Table key} (h : t.entries = u.entries) : t = u := by
  cases t
  cases u
  cases h
  rfl

instance [DecidableEq β] : DecidableEq (Table key) := fun t u =>
  decidable_of_iff (t.entries = u.entries) ⟨ext, fun h => h ▸ rfl⟩

def empty : Table key := ⟨[], List.nodup_nil⟩

variable [DecidableEq κ]

def get? (t : Table key) (k : κ) : Option β := t.entries.find? fun b => key b = k

theorem key_of_get? {t : Table key} {k : κ} {b : β} (h : t.get? k = some b) : key b = k := by
  simpa using List.find?_some h

theorem mem_of_get? {t : Table key} {k : κ} {b : β} (h : t.get? k = some b) : b ∈ t.entries :=
  List.mem_of_find?_eq_some h

theorem get?_of_mem {t : Table key} {b : β} (h : b ∈ t.entries) : t.get? (key b) = some b := by
  obtain ⟨found, present⟩ : ∃ c, t.get? (key b) = some c := by
    rw [← Option.isSome_iff_exists, get?, List.find?_isSome]
    exact ⟨b, h, by simp⟩
  have same : key found = key b := key_of_get? present
  have : found = b := List.inj_on_of_nodup_map t.nodup (mem_of_get? present) h same
  rw [present, this]

theorem get?_eq_some {t : Table key} {k : κ} {b : β} :
    t.get? k = some b ↔ b ∈ t.entries ∧ key b = k := by
  constructor
  · exact fun h => ⟨mem_of_get? h, key_of_get? h⟩
  · rintro ⟨member, rfl⟩
    exact get?_of_mem member

theorem get?_eq_none {t : Table key} {k : κ} :
    t.get? k = none ↔ ∀ b ∈ t.entries, key b ≠ k := by
  simp [get?, List.find?_eq_none]

@[simp] theorem get?_empty (k : κ) : (empty : Table key).get? k = none := rfl

def map (t : Table key) (f : β → β) (keeps : ∀ b, key (f b) = key b) : Table key where
  entries := t.entries.map f
  nodup := by
    have same : (t.entries.map f).map key = t.entries.map key := by simp [keeps]
    rw [same]
    exact t.nodup

theorem get?_map (t : Table key) (f : β → β) (keeps : ∀ b, key (f b) = key b) (k : κ) :
    (t.map f keeps).get? k = (t.get? k).map f := by
  simp only [get?, map, List.find?_map]
  congr 2
  funext b
  simp [keeps]

theorem countP_map_key_le (t : Table key) (k : κ) (f : β → β) (p : β → Bool) :
    (t.entries.map fun b => if key b = k then f b else b).countP p ≤ t.entries.countP p + 1 := by
  obtain ⟨entries, distinct⟩ := t
  simp only
  induction entries with
  | nil => exact Nat.zero_le _
  | cons b rest ih =>
    rw [List.map_cons, List.nodup_cons] at distinct
    rw [List.map_cons, List.countP_cons, List.countP_cons]
    by_cases same : key b = k
    · -- no other record has the key
      have rest_same : (rest.map fun c => if key c = k then f c else c) = rest := by
        refine (List.map_congr_left fun c member => if_neg ?_).trans (List.map_id rest)
        intro other
        exact distinct.1 (List.mem_map.mpr ⟨c, member, other.trans same.symm⟩)
      rw [rest_same]
      have one (q : Prop) [Decidable q] : (if q then 1 else 0) ≤ 1 := by
        by_cases holds : q <;> simp [holds]
      have := one (p (if key b = k then f b else b) = true)
      omega
    · have := ih distinct.2
      rw [if_neg same]
      omega

private theorem nodup_append_new {t : Table key} {b : β} (fresh : t.get? (key b) = none) :
    ((t.entries ++ [b]).map key).Nodup := by
  rw [List.map_append, List.nodup_append]
  refine ⟨t.nodup, by simp, ?_⟩
  intro k old k' new
  obtain ⟨c, member, rfl⟩ := List.mem_map.mp old
  simp only [List.map_cons, List.map_nil, List.mem_singleton] at new
  subst new
  exact get?_eq_none.mp fresh c member

def put (t : Table key) (b : β) : Table key :=
  match h : t.get? (key b) with
  | some _ => t.map (fun c => if key c = key b then b else c) (fun c => by split <;> simp [*])
  | none => ⟨t.entries ++ [b], nodup_append_new h⟩

@[simp] theorem get?_put_self (t : Table key) (b : β) : (t.put b).get? (key b) = some b := by
  rw [put]
  split
  · next c h => simp [get?_map, h, key_of_get? h]
  · next h =>
    rw [get?, List.find?_append, ← get?, h]
    simp

theorem get?_put_ne (t : Table key) (b : β) {k : κ} (other : k ≠ key b) :
    (t.put b).get? k = t.get? k := by
  rw [put]
  split
  · next c h =>
    rw [get?_map]
    cases found : t.get? k with
    | none => rfl
    | some d =>
      have : key d ≠ key b := by rwa [key_of_get? found]
      simp [this]
  · next h => simp [get?, List.find?_append, Ne.symm other]

theorem get?_put (t : Table key) (b : β) (k : κ) :
    (t.put b).get? k = if k = key b then some b else t.get? k := by
  split
  · next h => rw [h, get?_put_self]
  · next h => exact get?_put_ne t b h

theorem mem_put {t : Table key} {b c : β} :
    c ∈ (t.put b).entries ↔ c = b ∨ c ∈ t.entries ∧ key c ≠ key b := by
  have stored : ∀ u : Table key, c ∈ u.entries ↔ u.get? (key c) = some c :=
    fun u => ⟨get?_of_mem, mem_of_get?⟩
  rw [stored, stored, get?_put]
  split
  · next same =>
    simp only [Option.some.injEq, same, ne_eq, not_true_eq_false, and_false, or_false]
    exact eq_comm
  · next other =>
    have : c ≠ b := fun h => other (h ▸ rfl)
    simp [this, other]

def erase (t : Table key) (k : κ) : Table key where
  entries := t.entries.filter fun b => key b ≠ k
  nodup := (List.filter_sublist.map key).nodup t.nodup

theorem get?_erase (t : Table key) (k k' : κ) :
    (t.erase k).get? k' = if k' = k then none else t.get? k' := by
  by_cases same : k' = k
  · rw [if_pos same, get?_eq_none]
    intro b member
    have kept : key b ≠ k := by simpa using (List.mem_filter.mp member).2
    rwa [same]
  · rw [if_neg same]
    cases found : t.get? k' with
    | none =>
      rw [get?_eq_none] at found ⊢
      exact fun b member => found b (List.mem_of_mem_filter member)
    | some b =>
      rw [get?_eq_some] at found ⊢
      refine ⟨List.mem_filter.mpr ⟨found.1, ?_⟩, found.2⟩
      simpa [found.2] using same

theorem entries_put {t : Table key} {b old : β} (present : t.get? (key b) = some old) :
    (t.put b).entries = t.entries.map fun c => if key c = key b then b else c := by
  rw [put]
  split
  · rfl
  · next absent => simp [absent] at present

theorem keys_put {t : Table key} {b old : β} (present : t.get? (key b) = some old) :
    (t.put b).entries.map key = t.entries.map key := by
  rw [entries_put present, List.map_map]
  refine List.map_congr_left fun c _ => ?_
  rw [Function.comp_apply]
  split
  · next same => exact same.symm
  · rfl

theorem entries_put_new {t : Table key} {b : β} (absent : t.get? (key b) = none) :
    (t.put b).entries = t.entries ++ [b] := by
  rw [put]
  split
  · next present => simp [absent] at present
  · rfl

theorem keys_filter_put {t : Table key} {b old : β} {p : β → Bool}
    (present : t.get? (key b) = some old) (alike : p b = p old) :
    ((t.put b).entries.filter p).map key = (t.entries.filter p).map key := by
  have unchanged : ∀ c ∈ t.entries, p (if key c = key b then b else c) = p c := by
    intro c member
    split
    · next same =>
      have : some c = some old := by rw [← get?_of_mem member, same, present]
      rw [alike, Option.some.inj this]
    · rfl
  have sameKey : ∀ c : β, key (if key c = key b then b else c) = key c := by
    intro c
    split
    · next same => exact same.symm
    · rfl
  rw [entries_put present, List.filter_map, List.map_map]
  have filters : t.entries.filter (p ∘ fun c => if key c = key b then b else c) =
      t.entries.filter p := List.filter_congr unchanged
  rw [filters]
  exact List.map_congr_left fun c _ => sameKey c

def filter (t : Table key) (p : β → Bool) : Table key where
  entries := t.entries.filter p
  nodup := (List.filter_sublist.map key).nodup t.nodup

theorem get?_filter (t : Table key) (p : β → Bool) (k : κ) :
    (t.filter p).get? k = (t.get? k).filter p := by
  cases found : t.get? k with
  | none =>
    rw [get?_eq_none] at found
    exact get?_eq_none.mpr fun b member => found b (List.mem_of_mem_filter member)
  | some b =>
    obtain ⟨member, same⟩ := get?_eq_some.mp found
    by_cases kept : p b = true
    · rw [Option.filter_some_pos kept, get?_eq_some]
      exact ⟨List.mem_filter.mpr ⟨member, kept⟩, same⟩
    · rw [Option.filter_some_neg (Bool.eq_false_iff.mpr kept), get?_eq_none]
      intro c there other
      obtain ⟨there, passes⟩ := List.mem_filter.mp there
      have : c = b := List.inj_on_of_nodup_map t.nodup there member (other.trans same.symm)
      exact kept (this ▸ passes)

theorem filter_put_new {t : Table key} {b : β} {p : β → Bool} (absent : t.get? (key b) = none) :
    (t.put b).filter p = if p b then (t.filter p).put b else t.filter p := by
  ext1
  have apart : (t.filter p).get? (key b) = none := by rw [get?_filter, absent]; rfl
  by_cases kept : p b = true
  · rw [if_pos kept, entries_put_new apart]
    simp [filter, entries_put_new absent, kept]
  · rw [if_neg kept]
    simp [filter, entries_put_new absent, kept]

omit [DecidableEq κ] in
theorem filter_filter_of_imp {t : Table key} {p q : β → Bool} (drops : ∀ b, p b = true → q b = true) :
    (t.filter q).filter p = t.filter p := by
  ext1
  change (t.entries.filter q).filter p = t.entries.filter p
  rw [List.filter_filter]
  refine List.filter_congr fun b _ => ?_
  cases kept : p b with
  | false => rfl
  | true => rw [drops b kept]; rfl

omit [DecidableEq κ] in
theorem filter_filter_comm (t : Table key) (p q : β → Bool) :
    (t.filter q).filter p = (t.filter p).filter q := by
  ext1
  change (t.entries.filter q).filter p = (t.entries.filter p).filter q
  rw [List.filter_filter, List.filter_filter]
  exact List.filter_congr fun b _ => Bool.and_comm _ _

theorem filter_key (t : Table key) (k : κ) :
    t.entries.filter (fun b => key b = k) = (t.get? k).toList := by
  cases found : t.get? k with
  | none =>
    rw [get?_eq_none] at found
    simpa using found
  | some b =>
    obtain ⟨before, after, split_at_b⟩ := List.append_of_mem (mem_of_get? found)
    have distinct := t.nodup
    rw [split_at_b, List.map_append, List.map_cons, List.nodup_append, List.nodup_cons] at distinct
    obtain ⟨-, ⟨apart_after, -⟩, apart_before⟩ := distinct
    obtain rfl := key_of_get? found
    have none_before : before.filter (fun c => key c = key b) = [] := by
      refine List.filter_eq_nil_iff.mpr fun c member => ?_
      simpa using apart_before _ (List.mem_map_of_mem member) _ List.mem_cons_self
    have none_after : after.filter (fun c => key c = key b) = [] := by
      refine List.filter_eq_nil_iff.mpr fun c member same => apart_after ?_
      exact List.mem_map.mpr ⟨c, member, by simpa using same⟩
    rw [split_at_b, List.filter_append, none_before, List.filter_cons_of_pos (by simp), none_after]
    rfl

section Related

variable {γ : Type*} {key' : γ → κ} {R : β → γ → Prop} {t : Table key} {u : Table key'}

theorem get?_related (keys : ∀ b c, R b c → key b = key' c)
    (related : List.Forall₂ R t.entries u.entries) (k : κ) :
    Option.Rel R (t.get? k) (u.get? k) := by
  unfold get?
  revert related
  generalize t.entries = xs
  generalize u.entries = ys
  intro related
  induction related with
  | nil => exact .none
  | @cons b c xs ys one rest ih =>
    rw [List.find?_cons, List.find?_cons, ← keys b c one]
    cases decide (key b = k) with
    | true => exact .some one
    | false => exact ih

omit [DecidableEq κ] in
theorem keys_filter_related (keys : ∀ b c, R b c → key b = key' c) {p : β → Bool} {q : γ → Bool}
    (alike : ∀ b c, R b c → p b = q c) (related : List.Forall₂ R t.entries u.entries) :
    (t.entries.filter p).map key = (u.entries.filter q).map key' := by
  revert related
  generalize t.entries = xs
  generalize u.entries = ys
  intro related
  induction related with
  | nil => rfl
  | @cons b c xs ys one rest ih =>
    rw [List.filter_cons, List.filter_cons, alike b c one]
    cases q c with
    | true =>
      simp only [if_true, List.map_cons]
      rw [keys b c one, ih]
    | false => simpa using ih

theorem put_related (keys : ∀ b c, R b c → key b = key' c)
    (related : List.Forall₂ R t.entries u.entries) {b : β} {c : γ} (one : R b c)
    (present : (t.get? (key b)).isSome = true) :
    List.Forall₂ R (t.put b).entries (u.put c).entries := by
  have lookups := get?_related keys related (key b)
  cases here : t.get? (key b) with
  | none => simp [here] at present
  | some old =>
    cases there : u.get? (key b) with
    | none =>
      rw [here, there] at lookups
      cases lookups
    | some old' =>
      rw [keys b c one] at there
      rw [entries_put here, entries_put there, List.forall₂_map_left_iff, List.forall₂_map_right_iff]
      refine related.imp fun d e pair => ?_
      rw [keys d e pair, keys b c one]
      split
      · exact one
      · exact pair

end Related

section Image

variable {κ' γ : Type*} [DecidableEq κ'] {key' : γ → κ'} {t : Table key} {u : Table key'} {f : β → γ}
  {b : β}

/-- A table of images, whose keys tell a record from the stored ones as the records' own keys do,
answers a lookup with the image. -/
theorem get?_image (image : u.entries = t.entries.map f) {k : κ} {k' : κ'}
    (alike : ∀ c ∈ t.entries, key c = k ↔ key' (f c) = k') : u.get? k' = (t.get? k).map f := by
  unfold get?
  rw [image, List.find?_map]
  congr 1
  rw [← List.head?_filter, ← List.head?_filter]
  congr 1
  refine List.filter_congr fun c member => ?_
  rw [Function.comp_apply, decide_eq_decide]
  exact (alike c member).symm

theorem put_image (image : u.entries = t.entries.map f)
    (alike : ∀ c ∈ t.entries, key c = key b ↔ key' (f c) = key' (f b)) :
    (u.put (f b)).entries = (t.put b).entries.map f := by
  have lookups := get?_image image alike
  cases here : t.get? (key b) with
  | none =>
    rw [here] at lookups
    rw [entries_put_new here, entries_put_new lookups, image, List.map_append, List.map_singleton]
  | some old =>
    rw [here] at lookups
    rw [entries_put here, entries_put lookups, image, List.map_map, List.map_map]
    refine List.map_congr_left fun c member => ?_
    rw [Function.comp_apply, Function.comp_apply, apply_ite f]
    exact if_congr (alike c member).symm rfl rfl

end Image

theorem sum_put {M : Type*} [AddCommMonoid M] (t : Table key) (b : β) (f : β → M) :
    ((t.put b).entries.map f).sum + ((t.get? (key b)).elim 0 f) = (t.entries.map f).sum + f b := by
  cases found : t.get? (key b) with
  | none => simp [entries_put_new found]
  | some old =>
    obtain ⟨before, after, split_at_old⟩ := List.append_of_mem (mem_of_get? found)
    have distinct := t.nodup
    rw [split_at_old, List.map_append, List.map_cons, List.nodup_append, List.nodup_cons] at distinct
    obtain ⟨-, ⟨apart_after, -⟩, apart_before⟩ := distinct
    have same : key old = key b := key_of_get? found
    have before_same : (before.map fun c => if key c = key b then b else c) = before := by
      refine (List.map_congr_left fun c member => if_neg ?_).trans (List.map_id before)
      rw [← same]
      exact apart_before _ (List.mem_map_of_mem member) _ List.mem_cons_self
    have after_same : (after.map fun c => if key c = key b then b else c) = after := by
      refine (List.map_congr_left fun c member => if_neg fun equal => apart_after ?_).trans
        (List.map_id after)
      exact List.mem_map.mpr ⟨c, member, equal.trans same.symm⟩
    rw [entries_put found, split_at_old, List.map_append, List.map_cons, before_same, after_same,
      if_pos same]
    simp only [List.map_append, List.map_cons, List.sum_append, List.sum_cons, Option.elim_some]
    rw [add_right_comm, add_assoc, add_assoc, add_comm (f b), ← add_assoc (f old)]

end Table

end Taroai
