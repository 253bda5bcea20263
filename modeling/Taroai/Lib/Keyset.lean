import Mathlib.Data.List.Sort
import Mathlib.Order.RelClasses

/-! Pages of a collection that changes between the requests. A page holds the first records
after the position of the walk, in the order of their keys; one more record is looked at to
tell whether another page follows. -/

namespace Taroai.Keyset

variable {α κ : Type} (lt : κ → κ → Prop) [DecidableRel lt] (key : α → κ)

def arranged (records : List α) : List α :=
  records.insertionSort fun a b => ¬lt (key b) (key a)

def beyond (position : Option κ) (records : List α) : List α :=
  (arranged lt key records).filter fun record => position.all fun p => lt p (key record)

structure Walk (α : Type) where
  returned : List α
  more : Bool

def Walk.start : Walk α := ⟨[], true⟩

def Walk.position (walk : Walk α) : Option κ := walk.returned.getLast?.map key

def Walk.step (limit : Nat) (walk : Walk α) (records : List α) : Walk α :=
  if walk.more then
    { returned := walk.returned ++ (beyond lt key (walk.position key) records).take limit
      more := decide (limit < (beyond lt key (walk.position key) records).length) }
  else walk

def Walk.run (limit : Nat) (collections : Nat → List α) : Nat → Walk α
  | 0 => .start
  | n + 1 => (run limit collections n).step lt key limit (collections n)

theorem mem_arranged {record : α} {records : List α} :
    record ∈ arranged lt key records ↔ record ∈ records := List.mem_insertionSort _

theorem mem_beyond {position : Option κ} {record : α} {records : List α} :
    record ∈ beyond lt key position records ↔
      record ∈ records ∧ ∀ p, position = some p → lt p (key record) := by
  unfold beyond
  rw [List.mem_filter, mem_arranged]
  cases position with
  | none => simp
  | some p => simp

omit [DecidableRel lt] in
theorem position_append (returned page : List α) (more : Bool) :
    (Walk.mk (returned ++ page) more).position key =
      (page.getLast?.or returned.getLast?).map key := by
  unfold Walk.position
  rw [List.getLast?_append]

section Order

variable [IsStrictTotalOrder κ lt]

omit [DecidableRel lt] in
theorem not_lt_trans {a b c : κ} (first : ¬lt b a) (second : ¬lt c b) : ¬lt c a := by
  intro less
  obtain below | same | above := trichotomous_of lt a b
  · exact second (trans_of lt less below)
  · exact second (same ▸ less)
  · exact first above

instance rowsTotal : Std.Total fun a b : α => ¬lt (key b) (key a) :=
  ⟨fun _ _ => or_iff_not_imp_left.mpr fun less => asymm_of lt (not_not.mp less)⟩

instance rowsTrans : IsTrans α fun a b => ¬lt (key b) (key a) := ⟨fun _ _ _ => not_lt_trans lt⟩

theorem arranged_pairwise {records : List α} (distinct : (records.map key).Nodup) :
    (arranged lt key records).Pairwise fun a b => lt (key a) (key b) := by
  have sorted := List.pairwise_insertionSort (fun a b : α => ¬lt (key b) (key a)) records
  have apart : ((arranged lt key records).map key).Nodup :=
    ((List.perm_insertionSort _ records).map key).nodup_iff.mpr distinct
  have different : (arranged lt key records).Pairwise fun a b => key a ≠ key b :=
    List.pairwise_map.mp apart
  refine (sorted.and different).imp ?_
  rintro a b ⟨not_after, other⟩
  obtain below | same | above := trichotomous_of lt (key a) (key b)
  · exact below
  · exact absurd same other
  · exact absurd above not_after

theorem beyond_pairwise (position : Option κ) {records : List α}
    (distinct : (records.map key).Nodup) :
    (beyond lt key position records).Pairwise fun a b => lt (key a) (key b) :=
  (arranged_pairwise lt key distinct).filter _

end Order

section Runs

variable [IsStrictTotalOrder κ lt] {limit : Nat} {collections : Nat → List α}
  (distinct : ∀ n, ((collections n).map key).Nodup)

omit [DecidableRel lt] [IsStrictTotalOrder κ lt] in
theorem le_position {walk : Walk α}
    (sorted : walk.returned.Pairwise fun a b => lt (key a) (key b)) {record : α}
    (member : record ∈ walk.returned) :
    ∃ p, walk.position key = some p ∧ (key record = p ∨ lt (key record) p) := by
  have nonempty := List.ne_nil_of_mem member
  obtain ⟨front, last, whole⟩ : ∃ front last, walk.returned = front ++ [last] :=
    ⟨_, _, (List.dropLast_append_getLast nonempty).symm⟩
  have position : walk.position key = some (key last) := by
    unfold Walk.position
    rw [whole, List.getLast?_concat, Option.map_some]
  refine ⟨key last, position, ?_⟩
  rw [whole] at sorted member
  obtain before | is_last := List.mem_append.mp member
  · exact .inr ((List.pairwise_append.mp sorted).2.2 _ before last (List.mem_singleton_self _))
  · exact .inl (congrArg key (List.mem_singleton.mp is_last))

include distinct in
theorem run_pairwise (n : Nat) :
    (Walk.run lt key limit collections n).returned.Pairwise fun a b => lt (key a) (key b) := by
  induction n with
  | zero => exact List.Pairwise.nil
  | succ n ih =>
    rw [Walk.run, Walk.step]
    split
    · refine List.pairwise_append.mpr ⟨ih, ?_, ?_⟩
      · exact (beyond_pairwise lt key _ (distinct n)).sublist (List.take_sublist _ _)
      · intro a returned b taken
        obtain ⟨p, position, before⟩ := le_position lt key ih returned
        have after := ((mem_beyond lt key).mp (List.mem_of_mem_take taken)).2 p position
        obtain same | less := before
        · exact same ▸ after
        · exact trans_of lt less after
    · exact ih

def Walk.Passed (walk : Walk α) (k : κ) : Prop :=
  walk.more = false ∨ ∃ p, walk.position key = some p ∧ ¬lt p k

omit [IsStrictTotalOrder κ lt] in
theorem mem_page {records : List α} {position : Option κ}
    (sorted : (beyond lt key position records).Pairwise fun a b => lt (key a) (key b))
    {record last : α} (member : record ∈ beyond lt key position records)
    (ends : ((beyond lt key position records).take limit).getLast? = some last)
    (not_after : ¬lt (key last) (key record)) :
    record ∈ (beyond lt key position records).take limit := by
  rw [← List.take_append_drop limit (beyond lt key position records)] at sorted member
  obtain taken | dropped := List.mem_append.mp member
  · exact taken
  · exact absurd ((List.pairwise_append.mp sorted).2.2 last (List.mem_of_getLast? ends) record
      dropped) not_after

include distinct in
/-- Every key that was there at each request so far, and that the walk has passed, was
returned. -/
theorem run_covers {n : Nat} {k : κ} (there : ∀ i < n, k ∈ (collections i).map key)
    (passed : (Walk.run lt key limit collections n).Passed lt key k) :
    k ∈ (Walk.run lt key limit collections n).returned.map key := by
  induction n with
  | zero =>
    obtain used | ⟨p, position, -⟩ := passed
    · cases used
    · cases position
  | succ n ih =>
    have before := ih fun i less => there i (Nat.lt_succ_of_lt less)
    have sorted := beyond_pairwise lt key
      ((Walk.run lt key limit collections n).position key) (distinct n)
    obtain ⟨record, member, rfl⟩ := List.mem_map.mp (there n (Nat.lt_succ_self n))
    rw [Walk.run, Walk.step] at passed ⊢
    by_cases goes_on : (Walk.run lt key limit collections n).more = true
    · rw [if_pos goes_on] at passed ⊢
      rw [List.map_append, List.mem_append]
      by_cases old : (Walk.run lt key limit collections n).Passed lt key (key record)
      · exact .inl (before old)
      · -- the record is beyond the position: it must be on the page
        right
        refine List.mem_map_of_mem ?_
        have new : record ∈ beyond lt key ((Walk.run lt key limit collections n).position key)
            (collections n) := by
          refine (mem_beyond lt key).mpr ⟨member, fun p position => ?_⟩
          by_contra not_after
          exact old (.inr ⟨p, position, not_after⟩)
        obtain used | ⟨p, position, not_after⟩ := passed
        · rw [List.take_of_length_le (not_lt.mp (of_decide_eq_false used))]
          exact new
        · rw [position_append] at position
          cases ends : ((beyond lt key ((Walk.run lt key limit collections n).position key)
              (collections n)).take limit).getLast? with
          | none =>
            rw [ends, Option.none_or] at position
            exact absurd (.inr ⟨p, position, not_after⟩) old
          | some last =>
            rw [ends, Option.some_or, Option.map_some] at position
            cases position
            exact mem_page lt key sorted new ends not_after
    · rw [if_neg goes_on] at passed ⊢
      exact before passed

def left (limit : Nat) (collections : Nat → List α) (n : Nat) : List α :=
  beyond lt key ((Walk.run lt key limit collections n).position key) (collections n)

include distinct in
theorem left_decreases (positive : 0 < limit) {n : Nat}
    (going : (Walk.run lt key limit collections n).more = true)
    (goes_on : (Walk.run lt key limit collections (n + 1)).more = true)
    (settled : ∀ record ∈ left lt key limit collections (n + 1),
      key record ∈ (collections n).map key) :
    (left lt key limit collections (n + 1)).length < (left lt key limit collections n).length := by
  have sorted : (Walk.run lt key limit collections (n + 1)).returned.Pairwise
      fun a b => lt (key a) (key b) := run_pairwise lt key distinct (n + 1)
  have run_eq : Walk.run lt key limit collections (n + 1) =
      ⟨(Walk.run lt key limit collections n).returned ++
        (left lt key limit collections n).take limit,
        decide (limit < (left lt key limit collections n).length)⟩ := by
    rw [Walk.run, Walk.step, if_pos going]
    rfl
  have long : limit < (left lt key limit collections n).length := by
    rw [run_eq] at goes_on
    exact of_decide_eq_true goes_on
  have nonempty : (left lt key limit collections n).take limit ≠ [] := by
    intro empty
    have none_taken := congrArg List.length empty
    rw [List.length_take, List.length_nil] at none_taken
    omega
  obtain ⟨last, ends⟩ := Option.isSome_iff_exists.mp (List.getLast?_isSome.mpr nonempty)
  have position : (Walk.run lt key limit collections (n + 1)).position key = some (key last) := by
    rw [run_eq, position_append, ends, Option.some_or, Option.map_some]
  have fewer : ((left lt key limit collections (n + 1)).map key).Subperm
      (((left lt key limit collections n).drop limit).map key) := by
    refine List.subperm_of_subset ?_ ?_
    · refine List.pairwise_map.mpr ((beyond_pairwise lt key _ (distinct (n + 1))).imp ?_)
      intro a b less same
      rw [same] at less
      exact irrefl_of lt _ less
    · intro k member
      obtain ⟨record, here, rfl⟩ := List.mem_map.mp member
      have after := ((mem_beyond lt key).mp here).2 _ position
      obtain ⟨before, there, same⟩ := List.mem_map.mp (settled record here)
      have taken_last := List.mem_of_mem_take (List.mem_of_getLast? ends)
      have still_left : before ∈ left lt key limit collections n :=
        (mem_beyond lt key).mpr ⟨there, fun p old =>
          same ▸ trans_of lt (((mem_beyond lt key).mp taken_last).2 p old) after⟩
      rw [← List.take_append_drop limit (left lt key limit collections n)] at still_left
      obtain taken | dropped := List.mem_append.mp still_left
      · have returned : before ∈ (Walk.run lt key limit collections (n + 1)).returned := by
          rw [run_eq]
          exact List.mem_append_right _ taken
        obtain ⟨p, at_last, not_after⟩ := le_position lt key sorted returned
        cases position.symm.trans at_last
        rw [same] at not_after
        obtain equal | less := not_after
        · exact absurd (equal ▸ after) (irrefl_of lt _)
        · exact absurd less (asymm_of lt after)
      · exact List.mem_map.mpr ⟨before, dropped, same⟩
  have lengths := fewer.length_le
  rw [List.length_map, List.length_map, List.length_drop] at lengths
  omega

include distinct in
theorem run_ends (positive : 0 < limit) (quiet : Nat)
    (settled : ∀ n, quiet ≤ n → ∀ record ∈ left lt key limit collections (n + 1),
      key record ∈ (collections n).map key) :
    ∃ n, (Walk.run lt key limit collections n).more = false := by
  by_contra endless
  have goes_on : ∀ n, (Walk.run lt key limit collections n).more = true := fun n => by
    by_contra stopped
    exact endless ⟨n, by simpa using stopped⟩
  have falls (n : Nat) : (left lt key limit collections (quiet + n)).length + n ≤
      (left lt key limit collections quiet).length := by
    induction n with
    | zero => exact le_rfl
    | succ n ih =>
      have less := left_decreases lt key distinct positive (goes_on (quiet + n))
        (goes_on (quiet + n + 1)) (settled (quiet + n) (Nat.le_add_right _ _))
      change (left lt key limit collections (quiet + n + 1)).length + (n + 1) ≤ _
      omega
  have too_far := falls ((left lt key limit collections quiet).length + 1)
  omega

end Runs

end Taroai.Keyset
