import Mathlib.Data.List.Infix
import Taroai.Lib.Ranked

/-! Lists whose entries carry the numbers 1 to n in order, and readers that poll such a list
with the last number they saw. A reader of a list that only grows holds a prefix of it, and the
whole list after each poll. -/

namespace Taroai

variable {α : Type} {number : α → Nat} {xs ys : List α}

/-- The entries are numbered from 1 in list order. -/
def Numbered (number : α → Nat) (xs : List α) : Prop :=
  xs.map number = List.range' 1 xs.length

theorem numbered_concat {x : α} :
    Numbered number (xs ++ [x]) ↔ Numbered number xs ∧ number x = xs.length + 1 := by
  unfold Numbered
  rw [List.map_append, List.length_append, List.length_singleton, List.range'_concat,
    List.map_singleton, Nat.one_mul, Nat.add_comm 1, ← List.concat_eq_append,
    ← List.concat_eq_append, List.concat_inj]

theorem orderBy_eq {κ : Type} [LinearOrder κ] {key : α → κ}
    (increasing : xs.Pairwise fun x y => number x < number y)
    (first : ∀ x y, number x < number y → key x ≤ key y) : Ranked.orderBy key xs = xs :=
  List.mergeSort_of_pairwise (increasing.imp fun below => decide_eq_true (first _ _ below))

namespace Numbered

theorem filter_concat {p : α → Bool} {x : α} (numbered : Numbered number (xs.filter p))
    (next : p x = true → number x = (xs.filter p).length + 1) :
    Numbered number ((xs ++ [x]).filter p) := by
  rw [List.filter_append]
  by_cases counted : p x = true
  · rw [List.filter_cons_of_pos counted]
    exact numbered_concat.mpr ⟨numbered, next counted⟩
  · rw [List.filter_cons_of_neg counted]
    simpa using numbered

theorem increasing (numbered : Numbered number xs) :
    xs.Pairwise fun x y => number x < number y := by
  have sorted : (xs.map number).Pairwise (· < ·) := by
    rw [numbered]
    exact List.pairwise_lt_range'
  exact List.pairwise_map.mp sorted

theorem max_eq (numbered : Numbered number xs) : (xs.map number).foldr max 0 = xs.length := by
  have bounded (n m : Nat) : (List.range' m n).foldr max 0 = if n = 0 then 0 else m + n - 1 := by
    induction n generalizing m with
    | zero => rfl
    | succ n ih =>
      rw [List.range'_succ, List.foldr_cons, ih]
      split
      · simp_all
      · rw [if_neg (Nat.succ_ne_zero n)]
        omega
  rw [numbered, bounded]
  split <;> omega

theorem filter_after (numbered : Numbered number xs) (seen : Nat) :
    xs.filter (fun x => seen < number x) = xs.drop seen := by
  induction xs using List.reverseRecOn with
  | nil => simp
  | append_singleton xs x ih =>
    obtain ⟨before, next⟩ := numbered_concat.mp numbered
    rw [List.filter_append, ih before, List.drop_append]
    congr 1
    by_cases passed : seen ≤ xs.length
    · have none_dropped : seen - xs.length = 0 := by omega
      have wanted : seen < number x := by omega
      simp [none_dropped, wanted]
    · have dropped : [x].length ≤ seen - xs.length := by simp; omega
      have unwanted : ¬seen < number x := by omega
      simp [List.drop_eq_nil_of_le dropped, unwanted]

end Numbered

/-- The filter of a listing: `after_sequence is None or sequence > after_sequence`. -/
def isAfter (afterSequence : Option Int) (sequence : Nat) : Bool :=
  afterSequence.all fun seen => seen < (sequence : Int)

/-- A client that polls with `after_sequence`: nothing seen yet, or the last number seen. -/
structure Reader (α : Type) where
  cursor : Option Nat
  received : List α

namespace Reader

def fresh : Reader α := ⟨none, []⟩

def afterSequence (reader : Reader α) : Option Int := reader.cursor.map Int.ofNat

/-- Take a listing in, and remember the last number of it. -/
def take (number : α → Nat) (reader : Reader α) (listed : List α) : Reader α where
  cursor := (listed.getLast?.map number).or reader.cursor
  received := reader.received ++ listed

/-- The reader holds the first entries of the list, each once and in order. -/
structure Reads (number : α → Nat) (xs : List α) (reader : Reader α) : Prop where
  held : reader.received <+: xs
  cursor : reader.cursor.getD 0 = reader.received.length

variable {reader : Reader α}

theorem Reads.grown (reads : Reads number xs reader) (longer : xs <+: ys) :
    Reads number ys reader := ⟨reads.held.trans longer, reads.cursor⟩

theorem Reads.poll (reads : Reads number xs reader) (numbered : Numbered number xs) :
    let polled := reader.take number (xs.filter fun x => isAfter reader.afterSequence (number x))
    polled.received = xs ∧ Reads number xs polled := by
  obtain ⟨⟨rest, rfl⟩, seen⟩ := reads
  have listed : (reader.received ++ rest).filter
      (fun x => isAfter reader.afterSequence (number x)) = rest := by
    have after := numbered.filter_after reader.received.length
    rw [List.drop_left] at after
    refine Eq.trans (List.filter_congr fun x among => ?_) after
    unfold isAfter afterSequence
    cases cursor : reader.cursor with
    | none =>
      have positive : number x ∈ List.range' 1 _ := numbered ▸ List.mem_map_of_mem among
      rw [List.mem_range'_1] at positive
      simpa [← seen, cursor] using Nat.lt_of_succ_le positive.1
    | some last => simp [← seen, cursor]
  rw [listed]
  refine ⟨rfl, List.prefix_rfl, ?_⟩
  obtain rfl | ⟨front, x, rfl⟩ := rest.eq_nil_or_concat
  · simpa [take] using seen
  · rw [List.concat_eq_append, ← List.append_assoc] at numbered
    have last := (numbered_concat.mp numbered).2
    simp [take, last, Nat.add_assoc]

end Reader

end Taroai
