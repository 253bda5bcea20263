import Mathlib.Data.List.Basic

/-! Path texts: their segments between slashes, and the place that a path comes to when its empty
and dotted segments are resolved. A Unicode normal form enters with the characters that take no
part in it: what stands before one and what stands after are normalised apart. -/

namespace Taroai

/-- A normalisation of texts that leaves some characters inert and ASCII texts as they are. -/
structure NormalForm (inert : List Char) where
  form : List Char → List Char
  idempotent : ∀ s, form (form s) = form s
  apart : ∀ c ∈ inert, ∀ s t, form (s ++ c :: t) = form s ++ c :: form t
  none_made : ∀ c ∈ inert, ∀ s, c ∈ form s → c ∈ s
  ascii : ∀ s, (∀ c ∈ s, c.toNat < 128) → form s = s

namespace NormalForm

variable {inert : List Char} (nf : NormalForm inert)

theorem form_replace {old new : Char} (old_inert : old ∈ inert) (new_inert : new ∈ inert)
    (s : List Char) : nf.form (s.map fun c => if c = old then new else c) =
      (nf.form s).map fun c => if c = old then new else c := by
  have unchanged {t : List Char} (absent : old ∉ t) :
      (t.map fun c => if c = old then new else c) = t := by
    refine (List.map_congr_left fun c among => if_neg ?_).trans (List.map_id t)
    exact fun same => absent (same ▸ among)
  induction measure : s.length using Nat.strongRecOn generalizing s with
  | _ n ih =>
    by_cases present : old ∈ s
    · obtain ⟨before, after, rfl⟩ := List.append_of_mem present
      rw [List.length_append, List.length_cons] at measure
      have first := ih before.length (by omega) before rfl
      have second := ih after.length (by omega) after rfl
      rw [List.map_append, List.map_cons, if_pos rfl, nf.apart new new_inert, first, second,
        nf.apart old old_inert, List.map_append, List.map_cons, if_pos rfl]
    · rw [unchanged present, unchanged fun made => present (nf.none_made old old_inert s made)]

def plain (inert : List Char) : NormalForm inert where
  form s := s
  idempotent _ := rfl
  apart _ _ _ _ := rfl
  none_made _ _ _ among := among
  ascii _ _ := rfl

end NormalForm

namespace PosixPath

def segments (path : List Char) : List (List Char) := path.splitOn '/'

def enter (place : List (List Char)) (segment : List Char) : List (List Char) :=
  if segment = [] || segment = ['.'] then place
  else if segment = ['.', '.'] then place.dropLast
  else place ++ [segment]

def resolve (path : List Char) : List (List Char) := (segments path).foldl enter []

def Named (segment : List Char) : Prop :=
  segment ≠ [] ∧ segment ≠ ['.'] ∧ segment ≠ ['.', '.']

theorem segments_append (root path : List Char) :
    segments (root ++ '/' :: path) = segments root ++ segments path :=
  List.splitOn_append_cons_self root path

theorem segments_nonempty (path : List Char) : segments path ≠ [] := List.splitOn_ne_nil '/' path

theorem segments_injective {p q : List Char} (same : segments p = segments q) : p = q := by
  have joined := congrArg (['/'].intercalate) same
  unfold segments at joined
  rwa [List.intercalate_splitOn, List.intercalate_splitOn] at joined

theorem slash_notMem_segments {path segment : List Char} (among : segment ∈ segments path) :
    '/' ∉ segment := by
  induction path generalizing segment with
  | nil =>
    rw [segments, List.splitOn_nil, List.mem_singleton] at among
    rw [among]
    exact List.not_mem_nil
  | cons c rest ih =>
    rw [segments, List.splitOn_cons_eq_if_modifyHead] at among
    by_cases slash : c = '/'
    · rw [if_pos (by simpa using slash), List.mem_cons] at among
      rcases among with rfl | later
      · exact List.not_mem_nil
      · exact ih later
    · rw [if_neg (by simpa using slash)] at among
      cases parts : rest.splitOn '/' with
      | nil => exact absurd parts (List.splitOn_ne_nil '/' rest)
      | cons first others =>
        rw [parts, List.modifyHead_cons, List.mem_cons] at among
        rcases among with rfl | later
        · have absent : '/' ∉ first := ih (by rw [segments, parts]; exact List.mem_cons_self)
          rw [List.mem_cons, not_or]
          exact ⟨fun same => slash same.symm, absent⟩
        · exact ih (by rw [segments, parts]; exact List.mem_cons_of_mem _ later)

theorem segments_prefix {p q : List Char} :
    segments p <+: segments q ↔ p = q ∨ p ++ ['/'] <+: q := by
  constructor
  · rintro ⟨rest, parts⟩
    cases rest with
    | nil =>
      rw [List.append_nil] at parts
      exact .inl (segments_injective parts)
    | cons next rest =>
      have whole : segments q = segments (p ++ '/' :: ['/'].intercalate (next :: rest)) := by
        rw [segments_append, ← parts]
        congr 1
        refine (List.splitOn_intercalate '/' (fun part among => ?_) (List.cons_ne_nil _ _)).symm
        exact slash_notMem_segments (parts ▸ List.mem_append_right _ among)
      refine .inr ⟨['/'].intercalate (next :: rest), ?_⟩
      rw [List.append_assoc, List.singleton_append]
      exact (segments_injective whole).symm
  · rintro (rfl | ⟨rest, rfl⟩)
    · exact List.prefix_refl _
    · rw [List.append_assoc, List.singleton_append, segments_append]
      exact List.prefix_append _ _

theorem mem_segments {path : List Char} {c : Char} (among : c ∈ path) :
    c = '/' ∨ ∃ segment ∈ segments path, c ∈ segment := by
  induction path with
  | nil => cases among
  | cons first rest ih =>
    by_cases slash : first = '/'
    · rcases List.mem_cons.mp among with rfl | later
      · exact .inl slash
      · refine (ih later).imp_right fun ⟨segment, listed, inside⟩ => ⟨segment, ?_, inside⟩
        rw [segments, List.splitOn_cons_eq_if_modifyHead, if_pos (by simpa using slash)]
        exact List.mem_cons_of_mem _ listed
    · cases parts : rest.splitOn '/' with
      | nil => exact absurd parts (List.splitOn_ne_nil '/' rest)
      | cons part others =>
        have split_first : segments (first :: rest) = (first :: part) :: others := by
          rw [segments, List.splitOn_cons_eq_if_modifyHead, if_neg (by simpa using slash), parts,
            List.modifyHead_cons]
        rw [split_first]
        rcases List.mem_cons.mp among with rfl | later
        · exact .inr ⟨_, List.mem_cons_self, List.mem_cons_self⟩
        · refine (ih later).imp_right fun ⟨segment, listed, inside⟩ => ?_
          rw [segments, parts, List.mem_cons] at listed
          rcases listed with rfl | listed
          · exact ⟨_, List.mem_cons_self, List.mem_cons_of_mem _ inside⟩
          · exact ⟨segment, List.mem_cons_of_mem _ listed, inside⟩

theorem foldl_enter {place : List (List Char)} {names : List (List Char)}
    (named : ∀ name ∈ names, Named name) : names.foldl enter place = place ++ names := by
  induction names generalizing place with
  | nil => exact (List.append_nil place).symm
  | cons name rest ih =>
    obtain ⟨first, others⟩ := List.forall_mem_cons.mp named
    have entered : enter place name = place ++ [name] := by
      unfold enter
      rw [if_neg (by simp [first.1, first.2.1]), if_neg first.2.2]
    rw [List.foldl_cons, entered, ih others, List.append_assoc, List.singleton_append]

theorem resolve_append (root : List Char) {path : List Char}
    (named : ∀ segment ∈ segments path, Named segment) :
    resolve (root ++ '/' :: path) = resolve root ++ segments path := by
  unfold resolve
  rw [segments_append, List.foldl_append, foldl_enter named]

end PosixPath

end Taroai
