import Mathlib.Data.List.Infix

/-! Trees of files and directories, as what stands at each path. A file is written after the
directories above it are made, which fails where one of them is a file, or the path a directory.
Writes of many files go through exactly when no path goes through another, in whatever order they
are done. -/

namespace Taroai

inductive TreeEntry (β : Type) where
  | directory
  | file (content : β)
deriving DecidableEq

def TreeEntry.isFile {β : Type} : TreeEntry β → Bool
  | .file _ => true
  | .directory => false

abbrev FileTree (σ β : Type) := List σ → Option (TreeEntry β)

namespace FileTree

variable {σ β : Type}

def empty : FileTree σ β := fun path => if path = [] then some .directory else none

variable [DecidableEq σ]

def blocked (tree : FileTree σ β) (path : List σ) : Bool :=
  path.inits.any fun above => above ≠ path && (tree above).any TreeEntry.isFile

/-- `path.parent.mkdir(parents=True, exist_ok=True)` and `path.write_bytes(content)`. -/
def write (tree : FileTree σ β) (path : List σ) (content : β) : Option (FileTree σ β) :=
  if tree.blocked path || (tree path).any fun entry => !entry.isFile then none
  else some fun other =>
    if other = path then some (.file content)
    else if other <+: path then some .directory
    else tree other

def writeAll (tree : FileTree σ β) : List (List σ × β) → Option (FileTree σ β)
  | [] => some tree
  | (path, content) :: rest => (tree.write path content).bind fun next => next.writeAll rest

variable {tree next : FileTree σ β} {path : List σ} {content : β}

theorem blocked_iff : tree.blocked path = true ↔
    ∃ above old, above <+: path ∧ above ≠ path ∧ tree above = some (.file old) := by
  unfold blocked
  rw [List.any_eq_true]
  refine exists_congr fun above => ?_
  rw [List.mem_inits, Bool.and_eq_true, decide_eq_true_iff, Option.any_eq_true]
  constructor
  · rintro ⟨shorter, proper, entry, there, file⟩
    cases entry with
    | directory => cases file
    | file old => exact ⟨old, shorter, proper, there⟩
  · rintro ⟨old, shorter, proper, there⟩
    exact ⟨shorter, proper, .file old, there, rfl⟩

omit [DecidableEq σ] in
theorem any_directory_iff : ((tree path).any fun entry => !entry.isFile) = true ↔
    tree path = some .directory := by
  cases tree path with
  | none => simp
  | some entry => cases entry <;> simp [TreeEntry.isFile]

theorem write_eq_some : tree.write path content = some next ↔
    tree.blocked path = false ∧ tree path ≠ some .directory ∧
      ∀ other, next other = if other = path then some (.file content)
        else if other <+: path then some .directory else tree other := by
  have refusal : (tree.blocked path || (tree path).any fun entry => !entry.isFile) = true ↔
      tree.blocked path = true ∨ tree path = some .directory := by
    rw [Bool.or_eq_true, any_directory_iff]
  unfold write
  by_cases refused : tree.blocked path = true ∨ tree path = some .directory
  · rw [if_pos (refusal.mpr refused)]
    constructor
    · intro nothing
      cases nothing
    · rintro ⟨unblocked, not_directory, -⟩
      rcases refused with blocked | directory
      · rw [blocked] at unblocked
        cases unblocked
      · exact absurd directory not_directory
  · rw [if_neg (refusal.not.mpr refused), Option.some_inj]
    rw [not_or, Bool.not_eq_true] at refused
    constructor
    · rintro rfl
      exact ⟨refused.1, refused.2, fun other => rfl⟩
    · rintro ⟨-, -, entries⟩
      exact (funext entries).symm

theorem kept_of_write (written : tree.write path content = some next) {other : List σ}
    {entry : TreeEntry β} (there : tree other = some entry) :
    next other = some entry ∨ other = path ∧ ∃ old, entry = .file old := by
  obtain ⟨unblocked, not_directory, entries⟩ := write_eq_some.mp written
  rw [entries]
  by_cases same : other = path
  · refine .inr ⟨same, ?_⟩
    cases entry with
    | directory => exact absurd (same ▸ there) not_directory
    | file old => exact ⟨old, rfl⟩
  · rw [if_neg same]
    by_cases above : other <+: path
    · rw [if_pos above]
      cases entry with
      | directory => exact .inl rfl
      | file old =>
        rw [blocked_iff.mpr ⟨other, old, above, same, there⟩] at unblocked
        cases unblocked
    · exact .inl ((if_neg above).trans there)

/-- After writes that went through, their paths are files and what is above them directories. -/
theorem entries_of_writeAll {writes : List (List σ × β)} (written : tree.writeAll writes = some next) :
    (∀ other, tree other = some .directory → next other = some .directory) ∧
    (∀ other old, tree other = some (.file old) → ∃ new, next other = some (.file new)) ∧
    ∀ item ∈ writes, (∃ new, next item.1 = some (.file new)) ∧
      ∀ above, above <+: item.1 → above ≠ item.1 → next above = some .directory := by
  induction writes generalizing tree with
  | nil =>
    obtain rfl := Option.some.inj written
    exact ⟨fun _ there => there, fun _ old there => ⟨old, there⟩,
      fun item among => absurd among List.not_mem_nil⟩
  | cons item rest ih =>
    obtain ⟨middle, first, later⟩ := Option.bind_eq_some_iff.mp written
    obtain ⟨directories, files, items⟩ := ih later
    obtain ⟨-, -, entries⟩ := write_eq_some.mp first
    refine ⟨fun other there => ?_, fun other old there => ?_, List.forall_mem_cons.mpr ⟨?_, items⟩⟩
    · rcases kept_of_write first there with kept | ⟨-, old, file⟩
      · exact directories other kept
      · cases file
    · rcases kept_of_write first there with kept | ⟨rfl, -⟩
      · exact files other old kept
      · exact files _ _ ((entries _).trans (if_pos rfl))
    · refine ⟨files _ _ ((entries _).trans (if_pos rfl)), fun above shorter proper => ?_⟩
      exact directories above ((entries above).trans ((if_neg proper).trans (if_pos shorter)))

def Apart (paths : List (List σ)) : Prop :=
  ∀ path ∈ paths, ∀ other ∈ paths, path <+: other → path = other

theorem writeAll_of_apart {writes : List (List σ × β)} (distinct : (writes.map Prod.fst).Nodup)
    (apart : Apart (writes.map Prod.fst)) (clear : ∀ item ∈ writes,
      tree.blocked item.1 = false ∧ tree item.1 ≠ some .directory) :
    ∃ next, tree.writeAll writes = some next ∧
      (∀ item ∈ writes, next item.1 = some (.file item.2)) ∧
      ∀ other, (∀ item ∈ writes, ¬other <+: item.1) → next other = tree other := by
  induction writes generalizing tree with
  | nil => exact ⟨tree, rfl, fun item among => absurd among List.not_mem_nil, fun _ _ => rfl⟩
  | cons item rest ih =>
    obtain ⟨⟨unblocked, not_directory⟩, clear_rest⟩ := List.forall_mem_cons.mp clear
    rw [List.map_cons, List.nodup_cons] at distinct
    obtain ⟨middle, first⟩ : ∃ middle, tree.write item.1 item.2 = some middle :=
      ⟨_, write_eq_some.mpr ⟨unblocked, not_directory, fun _ => rfl⟩⟩
    obtain ⟨-, -, entries⟩ := write_eq_some.mp first
    have elsewhere {other : List σ × β} (among : other ∈ rest) : other.1 ≠ item.1 :=
      fun same => distinct.1 (same ▸ List.mem_map_of_mem among)
    have not_above {other : List σ × β} (among : other ∈ rest) : ¬item.1 <+: other.1 :=
      fun shorter => elsewhere among (apart item.1 List.mem_cons_self other.1
        (List.mem_cons_of_mem _ (List.mem_map_of_mem among)) shorter).symm
    have not_below {other : List σ × β} (among : other ∈ rest) : ¬other.1 <+: item.1 :=
      fun shorter => elsewhere among (apart other.1
        (List.mem_cons_of_mem _ (List.mem_map_of_mem among)) item.1 List.mem_cons_self shorter)
    have middle_clear : ∀ other ∈ rest,
        middle.blocked other.1 = false ∧ middle other.1 ≠ some .directory := by
      intro other among
      obtain ⟨other_unblocked, other_clear⟩ := clear_rest other among
      constructor
      · rw [Bool.eq_false_iff, ne_eq, blocked_iff]
        rintro ⟨above, old, shorter, proper, file⟩
        rw [entries] at file
        split_ifs at file with same between
        · exact not_above among (same ▸ shorter)
        · cases file
        · rw [blocked_iff.mpr ⟨above, old, shorter, proper, file⟩] at other_unblocked
          cases other_unblocked
      · rw [entries, if_neg (elsewhere among), if_neg (not_below among)]
        exact other_clear
    have apart_rest : Apart (rest.map Prod.fst) := fun path among other among' =>
      apart path (List.mem_cons_of_mem _ among) other (List.mem_cons_of_mem _ among')
    obtain ⟨next, written, items, others⟩ := ih distinct.2 apart_rest middle_clear
    refine ⟨next, Option.bind_eq_some_iff.mpr ⟨middle, first, written⟩,
      List.forall_mem_cons.mpr ⟨?_, items⟩, fun other outside => ?_⟩
    · rw [others item.1 fun other among => not_above among, entries, if_pos rfl]
    · obtain ⟨not_first, not_rest⟩ := List.forall_mem_cons.mp outside
      rw [others other not_rest, entries, if_neg, if_neg not_first]
      rintro rfl
      exact not_first (List.prefix_refl _)

def EmptyBelow (tree : FileTree σ β) (root : List σ) : Prop :=
  (∀ above, above <+: root → ∀ content, tree above ≠ some (.file content)) ∧
    ∀ names, names ≠ [] → tree (root ++ names) = none

omit [DecidableEq σ] in
theorem EmptyBelow.no_file {root names : List σ} (free : tree.EmptyBelow root) {above : List σ}
    (shorter : above <+: root ++ names) (content : β) : tree above ≠ some (.file content) := by
  rcases List.prefix_or_prefix_of_prefix shorter (List.prefix_append root names) with over_root | under
  · exact free.1 above over_root content
  · obtain ⟨others, rfl⟩ := under
    cases others with
    | nil => exact free.1 _ (by rw [List.append_nil]) content
    | cons name rest =>
      rw [free.2 _ (List.cons_ne_nil name rest)]
      simp

/-- Writes below an empty root that lie apart go through, and give the files that are there then. -/
theorem writeAll_below {root : List σ} (free : tree.EmptyBelow root) {writes : List (List σ × β)}
    (distinct : (writes.map Prod.fst).Nodup) (apart : Apart (writes.map Prod.fst))
    (below : ∀ item ∈ writes, ∃ names, names ≠ [] ∧ item.1 = root ++ names) :
    ∃ next, tree.writeAll writes = some next ∧ ∀ names content,
      next (root ++ names) = some (.file content) ↔ (root ++ names, content) ∈ writes := by
  have clear : ∀ item ∈ writes, tree.blocked item.1 = false ∧ tree item.1 ≠ some .directory := by
    intro item among
    obtain ⟨names, nonempty, place⟩ := below item among
    rw [place, free.2 names nonempty]
    refine ⟨?_, by simp⟩
    rw [Bool.eq_false_iff, ne_eq, blocked_iff]
    rintro ⟨above, old, shorter, -, file⟩
    exact free.no_file shorter old file
  obtain ⟨next, written, items, others⟩ := writeAll_of_apart distinct apart clear
  refine ⟨next, written, fun names content => ⟨fun there => ?_, fun among => items _ among⟩⟩
  by_cases passed : ∃ item ∈ writes, root ++ names <+: item.1
  · obtain ⟨item, among, shorter⟩ := passed
    by_cases same : root ++ names = item.1
    · rw [same, items item among] at there
      obtain rfl := TreeEntry.file.inj (Option.some.inj there)
      rw [same]
      exact among
    · have directory := ((entries_of_writeAll written).2.2 item among).2 _ shorter same
      rw [there] at directory
      cases directory
  · rw [others _ fun item among shorter => passed ⟨item, among, shorter⟩] at there
    exact absurd there (free.no_file (List.prefix_refl _) content)

end FileTree

end Taroai
