import Mathlib.Tactic.SplitIfs
import StylusSurvey.Files.Tree

/-!
# Sorted trees

A file stands at the names of the entries on the way to it (`FileNode.HasFile`). Sorting a tree
moves entries about within their directories: it has the same files as before
(`FileNode.hasFile_sorted_iff`), and if no directory had two entries of one name, the entries of
every directory are in the order of their names (`FileNode.IsTree.isOrdered_sorted`).
-/

namespace StylusSurvey

open Text

/-- The text can be the name of an entry. -/
def Path.IsComponent (name : Text) : Prop :=
  name ≠ [] ∧ '/' ∉ name

instance (name : Text) : Decidable (Path.IsComponent name) :=
  inferInstanceAs (Decidable (_ ∧ _))

namespace FileNode

variable {name : Text} {names : List Text} {node : FileNode} {content : Bytes}
  {es : List (Text × FileNode)} {e : Text × FileNode} {P Q : List (Text × FileNode) → Prop}

/-- A file of that content stands at the names below the node. -/
inductive HasFile : FileNode → List Text → Bytes → Prop
  | here (content : Bytes) : HasFile (file content) [] content
  | inside {es : List (Text × FileNode)} {name : Text} {node : FileNode} {names : List Text}
    {content : Bytes} (hmem : (name, node) ∈ es) (h : HasFile node names content) :
    HasFile (directory es) (name :: names) content

/-- The condition holds of the entries of every directory. -/
inductive Throughout (P : List (Text × FileNode) → Prop) : FileNode → Prop
  | file (content : Bytes) : Throughout P (file content)
  | device (content : Bytes) : Throughout P (device content)
  | directory {es : List (Text × FileNode)} (here : P es) (inside : ∀ e ∈ es, Throughout P e.2) :
    Throughout P (directory es)

/-- Every entry has a name, and no other entry of its directory has the same. -/
def IsTree (node : FileNode) : Prop :=
  node.Throughout fun es => (∀ e ∈ es, Path.IsComponent e.1) ∧ (es.map (·.1)).Nodup

/-- Every entry has a name, and the entries of each directory are in the order of their names. -/
def IsOrdered (node : FileNode) : Prop :=
  node.Throughout fun es => (∀ e ∈ es, Path.IsComponent e.1) ∧ es.Pairwise fun e f => e.1 < f.1

theorem hasFile_file_iff {content' : Bytes} :
    HasFile (file content) names content' ↔ names = [] ∧ content' = content := by
  constructor
  · rintro ⟨⟩
    exact ⟨rfl, rfl⟩
  · rintro ⟨rfl, rfl⟩
    exact .here _

theorem not_hasFile_device {content' : Bytes} : ¬HasFile (device content) names content' := by
  rintro ⟨⟩

/-- A file below a directory stands below one of its entries. -/
theorem hasFile_directory_iff : HasFile (directory es) names content ↔
    ∃ e ∈ es, ∃ rest, names = e.1 :: rest ∧ HasFile e.2 rest content := by
  constructor
  · rintro (_ | ⟨hmem, h⟩)
    exact ⟨_, hmem, _, rfl, h⟩
  · rintro ⟨e, he, rest, rfl, h⟩
    exact .inside he h

/-- The names on the way to a file are names of entries. -/
theorem IsOrdered.isComponent_of_hasFile (h : node.IsOrdered) (hfile : HasFile node names content) :
    ∀ name ∈ names, Path.IsComponent name := by
  induction hfile with
  | here => exact fun _ hname => absurd hname List.not_mem_nil
  | inside hmem _ ih =>
    obtain _ | _ | ⟨⟨hnames, -⟩, hinside⟩ := h
    exact List.forall_mem_cons.2 ⟨hnames _ hmem, ih (hinside _ hmem)⟩

/-! ## Sorting -/

theorem mem_insertEntry_iff : e ∈ insertEntry name node es ↔ e = (name, node) ∨ e ∈ es := by
  induction es with
  | nil => simp [insertEntry]
  | cons f es ih =>
    rw [insertEntry]
    split_ifs
    · rw [List.mem_cons]
    · rw [List.mem_cons, ih, List.mem_cons, or_left_comm]

/-- An entry of a new name is inserted where its name belongs. -/
theorem pairwise_insertEntry (hnew : ∀ e ∈ es, e.1 ≠ name)
    (h : es.Pairwise fun e f => e.1 < f.1) :
    (insertEntry name node es).Pairwise fun e f => e.1 < f.1 := by
  induction es with
  | nil => exact List.pairwise_singleton _ _
  | cons f es ih =>
    obtain ⟨hf, hes⟩ := List.pairwise_cons.1 h
    obtain ⟨hne, hnew⟩ := List.forall_mem_cons.1 hnew
    rw [insertEntry]
    split_ifs with hlt
    · refine List.pairwise_cons.2 ⟨List.forall_mem_cons.2 ⟨hlt, fun e he => ?_⟩, h⟩
      exact List.lt_trans hlt (hf e he)
    · have hgt : f.1 < name := (List.le_iff_lt_or_eq.1 (List.not_lt.1 hlt)).resolve_right hne
      refine List.pairwise_cons.2 ⟨fun e he => ?_, ih hnew hes⟩
      rcases mem_insertEntry_iff.1 he with rfl | he
      · exact hgt
      · exact hf e he

/-- The sorted entries are the entries, each sorted itself. -/
theorem mem_sortedEntries_iff :
    e ∈ sortedEntries es ↔ ∃ f ∈ es, e = (f.1, f.2.sorted) := by
  induction es with
  | nil => simp [sortedEntries]
  | cons f es ih => simp [sortedEntries, mem_insertEntry_iff, ih]

/-- Entries of distinct names are sorted by name. -/
theorem pairwise_sortedEntries (h : (es.map (·.1)).Nodup) :
    (sortedEntries es).Pairwise fun e f => e.1 < f.1 := by
  induction es with
  | nil => exact .nil
  | cons f es ih =>
    obtain ⟨hf, hes⟩ := List.nodup_cons.1 h
    refine pairwise_insertEntry (fun e he => ?_) (ih hes)
    obtain ⟨g, hg, rfl⟩ := mem_sortedEntries_iff.1 he
    exact fun heq => hf (List.mem_map.2 ⟨g, hg, heq⟩)

/-- What sorting brings about in each directory holds throughout the sorted tree. -/
theorem Throughout.sorted (hPQ : ∀ es, P es → Q (sortedEntries es)) (h : node.Throughout P) :
    node.sorted.Throughout Q := by
  induction h with
  | file content => exact .file content
  | device content => exact .device content
  | directory here _ ih =>
    refine .directory (hPQ _ here) fun e he => ?_
    obtain ⟨f, hf, rfl⟩ := mem_sortedEntries_iff.1 he
    exact ih f hf

/-- A tree is in order once it is sorted. -/
theorem IsTree.isOrdered_sorted (h : node.IsTree) : node.sorted.IsOrdered := by
  refine Throughout.sorted (fun es hes => ⟨fun e he => ?_, pairwise_sortedEntries hes.2⟩) h
  obtain ⟨f, hf, rfl⟩ := mem_sortedEntries_iff.1 he
  exact hes.1 f hf

/-- Sorting moves no file to another place. -/
theorem hasFile_sorted_iff : HasFile node.sorted names content ↔ HasFile node names content := by
  induction names generalizing node with
  | nil =>
    cases node with
    | file content => rfl
    | device content => rfl
    | directory es =>
      rw [sorted, hasFile_directory_iff, hasFile_directory_iff]
      simp
  | cons name names ih =>
    cases node with
    | file content => rfl
    | device content => rfl
    | directory es =>
      rw [sorted, hasFile_directory_iff, hasFile_directory_iff]
      constructor
      · rintro ⟨e, he, rest, hrest, h⟩
        obtain ⟨f, hf, rfl⟩ := mem_sortedEntries_iff.1 he
        obtain ⟨rfl, rfl⟩ := List.cons.inj hrest
        exact ⟨f, hf, names, rfl, ih.1 h⟩
      · rintro ⟨f, hf, rest, hrest, h⟩
        obtain ⟨rfl, rfl⟩ := List.cons.inj hrest
        exact ⟨_, mem_sortedEntries_iff.2 ⟨f, hf, rfl⟩, names, rfl, ih.2 h⟩

end FileNode

end StylusSurvey
