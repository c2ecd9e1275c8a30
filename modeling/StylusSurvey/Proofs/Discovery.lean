import StylusSurvey.CommandLine.Environment
import StylusSurvey.Proofs.Bytes
import StylusSurvey.Proofs.Lines
import StylusSurvey.Proofs.SortedTrees

/-!
# Discovery of sources

The sources below a directory are told apart by the names on the way to them
(`SourceFile.foundFrom`). What is found are the files with the name of a source, with no name on
the way that is passed over (`SourceFile.mem_foundFrom_iff`), and if the entries of each directory
are in order, so are the lists of names, name by name (`SourceFile.pairwise_foundFrom`). The path of
a source is that of the directory with the names behind it (`Path.foldl_join`), and no two sources
have the same (`Path.join_intercalate_inj`).

Several paths stand for the sources of each, one after the other (`Environment.sources_eq_mapM`),
unless one of them is missing: then the first such is reported
(`Environment.sources_of_not_isPresent`).
-/

namespace StylusSurvey

open Text

/-! ## Paths -/

namespace Path

variable {name path : Text} {names : List Text}

/-- A name has the extension of sources exactly if it is a stem, not empty, with that ending. -/
theorem extension?_eq_rs_iff :
    extension? name = some ['r', 's'] ↔ ∃ stem : Text, stem ≠ [] ∧ name = stem ++ ".rs" := by
  constructor
  · intro h
    rw [extension?] at h
    split at h
    · cases h
    · rename_i hlen
      have htake : name.reverse.takeWhile (· ≠ '.') = ['s', 'r'] :=
        List.reverse_eq_iff.1 (Option.some.inj h)
      obtain ⟨c, rest, hdrop⟩ := List.exists_cons_of_length_pos
        (Nat.zero_lt_of_lt (Nat.lt_of_not_le hlen))
      have hpoint : c = '.' := by
        have hhead := List.head?_dropWhile_not (fun x : Char => decide (x ≠ '.')) name.reverse
        rw [hdrop] at hhead
        simpa using hhead
      have hname : name.reverse = ['s', 'r'] ++ c :: rest := by
        rw [← htake, ← hdrop, List.takeWhile_append_dropWhile]
      refine ⟨rest.reverse, fun hnil => hlen ?_, ?_⟩
      · rw [hdrop, List.reverse_eq_nil_iff.1 hnil]
        rfl
      · rw [← List.reverse_reverse name, hname, hpoint]
        simp
  · rintro ⟨stem, hstem, rfl⟩
    have hlen := List.length_pos_of_ne_nil hstem
    simp [extension?]
    omega

theorem join_append_cons (hname : IsComponent name) (rest : Text) :
    join (join path name) rest = join path (name ++ '/' :: rest) := by
  obtain ⟨hne, hslash⟩ := hname
  have hjoin : (join path name).getLast? = name.getLast? := by
    unfold join
    split <;> exact List.getLast?_append_of_ne_nil _ hne
  have hopen : ¬(join path name = [] ∨ (join path name).getLast? = some '/') := by
    rintro (hnil | hend)
    · rw [hnil, eq_comm, List.getLast?_nil, List.getLast?_eq_none_iff] at hjoin
      exact hne hjoin
    · exact hslash (List.mem_of_getLast? (hjoin.symm.trans hend))
  rw [join, if_neg hopen]
  unfold join
  split <;> simp

/-- The path with names added to it one by one is the path with all of them behind it. -/
theorem foldl_join (hne : names ≠ []) (h : ∀ name ∈ names, IsComponent name) :
    names.foldl join path = join path (List.intercalate ['/'] names) := by
  induction names generalizing path with
  | nil => exact absurd rfl hne
  | cons name names ih =>
    obtain ⟨hname, hnames⟩ := List.forall_mem_cons.1 h
    rw [List.foldl_cons]
    rcases eq_or_ne names [] with rfl | hrest
    · rw [List.foldl_nil, List.intercalate_singleton]
    · rw [ih hrest hnames, join_append_cons hname, List.intercalate_cons_of_ne_nil hrest,
        List.append_assoc, List.singleton_append]

/-- Behind one path, other names give another path. -/
theorem join_intercalate_inj {others : List Text} (hne : names ≠ []) (hne' : others ≠ [])
    (h : ∀ name ∈ names, IsComponent name) (h' : ∀ name ∈ others, IsComponent name)
    (heq : join path (List.intercalate ['/'] names) = join path (List.intercalate ['/'] others)) :
    names = others := by
  have hjoined : List.intercalate ['/'] names = List.intercalate ['/'] others := by
    unfold join at heq
    split at heq <;> exact List.append_cancel_left heq
  have hsplit := congrArg (List.splitOn '/') hjoined
  rwa [List.splitOn_intercalate '/' (fun name hname => (h name hname).2) hne,
    List.splitOn_intercalate '/' (fun name hname => (h' name hname).2) hne'] at hsplit

end Path

/-! ## Sources below a directory -/

namespace SourceFile

variable {name path : Text} {names : List Text} {node : FileNode} {content : Bytes}
  {es : List (Text × FileNode)} {f g : List Text × Bytes}

mutual

/-- The sources from an entry of the given name on, by the names below it. -/
def foundFrom (name : Text) : FileNode → List (List Text × Bytes)
  | .file content => if isSource name then [([], content)] else []
  | .device _ => []
  | .directory es => foundBelow es

/-- The sources in and below a directory, by the names on the way to them. -/
def foundBelow : List (Text × FileNode) → List (List Text × Bytes)
  | [] => []
  | (name, node) :: es =>
    (if isSkipped name then [] else (foundFrom name node).map fun f => (name :: f.1, f.2)) ++
      foundBelow es

end

/-- The source that is found at the names below a path. -/
def atNames (path : Text) (f : List Text × Bytes) : SourceFile where
  path := f.1.foldl Path.join path
  content := f.2

mutual

/-- The files from an entry on are those found below it, each with the names on the way put behind
the path. -/
theorem fromEntry_eq_map (name path : Text) :
    ∀ node, fromEntry name path node = (foundFrom name node).map (atNames path)
  | .file content => by
    rw [fromEntry, foundFrom]
    split <;> rfl
  | .device _ => rfl
  | .directory es => below_eq_map path es

/-- Listing the sources is finding their names. -/
theorem below_eq_map (path : Text) :
    ∀ es, below path es = (foundBelow es).map (atNames path)
  | [] => rfl
  | (name, node) :: es => by
    rw [below, foundBelow, List.map_append, below_eq_map path es]
    split
    · rfl
    · rw [fromEntry_eq_map name _ node, List.map_map]
      rfl

end

/-- A file is found in a directory below one of its entries that is not passed over. -/
theorem mem_foundBelow_iff : f ∈ foundBelow es ↔ ∃ e ∈ es, isSkipped e.1 = false ∧
    ∃ g ∈ foundFrom e.1 e.2, f = (e.1 :: g.1, g.2) := by
  induction es with
  | nil => simp [foundBelow]
  | cons e es ih =>
    rw [foundBelow, List.mem_append, ih]
    cases hskip : isSkipped e.1 with
    | true => simp [hskip]
    | false => simp [hskip, @eq_comm _ f]

/-- What is found are the files with the name of a source that are reached without a name that is
passed over. -/
theorem mem_foundFrom_iff : (names, content) ∈ foundFrom name node ↔
    node.HasFile names content ∧ isSource (names.getLastD name) = true ∧
      ∀ n ∈ names, isSkipped n = false := by
  -- The nodes below a directory stand in a list, so the induction is on the names: one less of them
  -- is one directory further down.
  induction names generalizing name node with
  | nil =>
    cases node with
    | file content' =>
      rw [foundFrom, FileNode.hasFile_file_iff]
      cases hsource : isSource name <;> simp [hsource, List.getLastD]
    | device content' => simp [foundFrom, FileNode.not_hasFile_device]
    | directory es => simp [foundFrom, mem_foundBelow_iff, FileNode.hasFile_directory_iff]
  | cons n names ih =>
    cases node with
    | file content' =>
      rw [foundFrom, FileNode.hasFile_file_iff]
      split <;> simp
    | device content' => simp [foundFrom, FileNode.not_hasFile_device]
    | directory es =>
      rw [foundFrom, mem_foundBelow_iff, FileNode.hasFile_directory_iff, List.getLastD_cons,
        List.forall_mem_cons]
      constructor
      · rintro ⟨e, he, hskip, ⟨rest, content'⟩, hg, heq⟩
        obtain ⟨hnames, rfl⟩ := Prod.mk.inj heq
        obtain ⟨rfl, rfl⟩ := List.cons.inj hnames
        obtain ⟨hfile, hsource, hskips⟩ := ih.1 hg
        exact ⟨⟨e, he, names, rfl, hfile⟩, hsource, hskip, hskips⟩
      · rintro ⟨⟨e, he, rest, heq, hfile⟩, hsource, hskip, hskips⟩
        obtain ⟨rfl, rfl⟩ := List.cons.inj heq
        exact ⟨e, he, hskip, (names, content), ih.2 ⟨hfile, hsource, hskips⟩, rfl⟩

/-! ## Order -/

/-- The names of the one are before those of the other, name by name and each by its bytes. -/
def Before (f g : List Text × Bytes) : Prop :=
  f.1.map bytes < g.1.map bytes

/-- Whatever stands below an entry comes before all below a later one. -/
theorem before_of_lt {other : Text} (h : name < other) :
    Before (name :: f.1, f.2) (other :: g.1, g.2) :=
  List.cons_lt_cons_iff.2 (.inl (bytes_lt_bytes h))

theorem Before.cons (name : Text) (h : Before f g) : Before (name :: f.1, f.2) (name :: g.1, g.2) :=
  List.cons_lt_cons_iff.2 (.inr ⟨rfl, h⟩)

/-- What is below an earlier entry is before what is below a later one. -/
theorem pairwise_foundBelow (hes : es.Pairwise fun e f => e.1 < f.1)
    (h : ∀ e ∈ es, (foundFrom e.1 e.2).Pairwise Before) : (foundBelow es).Pairwise Before := by
  induction es with
  | nil => exact .nil
  | cons e es ih =>
    obtain ⟨he, hes⟩ := List.pairwise_cons.1 hes
    obtain ⟨hentry, hothers⟩ := List.forall_mem_cons.1 h
    rw [foundBelow]
    refine List.pairwise_append.2 ⟨?_, ih hes hothers, fun f hf g hg => ?_⟩
    · split
      · exact .nil
      · exact List.pairwise_map.2 (hentry.imp fun hfg => hfg.cons e.1)
    · split at hf
      · exact absurd hf List.not_mem_nil
      · obtain ⟨f, -, rfl⟩ := List.mem_map.1 hf
        obtain ⟨e', he', -, g, -, rfl⟩ := mem_foundBelow_iff.1 hg
        exact before_of_lt (he e' he')

/-- Files are found in the order of the names on the way to them. -/
theorem pairwise_foundFrom (h : node.IsOrdered) : (foundFrom name node).Pairwise Before := by
  induction h generalizing name with
  | file content =>
    rw [foundFrom]
    split
    · exact List.pairwise_singleton _ _
    · exact .nil
  | device content => exact .nil
  | directory here _ ih =>
    rw [foundFrom]
    exact pairwise_foundBelow here.2 fun e he => ih e he

/-! ## The sources of a directory -/

theorem isSource_iff : isSource name = true ↔ ∃ stem : Text, stem ≠ [] ∧ name = stem ++ ".rs" := by
  rw [isSource, decide_eq_true_iff, Path.extension?_eq_rs_iff]

theorem isSkipped_eq_false_iff :
    isSkipped name = false ↔ name ≠ "target" ∧ name ≠ ".git" ∧ name ≠ ".cargo" := by
  simp only [isSkipped, Bool.or_eq_false_iff, decide_eq_false_iff_not, and_assoc, ne_eq]

/-- What is found below a directory are the files with the name of a source that stand there, but
for those behind a name that is passed over. -/
theorem mem_foundFrom_sorted_iff :
    (names, content) ∈ foundFrom name (FileNode.directory es).sorted ↔
      (FileNode.directory es).HasFile names content ∧
      (∃ stem : Text, stem ≠ [] ∧ names.getLast? = some (stem ++ ".rs")) ∧
      ∀ n ∈ names, n ≠ "target" ∧ n ≠ ".git" ∧ n ≠ ".cargo" := by
  rw [mem_foundFrom_iff, FileNode.hasFile_sorted_iff, isSource_iff]
  simp only [isSkipped_eq_false_iff]
  refine and_congr_right fun hfile => and_congr_left fun _ => exists_congr fun stem => ?_
  obtain ⟨e, -, rest, rfl, -⟩ := FileNode.hasFile_directory_iff.1 hfile
  rw [List.getLast?_cons, List.getLastD_cons, Option.some_inj, List.getLastD_eq_getLast?]

/-- The names on the way to a file that is found can be names of entries. -/
theorem names_of_mem_foundFrom (h : (FileNode.directory es).IsTree)
    (hf : f ∈ foundFrom name (FileNode.directory es).sorted) :
    f.1 ≠ [] ∧ ∀ n ∈ f.1, Path.IsComponent n := by
  obtain ⟨hfile, -⟩ := mem_foundFrom_iff.1 hf
  refine ⟨?_, h.isOrdered_sorted.isComponent_of_hasFile hfile⟩
  obtain ⟨e, -, rest, heq, -⟩ := FileNode.hasFile_directory_iff.1 hfile
  exact heq ▸ List.cons_ne_nil _ _

/-- A directory stands for what is found below it, at its path with the names behind it. -/
theorem ofNode_directory (h : (FileNode.directory es).IsTree) (path : Text) :
    ofNode path (.directory es) = (foundFrom path (FileNode.directory es).sorted).map fun f =>
      { path := Path.join path (List.intercalate ['/'] f.1), content := f.2 } := by
  have hfound : ofNode path (.directory es) =
      (foundFrom path (FileNode.directory es).sorted).map (atNames path) := by
    rw [ofNode, FileNode.sorted, FileNode.entries, below_eq_map, foundFrom]
  rw [hfound]
  refine List.map_congr_left fun f hf => ?_
  obtain ⟨hne, hnames⟩ := names_of_mem_foundFrom h hf
  rw [atNames, Path.foldl_join hne hnames]

/-- No two files are found under one path. -/
theorem nodup_paths (h : (FileNode.directory es).IsTree) (path : Text) :
    ((foundFrom path (FileNode.directory es).sorted).map fun f =>
      Path.join path (List.intercalate ['/'] f.1)).Nodup := by
  refine List.pairwise_map.2 ((pairwise_foundFrom h.isOrdered_sorted).imp_of_mem ?_)
  intro f g hf hg hbefore heq
  obtain ⟨hne, hnames⟩ := names_of_mem_foundFrom h hf
  obtain ⟨hne', hnames'⟩ := names_of_mem_foundFrom h hg
  rw [Before, Path.join_intercalate_inj hne hne' hnames hnames' heq] at hbefore
  exact List.lt_irrefl _ hbefore

end SourceFile

/-! ## The sources of paths -/

namespace Environment

variable {w : Environment} {path : Text} {paths : List Text}

/-- A file or a directory stands at the path. -/
def IsPresent (w : Environment) (path : Text) : Prop :=
  (∃ content, w.node path = .ok (.file content)) ∨ ∃ es, w.node path = .ok (.directory es)

/-- A path to a file stands for that file, whatever its name. -/
theorem sources_of_file {content : Bytes} (h : w.node path = .ok (.file content)) :
    w.sources [path] = .ok [{ path, content }] := by
  rw [sources, h]
  rfl

theorem sources_of_directory {es : List (Text × FileNode)}
    (h : w.node path = .ok (.directory es)) :
    w.sources [path] = .ok (SourceFile.ofNode path (.directory es)) := by
  rw [sources, h]
  exact congrArg _ (List.append_nil _)

/-- The sources of a path that is present come ahead of those of the others. -/
theorem sources_cons_of_isPresent (h : w.IsPresent path) : ∃ part, w.sources [path] = .ok part ∧
    ∀ paths, w.sources (path :: paths) = (w.sources paths).map (part ++ ·) := by
  obtain ⟨content, hnode⟩ | ⟨es, hnode⟩ := h
  all_goals
    refine ⟨_, by rw [sources, hnode]; rfl, fun paths => ?_⟩
    rw [sources, hnode]
    cases w.sources paths <;> simp [Except.map, bind, Except.bind, pure, Except.pure]

/-- A missing path is reported, whatever paths follow it. -/
theorem sources_cons_of_not_isPresent (h : ¬w.IsPresent path) (paths : List Text) :
    w.sources (path :: paths) = .error (.missingPath path) := by
  rw [sources]
  split
  · rfl
  · rfl
  · rename_i node hdevice hnode
    cases node with
    | file content => exact absurd (.inl ⟨content, hnode⟩) h
    | device content => exact absurd rfl (hdevice content)
    | directory es => exact absurd (.inr ⟨es, hnode⟩) h

/-- The sources of several paths are those of each, one after the other. -/
theorem sources_eq_mapM (w : Environment) (paths : List Text) :
    w.sources paths = (paths.mapM fun path => w.sources [path]).map List.flatten := by
  induction paths with
  | nil => rfl
  | cons path paths ih =>
    rw [List.mapM_cons]
    by_cases h : w.IsPresent path
    · obtain ⟨part, hpart, hcons⟩ := sources_cons_of_isPresent h
      rw [hcons, hpart, ih]
      cases paths.mapM fun path => w.sources [path] <;> rfl
    · rw [sources_cons_of_not_isPresent h, sources_cons_of_not_isPresent h]
      rfl

/-- There is an error exactly if a path is missing. -/
theorem exists_sources_eq_error_iff :
    (∃ e, w.sources paths = .error e) ↔ ∃ path ∈ paths, ¬w.IsPresent path := by
  induction paths with
  | nil => simp [sources]
  | cons path paths ih =>
    by_cases h : w.IsPresent path
    · obtain ⟨part, -, hcons⟩ := sources_cons_of_isPresent h
      rw [List.exists_mem_cons_iff, ← ih, hcons]
      cases w.sources paths <;> simp [Except.map, h]
    · rw [sources_cons_of_not_isPresent h]
      exact iff_of_true ⟨_, rfl⟩ ⟨path, List.mem_cons_self, h⟩

/-- The first path that is missing is reported. -/
theorem sources_of_not_isPresent {before : List Text} (hbefore : ∀ p ∈ before, w.IsPresent p)
    (h : ¬w.IsPresent path) (after : List Text) :
    w.sources (before ++ path :: after) = .error (.missingPath path) := by
  induction before with
  | nil => exact sources_cons_of_not_isPresent h after
  | cons p before ih =>
    obtain ⟨hp, hbefore⟩ := List.forall_mem_cons.1 hbefore
    obtain ⟨part, -, hcons⟩ := sources_cons_of_isPresent hp
    rw [List.cons_append, hcons, ih hbefore]
    rfl

/-- A directory stands for the sources below it, each once and in the order of the names on the
way, a file for itself and several paths for the sources of each. There is an error exactly if a
path is missing, and it names the first one. -/
theorem sources_in_order (w : Environment) :
    (∀ root es, w.node root = .ok (.directory es) → (FileNode.directory es).IsTree →
      ∃ found : List (List Text × Bytes),
        w.sources [root] = .ok (found.map fun f =>
          { path := Path.join root (List.intercalate ['/'] f.1), content := f.2 }) ∧
        (∀ names content, (names, content) ∈ found ↔
          (FileNode.directory es).HasFile names content ∧
          (∃ stem : Text, stem ≠ [] ∧ names.getLast? = some (stem ++ ".rs")) ∧
          ∀ name ∈ names, name ≠ "target" ∧ name ≠ ".git" ∧ name ≠ ".cargo") ∧
        (found.map fun f => f.1.map bytes).Pairwise (· < ·) ∧
        (found.map fun f => Path.join root (List.intercalate ['/'] f.1)).Nodup) ∧
    (∀ path content, w.node path = .ok (.file content) →
      w.sources [path] = .ok [{ path, content }]) ∧
    (∀ paths, w.sources paths = (paths.mapM fun path => w.sources [path]).map List.flatten) ∧
    (∀ paths, (∃ e, w.sources paths = .error e) ↔ ∃ path ∈ paths, ¬w.IsPresent path) ∧
    ∀ before path after, (∀ p ∈ before, w.IsPresent p) → ¬w.IsPresent path →
      ∃ e, w.sources (before ++ path :: after) = .error e ∧
        e.message = path ++ " does not exist" :=
  ⟨fun root _ hroot htree =>
      ⟨_, (sources_of_directory hroot).trans (congrArg _ (SourceFile.ofNode_directory htree root)),
        fun _ _ => SourceFile.mem_foundFrom_sorted_iff,
        List.pairwise_map.2 (SourceFile.pairwise_foundFrom htree.isOrdered_sorted),
        SourceFile.nodup_paths htree root⟩,
    fun _ _ => sources_of_file, sources_eq_mapM w, fun _ => exists_sources_eq_error_iff,
    fun _ _ after hbefore h => ⟨_, sources_of_not_isPresent hbefore h after, rfl⟩⟩

/-- The entries of a directory in which another with build products stands. -/
def buildEntries : List (Text × FileNode) :=
  [("a-b", .directory [("x.rs", .file [])]),
    (".rs", .file []),
    ("a", .directory [("target", .directory [("gen.rs", .file [])]), ("x.rs", .file [])])]

/-- A directory with build products itself. -/
def buildEnvironment : Environment :=
  inTree (.directory [("target", .directory buildEntries)]) [] "/work" none

/-- What is below `a` comes before what is below `a-b`, though as a text `a-b/x.rs` would be before
`a/x.rs`. -/
theorem sources_in_order_build :
    (FileNode.directory buildEntries).IsTree ∧
    (∃ found : List (List Text × Bytes),
      (found.map fun f => Path.join "target" (List.intercalate ['/'] f.1)) =
        ["target/a/x.rs", "target/a-b/x.rs"] ∧
      (found.map fun f => f.1.map bytes).Pairwise (· < ·)) ∧
    ∃ e, buildEnvironment.sources ["target/.rs", "target/b", "b"] = .error e ∧
      e.message = "target/b does not exist" := by
  have htree : (FileNode.directory buildEntries).IsTree := by
    have hnil {P : Text × FileNode → Prop} : ∀ e ∈ [], P e := fun _ he =>
      absurd he List.not_mem_nil
    refine .directory ⟨by decide, by decide⟩ (List.forall_mem_cons.2 ⟨?_,
      List.forall_mem_cons.2 ⟨.file _, List.forall_mem_cons.2 ⟨?_, hnil⟩⟩⟩)
    · exact .directory ⟨by decide, by decide⟩ (List.forall_mem_cons.2 ⟨.file _, hnil⟩)
    · refine .directory ⟨by decide, by decide⟩ (List.forall_mem_cons.2 ⟨?_,
        List.forall_mem_cons.2 ⟨.file _, hnil⟩⟩)
      exact .directory ⟨by decide, by decide⟩ (List.forall_mem_cons.2 ⟨.file _, hnil⟩)
  obtain ⟨hdirectory, -, -, -, hmissing⟩ := sources_in_order buildEnvironment
  obtain ⟨found, hfound, -, hordered, -⟩ := hdirectory "target" buildEntries rfl htree
  refine ⟨htree, ⟨found, ?_, hordered⟩,
    hmissing ["target/.rs"] "target/b" ["b"] (fun p hp => ?_) ?_⟩
  · have hsources : buildEnvironment.sources ["target"] =
        .ok [{ path := "target/a/x.rs", content := [] },
          { path := "target/a-b/x.rs", content := [] }] := by
      decide +kernel
    have hpaths := congrArg (List.map SourceFile.path) (Except.ok.inj (hfound.symm.trans hsources))
    rwa [List.map_map] at hpaths
  · obtain rfl := List.mem_singleton.1 hp
    exact .inl ⟨[], rfl⟩
  · rintro (⟨content, h⟩ | ⟨es, h⟩) <;> cases h

end Environment

end StylusSurvey
