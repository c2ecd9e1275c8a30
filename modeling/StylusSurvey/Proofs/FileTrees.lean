import Mathlib.Data.List.TakeWhile
import Mathlib.Tactic.SplitIfs
import StylusSurvey.Files.System
import StylusSurvey.Proofs.Lines

/-!
# Files at the names that lead to them

A tree seen as a map from names to what stands there. Putting a node into a tree gives that node
at its names (`FileNode.at?_put`), and putting a file into a directory of the tree, in place of no
directory, leaves every other file as it was (`FileNode.content?_put_file`).

A file that is written to stands in a directory and in place of no directory
(`FileSystem.exists_directory_of_target`), so writing to it changes no other file
(`FileSystem.content?_write`).

The path of a working directory leads to it from the root (`FileSystem.isReachable_around`), so a
path behind it leads where the path leads by itself (`FileSystem.find_absolute`,
`FileSystem.target_absolute`).
-/

namespace StylusSurvey

open Text

/-! ## Looking up and putting -/

namespace FileNode

/-- The content of the file at the names. -/
def content? (names : List Text) (node : FileNode) : Option Bytes :=
  match node.at? names with
  | some (file content) => some content
  | _ => none

variable {name : Text} {node : FileNode} {es : List (Text × FileNode)} {content : Bytes}

theorem lookup_cons_eq_ite (n m : Text) (old : FileNode) (es : List (Text × FileNode)) :
    ((m, old) :: es).lookup n = if n = m then some old else es.lookup n := by
  rw [List.lookup_cons]
  split_ifs with h
  · rw [h, beq_self_eq_true]
  · rw [beq_false_of_ne h]

/-- The entry that is set is found under its name, and every other one as before. -/
theorem lookup_setEntry (name : Text) (node : FileNode) (es : List (Text × FileNode)) (n : Text) :
    (setEntry name node es).lookup n = if n = name then some node else es.lookup n := by
  induction es with
  | nil => exact lookup_cons_eq_ite n name node []
  | cons e es ih =>
    obtain ⟨m, old⟩ := e
    rw [setEntry]
    split_ifs with hm hn hn
    · rw [lookup_cons_eq_ite, if_pos hn]
    · rw [lookup_cons_eq_ite, lookup_cons_eq_ite, if_neg hn, hm, if_neg hn]
    · rw [lookup_cons_eq_ite, ih, if_pos hn, if_neg fun h => hm (h.symm.trans hn)]
    · rw [lookup_cons_eq_ite, lookup_cons_eq_ite, ih, if_neg hn]

/-- Names are followed one list after the other. -/
theorem at?_append (names names' : List Text) (node : FileNode) :
    node.at? (names ++ names') = (node.at? names).bind (at? names') := by
  induction names generalizing node with
  | nil => rfl
  | cons name names ih =>
    cases node with
    | file content => rfl
    | device content => rfl
    | directory es =>
      rw [List.cons_append, at?, at?]
      cases es.lookup name with
      | none => rfl
      | some node => exact ih node

/-- A node that is put into a tree stands at its names. -/
theorem at?_put (node : FileNode) (names : List Text) (root : FileNode) :
    (put node names root).at? names = some node := by
  induction names generalizing root with
  | nil => rfl
  | cons name names ih => rw [put, at?, lookup_setEntry, if_pos rfl, Option.bind_some, ih]

/-- Below a directory of a tree there are directories on the way to it. -/
theorem exists_directory_of_at?_append {names names' : List Text}
    (h : node.at? (names ++ names') = some (directory es)) :
    ∃ es', node.at? names = some (directory es') := by
  rw [at?_append] at h
  obtain ⟨above, habove, h⟩ := Option.bind_eq_some_iff.1 h
  rw [habove]
  cases names' with
  | nil => exact ⟨es, h⟩
  | cons name names' =>
    cases above with
    | file content => cases h
    | device content => cases h
    | directory es' => exact ⟨es', rfl⟩

/-- The files of a directory stand below its entries. -/
theorem content?_directory_cons (name : Text) (names : List Text) (es : List (Text × FileNode)) :
    (directory es).content? (name :: names) = (es.lookup name).bind (content? names) := by
  rw [content?, at?]
  cases es.lookup name <;> rfl

/-- Below a node that is no directory there is no file. -/
theorem content?_cons_of_not_directory (h : ∀ es, node ≠ directory es) (names : List Text) :
    node.content? (name :: names) = none := by
  cases node with
  | file content => rfl
  | device content => rfl
  | directory es => exact absurd rfl (h es)

/-- A file that is put into a directory, in place of no directory, stands at its names, and every
other file is as it was. -/
theorem content?_put_file {init : List Text} {tree : FileNode}
    (hdir : tree.at? init = some (directory es))
    (hplace : ∀ es', es.lookup name ≠ some (directory es')) (other : List Text) :
    (put (file content) (init ++ [name]) tree).content? other =
      if other = init ++ [name] then some content else tree.content? other := by
  induction init generalizing tree other with
  | nil =>
    obtain rfl : tree = directory es := Option.some.inj hdir
    have hput : put (file content) ([] ++ [name]) (directory es) =
        directory (setEntry name (file content) es) := rfl
    cases other with
    | nil => rfl
    | cons n names =>
      rw [hput, content?_directory_cons, lookup_setEntry, content?_directory_cons]
      by_cases hn : n = name
      · subst hn
        rw [if_pos rfl, Option.bind_some]
        cases names with
        | nil => rw [List.nil_append, if_pos rfl]; rfl
        | cons m names =>
          -- What stood at the name was no directory, so nothing was below it either.
          have hbelow : (es.lookup n).bind (content? (m :: names)) = none := by
            cases hl : es.lookup n with
            | none => rfl
            | some node =>
              exact content?_cons_of_not_directory (fun es' he => hplace es' (he ▸ hl)) names
          have hfile : ∀ es', file content ≠ directory es' := by
            rintro es' ⟨⟩
          rw [if_neg (by simp), hbelow, content?_cons_of_not_directory hfile]
      · rw [if_neg hn, if_neg (by simp [hn])]
  | cons d init ih =>
    cases tree with
    | file content => cases hdir
    | device content => cases hdir
    | directory es₀ =>
      obtain ⟨node, hnode, hinit⟩ := Option.bind_eq_some_iff.1 hdir
      have hput : put (file content) (d :: init ++ [name]) (directory es₀) =
          directory (setEntry d (put (file content) (init ++ [name]) node) es₀) := by
        rw [List.cons_append, put, entryOr, entries, hnode, Option.getD_some]
      cases other with
      | nil => rfl
      | cons n names =>
        rw [hput, content?_directory_cons, lookup_setEntry, content?_directory_cons]
        by_cases hn : n = d
        · subst hn
          rw [if_pos rfl, Option.bind_some, ih hinit, hnode, Option.bind_some]
          simp
        · rw [if_neg hn, if_neg (by simp [hn])]

end FileNode

/-! ## Writing -/

namespace FileSystem

variable {fs : FileSystem} {path text : Text} {place names cs : List Text} {name : Text}
  {es : List (Text × FileNode)}

/-- A text that goes to a file goes to an entry of the directory which is none itself. -/
theorem ne_directory_of_targetIn (h : fs.targetIn place es name = .ok (.file names)) :
    names = place ++ [name] ∧ ∀ es', es.lookup name ≠ some (.directory es') := by
  rw [targetIn] at h
  split at h
  · cases h
  · split at h
    case h_1 => cases h
    case h_2 => split at h <;> cases h
    case h_3 hplace _ => exact ⟨(Target.file.inj (Except.ok.inj h)).symm, hplace⟩

/-- A file that is written to stands in a directory, in place of no directory. -/
theorem exists_directory_of_target (h : fs.target path = .ok (.file names)) :
    ∃ place name es, names = place ++ [name] ∧ fs.root.at? place = some (.directory es) ∧
      ∀ es', es.lookup name ≠ some (.directory es') := by
  rw [target] at h
  cases hstart : fs.start path with
  | error e => rw [hstart] at h; cases h
  | ok start =>
    obtain ⟨begin, cs⟩ := start
    rw [hstart] at h
    simp only [bind, Except.bind] at h
    split at h
    · cases hfollow : fs.follow begin (cs.reverse.dropWhile (· = [])).reverse with
      | error e => rw [hfollow] at h; cases h
      | ok place => rw [hfollow] at h; cases h
    · cases hfollow : fs.follow begin (cs.reverse.dropWhile (· = [])).tail.reverse with
      | error e => rw [hfollow] at h; cases h
      | ok place =>
        rw [hfollow] at h
        simp only at h
        split at h
        case h_1 es hdir =>
          split at h
          · cases h
          · obtain ⟨hnames, hplace⟩ := ne_directory_of_targetIn h
            exact ⟨place, _, es, hnames, hdir, hplace⟩
        case h_2 => cases h
        case h_3 => cases h

/-- Writing to a file gives it the text and leaves every other file as it was. -/
theorem content?_write (h : fs.target path = .ok (.file names)) (text : Text) (other : List Text) :
    (fs.write path text).root.content? other =
      if other = names then some (bytes text) else fs.root.content? other := by
  obtain ⟨place, name, es, rfl, hdir, hplace⟩ := exists_directory_of_target h
  rw [write, h]
  exact FileNode.content?_put_file hdir hplace other

/-- A text that goes to no file changes nothing. -/
theorem write_eq_self (h : ∀ names, fs.target path ≠ .ok (.file names)) (text : Text) :
    fs.write path text = fs := by
  unfold write
  split
  case h_1 names hfile => exact absurd hfile (h names)
  case h_2 => rfl

/-! ## Following a path -/

theorem follow_append (fs : FileSystem) (place cs cs' : List Text) :
    fs.follow place (cs ++ cs') = fs.follow place cs >>= (fs.follow · cs') :=
  List.foldlM_append

/-- Components that lead to a directory when those that say nothing are left out lead to it as they
are. -/
theorem follow_of_at? (hnames : ∀ c ∈ cs, c ≠ ".." ∧ Path.isLongName c = false)
    (h : fs.root.at? (place ++ cs.filter fun c => c ≠ [] ∧ c ≠ ".") = some (.directory es)) :
    fs.follow place cs = .ok (place ++ cs.filter fun c => c ≠ [] ∧ c ≠ ".") := by
  induction cs generalizing place with
  | nil => exact congrArg Except.ok (List.append_nil place).symm
  | cons c cs ih =>
    obtain ⟨⟨hup, hlong⟩, hnames⟩ := List.forall_mem_cons.1 hnames
    obtain ⟨es', hplace⟩ := FileNode.exists_directory_of_at?_append h
    by_cases hc : c = [] ∨ c = "."
    · have hdrop : (c :: cs).filter (fun c => c ≠ [] ∧ c ≠ ".") =
          cs.filter fun c => c ≠ [] ∧ c ≠ "." :=
        List.filter_cons_of_neg (by simpa [or_iff_not_imp_left] using hc)
      have henter : fs.enter place c = .ok place := by
        rw [enter, hplace]
        simp only [if_pos hc]
      rw [hdrop] at h ⊢
      rw [follow, List.foldlM_cons, henter]
      exact ih hnames h
    · have hkeep : (c :: cs).filter (fun c => c ≠ [] ∧ c ≠ ".") =
          c :: cs.filter fun c => c ≠ [] ∧ c ≠ "." :=
        List.filter_cons_of_pos (by simpa [not_or] using hc)
      rw [hkeep, List.append_cons] at h ⊢
      obtain ⟨es'', hentry⟩ := FileNode.exists_directory_of_at?_append h
      have henter : fs.enter place c = .ok (place ++ [c]) := by
        rw [FileNode.at?_append, hplace] at hentry
        have hlookup : (es'.lookup c).isSome := by
          cases hl : es'.lookup c with
          | some node => rfl
          | none =>
            rw [Option.bind_some, FileNode.at?, hl] at hentry
            cases hentry
        rw [enter, hplace]
        simp only [if_neg hc, if_neg hup, hlong, hlookup, if_true, Bool.false_eq_true, if_false]
      rw [follow, List.foldlM_cons, henter]
      exact ih hnames h

/-! ## Paths behind that of the working directory -/

/-- The path of the working directory leads to it from the root. -/
def IsReachable (fs : FileSystem) : Prop :=
  ∃ rest, fs.directory = '/' :: rest ∧ fs.follow [] (splitOn '/' rest) = .ok fs.working

/-- A path behind that of the working directory begins at the root and has come to the working
directory, where the path itself begins, when its own components are due. -/
theorem IsReachable.exists_start (hfs : fs.IsReachable) (hpath : path ≠ [])
    (hrelative : path.head? ≠ some '/')
    (hlong : Path.isLong (fs.directory ++ '/' :: path) = false) :
    ∃ cs, fs.start (fs.directory ++ '/' :: path) = .ok ([], cs ++ splitOn '/' path) ∧
      fs.start path = .ok (fs.working, splitOn '/' path) ∧
      ∀ cs', fs.follow [] (cs ++ cs') = fs.follow fs.working cs' := by
  obtain ⟨rest, hrest, hfollow⟩ := hfs
  have hshort : Path.isLong path = false := by
    rw [Path.isLong, decide_eq_false_iff_not] at hlong ⊢
    rw [bytes, List.flatMap_append, List.flatMap_cons, List.length_append, List.length_append]
      at hlong
    exact fun hpathLong => hlong (Nat.lt_of_lt_of_le hpathLong (by rw [bytes]; omega))
  refine ⟨splitOn '/' rest, ?_, ?_, fun cs' => ?_⟩
  · unfold start
    rw [hlong, if_neg Bool.false_ne_true, hrest, List.cons_append]
    exact congrArg (fun cs => Except.ok ([], cs)) (splitOn_append_cons_self '/' rest path)
  · unfold start
    rw [hshort, if_neg Bool.false_ne_true]
    split
    case h_1 => exact absurd rfl hpath
    case h_2 => exact absurd rfl hrelative
    case h_3 => rfl
  · rw [follow_append, hfollow]
    rfl

/-- Behind the path of the working directory, a path leads where it leads by itself. -/
theorem find_absolute (hfs : fs.IsReachable) (hpath : path ≠ []) (hrelative : path.head? ≠ some '/')
    (hlong : Path.isLong (fs.directory ++ '/' :: path) = false) :
    fs.find (fs.directory ++ '/' :: path) = fs.find path := by
  obtain ⟨cs, habsolute, hstart, hfollow⟩ := hfs.exists_start hpath hrelative hlong
  rw [find, find, habsolute, hstart]
  simp only [bind, Except.bind, hfollow]

/-- Behind the path of the working directory, what is written to a path goes where it goes by
itself. -/
theorem target_absolute (hfs : fs.IsReachable) (hpath : path ≠ [])
    (hrelative : path.head? ≠ some '/')
    (hlong : Path.isLong (fs.directory ++ '/' :: path) = false) :
    fs.target (fs.directory ++ '/' :: path) = fs.target path := by
  obtain ⟨cs, habsolute, hstart, hfollow⟩ := hfs.exists_start hpath hrelative hlong
  have hproper : ∃ c ∈ splitOn '/' path, c ≠ [] := by
    obtain ⟨c, rest, rfl⟩ := List.exists_cons_of_ne_nil hpath
    exact exists_mem_splitOn_ne_nil.2
      ⟨c, List.mem_cons_self, fun hc => hrelative (congrArg some hc)⟩
  -- So the empty components at the end are those of the path itself.
  obtain ⟨name, init, hclosed⟩ : ∃ name init,
      (splitOn '/' path).reverse.dropWhile (· = []) = name :: init := by
    refine List.exists_cons_of_ne_nil fun hnil => ?_
    obtain ⟨c, hc, hne⟩ := hproper
    exact hne (of_decide_eq_true (List.dropWhile_eq_nil_iff.1 hnil c (List.mem_reverse.2 hc)))
  have hclosed' : (cs ++ splitOn '/' path).reverse.dropWhile (· = []) =
      name :: (init ++ cs.reverse) := by
    rw [List.reverse_append, List.dropWhile_append, hclosed]
    rfl
  have hlast : (cs ++ splitOn '/' path).getLast? = (splitOn '/' path).getLast? :=
    List.getLast?_append_of_ne_nil _ fun hnil => by
      obtain ⟨c, hc, -⟩ := hproper
      rw [hnil] at hc
      cases hc
  have hreverse (rest : List Text) : (rest ++ cs.reverse).reverse = cs ++ rest.reverse := by
    rw [List.reverse_append, List.reverse_reverse]
  have hwhole : (name :: (init ++ cs.reverse)).reverse = cs ++ (name :: init).reverse :=
    hreverse (name :: init)
  rw [target, target, habsolute, hstart]
  simp only [bind, Except.bind, hclosed, hclosed', hlast, List.headD_cons, List.tail_cons, hwhole,
    hreverse, hfollow]

/-- A tree that a system was built around is its working directory. -/
theorem tree_around (tree : FileNode) (stdin : Bytes) (directory : Text) :
    (around tree stdin directory).tree = tree := by
  rw [FileSystem.tree, around, working, FileNode.at?_put]
  rfl

/-- The path of the working directory leads to a tree that a system is built around, if it goes
through names only. -/
theorem isReachable_around (es : List (Text × FileNode)) (stdin : Bytes) {rest : Text}
    (h : ∀ c ∈ splitOn '/' rest, c ≠ ".." ∧ Path.isLongName c = false) :
    (around (.directory es) stdin ('/' :: rest)).IsReachable := by
  have hworking : Path.components ('/' :: rest) =
      [] ++ (splitOn '/' rest).filter fun c => c ≠ [] ∧ c ≠ "." := by
    have hsplit : splitOn '/' ('/' :: rest) = [] :: splitOn '/' rest :=
      splitOn_append_cons_self '/' [] rest
    rw [Path.components, hsplit]
    rfl
  refine ⟨rest, rfl, ?_⟩
  rw [working, around, hworking]
  exact follow_of_at? h (FileNode.at?_put _ _ _)

example :
    let fs := around (.directory [("src", .directory [])]) [] "/home/work"
    fs.target "src/../../work/out" = .ok (.file ["home", "work", "out"]) ∧
      fs.target "/dev/stdout" = .ok .stdout := by decide +kernel

end FileSystem

end StylusSurvey
