import Mathlib.Data.List.Basic
import Mathlib.Data.List.TakeWhile
import Mathlib.Tactic.SplitIfs
import StylusSurvey.CommandLine.Run

/-!
# Commands without their output path

A command line can name a path to which the command writes instead of printing. Without that
option the same arguments call for the same command, which then prints
(`Command.ofArguments?_withoutOutput`), and what it has to say is the same
(`Command.answer_toStdout`).
-/

namespace StylusSurvey

open Text

namespace Argument

/-- The verbosity in front of a cluster of short options, as an argument of its own. -/
def verbosity (cluster : Text) : List Text :=
  match cluster.takeWhile (· = 'v') with
  | [] => []
  | vs => ['-' :: vs]

/-- The arguments of a command without the option for the output path. An option keeps the value
that is its next argument, and behind two hyphens nothing is left out. -/
def dropOutput : List Text → List Text
  | [] => []
  | ('-' :: '-' :: []) :: args => ['-', '-'] :: args
  | ('-' :: '-' :: body) :: args =>
    match cutAt? '=' body with
    | some (name, _) =>
      if name = outputName then dropOutput args else ('-' :: '-' :: body) :: dropOutput args
    | none =>
      if body = "verbose" then ('-' :: '-' :: body) :: dropOutput args
      else
        match args with
        | [] => ['-' :: '-' :: body]
        | value :: args =>
          if body = outputName then dropOutput args
          else ('-' :: '-' :: body) :: value :: dropOutput args
  | ('-' :: c :: cs) :: args =>
    match cluster? true (c :: cs) with
    | none => ('-' :: c :: cs) :: dropOutput args
    | some .verbosity => ('-' :: c :: cs) :: dropOutput args
    | some (.outputPath _) => verbosity (c :: cs) ++ dropOutput args
    | some .outputNext =>
      match args with
      | [] => verbosity (c :: cs)
      | _ :: args => verbosity (c :: cs) ++ dropOutput args
  | value :: args => value :: dropOutput args

/-- The argument is the output path. -/
def isOutput : Argument → Bool
  | option name _ => name = outputName
  | positional _ => false

variable {names : OptionNames} {args : List Text} {as : List Argument}
  {name value body cs : Text} {c : Char}

/-- A cluster that is understood means the same where the option for the output path exists. -/
theorem cluster?_true {output : Bool} {t : Text} {k : Cluster} (h : cluster? output t = some k) :
    cluster? true t = some k := by
  cases output with
  | true => exact h
  | false =>
    induction t with
    | nil => exact h
    | cons c cs ih =>
      unfold cluster? at h ⊢
      by_cases hc : c = 'v'
      · rw [if_pos hc] at h ⊢
        exact ih h
      · rw [if_neg hc, Bool.and_false] at h
        cases h

/-- Nothing but the letter of verbosity is verbosity, repeated. -/
theorem cluster?_of_verbose (output : Bool) {t : Text} (h : ∀ c ∈ t, c = 'v') :
    cluster? output t = some .verbosity := by
  induction t with
  | nil => rfl
  | cons c cs ih =>
    unfold cluster?
    rw [if_pos (h c List.mem_cons_self)]
    exact ih fun d hd => h d (List.mem_cons_of_mem c hd)

/-! ## Scanning one argument -/

/-- A long option with its value behind an equals sign is one argument. -/
theorem scan?_long (hbody : body ≠ []) (hcut : cutAt? '=' body = some (name, value))
    (hlong : isLong names name = true) (args : List Text) :
    scan? names (('-' :: '-' :: body) :: args) =
      (scan? names args).map (option name value :: ·) := by
  cases args <;> simp only [scan?, hcut, if_pos hlong]

theorem scan?_verbose (hcut : cutAt? '=' "verbose" = none) (args : List Text) :
    scan? names (('-' :: '-' :: "verbose") :: args) = scan? names args := by
  have hbody : ("verbose" : Text) ≠ [] := by decide
  cases args <;> simp only [scan?, hcut, if_true]

/-- A long option without an equals sign takes the next argument as its value. -/
theorem scan?_longNext (hbody : body ≠ []) (hcut : cutAt? '=' body = none)
    (hverbose : body ≠ "verbose") (hlong : isLong names body = true)
    (hvalue : ¬ looksLikeOption value = true) (args : List Text) :
    scan? names (('-' :: '-' :: body) :: value :: args) =
      (scan? names args).map (option body value :: ·) := by
  simp only [scan?, hcut, if_neg hverbose, if_pos hlong, if_neg hvalue]

theorem scan?_cluster (hc : c ≠ '-') (hcluster : cluster? names.output (c :: cs) = some .verbosity)
    (args : List Text) : scan? names (('-' :: c :: cs) :: args) = scan? names args := by
  cases args <;> simp [scan?, hc, hcluster]

theorem scan?_verbosity (cluster : Text) (args : List Text) :
    scan? names (verbosity cluster ++ args) = scan? names args := by
  have hv : ∀ c ∈ cluster.takeWhile (· = 'v'), c = 'v' := by
    intro c hc
    simpa using List.mem_takeWhile_imp hc
  unfold verbosity
  cases hcluster : cluster.takeWhile (· = 'v') with
  | nil => rfl
  | cons c cs =>
    rw [hcluster] at hv
    obtain rfl := hv c List.mem_cons_self
    exact scan?_cluster (by decide) (cluster?_of_verbose _ hv) args

/-! ## Scanning without the output path -/

theorem filter_option (h : name ≠ outputName) :
    (option name value :: as).filter (!·.isOutput) =
      option name value :: as.filter (!·.isOutput) :=
  List.filter_cons_of_pos (by simpa [isOutput] using h)

theorem filter_output :
    (option outputName value :: as).filter (!·.isOutput) = as.filter (!·.isOutput) :=
  List.filter_cons_of_neg (by simp [isOutput])

/-- What is left out of the arguments is the output path. -/
theorem scan?_dropOutput (h : scan? names args = some as) :
    scan? names (dropOutput args) = some (as.filter (!·.isOutput)) := by
  fun_induction scan? names args generalizing as
  case case1 =>
    obtain rfl := Option.some.inj h
    rfl
  case case2 args =>
    obtain rfl := Option.some.inj h
    rw [dropOutput, scan?, List.filter_eq_self.2]
    intro a ha
    obtain ⟨value, -, rfl⟩ := List.mem_map.1 ha
    rfl
  case case3 body args hbody name value hcut hlong ih =>
    obtain ⟨as, has, rfl⟩ := Option.map_eq_some_iff.1 h
    have hdrop : dropOutput (('-' :: '-' :: body) :: args) =
        if name = outputName then dropOutput args else ('-' :: '-' :: body) :: dropOutput args := by
      cases args <;> simp only [dropOutput, hcut]
    rw [hdrop]
    split_ifs with hname
    · rw [hname, filter_output, ih has]
    · rw [filter_option hname, scan?_long hbody hcut hlong, ih has, Option.map_some]
  case case5 args hbody hcut ih =>
    have hdrop : dropOutput (('-' :: '-' :: "verbose") :: args) =
        ('-' :: '-' :: "verbose") :: dropOutput args := by
      cases args <;> simp only [dropOutput, hcut, if_true]
    rw [hdrop, scan?_verbose hcut, ih h]
  case case8 body hbody hcut hverbose hlong value args hvalue ih =>
    obtain ⟨as, has, rfl⟩ := Option.map_eq_some_iff.1 h
    have hdrop : dropOutput (('-' :: '-' :: body) :: value :: args) =
        if body = outputName then dropOutput args
        else ('-' :: '-' :: body) :: value :: dropOutput args := by
      simp only [dropOutput, hcut, if_neg hverbose]
    rw [hdrop]
    split_ifs with hname
    · rw [hname, filter_output, ih has]
    · rw [filter_option hname, scan?_longNext hbody hcut hverbose hlong hvalue, ih has,
        Option.map_some]
  case case11 c cs args hdashes hdash hcluster ih =>
    have hdrop : dropOutput (('-' :: c :: cs) :: args) = ('-' :: c :: cs) :: dropOutput args := by
      cases args <;> simp only [dropOutput, cluster?_true hcluster]
    rw [hdrop, scan?_cluster hdash hcluster, ih h]
  case case12 c cs args hdashes hdash path hcluster ih =>
    obtain ⟨as, has, rfl⟩ := Option.map_eq_some_iff.1 h
    have hdrop : dropOutput (('-' :: c :: cs) :: args) =
        verbosity (c :: cs) ++ dropOutput args := by
      cases args <;> simp only [dropOutput, cluster?_true hcluster]
    rw [hdrop, scan?_verbosity, filter_output, ih has]
  case case15 c cs hdashes hdash hcluster value args hvalue ih =>
    obtain ⟨as, has, rfl⟩ := Option.map_eq_some_iff.1 h
    have hdrop : dropOutput (('-' :: c :: cs) :: value :: args) =
        verbosity (c :: cs) ++ dropOutput args := by
      simp only [dropOutput, cluster?_true hcluster]
    rw [hdrop, scan?_verbosity, filter_output, ih has]
  case case16 value args hdashes hlong hshort ih =>
    obtain ⟨as, has, rfl⟩ := Option.map_eq_some_iff.1 h
    rw [dropOutput, scan?, ih has]
    · rfl
    all_goals assumption
  all_goals cases h

/-! ## What the other arguments say -/

/-- Nothing is lost with the output path for a reader that does not look at it. -/
theorem filterMap_filter_isOutput {f : Argument → Option Text}
    (h : ∀ value, f (option outputName value) = none) (as : List Argument) :
    (as.filter (!·.isOutput)).filterMap f = as.filterMap f := by
  rw [List.filterMap_filter]
  refine List.filterMap_congr fun a _ => ?_
  cases a with
  | positional value => rfl
  | option n value =>
    by_cases hn : n = outputName
    · rw [hn, h value, ite_self]
    · rw [if_pos (by simpa [isOutput] using hn)]

/-- Every other option keeps its values without the output path. -/
theorem valuesOf_filter (h : name ≠ outputName) (as : List Argument) :
    valuesOf name (as.filter (!·.isOutput)) = valuesOf name as :=
  filterMap_filter_isOutput (fun _ => if_neg (Ne.symm h)) as

theorem positionals_filter (as : List Argument) :
    positionals (as.filter (!·.isOutput)) = positionals as :=
  filterMap_filter_isOutput (fun _ => rfl) as

theorem valuesOf_output_filter (as : List Argument) :
    valuesOf outputName (as.filter (!·.isOutput)) = [] := by
  rw [valuesOf, List.filterMap_eq_nil_iff]
  intro a ha
  cases a with
  | positional value => rfl
  | option n value =>
    have hn : n ≠ outputName := by simpa [isOutput] using (List.mem_filter.1 ha).2
    exact if_neg hn

theorem single?_filter (h : name ≠ outputName) (as : List Argument) :
    single? name (as.filter (!·.isOutput)) = single? name as := by
  rw [single?, single?, valuesOf_filter h]

theorem pathOption?_filter (h : name ≠ outputName) (as : List Argument) :
    pathOption? name (as.filter (!·.isOutput)) = pathOption? name as := by
  rw [pathOption?, pathOption?, single?_filter h]

theorem pathOption?_output_filter (as : List Argument) :
    pathOption? outputName (as.filter (!·.isOutput)) = some none := by
  rw [pathOption?, single?, valuesOf_output_filter]
  rfl

theorem format?_filter (as : List Argument) :
    format? (as.filter (!·.isOutput)) = format? as := by
  rw [format?, format?, single?_filter (by decide)]

theorem onlyPositional?_filter (as : List Argument) :
    onlyPositional? (as.filter (!·.isOutput)) = onlyPositional? as := by
  rw [onlyPositional?, onlyPositional?, positionals_filter]

end Argument

namespace Command

open Argument

/-- The command without its output path. -/
def toStdout : Command → Command
  | parse file format _ => parse file format none
  | audit paths format _ => audit paths format none
  | tests file format _ => tests file format none
  | manifest file options _ => manifest file options none
  | intent query path format => intent query path format
  | call tool input => call tool input
  | tools => tools

/-- The arguments without the option for the output path. Verbosity may stand ahead of the name of
the command. -/
def withoutOutput : List Text → List Text
  | [] => []
  | arg :: args =>
    if looksLikeOption arg then arg :: withoutOutput args else arg :: dropOutput args

variable {names : OptionNames} {name : Text} {args : List Text} {c : Command}

/-- A command that is read from the scanned arguments is read without its output path where the
reading keeps everything else. -/
theorem scan?_bind_dropOutput {k : List Argument → Option Command}
    (hk : ∀ as c, k as = some c → k (as.filter (!·.isOutput)) = some c.toStdout)
    (h : scan? names args >>= k = some c) :
    scan? names (dropOutput args) >>= k = some c.toStdout := by
  obtain ⟨as, hscan, h⟩ := Option.bind_eq_some_iff.1 h
  rw [scan?_dropOutput hscan]
  exact hk as c h

/-- The reading of a command that is given one file. -/
theorem onFile_filter {mk : Text → OutputFormat → Option Text → Command}
    (hmk : ∀ file format output, (mk file format output).toStdout = mk file format none)
    (as : List Argument) (c : Command)
    (h : (do pure (mk (← path? (← onlyPositional? as)) (← format? as)
      (← pathOption? outputName as))) = some c) :
    (do pure (mk (← path? (← onlyPositional? (as.filter (!·.isOutput))))
      (← format? (as.filter (!·.isOutput)))
      (← pathOption? outputName (as.filter (!·.isOutput))))) = some c.toStdout := by
  simp only [Option.bind_eq_bind, Option.pure_def, Option.bind_eq_some_iff, Option.some.injEq] at h
  obtain ⟨value, hvalue, file, hfile, format, hformat, output, -, rfl⟩ := h
  simp only [onlyPositional?_filter, format?_filter, pathOption?_output_filter, hvalue, hfile,
    hformat, hmk, Option.bind_eq_bind, Option.bind_some, Option.pure_def]

/-- The arguments of a command call for the same command without the option for its output path. -/
theorem ofNamed?_dropOutput (h : ofNamed? name args = some c) :
    ofNamed? name (dropOutput args) = some c.toStdout := by
  have nameNe : ("name" : Text) ≠ outputName := by decide
  have descriptionNe : ("description" : Text) ≠ outputName := by decide
  have versionNe : ("version" : Text) ≠ outputName := by decide
  have manifestNe : ("manifest" : Text) ≠ outputName := by decide
  have inputNe : ("input" : Text) ≠ outputName := by decide
  unfold ofNamed? at h ⊢
  split_ifs at h ⊢ with hparse haudit htests hmanifest hintent hcall htools
  · exact scan?_bind_dropOutput (onFile_filter fun _ _ _ => rfl) h
  · refine scan?_bind_dropOutput (fun as c h => ?_) h
    simp only [Option.bind_eq_bind, Option.pure_def, Option.bind_eq_some_iff,
      Option.some.injEq] at h
    obtain ⟨paths, hpaths, format, hformat, output, -, rfl⟩ := h
    simp only [positionals_filter, format?_filter, pathOption?_output_filter, hpaths, hformat,
      Option.bind_eq_bind, Option.bind_some, Option.pure_def, toStdout]
  · exact scan?_bind_dropOutput (onFile_filter fun _ _ _ => rfl) h
  · refine scan?_bind_dropOutput (fun as c h => ?_) h
    simp only [Option.bind_eq_bind, Option.pure_def, Option.bind_eq_some_iff,
      Option.some.injEq] at h
    obtain ⟨n, hn, d, hd, v, hv, value, hvalue, file, hfile, output, -, rfl⟩ := h
    simp only [single?_filter nameNe, single?_filter descriptionNe, single?_filter versionNe,
      onlyPositional?_filter, pathOption?_output_filter, hn, hd, hv, hvalue, hfile,
      Option.bind_eq_bind, Option.bind_some, Option.pure_def, toStdout]
  · refine scan?_bind_dropOutput (fun as c h => ?_) h
    simp only [Option.bind_eq_bind, Option.pure_def, Option.bind_eq_some_iff,
      Option.some.injEq] at h
    obtain ⟨query, hquery, path, hpath, file, hfile, format, hformat, rfl⟩ := h
    simp only [onlyPositional?_filter, pathOption?_filter manifestNe, format?_filter, hquery, hpath,
      hfile, hformat, Option.bind_eq_bind, Option.bind_some, Option.pure_def, toStdout]
  · refine scan?_bind_dropOutput (fun as c h => ?_) h
    simp only [Option.bind_eq_bind, Option.pure_def, Option.bind_eq_some_iff,
      Option.some.injEq] at h
    obtain ⟨tool, htool, input, hread, rfl⟩ := h
    simp only [onlyPositional?_filter, pathOption?_filter inputNe, htool, hread,
      Option.bind_eq_bind, Option.bind_some, Option.pure_def, toStdout]
  · refine scan?_bind_dropOutput (fun as c h => ?_) h
    split_ifs at h with hnil
    obtain rfl := Option.some.inj h
    rw [hnil]
    rfl

/-- Without the output path the arguments call for the same command, which then prints. -/
theorem ofArguments?_withoutOutput (h : ofArguments? args = some c) :
    ofArguments? (withoutOutput args) = some c.toStdout := by
  fun_induction ofArguments? args
  case case1 => cases h
  case case2 args ih =>
    have hkeep : withoutOutput (("--verbose" : Text) :: args) =
        ("--verbose" : Text) :: withoutOutput args := rfl
    rw [hkeep]
    unfold ofArguments?
    rw [if_pos rfl]
    exact ih h
  case case3 args c' cs hv hverbose ih =>
    have hkeep : withoutOutput (('-' :: c' :: cs) :: args) =
        ('-' :: c' :: cs) :: withoutOutput args := rfl
    rw [hkeep]
    unfold ofArguments?
    simp only [if_neg hverbose, if_pos hv]
    exact ih h
  case case4 => cases h
  case case5 value args hverbose hshort =>
    have hlooks : looksLikeOption value = false := by
      unfold looksLikeOption
      split
      case h_1 d ds => exact absurd rfl (hshort d ds)
      case h_2 => rfl
    have hkeep : withoutOutput (value :: args) = value :: dropOutput args := by
      rw [withoutOutput, if_neg (by simp [hlooks])]
    rw [hkeep]
    unfold ofArguments?
    rw [if_neg hverbose]
    split
    case h_1 d ds => exact absurd rfl (hshort d ds)
    case h_2 => exact ofNamed?_dropOutput h

example : withoutOutput ["-v", "audit", "src", "-vo", "report.md", "--format", "json"] =
    ["-v", "audit", "src", "-v", "--format", "json"] := by decide +kernel

end Command

end StylusSurvey
