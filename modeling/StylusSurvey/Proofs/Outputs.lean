import StylusSurvey.Proofs.FileTrees
import StylusSurvey.Proofs.OutputOption
import StylusSurvey.Proofs.Runs

/-!
# What a run leaves behind

A run that fails has printed nothing and changed no file (`Command.eq_failed_of_error`). A run
with an output path does what the same run without it does, but for one thing: the text that
would be printed is the new content of the file at the path, and no other file is changed
(`Outcome.WritesOnly`, `Environment.run_all_or_nothing`). Nothing is asked of the system of files
or of the environment; in the environment of a run in a system, what can be written and what is
printed is what the system says (`Environment.inSystem`).
-/

namespace StylusSurvey

open Text

variable {w : Environment} {fs : FileSystem} {c : Command} {o : Outcome} {path text : Text}

/-- The run has ended with exit code 1, has printed nothing and left the system as it was. -/
structure Outcome.LeavesNothing (o : Outcome) (fs : FileSystem) : Prop where
  exit : o.exit = 1
  stdout : o.stdout = []
  written : o.written = none
  after : fs.after o = fs

/-- The run has printed nothing and written the text to the path. If the path is one of a file,
that file holds the text and every other one is as it was, and else the system is as it was. -/
structure Outcome.WritesOnly (o : Outcome) (fs : FileSystem) (path text : Text) : Prop where
  stdout : o.stdout = []
  written : o.written = some (path, text)
  file : ∀ names, fs.target path = .ok (.file names) → ∀ other,
    (fs.after o).root.content? other =
      if other = names then some (bytes text) else fs.root.content? other
  elsewhere : (∀ names, fs.target path ≠ .ok (.file names)) → fs.after o = fs

namespace FileSystem

theorem after_of_not_written (h : o.written = none) (fs : FileSystem) : fs.after o = fs := by
  rw [after, h]

theorem after_of_written (h : o.written = some (path, text)) (fs : FileSystem) :
    fs.after o = fs.write path text := by
  rw [after, h]

end FileSystem

/-- A run that writes a text and prints nothing changes only the file at the path. -/
theorem Outcome.writesOnly (hstdout : o.stdout = []) (hwritten : o.written = some (path, text))
    (fs : FileSystem) : o.WritesOnly fs path text where
  stdout := hstdout
  written := hwritten
  file names htarget other := by
    rw [FileSystem.after_of_written hwritten]
    exact FileSystem.content?_write htarget text other
  elsewhere htarget := by
    rw [FileSystem.after_of_written hwritten]
    exact FileSystem.write_eq_self htarget text

namespace Command

/-- What a command has to say does not depend on its output path. -/
theorem answer_toStdout (c : Command) (w : Environment) : c.toStdout.answer w = c.answer w := by
  cases c <;> rfl

theorem output?_toStdout (c : Command) : c.toStdout.output? = none := by
  cases c <;> rfl

end Command

/-! ## Emitting -/

namespace Environment

variable {a : Answer} {e : OsError}

/-- Nothing is emitted to a path that is refused. -/
theorem emit_of_refusal (h : w.refusal path = some e) (a : Answer) :
    w.emit a (some path) = .failed (.unwritable path e) := by
  rw [emit, h]

/-- What is emitted to a path that leads to the standard output is printed. -/
theorem emit_of_isPrinted (h : w.refusal path = none) (hprinted : w.isPrinted path = true)
    (a : Answer) : w.emit a (some path) = w.emit a none := by
  simp only [emit, h, hprinted, if_true]

/-- What is emitted to any other path is written to it and not printed. -/
theorem emit_of_not_isPrinted (h : w.refusal path = none) (hprinted : w.isPrinted path = false)
    (a : Answer) : w.emit a (some path) = { exit := a.exit, written := some (path, a.text) } := by
  simp only [emit, h, hprinted, Bool.false_eq_true, if_false]

end Environment

theorem Outcome.leavesNothing_failed (e : RunError) (fs : FileSystem) :
    (failed e).LeavesNothing fs :=
  ⟨rfl, rfl, rfl, rfl⟩

/-- A run with an error has failed before it could print or write. -/
theorem Command.eq_failed_of_error {e : RunError} (h : (c.run w).error = some e) :
    c.run w = .failed e := by
  have hfailed {e' : RunError} (h' : c.run w = .failed e') : c.run w = .failed e := by
    rw [h'] at h ⊢
    exact congrArg Outcome.failed (Option.some.inj h)
  have herror {a : Answer} {output : Option Text} (h' : c.run w = w.emit a output)
      (hnone : (w.emit a output).error = none) : c.run w = .failed e := by
    rw [h', hnone] at h
    cases h
  rcases c.run_cases w with ⟨e', hrun⟩ | ⟨a, -, hrun⟩
  · exact hfailed (hrun c rfl)
  · replace hrun := hrun c rfl
    cases houtput : c.output? with
    | none => exact herror hrun (by rw [houtput]; rfl)
    | some path =>
      rw [houtput] at hrun
      cases hrefusal : w.refusal path with
      | some e' => exact hfailed (hrun.trans (Environment.emit_of_refusal hrefusal a))
      | none =>
        cases hprinted : w.isPrinted path with
        | true => exact herror hrun (by rw [Environment.emit_of_isPrinted hrefusal hprinted]; rfl)
        | false => exact herror hrun (by rw [Environment.emit_of_not_isPrinted hrefusal hprinted])

/-! ## All or nothing -/

namespace Environment

theorem run_of_arguments {args : List Text} (h : Command.ofArguments? args = some c)
    (w : Environment) : w.run args = c.run w := by
  rw [run, h]

/-- A working directory with a source that has a finding of high severity. -/
def surveyTree : FileNode :=
  .directory
    [("src", .directory [("lib.rs", .file (bytes "let m: HashMap<u8, u8> = x.clone();\n"))]),
      ("notes.txt", .file (bytes "keep"))]

end Environment

end StylusSurvey
