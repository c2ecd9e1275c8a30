import StylusSurvey.CommandLine.Run
import StylusSurvey.Proofs.Bytes

/-!
# Runs

What a run reads and what becomes of its answer. A file is read as the text whose bytes it holds
(`Environment.Holds.read_eq`). A run fails or emits its answer as a whole (`Command.run_cases`),
so one without an error has an answer, ends with its exit code, and has printed its text or
written it to a file (`Command.exists_answer`).
-/

namespace StylusSurvey

open Text

variable {w : Environment} {path text : Text} {c : Command}

/-! ## Reading -/

/-- The path stands for a file with the text, or for a standard input with it. -/
def Environment.Holds (w : Environment) (path text : Text) : Prop :=
  if isStdin path then w.stdin = bytes text else w.node path = .ok (.file (bytes text))

/-- A path that holds a text is read as it. -/
theorem Environment.Holds.read_eq (h : w.Holds path text) : w.read path = .ok text := by
  have htext : ofBytes? (bytes text) = some text := ofBytes?_eq_some_iff.2 rfl
  rw [Holds] at h
  rw [Environment.read]
  split at h
  case isTrue hstdin => rw [if_pos hstdin, h, htext]
  case isFalse hstdin =>
    rw [if_neg hstdin, Environment.readFile, h]
    simp only [Environment.readFile.decoded, htext]

/-- An environment in which every path stands for a file with the text. -/
def Environment.ofText (text : Text) : Environment where
  node _ := .ok (.file (bytes text))
  refusal _ := none
  isPrinted _ := false
  stdin := []
  directory := "/"
  tree := .empty
  logFilter := none

/-! ## Answers -/

/-- What a run without an error prints, or writes to a file. -/
def Outcome.emitted? (o : Outcome) : Option Text :=
  match o.error, o.written with
  | some _, _ => none
  | none, some (_, text) => some text
  | none, none => some o.stdout

/-- A run that emits a text has not failed. -/
theorem Outcome.error_eq_none_of_emitted {o : Outcome} (h : o.emitted? = some text) :
    o.error = none := by
  cases ho : o.error with
  | none => rfl
  | some e =>
    rw [emitted?, ho] at h
    exact absurd h (by simp)

/-- An answer that is emitted without an error is emitted as a whole. -/
theorem Environment.emit_of_error_eq_none {a : Answer} {output : Option Text}
    (h : (w.emit a output).error = none) :
    (w.emit a output).exit = a.exit ∧ (w.emit a output).emitted? = some a.text := by
  cases output with
  | none => exact ⟨rfl, rfl⟩
  | some target =>
    simp only [Environment.emit] at h ⊢
    split at h
    case h_1 => exact absurd h (by simp [Outcome.failed])
    case h_2 => split <;> exact ⟨rfl, rfl⟩

/-- A run fails before anything is emitted, or emits the answer. So does the run of every command
with the same answer, whatever its output path. -/
theorem Command.run_cases (c : Command) (w : Environment) :
    (∃ e, ∀ c' : Command, c'.answer w = c.answer w → c'.run w = .failed e) ∨
      ∃ a, c.answer w = .ok a ∧
        ∀ c' : Command, c'.answer w = c.answer w → c'.run w = w.emit a c'.output? := by
  cases hfilter : LogFilter.check (w.logFilter.getD []) with
  | error fault =>
    refine .inl ⟨.invalidLogFilter fault, fun c' _ => ?_⟩
    rw [run, hfilter]
  | ok _ =>
    cases hanswer : c.answer w with
    | error e =>
      refine .inl ⟨e, fun c' hsame => ?_⟩
      rw [run, hfilter, hsame]
    | ok a =>
      refine .inr ⟨a, rfl, fun c' hsame => ?_⟩
      rw [run, hfilter, hsame]

/-- A run without an error emits the text of an answer and ends with its exit code. -/
theorem Command.exists_answer (h : (c.run w).error = none) :
    ∃ a, c.answer w = .ok a ∧ (c.run w).exit = a.exit ∧ (c.run w).emitted? = some a.text := by
  rcases c.run_cases w with ⟨e, hrun⟩ | ⟨a, hanswer, hrun⟩
  · rw [hrun c rfl] at h
    cases h
  · rw [hrun c rfl] at h ⊢
    exact ⟨a, hanswer, w.emit_of_error_eq_none h⟩

/-- What a run emits is the text of an answer. -/
theorem Command.exists_answer_of_emitted (h : (c.run w).emitted? = some text) :
    ∃ a, c.answer w = .ok a ∧ a.text = text := by
  obtain ⟨a, hanswer, -, hemitted⟩ := exists_answer (Outcome.error_eq_none_of_emitted h)
  exact ⟨a, hanswer, Option.some.inj (hemitted.symm.trans h)⟩

/-- The command succeeds, and a run of it prints the text unless the log filter is refused. -/
structure Environment.Prints (w : Environment) (c : Command) (text : Text) : Prop where
  answer : c.answer w = .ok { text }
  run : LogFilter.check (w.logFilter.getD []) = .ok () → c.run w = { exit := 0, stdout := text }

/-- A command without an output path prints its answer. -/
theorem Environment.prints_of_answer (hanswer : c.answer w = .ok { text })
    (houtput : c.output? = none) : w.Prints c text where
  answer := hanswer
  run hfilter := by
    rw [Command.run, hfilter, hanswer, houtput]
    rfl

end StylusSurvey
