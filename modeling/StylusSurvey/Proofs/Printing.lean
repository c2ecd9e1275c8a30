import StylusSurvey.Contract.Parse
import StylusSurvey.Proofs.Braces
import StylusSurvey.Proofs.Characters
import StylusSurvey.Proofs.Lines

/-!
# Contracts as they are usually written

The source text of a contract: a storage block with the struct and a line for each field,
then a marked block with the functions, each with its header on one line, the lines of its
body and a closing brace (`Contract.print`). In the text, fields and functions stand on
certain lines, so printing a contract numbers them anew (`Contract.numbered`).

`Contract.Printable` says for which contracts the text is a source that means them: names
are words, types and parameters hold no character that would end them, and the braces of
a body balance. The lines of the text are those that were printed (`Contract.lines_print`),
and each field and function stands on the line with its number
(`Contract.print_on_line`, `Contract.front_on_line`).
-/

namespace StylusSurvey

open Text

/-! ## Printing -/

/-- The parameter as written. -/
def Param.print (p : Param) : Text :=
  p.name ++ ": " ++ p.type

/-- The line that declares the field. -/
def StorageField.print (f : StorageField) : Text :=
  "        " ++ f.type ++ " " ++ f.name ++ ";"

namespace EntryPoint

/-- The receiver. -/
def receiver (f : EntryPoint) : Text :=
  if f.mutates then "&mut self" else "&self"

/-- The parameters after the receiver. -/
def laterParams (ps : List Param) : Text :=
  ps.flatMap fun p => ", " ++ p.print

/-- The return type with its arrow, unless it is the unit type. -/
def arrow (f : EntryPoint) : Text :=
  if f.returnType = unitType then [] else " -> " ++ f.returnType

/-- The first line of the function up to its brace. -/
def front (f : EntryPoint) : Text :=
  "    pub fn " ++ f.name ++ "(" ++ f.receiver ++ laterParams f.params ++ ")" ++ f.arrow ++ " "

/-- The lines of the function. -/
def printedLines (f : EntryPoint) : List Text :=
  (f.front ++ "\x7b") :: (splitOn '\n' f.body ++ (["    \x7d"] : List Text))

end EntryPoint

namespace Contract

/-- The lines of the storage block. -/
def storageLines (c : Contract) : List Text :=
  "sol_storage! \x7b" :: ("    pub struct " ++ c.name ++ " \x7b") ::
    (c.fields.map StorageField.print ++ (["    \x7d", "\x7d"] : List Text))

/-- The lines of the marked block. -/
def implLines (c : Contract) : List Text :=
  "#[public]" :: ("impl " ++ c.name ++ " \x7b") ::
    (c.functions.flatMap EntryPoint.printedLines ++ (["\x7d"] : List Text))

/-- The lines of the contract. -/
def printedLines (c : Contract) : List Text :=
  c.storageLines ++ c.implLines

/-- The source text of the contract. -/
def print (c : Contract) : Text :=
  unlines c.printedLines

end Contract

/-! ## Line numbers -/

/-- The fields on lines from number `n` on. -/
def StorageField.numbered : Nat → List StorageField → List StorageField
  | _, [] => []
  | n, f :: fs => { f with line := n } :: numbered (n + 1) fs

/-- The functions, printed on lines from number `n` on. -/
def EntryPoint.numbered : Nat → List EntryPoint → List EntryPoint
  | _, [] => []
  | n, f :: fs => { f with line := n } :: numbered (n + f.printedLines.length) fs

/-- The contract with the line numbers of its text: the first field stands on the third line, the
first function below the header of the marked block. -/
def Contract.numbered (c : Contract) : Contract where
  name := c.name
  fields := StorageField.numbered 3 c.fields
  functions := EntryPoint.numbered (c.storageLines.length + 3) c.functions

/-- Fields printed behind some lines stand on the lines with their numbers. -/
theorem StorageField.print_on_line {fs : List StorageField} {f : StorageField}
    {before : List Text} (after : List Text) (hf : f ∈ numbered (before.length + 1) fs) :
    (before ++ (fs.map print ++ after))[f.line - 1]? = some f.print := by
  induction fs generalizing before with
  | nil => cases hf
  | cons g fs ih =>
    rcases List.mem_cons.1 hf with rfl | hf
    · change (before ++ g.print :: (fs.map print ++ after))[before.length]? = some g.print
      rw [List.getElem?_append_right (Nat.le_refl _), Nat.sub_self, List.getElem?_cons_zero]
    · have hlen : (before ++ [g.print]).length = before.length + 1 := by simp
      have hline := @ih (before ++ [g.print]) (hlen ▸ hf)
      rwa [List.append_assoc, List.singleton_append, ← List.cons_append, ← List.map_cons] at hline

/-- Functions printed behind some lines begin on the lines with their numbers. -/
theorem EntryPoint.front_on_line {fs : List EntryPoint} {f : EntryPoint} {before : List Text}
    (after : List Text) (hf : f ∈ numbered (before.length + 1) fs) :
    (before ++ (fs.flatMap printedLines ++ after))[f.line - 1]? = some (f.front ++ "\x7b") := by
  induction fs generalizing before with
  | nil => cases hf
  | cons g fs ih =>
    rcases List.mem_cons.1 hf with rfl | hf
    · change (before ++ (g.front ++ "\x7b") :: _)[before.length]? = some (g.front ++ "\x7b")
      rw [List.getElem?_append_right (Nat.le_refl _), Nat.sub_self, List.getElem?_cons_zero]
    · have hlen : (before ++ g.printedLines).length + 1 =
          before.length + 1 + g.printedLines.length := by
        rw [List.length_append]
        omega
      have hline := @ih (before ++ g.printedLines) (hlen ▸ hf)
      rwa [List.append_assoc, ← List.append_assoc g.printedLines, ← List.flatMap_cons] at hline

namespace Contract

variable {c : Contract}

/-- A field is printed on the line that it names. -/
theorem print_on_line {f : StorageField} (hf : f ∈ c.numbered.fields) :
    c.printedLines[f.line - 1]? = some f.print := by
  have hlines : c.printedLines =
      ([("sol_storage! \x7b" : Text), "    pub struct " ++ c.name ++ " \x7b"] : List Text) ++
        (c.fields.map StorageField.print ++ ((["    \x7d", "\x7d"] : List Text) ++ c.implLines)) := by
    unfold printedLines storageLines
    simp only [List.cons_append, List.append_assoc, List.nil_append]
  rw [hlines]
  exact StorageField.print_on_line _ hf

/-- A function begins on the line that it names. -/
theorem front_on_line {f : EntryPoint} (hf : f ∈ c.numbered.functions) :
    c.printedLines[f.line - 1]? = some (f.front ++ "\x7b") := by
  have hlines : c.printedLines =
      (c.storageLines ++ [("#[public]" : Text), "impl " ++ c.name ++ " \x7b"]) ++
        (c.functions.flatMap EntryPoint.printedLines ++ (["\x7d"] : List Text)) := by
    unfold printedLines implLines
    simp only [List.cons_append, List.append_assoc, List.nil_append]
  have hlen : (c.storageLines ++ [("#[public]" : Text), "impl " ++ c.name ++ " \x7b"]).length + 1 =
      c.storageLines.length + 3 := by
    rw [List.length_append]
    rfl
  rw [hlines]
  exact EntryPoint.front_on_line _ (hlen ▸ hf)

end Contract

/-! ## Contracts that can be printed -/

/-- The text is a word. -/
def Text.IsName (s : Text) : Prop :=
  s ≠ [] ∧ ∀ c ∈ s, isWord c = true

/-- The text is neither empty nor surrounded by blanks, and has none of the characters. -/
def Text.IsPhrase (excluded : List Char) (s : Text) : Prop :=
  s ≠ [] ∧ trim s = s ∧ ∀ c ∈ excluded, c ∉ s

/-- The braces of the lines balance, and none is closed before it is opened on a line. -/
def BraceBalanced (ls : List Text) : Prop :=
  (∀ p, p <+: ls → 0 ≤ braceSum p) ∧ braceSum ls = 0

instance (s : Text) : Decidable (IsName s) :=
  @instDecidableAnd _ _ _ (List.decidableBAll (fun c => isWord c = true) s)

instance (excluded : List Char) (s : Text) : Decidable (IsPhrase excluded s) :=
  @instDecidableAnd _ _ _ (@instDecidableAnd _ _ _ (List.decidableBAll (fun c => c ∉ s) excluded))

instance (ls : List Text) : Decidable (BraceBalanced ls) :=
  decidable_of_iff ((∀ p ∈ ls.inits, 0 ≤ braceSum p) ∧ braceSum ls = 0)
    (by simp [BraceBalanced, List.mem_inits])

/-- Name and type hold no character that ends them. -/
structure Param.Printable (p : Param) : Prop where
  name : IsPhrase [',', ':', ')', '{', '}', '\n'] p.name
  type : IsPhrase [',', ':', ')', '{', '}', '\n'] p.type

/-- The name is a word, and the type is one of words, angle brackets, commas and blanks. -/
structure StorageField.Printable (f : StorageField) : Prop where
  name : IsName f.name
  type : IsPhrase ['\n'] f.type
  typeChars : ∀ c ∈ f.type, StorageLayout.isTypeChar c = true

/-- The name is a word, parameters and return type are as their places demand, and the body is a
trimmed text with balanced braces. -/
structure EntryPoint.Printable (f : EntryPoint) : Prop where
  name : IsName f.name
  params : ∀ p ∈ f.params, p.Printable
  returnType : IsPhrase ['{', '}', '\n'] f.returnType
  body : trim f.body = f.body
  bodyEnds : ∀ l ∈ splitOn '\n' f.body, l.getLast? ≠ some '\r'
  bodyBraces : BraceBalanced (splitOn '\n' f.body)

/-- Name, fields and functions can be printed. -/
structure Contract.Printable (c : Contract) : Prop where
  name : IsName c.name
  fields : ∀ f ∈ c.fields, f.Printable
  functions : ∀ f ∈ c.functions, f.Printable

instance (p : Param) : Decidable p.Printable :=
  decidable_of_iff
    (IsPhrase [',', ':', ')', '{', '}', '\n'] p.name ∧ IsPhrase [',', ':', ')', '{', '}', '\n'] p.type)
    ⟨fun ⟨hname, htype⟩ => ⟨hname, htype⟩, fun h => ⟨h.name, h.type⟩⟩

instance (f : StorageField) : Decidable f.Printable :=
  decidable_of_iff
    (IsName f.name ∧ IsPhrase ['\n'] f.type ∧ f.type.all StorageLayout.isTypeChar = true)
    ⟨fun ⟨hname, htype, hchars⟩ => ⟨hname, htype, List.all_eq_true.1 hchars⟩,
      fun h => ⟨h.name, h.type, List.all_eq_true.2 h.typeChars⟩⟩

instance (f : EntryPoint) : Decidable f.Printable :=
  decidable_of_iff
    ((IsName f.name ∧ (∀ p ∈ f.params, p.Printable) ∧ IsPhrase ['{', '}', '\n'] f.returnType) ∧
      trim f.body = f.body ∧ (∀ l ∈ splitOn '\n' f.body, l.getLast? ≠ some '\r') ∧
      BraceBalanced (splitOn '\n' f.body))
    ⟨fun ⟨⟨hname, hparams, hresult⟩, hbody, hends, hbraces⟩ =>
      ⟨hname, hparams, hresult, hbody, hends, hbraces⟩,
      fun h => ⟨⟨h.name, h.params, h.returnType⟩, h.body, h.bodyEnds, h.bodyBraces⟩⟩

instance (c : Contract) : Decidable c.Printable :=
  decidable_of_iff
    (IsName c.name ∧ (∀ f ∈ c.fields, f.Printable) ∧ ∀ f ∈ c.functions, f.Printable)
    ⟨fun ⟨hname, hfields, hfunctions⟩ => ⟨hname, hfields, hfunctions⟩,
      fun h => ⟨h.name, h.fields, h.functions⟩⟩

/-! ## The lines of the text -/

/-- The text has neither braces nor newlines. -/
structure Text.IsPlain (s : Text) : Prop where
  opening : '{' ∉ s
  closing : '}' ∉ s
  newline : '\n' ∉ s

instance (s : Text) : Decidable (IsPlain s) :=
  decidable_of_iff ('{' ∉ s ∧ '}' ∉ s ∧ '\n' ∉ s)
    ⟨fun ⟨hopen, hclose, hline⟩ => ⟨hopen, hclose, hline⟩,
      fun h => ⟨h.opening, h.closing, h.newline⟩⟩

/-! ## Lines whose braces balance -/

section Balanced

variable {l m : Text} {ls ms p : List Text}

theorem braceBalanced_nil : BraceBalanced [] := by
  decide

/-- Balanced lines stay so behind others. -/
theorem BraceBalanced.append (h : BraceBalanced ls) (h' : BraceBalanced ms) :
    BraceBalanced (ls ++ ms) := by
  refine ⟨fun p hp => ?_, by rw [braceSum_append, h.2, h'.2, Int.add_zero]⟩
  rcases List.prefix_or_prefix_of_prefix hp (List.prefix_append ls ms) with hle | ⟨q, rfl⟩
  · exact h.1 p hle
  · rw [braceSum_append, h.2, Int.zero_add]
    exact h'.1 q ((List.prefix_append_right_inj ls).1 hp)

theorem BraceBalanced.flatMap {α : Type} {f : α → List Text} {xs : List α}
    (h : ∀ x ∈ xs, BraceBalanced (f x)) : BraceBalanced (xs.flatMap f) := by
  induction xs with
  | nil => exact braceBalanced_nil
  | cons x xs ih =>
    obtain ⟨hx, hxs⟩ := List.forall_mem_cons.1 h
    exact List.flatMap_cons ▸ hx.append (ih hxs)

theorem braceBalanced_of_forall (h : ∀ l ∈ ls, braceDelta l = 0) : BraceBalanced ls := by
  have hsum : ∀ p, (∀ l ∈ p, braceDelta l = 0) → braceSum p = 0 := by
    intro p hp
    induction p with
    | nil => rfl
    | cons l p ih =>
      obtain ⟨hl, hp⟩ := List.forall_mem_cons.1 hp
      rw [braceSum_cons, hl, ih hp, Int.add_zero]
  exact ⟨fun p hp => Int.le_of_eq (hsum p fun l hl => h l (hp.subset hl)).symm, hsum ls h⟩

/-- A brace that is opened before balanced lines stays open in them. -/
theorem BraceBalanced.pos_of_prefix (h : BraceBalanced ls) (hopen : braceDelta l = 1)
    (hne : p ≠ []) (hp : p <+: l :: ls) : 0 < braceSum p := by
  obtain ⟨k, q, rfl⟩ := List.exists_cons_of_ne_nil hne
  obtain ⟨rfl, hq⟩ := List.cons_prefix_cons.1 hp
  have hbody := h.1 q hq
  rw [braceSum_cons, hopen]
  omega

/-- Balanced lines stay so between one that opens a block and one that closes it. -/
theorem BraceBalanced.enclosed (h : BraceBalanced ls) (hopen : braceDelta l = 1)
    (hclose : braceDelta m = -1) : BraceBalanced (l :: (ls ++ [m])) := by
  have hsum : braceSum (l :: (ls ++ [m])) = 0 := by
    rw [braceSum_cons, braceSum_append, h.2, hopen, braceSum_cons, hclose]
    rfl
  refine ⟨fun p hp => ?_, hsum⟩
  rcases List.prefix_concat_iff.1 (List.cons_append ▸ hp) with rfl | hp
  · exact Int.le_of_eq hsum.symm
  · rcases eq_or_ne p [] with rfl | hne
    · exact Int.le_refl _
    · exact Int.le_of_lt (h.pos_of_prefix hopen hne hp)

/-- Balanced lines in a brace are a block that is closed at its last line. -/
theorem BraceBalanced.closesAtLast (h : BraceBalanced ls) (hopen : braceDelta l = 1)
    (hclose : braceDelta m = -1) : ClosesAtLast (l :: (ls ++ [m])) := by
  have hopened : BraceOpened (l :: (ls ++ [m])) :=
    ⟨[l], List.prefix_append [l] _, h.pos_of_prefix hopen (by simp) (List.prefix_append [l] _)⟩
  refine ⟨⟨hopened, Int.le_of_eq (h.enclosed hopen hclose).2⟩, fun p hp hne => ?_⟩
  rw [← List.cons_append] at hp hne
  have hp := (List.prefix_concat_iff.1 hp).resolve_left hne
  rcases eq_or_ne p [] with rfl | hpne
  · exact not_braceClosed_nil
  · exact not_braceClosed_of_pos (h.pos_of_prefix hopen hpne hp)

/-- A line without braces in front does not close a block. -/
theorem braceClosed_cons_iff (hl : braceDelta l = 0) : BraceClosed (l :: ls) ↔ BraceClosed ls := by
  have hopened : BraceOpened (l :: ls) ↔ BraceOpened ls := by
    constructor
    · rintro ⟨p, hp, hpos⟩
      rcases List.prefix_cons_iff.1 hp with rfl | ⟨q, rfl, hq⟩
      · exact absurd hpos (by simp)
      · exact ⟨q, hq, by simpa [hl] using hpos⟩
    · rintro ⟨p, hp, hpos⟩
      exact ⟨l :: p, List.cons_prefix_cons.2 ⟨rfl, hp⟩, by simpa [hl] using hpos⟩
  rw [BraceClosed, BraceClosed, hopened, braceSum_cons, hl, Int.zero_add]

/-- A line before the block that changes no depth does not matter. -/
theorem ClosesAtLast.cons (h : ClosesAtLast ls) (hl : braceDelta l = 0) :
    ClosesAtLast (l :: ls) := by
  refine ⟨(braceClosed_cons_iff hl).2 h.1, fun p hp hne => ?_⟩
  rcases List.prefix_cons_iff.1 hp with rfl | ⟨q, rfl, hq⟩
  · exact not_braceClosed_nil
  · rw [braceClosed_cons_iff hl]
    exact h.2 q hq fun heq => hne (heq ▸ rfl)

end Balanced

namespace Text

variable {c : Char} {s t : Text} {excluded : List Char}

theorem IsPlain.append (hs : IsPlain s) (ht : IsPlain t) : IsPlain (s ++ t) :=
  ⟨List.not_mem_append hs.opening ht.opening, List.not_mem_append hs.closing ht.closing,
    List.not_mem_append hs.newline ht.newline⟩

/-- A text without braces changes no depth. -/
theorem IsPlain.braceDelta_eq (h : IsPlain s) : braceDelta s = 0 :=
  braceDelta_eq_zero h.opening h.closing

theorem IsName.not_mem (h : IsName s) (hc : c ∈ punctuation) : c ∉ s := by
  intro hmem
  have hword := h.2 c hmem
  rw [isWord_eq_false_of_mem_punctuation hc] at hword
  cases hword

theorem IsName.isPlain (h : IsName s) : IsPlain s :=
  ⟨h.not_mem (by simp [punctuation]), h.not_mem (by simp [punctuation]),
    h.not_mem (by simp [punctuation])⟩

/-- A phrase that excludes braces and line ends has none. -/
theorem IsPhrase.isPlain (h : IsPhrase excluded s) (hsub : ['{', '}', '\n'] ⊆ excluded) :
    IsPlain s :=
  ⟨h.2.2 '{' (hsub (by simp)), h.2.2 '}' (hsub (by simp)), h.2.2 '\n' (hsub (by simp))⟩

end Text

namespace Param.Printable

variable {p : Param}

theorem isPlain_print (h : p.Printable) : IsPlain p.print :=
  ((h.name.isPlain (by simp)).append (by decide)).append (h.type.isPlain (by simp))

end Param.Printable

namespace EntryPoint

variable {f : EntryPoint} {ps : List Param}

theorem isPlain_laterParams (h : ∀ p ∈ ps, p.Printable) : IsPlain (laterParams ps) := by
  induction ps with
  | nil => decide
  | cons p ps ih =>
    have hcomma : IsPlain (", " : Text) := by decide
    exact (hcomma.append (h p List.mem_cons_self).isPlain_print).append
      (ih fun q hq => h q (List.mem_cons_of_mem p hq))

/-- The first line of a function has no brace but the one at its end. -/
theorem Printable.isPlain_front (h : f.Printable) : IsPlain f.front := by
  have hreceiver : IsPlain f.receiver := by
    unfold receiver
    split <;> decide
  have harrow : IsPlain f.arrow := by
    have hsign : IsPlain (" -> " : Text) := by decide
    unfold arrow
    split
    · decide
    · exact hsign.append (h.returnType.isPlain (by simp))
  have hname : IsPlain ("    pub fn " ++ f.name ++ "(") := by
    have hwords : IsPlain ("    pub fn " : Text) := by decide
    exact (hwords.append h.name.isPlain).append (by decide)
  have hsignature := ((hname.append hreceiver).append (isPlain_laterParams h.params)).append
    (show IsPlain (")" : Text) by decide)
  exact (hsignature.append harrow).append (by decide)

/-- A function is printed on lines. -/
theorem Printable.isLine_of_mem (h : f.Printable) : ∀ l ∈ f.printedLines, IsLine l := by
  refine List.forall_mem_cons.2 ⟨?_, List.forall_mem_append.2 ⟨?_, by decide⟩⟩
  · exact isLine_append h.isPlain_front.newline (by decide)
  · intro l hl
    exact ⟨not_mem_of_mem_splitOn hl, h.bodyEnds l hl⟩

end EntryPoint

namespace StorageField.Printable

variable {f : StorageField}

theorem isPlain_type (h : f.Printable) : IsPlain f.type := by
  have hbrace : StorageLayout.isTypeChar '{' = false ∧ StorageLayout.isTypeChar '}' = false := by
    decide +kernel
  refine ⟨fun hmem => ?_, fun hmem => ?_, h.type.2.2 '\n' (by simp)⟩
  · exact Bool.false_ne_true (hbrace.1.symm.trans (h.typeChars _ hmem))
  · exact Bool.false_ne_true (hbrace.2.symm.trans (h.typeChars _ hmem))

theorem isPlain_print (h : f.Printable) : IsPlain f.print := by
  have hspaces : IsPlain ("        " : Text) := by decide
  have hspace : IsPlain (" " : Text) := by decide
  exact (((hspaces.append h.isPlain_type).append hspace).append h.name.isPlain).append (by decide)

/-- A field is printed on one line. -/
theorem isLine_print (h : f.Printable) : IsLine f.print := by
  have hfront := (show IsPlain ("        " : Text) by decide).append h.isPlain_type
  have hspace : IsPlain (" " : Text) := by decide
  exact isLine_append ((hfront.append hspace).append h.name.isPlain).newline (by decide)

end StorageField.Printable

namespace Contract

variable {c : Contract}

/-- A line with a keyword and the name of the contract. -/
theorem Printable.isLine_header (h : c.Printable) {s : Text} (hs : IsPlain s) :
    IsLine (s ++ c.name ++ " \x7b") :=
  isLine_append (hs.append h.name.isPlain).newline (by decide)

/-- A contract is printed on lines. -/
theorem Printable.isLine_of_mem (h : c.Printable) : ∀ l ∈ c.printedLines, IsLine l := by
  have hstorage : ∀ l ∈ c.storageLines, IsLine l := by
    refine List.forall_mem_cons.2 ⟨by decide, List.forall_mem_cons.2
      ⟨h.isLine_header (by decide), List.forall_mem_append.2 ⟨?_, by decide⟩⟩⟩
    intro l hl
    obtain ⟨f, hf, rfl⟩ := List.mem_map.1 hl
    exact (h.fields f hf).isLine_print
  have himpl : ∀ l ∈ c.implLines, IsLine l := by
    refine List.forall_mem_cons.2 ⟨by decide, List.forall_mem_cons.2
      ⟨h.isLine_header (by decide), List.forall_mem_append.2 ⟨?_, by decide⟩⟩⟩
    intro l hl
    obtain ⟨f, hf, hl⟩ := List.mem_flatMap.1 hl
    exact (h.functions f hf).isLine_of_mem l hl
  exact List.forall_mem_append.2 ⟨hstorage, himpl⟩

/-- The lines of the text are those that were printed. -/
theorem lines_print (h : c.Printable) : lines c.print = c.printedLines := by
  refine lines_unlines h.isLine_of_mem ?_
  have hlast : c.printedLines.getLast? = some ("\x7d" : Text) := by
    rw [printedLines, implLines, ← List.cons_append, ← List.cons_append, ← List.append_assoc]
    exact List.getLast?_concat
  rw [hlast]
  decide

/-- A newline behind a printed contract adds no line. -/
theorem lines_print_append_newline (h : c.Printable) :
    lines (c.print ++ ['\n']) = c.printedLines :=
  lines_unlines_append_newline (List.cons_ne_nil _ _) h.isLine_of_mem

end Contract

end StylusSurvey
