import StylusSurvey.Proofs.Printing
import StylusSurvey.Proofs.Scan
import StylusSurvey.Proofs.SignatureLayouts

/-!
# Printed functions are read back

The text of a printed function is a layout of its signature with the lines of its body behind
it (`EntryPoint.unlines_printedLines`), so the function is read back from it
(`EntryPoint.Printable.ofBlock_block`). Its lines are the lines of one public function whose
braces balance (`EntryPoint.Printable.functionLines`).
-/

namespace StylusSurvey

open Text Declaration

theorem Text.IsPhrase.isBare {excluded excluded' : List Char} {s : Text}
    (h : IsPhrase excluded s) (hsub : excluded' ⊆ excluded) : IsBare excluded' s :=
  ⟨h.2.1, fun c hc => h.2.2 c (hsub hc)⟩

namespace EntryPoint

variable {f : EntryPoint}

/-! ## The layout of a printed function -/

/-- The signature as it is printed. -/
def layout (f : EntryPoint) : SignatureLayout where
  name := f.name
  mutates := f.mutates
  pieces := f.params.map fun p => .param { name := p.name, type := p.type }
  result := if f.returnType = unitType then none else some f.returnType
  indent := List.replicate 4 ' '

theorem list_layout (f : EntryPoint) : f.layout.list = laterParams f.params := by
  rw [SignatureLayout.list, layout, List.flatMap_map, laterParams]
  refine List.flatMap_congr fun p _ => ?_
  simp [ParamPiece.text, ParamLayout.text, Param.print]

theorem arrow_layout (f : EntryPoint) : f.layout.arrow = f.arrow ++ " " := by
  by_cases hunit : f.returnType = unitType
  · simp [SignatureLayout.arrow, layout, arrow, hunit]
  · simp [SignatureLayout.arrow, layout, arrow, hunit]

theorem receiver_layout (f : EntryPoint) : f.layout.receiver = f.receiver := by
  rw [SignatureLayout.receiver, receiver, layout]
  cases f.mutates <;> rfl

/-- The line on which a printed function begins is that of its layout, indented. -/
theorem front_eq (f : EntryPoint) :
    f.front = List.replicate 4 ' ' ++
      (f.layout.front ++ (f.layout.list ++ ')' :: f.layout.arrow)) := by
  have hwords : ("    pub fn " : Text) =
      List.replicate 4 ' ' ++ ("pub" ++ ([' '] ++ (("fn" : Text) ++ [' ']))) := rfl
  have hopen : ("(" : Text) = ['('] := rfl
  have hclose : (")" : Text) = [')'] := rfl
  have hfront : f.layout.front =
      "pub" ++ ([' '] ++ (("fn" : Text) ++ ([' '] ++ (f.name ++ '(' :: f.receiver)))) := by
    rw [SignatureLayout.front, receiver_layout]
    rfl
  unfold front
  rw [list_layout, arrow_layout, hwords, hfront]
  simp only [hopen, hclose, List.append_assoc, List.cons_append, List.nil_append]

/-- A printed function is the text of its layout with its body. -/
theorem unlines_printedLines (f : EntryPoint) :
    unlines f.printedLines = f.layout.text ('\n' :: (f.body ++ '\n' :: "    ")) := by
  have hbody : splitOn '\n' f.body ≠ [] := by simp [splitOn_eq]
  have hlines : unlines f.printedLines =
      f.front ++ '{' :: ('\n' :: (f.body ++ ('\n' :: "    \x7d"))) := by
    rw [printedLines, ← List.singleton_append, unlines_append (by simp) (by simp),
      unlines_append hbody (by simp), unlines_splitOn]
    simp [unlines]
  have hreceiver : f.layout.afterReceiver = [] := rfl
  have hindent : f.layout.indent = List.replicate 4 ' ' := rfl
  have hclose : ("    \x7d" : Text) = "    " ++ ['}'] := rfl
  rw [hlines, front_eq, SignatureLayout.text, SignatureLayout.behind, hreceiver, hindent, hclose]
  simp only [List.append_assoc, List.cons_append, List.nil_append]

theorem isPublicFunction_front (f : EntryPoint) :
    isPublicFunction (f.front ++ "\x7b") = true := by
  obtain ⟨s, hread⟩ : ∃ s, afterPublic? "fn"
      (f.layout.front ++ (f.layout.list ++ ')' :: f.layout.arrow) ++ "\x7b") = some s := by
    rw [SignatureLayout.front]
    simp only [List.append_assoc]
    exact ⟨_, afterPublic?_append (k := 'f') rfl (by simp [layout]) isBlank_of_mem_space
      (by simp [layout]) isBlank_of_mem_space⟩
  rw [isPublicFunction, front_eq, List.append_assoc, search_spaces_append fun _ => rfl,
    search_eq_some hread]
  rfl

namespace Printable

/-- The layout of a printed function is one that is read as it is meant. -/
theorem wellFormed_layout (h : f.Printable) : f.layout.WellFormed where
  name := h.name
  pieces := by
    refine List.forall_mem_map.2 fun p hp => ⟨?_, ?_, ?_⟩
    · exact (h.params p hp).name.isBare (by simp)
    · exact (h.params p hp).type.isBare (by simp)
    · have hall : ([[' '], [], [' '], []].all fun b : Text => b.all isBlank) = true := rfl
      exact fun b hb => List.all_eq_true.1 (List.all_eq_true.1 hall b hb)
  result := by
    intro type htype
    have hresult : f.layout.result = if f.returnType = unitType then none else some f.returnType :=
      rfl
    rw [hresult] at htype
    split_ifs at htype
    · cases htype
    · obtain rfl := Option.some.inj htype
      exact h.returnType.isBare (by simp)
  gaps := by
    have hall : (f.layout.gaps.all fun b => b.all isBlank) = true := rfl
    exact fun b hb => List.all_eq_true.1 (List.all_eq_true.1 hall b hb)
  afterPub := List.cons_ne_nil _ _
  afterFn := List.cons_ne_nil _ _
  afterMut := List.cons_ne_nil _ _

/-- The block of a printed function is read as the function. -/
theorem ofBlock_block (h : f.Printable) (n : Nat) :
    ofBlock (unlines f.printedLines) n = { f with line := n } := by
  have hwell := h.wellFormed_layout
  have htight : f.layout.Tight := fun _ => rfl
  have hnewline : ∀ c ∈ ['\n'], isBlank c = true := List.all_eq_true.1 (by decide)
  have hindent : ∀ c ∈ ('\n' :: "    " : Text), isBlank c = true := List.all_eq_true.1 (by decide)
  have hbody : trim ('\n' :: (f.body ++ '\n' :: "    ")) = f.body :=
    trim_blanks_append hnewline hindent h.body
  have hparams : f.layout.pieces.filterMap ParamPiece.param? = f.params := by
    rw [layout, List.filterMap_map]
    exact List.filterMap_some
  have hresult : f.layout.result.getD unitType = f.returnType := by
    rw [layout]
    split_ifs with hunit
    · exact hunit.symm
    · rfl
  rw [unlines_printedLines, ofBlock, hwell.find?_text htight, hwell.bodyOf_text, hbody]
  simp only [Signature.splitParams_trim, hwell.splitParams_list, hparams, hresult]
  rfl

/-- The first line of a printed function opens its body. -/
theorem braceDelta_front (h : f.Printable) : braceDelta (f.front ++ "\x7b") = 1 := by
  rw [braceDelta_append, h.isPlain_front.braceDelta_eq]
  rfl

/-- The lines of a printed function are those of one public function, and their braces balance. -/
theorem functionLines (h : f.Printable) :
    FunctionLines f.printedLines ∧ braceSum f.printedLines = 0 := by
  have hclosing : braceDelta "    \x7d" = -1 := rfl
  have hblock := h.bodyBraces.closesAtLast h.braceDelta_front hclosing
  refine ⟨.block f.isPublicFunction_front (fun hends => ?_) hblock,
    (h.bodyBraces.enclosed h.braceDelta_front hclosing).2⟩
  have hle := hends.2.2
  rw [h.braceDelta_front] at hle
  omega

end Printable

end EntryPoint

end StylusSurvey
