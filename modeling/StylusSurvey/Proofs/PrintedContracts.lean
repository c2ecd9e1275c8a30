import StylusSurvey.Proofs.Layout
import StylusSurvey.Proofs.PrintedFields
import StylusSurvey.Proofs.PrintedFunctions

/-!
# Printed contracts are read back

The lines of a printed contract are laid out in parts: the lines of the storage block
stand outside every region, and the marked block is a region whose items are the functions
(`Contract.parts`). So the scanner finds the functions (`Contract.Printable.map_ofBlock`),
the storage block gives the name and the fields (`Contract.Printable.ofLines_storageLines`),
and the contract that is read is the one that was printed, with the line numbers of its
text (`Contract.parse_print`).
-/

namespace StylusSurvey

open Text Declaration

variable {name : Text} {rest : List Text}

/-! ## The storage block -/

/-- The name of the storage struct is read from its header. -/
theorem structName?_append (hname : IsName name) :
    structName? ("    pub struct " ++ name ++ " \x7b") = some name := by
  have hend : endsWord " \x7b" = true := by decide
  have hwords : ("    pub struct " : Text) =
      List.replicate 4 ' ' ++ ("pub" ++ ([' '] ++ (("struct" : Text) ++ [' ']))) := rfl
  have hstart : trimStart (name ++ " \x7b") = name ++ " \x7b" :=
    trimStart_word_append hname.1 hname.2
  have hpublic : afterPublic? "struct" ("pub" ++ ([' '] ++ (("struct" : Text) ++ ([' '] ++
      (name ++ " \x7b"))))) = some (name ++ " \x7b") :=
    (afterPublic?_append (k := 's') rfl (by simp) isBlank_of_mem_space (by simp)
      isBlank_of_mem_space).trans (congrArg some hstart)
  unfold structName?
  rw [hwords]
  simp only [List.append_assoc]
  rw [search_spaces_append fun _ => rfl]
  refine search_eq_some ?_
  rw [hpublic]
  simp only [Option.bind_eq_bind, Option.bind_some, word?_append hname.1 hname.2 hend,
    Option.pure_def]

theorem braceDelta_header {s : Text} (hs : IsPlain s) (hname : IsName name) :
    braceDelta (s ++ name ++ " \x7b") = 1 := by
  rw [braceDelta_append, (hs.append hname.isPlain).braceDelta_eq]
  rfl

namespace Contract

variable {c : Contract}

/-- The storage block gives the name and the fields. -/
theorem Printable.ofLines_storageLines (h : c.Printable) :
    StorageLayout.ofLines 1 (c.storageLines ++ rest) =
      { contractName := some c.name, fields := StorageField.numbered 3 c.fields } := by
  have hstruct := structName?_append h.name
  have hopens : opensStorage "sol_storage! \x7b" = true := rfl
  have hnone : structName? "sol_storage! \x7b" = none := rfl
  have hfirst : BraceDepth.startingAt "sol_storage! \x7b" = ⟨1, true⟩ := rfl
  have hfeed : BraceDepth.feed ⟨1, true⟩ ("    pub struct " ++ c.name ++ " \x7b") = ⟨2, true⟩ := by
    rw [BraceDepth.feed, braceDelta_header (by decide) h.name]
    rfl
  have hopen : (BraceDepth.feed ⟨1, true⟩ ("    pub struct " ++ c.name ++ " \x7b")).isClosed =
      false := by
    rw [hfeed]
    rfl
  have hlines : c.storageLines ++ rest = ("sol_storage! \x7b" : Text) ::
      ("    pub struct " ++ c.name ++ " \x7b") ::
        (c.fields.map StorageField.print ++ ((["    \x7d", "\x7d"] : List Text) ++ rest)) := by
    unfold storageLines
    simp only [List.cons_append, List.append_assoc]
  rw [hlines, StorageLayout.ofLines, if_pos hopens, hfirst, hnone]
  dsimp only
  rw [if_neg (by decide), StorageLayout.inBlock_cons_of_structName? hstruct hopen, hfeed,
    StorageLayout.inBlock_fields h.fields]

/-! ## The marked block -/

/-- The functions as items of a region. -/
def items (c : Contract) : List RegionItem :=
  c.functions.map fun f => .function f.printedLines

/-- The marked block as a region. -/
def markedRegion (c : Contract) : Region where
  heading := .apart "#[public]" [] ("impl " ++ c.name ++ " \x7b")
  items := c.items
  closing := "\x7d"

/-- The parts of the printed contract. -/
def parts (c : Contract) : List SourcePart :=
  c.storageLines.map .outside ++ [.region c.markedRegion]

theorem itemLines_markedRegion (c : Contract) :
    c.markedRegion.itemLines = c.functions.flatMap EntryPoint.printedLines := by
  unfold Region.itemLines markedRegion items
  rw [List.flatMap_map]
  rfl

/-- The parts of a printed contract are its lines. -/
theorem lines_parts (c : Contract) : c.parts.flatMap SourcePart.lines = c.printedLines := by
  have hstorage : (c.storageLines.map SourcePart.outside).flatMap SourcePart.lines =
      c.storageLines := by
    rw [List.flatMap_map]
    exact List.flatMap_singleton' _
  unfold parts printedLines
  rw [List.flatMap_append, hstorage, List.flatMap_singleton, SourcePart.lines, Region.lines,
    itemLines_markedRegion]
  rfl

theorem isImplHeader_append (hname : IsName name) :
    isImplHeader ("impl " ++ name ++ " \x7b") = true := by
  have hend : endsWord " \x7b" = true := by decide
  have hword := word?_append hname.1 hname.2 hend
  have hstart : trimStart (name ++ " \x7b") = name ++ " \x7b" :=
    trimStart_word_append hname.1 hname.2
  obtain ⟨c, u, rfl⟩ := List.exists_cons_of_ne_nil hname.1
  have hc := hname.2 c List.mem_cons_self
  have hblanks : trimStart (' ' :: (c :: u ++ " \x7b")) = c :: (u ++ " \x7b") := hstart
  have himpl : after? "impl" (trimStart ("impl " ++ (c :: u) ++ " \x7b")) =
      some (' ' :: (c :: u ++ " \x7b")) := rfl
  have hgenerics : afterGenerics? (' ' :: (c :: u ++ " \x7b")) =
      some (' ' :: (c :: u ++ " \x7b")) := by
    rw [afterGenerics?, hblanks]
    split
    · rename_i heq
      rw [(List.cons.inj heq).1, isWord_eq_false_of_mem_punctuation (by simp [punctuation])] at hc
      cases hc
    · rfl
  have hread : blanks? (' ' :: (c :: u ++ " \x7b")) = some (c :: u ++ " \x7b") := by
    rw [blanks?, if_pos (by decide), hstart]
  unfold isImplHeader
  simp only [himpl, hgenerics, hread, hword, Option.bind_eq_bind, Option.bind_some,
    Option.isSome_some]

/-- No line of the storage is a marker. -/
theorem Printable.afterMarker?_storageLines (h : c.Printable) :
    ∀ l ∈ c.storageLines, afterMarker? l = none := by
  have hstruct : afterMarker? ("    pub struct " ++ c.name ++ " \x7b") = none := rfl
  refine List.forall_mem_cons.2 ⟨by decide, List.forall_mem_cons.2 ⟨hstruct,
    List.forall_mem_append.2 ⟨?_, by decide⟩⟩⟩
  intro l hl
  obtain ⟨f, hf, rfl⟩ := List.mem_map.1 hl
  have htype := h.fields f hf
  obtain ⟨d, u, hhead⟩ := List.exists_cons_of_ne_nil htype.type.1
  have htrim := htype.type.2.1
  rw [hhead] at htrim
  have hchar := htype.typeChars d (hhead ▸ List.mem_cons_self)
  apply afterMarker?_eq_none
  rw [StorageLayout.print_eq, trimStart_blanks_append isBlank_of_mem_spaces, hhead, List.cons_append,
    trimStart_cons (isBlank_head_of_trim htrim)]
  intro hmem
  obtain rfl := Option.some.inj hmem
  exact absurd hchar (by decide +kernel)

/-- The braces of printed functions balance. -/
theorem braceSum_functions {fs : List EntryPoint} (h : ∀ f ∈ fs, f.Printable) :
    braceSum (fs.flatMap EntryPoint.printedLines) = 0 := by
  induction fs with
  | nil => rfl
  | cons f fs ih =>
    rw [List.flatMap_cons, braceSum_append, (h f List.mem_cons_self).functionLines.2,
      ih fun g hg => h g (List.mem_cons_of_mem f hg)]
    rfl

/-- Printed functions fit into a region one after another. -/
theorem allFit_functions {depth : Int} {fs : List EntryPoint} (h : ∀ f ∈ fs, f.Printable) :
    RegionItem.AllFit depth (fs.map fun f => .function f.printedLines) := by
  induction fs generalizing depth with
  | nil => trivial
  | cons f fs ih =>
    exact ⟨(h f List.mem_cons_self).functionLines, ih fun g hg => h g (List.mem_cons_of_mem f hg)⟩

/-- The parts of a printed contract are what they are called. -/
theorem Printable.wellFormed_parts (h : c.Printable) : ∀ p ∈ c.parts, p.WellFormed := by
  have hheader : braceDelta ("impl " ++ c.name ++ " \x7b") = 1 :=
    braceDelta_header (by decide) h.name
  have hclosing : braceDelta "\x7d" = -1 := rfl
  have hpublic : isPublicFunction "\x7d" = false := rfl
  have hregion : c.markedRegion.WellFormed := by
    refine ⟨⟨⟨[], rfl, rfl⟩, by simp, isImplHeader_append h.name, ?_⟩,
      allFit_functions h.functions, hpublic, ?_⟩
    · rw [hheader]
      decide
    · rw [itemLines_markedRegion, braceSum_functions h.functions]
      change braceDelta ("impl " ++ c.name ++ " \x7b") + 0 + braceDelta "\x7d" ≤ 0
      rw [hheader, hclosing]
      decide
  refine List.forall_mem_append.2 ⟨?_, List.forall_mem_singleton.2 hregion⟩
  intro p hp
  obtain ⟨l, hl, rfl⟩ := List.mem_map.1 hp
  exact h.afterMarker?_storageLines l hl

/-- Lines outside of regions only move the numbers of those behind them. -/
theorem functions_outside (ls : List Text) (ps : List SourcePart) (n : Nat) :
    SourcePart.functions n (ls.map .outside ++ ps) = SourcePart.functions (n + ls.length) ps := by
  induction ls generalizing n with
  | nil => rfl
  | cons l ls ih =>
    rw [List.map_cons, List.cons_append, SourcePart.functions, ih, List.length_cons]
    congr 1
    omega

/-- The blocks of printed functions are read as the functions, numbered by their lines. -/
theorem map_ofBlock_functions {fs : List EntryPoint} (h : ∀ f ∈ fs, f.Printable) (n : Nat) :
    (RegionItem.functions n (fs.map fun f => .function f.printedLines)).map
      (fun b => EntryPoint.ofBlock b.text b.startLine) = EntryPoint.numbered n fs := by
  induction fs generalizing n with
  | nil => rfl
  | cons f fs ih =>
    have hfs : ∀ g ∈ fs, g.Printable := fun g hg => h g (List.mem_cons_of_mem f hg)
    rw [List.map_cons, RegionItem.functions, List.map_cons, ih hfs,
      (h f List.mem_cons_self).ofBlock_block, EntryPoint.numbered]

/-! ## The contract -/

/-- A source with the lines of a printed contract is read as that contract. -/
theorem Printable.parse_of_lines (h : c.Printable) {source : Text}
    (hlines : lines source = c.printedLines) : parse source = c.numbered := by
  have hlayout : StorageLayout.ofSource source =
      { contractName := some c.name, fields := StorageField.numbered 3 c.fields } := by
    rw [StorageLayout.ofSource, hlines, printedLines, h.ofLines_storageLines]
    rfl
  have hblocks : functionBlocks source =
      RegionItem.functions (c.storageLines.length + 3) c.items := by
    have hstart : 1 + c.storageLines.length + c.markedRegion.heading.lines.length =
        c.storageLines.length + 3 := by
      change 1 + c.storageLines.length + 2 = _
      omega
    rw [functionBlocks, hlines, ← lines_parts, ScanState.run_parts h.wellFormed_parts, parts,
      functions_outside, SourcePart.functions, SourcePart.functions, List.append_nil, hstart]
    rfl
  rw [parse, hlayout, hblocks, items, map_ofBlock_functions h.functions]
  rfl

/-- Printing a contract and parsing the text gives it back, with or without a newline at the end of
the text. -/
theorem parse_print (h : c.Printable) :
    parse c.print = c.numbered ∧ parse (c.print ++ ['\n']) = c.numbered :=
  ⟨h.parse_of_lines (lines_print h), h.parse_of_lines (lines_print_append_newline h)⟩

/-- A contract with two fields and two functions, one of which has a nested block. -/
def tokenContract : Contract where
  name := "Token"
  fields := [⟨"balances", "StorageMap<Address, StorageU256>", 3⟩, ⟨"total", "StorageU256", 4⟩]
  functions := [
    { name := "total", params := [], returnType := "U256", mutates := false, line := 9,
      body := "self.total.get()" },
    { name := "mint", params := [⟨"to", "Address"⟩, ⟨"amount", "U256"⟩], returnType := "()",
      mutates := true, line := 12,
      body := "if amount > U256::ZERO \x7b\n    self.total.set(amount);\n\x7d" }]

/-- A token contract, parsed again from its text. -/
theorem parse_print_tokenContract :
    tokenContract.Printable ∧ tokenContract.numbered = tokenContract ∧
      parse tokenContract.print = tokenContract ∧
      parse (tokenContract.print ++ ['\n']) = tokenContract := by
  have hprintable : tokenContract.Printable := by decide +kernel
  have hnumbered : tokenContract.numbered = tokenContract := by decide +kernel
  have hparse := parse_print hprintable
  rw [hnumbered] at hparse
  exact ⟨hprintable, hnumbered, hparse⟩

end Contract

end StylusSurvey
