import StylusSurvey.Proofs.Declarations
import StylusSurvey.Proofs.Scan

/-!
# Sources laid out in regions

A `SourcePart` is a line outside every region or a whole region: a marked header, the
items of the block, and the line that closes it. An item is a line that begins no
function, or the lines of one function whose braces balance. `SourcePart.WellFormed`
states the conditions on the brace sums that make the parts what they are called.

The scanner finds exactly the functions of the parts, in order, each with its text and
the number of its first line (`functionBlocks_of_layout`). The proof follows the
grammar: over the items of a region the depth stays positive
(`run_items`), over a region the scanner comes back to the outside (`run_region`), and
so over the parts (`run_parts`).
-/

namespace StylusSurvey

open Declaration

/-! ## The grammar -/

/-- What may stand in a marked block: a line that begins no function, or a function. -/
inductive RegionItem where
  | filler (line : Text)
  | function (lines : List Text)

namespace RegionItem

/-- The lines of the item. -/
def lines : RegionItem → List Text
  | filler line => [line]
  | function lines => lines

/-- The item fits after lines of the region with the brace sum `depth`. -/
def Fits (depth : Int) : RegionItem → Prop
  | filler line => isPublicFunction line = false ∧ 0 < depth + braceDelta line
  | function lines => FunctionLines lines ∧ braceSum lines = 0

/-- Each item fits after the ones before it. -/
def AllFit : Int → List RegionItem → Prop
  | _, [] => True
  | depth, item :: items => item.Fits depth ∧ AllFit (depth + braceSum item.lines) items

/-- The functions among the items, the first line being number `n`. -/
def functions : Nat → List RegionItem → List FunctionBlock
  | _, [] => []
  | n, filler _ :: items => functions (n + 1) items
  | n, function lines :: items => ⟨Text.unlines lines, n⟩ :: functions (n + lines.length) items

end RegionItem

/-- How a marked block begins: marker, preamble and `impl` header on lines of their own, or marker
and header on one line. -/
inductive RegionHeading where
  | apart (marker : Text) (preamble : List Text) (header : Text)
  | joined (line : Text)

namespace RegionHeading

/-- The lines of the heading. -/
def lines : RegionHeading → List Text
  | apart marker preamble header => marker :: preamble ++ [header]
  | joined line => [line]

/-- The brace delta of the line with the `impl` header. -/
def depth : RegionHeading → Int
  | apart _ _ header => braceDelta header
  | joined line => braceDelta line

/-- The lines are what they are called, and the header opens its block. -/
def WellFormed : RegionHeading → Prop
  | apart marker preamble header =>
    (∃ rest, afterMarker? marker = some rest ∧ isImplHeader rest = false) ∧
      (∀ line ∈ preamble, isPreamble line = true) ∧
      isImplHeader header = true ∧ 0 < braceDelta header
  | joined line =>
    (∃ rest, afterMarker? line = some rest ∧ isImplHeader rest = true) ∧ 0 < braceDelta line

end RegionHeading

/-- A marked block. -/
structure Region where
  heading : RegionHeading
  items : List RegionItem
  closing : Text

namespace Region

variable (r : Region)

/-- The lines of the items. -/
def itemLines : List Text :=
  r.items.flatMap RegionItem.lines

/-- The lines of the block. -/
def lines : List Text :=
  r.heading.lines ++ (r.itemLines ++ [r.closing])

/-- Heading and items are well-formed, and the last line closes the block. -/
def WellFormed : Prop :=
  r.heading.WellFormed ∧ RegionItem.AllFit r.heading.depth r.items ∧
    isPublicFunction r.closing = false ∧
    r.heading.depth + braceSum r.itemLines + braceDelta r.closing ≤ 0

end Region

/-- A part of a source: a line outside every region, or a region. -/
inductive SourcePart where
  | outside (line : Text)
  | region (r : Region)

namespace SourcePart

/-- The lines of the part. -/
def lines : SourcePart → List Text
  | outside line => [line]
  | region r => r.lines

/-- An outside line is no marker, and a region is well-formed. -/
def WellFormed : SourcePart → Prop
  | outside line => afterMarker? line = none
  | region r => r.WellFormed

/-- The functions of the parts, the first line being number `n`. -/
def functions : Nat → List SourcePart → List FunctionBlock
  | _, [] => []
  | n, outside _ :: parts => functions (n + 1) parts
  | n, region r :: parts =>
    RegionItem.functions (n + r.heading.lines.length) r.items ++
      functions (n + r.lines.length) parts

end SourcePart

/-! ## The scanner on well-formed parts -/

namespace ScanState

variable {n : Nat}

/-- A region whose depth is the given positive number. -/
def regionAt (depth : Int) : ScanState :=
  region ⟨depth, true⟩

/-- A region goes on behind a function while its depth is positive. -/
theorem afterFunction_add_of_pos {depth e : Int} (h : 0 < depth + e) :
    afterFunction (BraceDepth.add ⟨depth, true⟩ e) = regionAt (depth + e) := by
  rw [afterFunction_of_pos h]
  rfl

/-- The items of a region keep its depth positive, and the functions among them are found. -/
theorem run_items {depth : Int} {items : List RegionItem} (hdepth : 0 < depth)
    (hfit : RegionItem.AllFit depth items) :
    0 < depth + braceSum (items.flatMap RegionItem.lines) ∧
      (regionAt depth).run n (items.flatMap RegionItem.lines) =
        (regionAt (depth + braceSum (items.flatMap RegionItem.lines)),
          RegionItem.functions n items) := by
  induction items generalizing depth n with
  | nil => simpa [regionAt, RegionItem.functions] using hdepth
  | cons item items ih =>
    obtain ⟨hitem, hrest⟩ := hfit
    rw [List.flatMap_cons, braceSum_append, ← Int.add_assoc, run_append]
    cases item with
    | filler line =>
      obtain ⟨hpub, hpos⟩ := hitem
      have hsum : braceSum (RegionItem.filler line).lines = braceDelta line := by
        simp [RegionItem.lines]
      rw [hsum] at hrest ⊢
      have hstep : (regionAt depth).run n (RegionItem.filler line).lines =
          (regionAt (depth + braceDelta line), []) := by
        rw [RegionItem.lines, run_cons, regionAt, step_region_of_not_public hpub, BraceDepth.feed,
          afterFunction_add_of_pos hpos]
        rfl
      obtain ⟨hpos', hrun⟩ := @ih (n + 1) _ hpos hrest
      refine ⟨hpos', ?_⟩
      rw [hstep]
      exact hrun
    | function lines =>
      obtain ⟨hlines, hsum⟩ := hitem
      simp only [RegionItem.lines, hsum, Int.add_zero] at hrest ⊢
      obtain ⟨hpos', hrun⟩ := @ih (n + lines.length) _ hdepth hrest
      refine ⟨hpos', ?_⟩
      rw [regionAt, run_region_function hlines, hsum, afterFunction_add_of_pos (by simpa),
        Int.add_zero, hrun]
      rfl

theorem run_preamble {preamble : List Text} (h : ∀ line ∈ preamble, isPreamble line = true) :
    armed.run n preamble = (armed, []) := by
  induction preamble generalizing n with
  | nil => rfl
  | cons line preamble ih =>
    have hline := h line (by simp)
    rw [run_cons, step_armed, stepArmed, isImplHeader_eq_false_of_isPreamble hline, hline,
      if_neg (by simp), if_pos rfl, ih fun l hl => h l (by simp [hl])]
    rfl

theorem atHeader_of_pos {line : Text} (h : 0 < braceDelta line) :
    atHeader line = regionAt (braceDelta line) := by
  have hdepth : BraceDepth.startingAt line = ⟨braceDelta line, true⟩ := by
    simp [BraceDepth.startingAt, BraceDepth.feed, BraceDepth.add, h]
  simp [atHeader, hdepth, regionAt, h]

/-- After its heading, the scanner is in the region. -/
theorem run_heading {heading : RegionHeading} (h : heading.WellFormed) :
    0 < heading.depth ∧ outside.run n heading.lines = (regionAt heading.depth, []) := by
  cases heading with
  | apart marker preamble header =>
    obtain ⟨⟨rest, hmarker, hrest⟩, hpre, hheader, hpos⟩ := h
    refine ⟨hpos, ?_⟩
    rw [RegionHeading.lines, List.cons_append, run_cons, step_outside, stepOutside, hmarker]
    simp only [hrest]
    rw [run_append, if_neg (by simp), run_preamble hpre, run_cons, step_armed, stepArmed, hheader,
      if_pos rfl, atHeader_of_pos hpos]
    rfl
  | joined line =>
    obtain ⟨⟨rest, hmarker, hrest⟩, hpos⟩ := h
    refine ⟨hpos, ?_⟩
    have hdelta := braceDelta_afterMarker? hmarker
    rw [RegionHeading.lines, run_cons, step_outside, stepOutside, hmarker]
    simp only [hrest, if_true]
    rw [atHeader_of_pos (hdelta ▸ hpos), hdelta]
    rfl

/-- A region is read from outside to outside. -/
theorem run_region {r : Region} (h : r.WellFormed) :
    outside.run n r.lines =
      (outside, RegionItem.functions (n + r.heading.lines.length) r.items) := by
  obtain ⟨hheading, hitems, hpub, hclose⟩ := h
  obtain ⟨hdepth, hhead⟩ := @run_heading n _ hheading
  obtain ⟨-, hrun⟩ := @run_items (n + r.heading.lines.length) _ _ hdepth hitems
  have hlast : ∀ m, (regionAt (r.heading.depth + braceSum r.itemLines)).run m [r.closing] =
      (outside, []) := by
    intro m
    have hclosed : (BraceDepth.feed ⟨r.heading.depth + braceSum r.itemLines, true⟩
        r.closing).isClosed = true := by
      rw [BraceDepth.isClosed_iff, BraceDepth.feed, BraceDepth.opened_add]
      exact ⟨Or.inl rfl, hclose⟩
    rw [run_cons, regionAt, step_region_of_not_public hpub, afterFunction, if_pos hclosed]
    rfl
  rw [Region.lines, run_append, hhead, run_append, Region.itemLines, hrun, ← Region.itemLines,
    hlast]
  simp

/-- The parts of a source are read one after another, each from outside of all blocks. -/
theorem run_parts {parts : List SourcePart} (h : ∀ p ∈ parts, p.WellFormed) :
    outside.run n (parts.flatMap SourcePart.lines) = (outside, SourcePart.functions n parts) := by
  induction parts generalizing n with
  | nil => rfl
  | cons part parts ih =>
    have hpart := h part (by simp)
    have hparts : ∀ p ∈ parts, p.WellFormed := fun p hp => h p (by simp [hp])
    rw [List.flatMap_cons, run_append]
    cases part with
    | outside line =>
      have hstep : outside.run n (SourcePart.outside line).lines = (outside, []) := by
        rw [SourcePart.lines, run_cons, step_outside, stepOutside, hpart]
        rfl
      rw [hstep, ih hparts]
      rfl
    | region r =>
      rw [SourcePart.lines, run_region hpart, ih hparts]
      rfl

end ScanState

/-- The functions found in a well-formed source are those of its layout. -/
theorem functionBlocks_of_layout {source : Text} {parts : List SourcePart}
    (hparts : ∀ p ∈ parts, p.WellFormed)
    (hlines : Text.lines source = parts.flatMap SourcePart.lines) :
    functionBlocks source = SourcePart.functions 1 parts := by
  rw [functionBlocks, hlines, ScanState.run_parts hparts]

/-- Two regions, with a signature over several lines and nested blocks in the first. -/
def twoRegions : List SourcePart := [
  .outside "mod token;",
  .region {
    heading := .apart "#[external]" ["", "// entry points"] "impl Token \x7b"
    items := [
      .filler "    const UNIT: u8 = 1;",
      .function ["    pub fn unit(&self) -> u8 \x7b 1 \x7d"],
      .function ["    pub fn step(", "        &mut self,", "    ) -> u8", "    \x7b",
        "        if self.up() \x7b", "            1", "        \x7d else \x7b 0 \x7d", "    \x7d"]]
    closing := "\x7d" },
  .outside "pub fn free() \x7b",
  .outside "\x7d",
  .region {
    heading := .joined "#[public] impl Vault \x7b"
    items := [.function ["    pub fn open(&self) \x7b", "    \x7d"]]
    closing := "\x7d" }]

/-- A source with two marked blocks, one of them with functions on one line and over several. -/
theorem functionBlocks_twoRegions :
    (∀ p ∈ twoRegions, p.WellFormed) ∧
      Text.lines (Text.unlines (twoRegions.flatMap SourcePart.lines)) =
        twoRegions.flatMap SourcePart.lines ∧
      (functionBlocks (Text.unlines (twoRegions.flatMap SourcePart.lines))).map (·.startLine) =
        [7, 8, 20] := by
  have hparts : ∀ p ∈ twoRegions, p.WellFormed := by
    intro p hp
    simp only [twoRegions, List.mem_cons, List.not_mem_nil, or_false] at hp
    rcases hp with rfl | rfl | rfl | rfl | rfl
    · rfl
    · exact ⟨⟨⟨[], rfl, rfl⟩, by decide, rfl, by decide⟩,
        ⟨⟨rfl, by decide⟩, ⟨.oneLine rfl (by decide), rfl⟩, ⟨.block rfl (by decide) (by decide), rfl⟩,
          trivial⟩, rfl, by decide⟩
    · rfl
    · rfl
    · exact ⟨⟨⟨" impl Vault \x7b", rfl, rfl⟩, by decide⟩,
        ⟨⟨.block rfl (by decide) (by decide), rfl⟩, trivial⟩, rfl, by decide⟩
  have hlines : Text.lines (Text.unlines (twoRegions.flatMap SourcePart.lines)) =
      twoRegions.flatMap SourcePart.lines := by decide +kernel
  refine ⟨hparts, hlines, ?_⟩
  rw [functionBlocks_of_layout hparts hlines]
  rfl

end StylusSurvey
