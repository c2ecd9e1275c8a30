import StylusSurvey.Proofs.Printing
import StylusSurvey.Proofs.TestNames

/-!
# Test modules are closed

A test module is put together from the names of the contract and its functions and from fixed
pieces; of the parameters it has literals only. So where the names have neither braces nor
newlines, every line of a test but the second and the last leaves the depth of braces as it is
(`Scenario.braceBalanced_testLines`), and the module is one block around its tests, which is closed
at the last line (`TestModule.closed_at_last_line`).
-/

namespace StylusSurvey

open Text

variable {c : Contract} {f : EntryPoint} {s : Scenario} {contract name : Text} {body : List Text}

/-! ## Lines without braces -/

/-- The text has no braces and can stand on a line of its own. -/
structure Text.IsPlainLine (l : Text) : Prop where
  isPlain : IsPlain l
  isLine : IsLine l

instance (l : Text) : Decidable (IsPlainLine l) :=
  decidable_of_iff (IsPlain l ∧ IsLine l) ⟨fun ⟨h, h'⟩ => ⟨h, h'⟩, fun h => ⟨h.isPlain, h.isLine⟩⟩

theorem Text.IsPlain.line {s t : Text} (hs : IsPlain s) (ht : t ≠ [] ∧ IsPlainLine t) :
    IsPlainLine (s ++ t) :=
  ⟨hs.append ht.2.isPlain, isLine_append hs.newline ⟨ht.1, ht.2.isLine⟩⟩

theorem Text.isPlain_intercalate {sep : Text} {xs : List Text} (hsep : IsPlain sep)
    (h : ∀ x ∈ xs, IsPlain x) : IsPlain (sep.intercalate xs) := by
  induction xs with
  | nil => exact show IsPlain [] by decide
  | cons x xs ih =>
    obtain ⟨hx, hxs⟩ := List.forall_mem_cons.1 h
    rcases eq_or_ne xs [] with rfl | hne
    · rwa [List.intercalate_singleton]
    · rw [List.intercalate_cons_of_ne_nil hne]
      exact (hx.append hsep).append (ih hxs)

/-- No literal has braces in it. -/
theorem DefaultValue.isPlain_ofType (type : Text) : IsPlain (ofType type) := by
  have htable : ∀ row ∈ table, IsPlain row.literal := by decide
  have hfallback : IsPlain fallback := by decide
  unfold ofType
  dsimp only
  split
  case h_1 row hrow => exact htable row (List.mem_of_find?_eq_some hrow)
  case h_2 => exact hfallback

/-! ## The lines of a test -/

namespace Scenario

theorem isPlain_call (h : IsPlain f.name) : IsPlain (call f) := by
  have hargs : IsPlain
      (List.intercalate [',', ' '] (f.params.map fun p => DefaultValue.ofType p.type)) :=
    isPlain_intercalate (by decide) (List.forall_mem_map.2 fun p _ => DefaultValue.isPlain_ofType _)
  have hfront : IsPlain ("contract." ++ f.name ++ "(") :=
    (IsPlain.append (by decide) h).append (by decide)
  exact (hfront.append hargs).append (by decide)

theorem isPlainLine_assertOk {result : Text} (hresult : IsPlain result) (h : IsPlain f.name) :
    ∀ l ∈ assertOk result f, IsPlainLine l := by
  have hbind : IsPlain ("        let " ++ result ++ " = ") :=
    (IsPlain.append (by decide) hresult).append (by decide)
  have hassert : IsPlain ("        assert!(" ++ result) := IsPlain.append (by decide) hresult
  exact List.forall_mem_cons.2 ⟨(hbind.append (isPlain_call h)).line (by decide),
    List.forall_mem_singleton.2 (hassert.line (by decide))⟩

/-- No line in the body of a test has braces, whatever the types of the parameters. -/
theorem isPlainLine_bodyLines (s : Scenario) (h : IsPlain f.name) :
    ∀ l ∈ s.bodyLines f, IsPlainLine l := by
  have hassert (result : Text) (hresult : IsPlain result) := isPlainLine_assertOk hresult h
  have hstate : ∀ l ∈ stateRemark, IsPlainLine l := by decide
  have hsecond : ∀ l ∈ secondCallRemark, IsPlainLine l := by decide
  cases s with
  | basicCall => exact hassert "result" (by decide)
  | stateChange =>
    unfold bodyLines
    dsimp only
    split
    · refine List.forall_mem_cons.2 ⟨by decide, List.forall_mem_append.2 ⟨?_, hstate⟩⟩
      exact hassert "result" (by decide)
    · exact hassert "result" (by decide)
  | reentrancy =>
    refine List.forall_mem_cons.2 ⟨by decide, List.forall_mem_append.2 ⟨?_, ?_⟩⟩
    · exact List.forall_mem_append.2 ⟨hassert "first" (by decide), hsecond⟩
    · exact hassert "second" (by decide)

/-- The lines of a test. -/
def testLines (contract name : Text) (body : List Text) : List Text :=
  "    #[motsu::test]" :: ("    fn " ++ name ++ "(contract: " ++ contract ++ ") \x7b") ::
    (body ++ (["    \x7d"] : List Text))

/-- The code of a test is its lines, joined. -/
theorem testCode_eq (contract name : Text) (body : List Text) :
    testCode contract name body = unlines (testLines contract name body) := by
  rw [testCode, testLines, List.concat_eq_append]

/-- The line with the name of the test up to its brace. -/
theorem isPlain_header (hcontract : IsPlain contract) (hname : IsPlain name) :
    IsPlain ("    fn " ++ name ++ "(contract: " ++ contract) :=
  ((IsPlain.append (by decide) hname).append (by decide)).append hcontract

theorem isLine_of_mem_testLines (hcontract : IsPlain contract) (hname : IsPlain name)
    (hbody : ∀ l ∈ body, IsPlainLine l) : ∀ l ∈ testLines contract name body, IsLine l := by
  refine List.forall_mem_cons.2 ⟨by decide, List.forall_mem_cons.2
    ⟨isLine_append (isPlain_header hcontract hname).newline (by decide), ?_⟩⟩
  exact List.forall_mem_append.2 ⟨fun l hl => (hbody l hl).isLine, by decide⟩

/-- The braces of a test balance. -/
theorem braceBalanced_testLines (hcontract : IsPlain contract) (hname : IsPlain name)
    (hbody : ∀ l ∈ body, IsPlainLine l) : BraceBalanced (testLines contract name body) := by
  have hopen : braceDelta ("    fn " ++ name ++ "(contract: " ++ contract ++ ") \x7b") = 1 := by
    rw [braceDelta_append, (isPlain_header hcontract hname).braceDelta_eq]
    rfl
  have hplain : BraceBalanced body :=
    braceBalanced_of_forall fun l hl => (hbody l hl).isPlain.braceDelta_eq
  have hclose : braceDelta "    \x7d" = -1 := rfl
  have hattribute : BraceBalanced ["    #[motsu::test]"] := by decide
  exact hattribute.append (hplain.enclosed hopen hclose)

theorem lines_testCode (hcontract : IsPlain contract) (hname : IsPlain name)
    (hbody : ∀ l ∈ body, IsPlainLine l) :
    lines (testCode contract name body) = testLines contract name body := by
  rw [testCode_eq]
  refine lines_unlines (isLine_of_mem_testLines hcontract hname hbody) ?_
  rw [testLines, ← List.cons_append, ← List.cons_append, List.getLast?_concat]
  decide

/-- The scenarios that apply to a function: three if it mutates the state, and else two. -/
def applying (f : EntryPoint) : List Scenario :=
  if f.mutates then [.basicCall, .stateChange, .reentrancy] else [.basicCall, .stateChange]

/-- The name of a test has no braces if that of its function has none. -/
theorem isPlain_of_testName? (hf : IsPlain f.name) (h : s.testName? f = some name) :
    IsPlain name := by
  have htest : IsPlain ("test_" ++ f.name) := IsPlain.append (by decide) hf
  cases s with
  | basicCall => exact Option.some.inj h ▸ htest
  | stateChange =>
    obtain rfl := Option.some.inj h
    refine htest.append ?_
    split <;> decide
  | reentrancy =>
    unfold testName? at h
    dsimp only at h
    split at h
    · exact Option.some.inj h ▸ htest.append (by decide)
    · cases h

end Scenario

/-! ## The tests of a module -/

/-- The test is the one of the scenario for the function: it has the title of the scenario and
defines a function with the name of the test. -/
def GeneratedTest.IsFor (contract : Text) (f : EntryPoint) (s : Scenario) (test : GeneratedTest) :
    Prop :=
  test.scenario = s.label ∧ ∃ name, s.testName? f = some name ∧ test.Defines contract name

namespace TestModule

variable {t : GeneratedTest} {ts : List GeneratedTest}

/-- There is one test for each scenario that applies, in order. -/
theorem forall₂_applying (contract : Text) (f : EntryPoint) : List.Forall₂
    (fun s test => test.IsFor contract f s) (Scenario.applying f) (testsOf contract f) := by
  have hfor (s : Scenario) {name : Text} (h : s.testName? f = some name) :
      GeneratedTest.IsFor contract f s
        ⟨s.label, Scenario.testCode contract name (s.bodyLines f)⟩ :=
    ⟨rfl, name, h, Scenario.exists_testCode_eq contract name _⟩
  have hbasic := hfor .basicCall rfl
  have hstate := hfor .stateChange rfl
  unfold Scenario.applying testsOf Scenario.all
  cases hmutates : f.mutates with
  | false =>
    have hnone : Scenario.reentrancy.testName? f = none := by simp [Scenario.testName?, hmutates]
    simp only [List.filterMap_cons, Scenario.code?, hnone]
    exact .cons hbasic (.cons hstate .nil)
  | true =>
    have hsome : Scenario.reentrancy.testName? f =
        some ("test_" ++ f.name ++ "_no_reentrancy") := by
      simp [Scenario.testName?, hmutates]
    simp only [List.filterMap_cons, Scenario.code?, hsome]
    exact .cons hbasic (.cons hstate (.cons (hfor .reentrancy hsome) .nil))

/-- The tests of a module are those of its functions in order. -/
theorem forall₂_tests (c : Contract) : List.Forall₂ (fun fs test => test.IsFor c.name fs.1 fs.2)
    (c.functions.flatMap fun f => (Scenario.applying f).map fun s => (f, s))
    (ofContract c).tests := by
  unfold ofContract
  induction c.functions with
  | nil => exact .nil
  | cons f fs ih =>
    have hone : List.Forall₂ (fun fs test => test.IsFor c.name fs.1 fs.2)
        ((Scenario.applying f).map fun s => (f, s)) (testsOf c.name f) :=
      List.forall₂_map_left_iff.2 (forall₂_applying c.name f)
    exact List.rel_append hone ih

/-- Every test of a function is the code of a scenario. -/
theorem exists_of_mem_testsOf (h : t ∈ testsOf contract f) : ∃ (s : Scenario) (name : Text),
    s.testName? f = some name ∧ t.code = Scenario.testCode contract name (s.bodyLines f) := by
  obtain ⟨s, -, h⟩ := List.mem_filterMap.1 h
  obtain ⟨code, hcode, rfl⟩ := Option.map_eq_some_iff.1 h
  obtain ⟨name, hname, rfl⟩ := Option.map_eq_some_iff.1 hcode
  exact ⟨s, name, hname, rfl⟩

/-- The code of a test is its lines with newlines between them, and their braces balance. -/
structure IsCode (t : GeneratedTest) : Prop where
  nonempty : lines t.code ≠ []
  code : t.code = unlines (lines t.code)
  isLine : ∀ l ∈ lines t.code, IsLine l
  braces : BraceBalanced (lines t.code)

/-- All tests of a contract with plain names are code. -/
theorem isCode_of_mem (hname : IsPlain c.name) (hnames : ∀ f ∈ c.functions, IsPlain f.name)
    (h : t ∈ (ofContract c).tests) : IsCode t := by
  obtain ⟨f, hf, ht⟩ := List.mem_flatMap.1 h
  obtain ⟨s, name, htest, hcode⟩ := exists_of_mem_testsOf ht
  have hplain := Scenario.isPlain_of_testName? (hnames f hf) htest
  have hbody := Scenario.isPlainLine_bodyLines s (hnames f hf)
  have hlines : lines t.code = Scenario.testLines c.name name (s.bodyLines f) := by
    rw [hcode, Scenario.lines_testCode hname hplain hbody]
  constructor
  case nonempty => exact hlines ▸ List.cons_ne_nil _ _
  case code => rw [hlines, hcode, Scenario.testCode_eq]
  case isLine => exact hlines ▸ Scenario.isLine_of_mem_testLines hname hplain hbody
  case braces => exact hlines ▸ Scenario.braceBalanced_testLines hname hplain hbody

/-! ## The lines of a module -/

/-- The lines of the header. -/
def headerLines (contract : Text) : List Text :=
  ["#[cfg(test)]", "mod tests \x7b", "    use super::" ++ contract ++ ";",
    "    use stylus_sdk::alloy_primitives::\x7bU256, Address\x7d;"]

/-- The lines between the brace of the header and that of the footer. -/
def innerLines (contract : Text) (ts : List GeneratedTest) : List Text :=
  (["    use super::" ++ contract ++ ";",
    "    use stylus_sdk::alloy_primitives::\x7bU256, Address\x7d;", []] : List Text) ++
    (ts.flatMap (fun t => lines t.code) ++ [[]])

/-- The lines of the module with the tests. -/
def moduleLines (contract : Text) (ts : List GeneratedTest) : List Text :=
  "#[cfg(test)]" :: "mod tests \x7b" :: (innerLines contract ts ++ (["\x7d"] : List Text))

/-- The lines of a module are its header, the tests, and the end. -/
theorem moduleLines_eq (contract : Text) (ts : List GeneratedTest) : moduleLines contract ts =
    headerLines contract ++
      [] :: (ts.flatMap (fun t => lines t.code) ++ ([[], "\x7d"] : List Text)) := by
  simp only [moduleLines, innerLines, headerLines, List.append_assoc, List.cons_append,
    List.nil_append]

theorem isPlainLine_use (h : IsPlain contract) :
    IsPlainLine ("    use super::" ++ contract ++ ";") :=
  (IsPlain.append (by decide) h).line (by decide)

theorem isLine_of_mem_headerLines (h : IsPlain contract) :
    ∀ l ∈ headerLines contract, IsLine l :=
  List.forall_mem_cons.2 ⟨by decide, List.forall_mem_cons.2 ⟨by decide,
    List.forall_mem_cons.2 ⟨(isPlainLine_use h).isLine, by decide⟩⟩⟩

theorem lines_headerOf (h : IsPlain contract) :
    lines (headerOf contract) = headerLines contract := by
  have hheader : headerOf contract = unlines (headerLines contract ++ [[]]) := rfl
  have hne : headerLines contract ≠ [] := List.cons_ne_nil _ _
  rw [hheader, unlines_concat_nil hne]
  exact lines_unlines_append_newline hne (isLine_of_mem_headerLines h)

theorem isLine_of_mem_moduleLines (h : IsPlain contract) (hts : ∀ t ∈ ts, IsCode t) :
    ∀ l ∈ moduleLines contract ts, IsLine l := by
  rw [moduleLines_eq]
  refine List.forall_mem_append.2 ⟨isLine_of_mem_headerLines h, List.forall_mem_cons.2
    ⟨by decide, List.forall_mem_append.2 ⟨fun l hl => ?_, by decide⟩⟩⟩
  obtain ⟨t, ht, hl⟩ := List.mem_flatMap.1 hl
  exact (hts t ht).isLine l hl

/-- What stands inside of a module balances. -/
theorem braceBalanced_innerLines (h : IsPlain contract) (hts : ∀ t ∈ ts, IsCode t) :
    BraceBalanced (innerLines contract ts) := by
  have hfront : BraceBalanced (["    use super::" ++ contract ++ ";",
      "    use stylus_sdk::alloy_primitives::\x7bU256, Address\x7d;", []] : List Text) :=
    braceBalanced_of_forall (List.forall_mem_cons.2
      ⟨(isPlainLine_use h).isPlain.braceDelta_eq, by decide⟩)
  have htests : BraceBalanced (ts.flatMap fun t => lines t.code) :=
    .flatMap fun t ht => (hts t ht).braces
  exact hfront.append (htests.append (by decide))

/-- The module is a block in the braces of header and footer. -/
theorem closesAtLast_moduleLines (h : IsPlain contract) (hts : ∀ t ∈ ts, IsCode t) :
    ClosesAtLast (moduleLines contract ts) ∧ braceSum (moduleLines contract ts) = 0 := by
  have hinner := braceBalanced_innerLines h hts
  have hopen : braceDelta "mod tests \x7b" = 1 := rfl
  have hclose : braceDelta "\x7d" = -1 := rfl
  have hattribute : braceDelta "#[cfg(test)]" = 0 := rfl
  refine ⟨(hinner.closesAtLast hopen hclose).cons hattribute, ?_⟩
  rw [moduleLines, braceSum_cons, hattribute, (hinner.enclosed hopen hclose).2, Int.add_zero]

/-- The file is the lines of the module, joined. -/
theorem fullFile_eq (hts : ∀ t ∈ (ofContract c).tests, IsCode t) : (ofContract c).fullFile =
    unlines (moduleLines c.name (ofContract c).tests) ++ ['\n'] := by
  have hparts : (ofContract c).fullFile = unlines ((ofContract c).header ::
      ((ofContract c).tests.map (·.code) ++ [[], footer])) := rfl
  generalize (ofContract c).tests = ts at *
  -- each part is itself made of lines: the empty part of one empty line, the footer of two
  have hcodes : ts.map (·.code) = (ts.map fun t => lines t.code).map unlines := by
    rw [List.map_map]
    exact List.map_congr_left fun t ht => (hts t ht).code
  have hlists : unlines ((ofContract c).header :: (ts.map (·.code) ++ [[], footer])) =
      unlines (((headerLines c.name ++ [[]]) ::
        ((ts.map fun t => lines t.code) ++ [[[]], ["\x7d", []]])).map unlines) := by
    rw [hcodes, List.map_cons, List.map_append]
    rfl
  have hnonempty : ∀ ls ∈ (headerLines c.name ++ [[]]) ::
      ((ts.map fun t => lines t.code) ++ [[[]], ["\x7d", []]]), ls ≠ [] :=
    List.forall_mem_cons.2 ⟨List.cons_ne_nil _ _, List.forall_mem_append.2
      ⟨List.forall_mem_map.2 fun t ht => (hts t ht).nonempty, by simp⟩⟩
  rw [hparts, hlists, unlines_map_unlines hnonempty]
  have hflatten : ((headerLines c.name ++ [[]]) ::
      ((ts.map fun t => lines t.code) ++ [[[]], ["\x7d", []]])).flatten =
        moduleLines c.name ts ++ [[]] := by
    rw [moduleLines_eq, List.flatMap_def]
    simp
  have hne : moduleLines c.name ts ≠ [] := List.cons_ne_nil _ _
  rw [hflatten, unlines_concat_nil hne]

/-- The file is read as the lines of the module. -/
theorem lines_fullFile (h : IsPlain c.name) (hts : ∀ t ∈ (ofContract c).tests, IsCode t) :
    lines (ofContract c).fullFile = moduleLines c.name (ofContract c).tests := by
  rw [fullFile_eq hts]
  exact lines_unlines_append_newline (List.cons_ne_nil _ _) (isLine_of_mem_moduleLines h hts)

/-! ## Test modules -/

/-- The module is its header and its tests in order and is one block, which is closed at its last
line, with the braces of each test balanced inside it. -/
structure IsOneBlock (m : TestModule) : Prop where
  text : m.fullFile = unlines (m.header :: (m.tests.map (·.code) ++ [[], footer]))
  lines : lines m.fullFile =
    lines m.header ++ [] :: (m.tests.flatMap (fun t => lines t.code) ++ ([[], "\x7d"] : List Text))
  opened : (BraceDepth.after (Text.lines m.header)).depth = 1
  tests : ∀ t ∈ m.tests, BraceBalanced (Text.lines t.code)
  closed : (BraceDepth.after (Text.lines m.fullFile)).isClosed = true
  depth : (BraceDepth.after (Text.lines m.fullFile)).depth = 0
  first : ∀ p, p <+: Text.lines m.fullFile → p ≠ Text.lines m.fullFile →
    (BraceDepth.after p).isClosed = false

/-- Where the names of a contract and its functions have neither braces nor newlines, its test
module has the tests of the applying scenarios for each function in order, and is one block around
them. -/
theorem closed_at_last_line (hname : IsPlain c.name)
    (hnames : ∀ f ∈ c.functions, IsPlain f.name) :
    List.Forall₂ (fun fs test => test.IsFor c.name fs.1 fs.2)
      (c.functions.flatMap fun f => (Scenario.applying f).map fun s => (f, s))
      (ofContract c).tests ∧ IsOneBlock (ofContract c) := by
  have hts : ∀ t ∈ (ofContract c).tests, IsCode t := fun _ ht => isCode_of_mem hname hnames ht
  have hlines := lines_fullFile hname hts
  have hheader : lines (ofContract c).header = headerLines c.name := lines_headerOf hname
  obtain ⟨hcloses, hsum⟩ := closesAtLast_moduleLines hname hts
  rw [← hlines] at hcloses hsum
  refine ⟨?_, rfl, ?_, ?_, fun t ht => (hts t ht).braces, ?_, ?_, fun p hp hne => ?_⟩
  · exact forall₂_tests c
  · rw [hlines, hheader, moduleLines_eq]
  · rw [BraceDepth.depth_after, hheader, headerLines]
    simp only [braceSum_cons, (isPlainLine_use hname).isPlain.braceDelta_eq]
    rfl
  · exact (BraceDepth.isClosed_after _).2 hcloses.1
  · rw [BraceDepth.depth_after, hsum]
  · rw [Bool.eq_false_iff, ne_eq, BraceDepth.isClosed_after]
    exact hcloses.2 p hp hne

/-- A contract with a function that takes a type with a brace. -/
def bracedContract : Contract where
  name := "Vault"
  fields := []
  functions := [⟨"put", [⟨"data", "Blob<\x7b N"⟩, ⟨"to", "Address"⟩], "()", true, 3, []⟩,
    ⟨"get", [], "U256", false, 7, []⟩]

/-- The brace in the type of a parameter does not get into the module. -/
theorem closed_at_last_line_bracedContract :
    IsOneBlock (ofContract bracedContract) ∧ (ofContract bracedContract).tests.length = 5 := by
  have hname : IsPlain bracedContract.name := by decide
  have hnames : ∀ f ∈ bracedContract.functions, IsPlain f.name := by decide
  obtain ⟨htests, hblock⟩ := closed_at_last_line hname hnames
  exact ⟨hblock, htests.length_eq.symm⟩

end TestModule

end StylusSurvey
