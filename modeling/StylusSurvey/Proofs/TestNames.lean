import Mathlib.Data.List.Forall2
import Mathlib.Data.List.Nodup
import Mathlib.Data.List.Pairwise
import StylusSurvey.Proofs.Lines
import StylusSurvey.TestModule

/-!
# Names of tests

The basic test of a function is named after it, and each further test has a suffix behind that name
(`EntryPoint.suffixes`). No suffix ends in another, so the name of a further test tells the function
and the scenario (`eq_of_append_suffix`). But the name of a function may itself end in a suffix.
Then its basic test has the name of a further test of the function without the suffix, if there is
one and the scenario applies to it (`Shadows`). For functions of different names this is the only
way in which two tests of a module get the same name (`testNames_nodup_iff`).
-/

namespace StylusSurvey

open Text

variable {f g : EntryPoint} {name s t suffix suffix' : Text} {fs : List EntryPoint}

/-- What stands behind the name of the function in the names of its further tests. -/
def EntryPoint.suffixes (f : EntryPoint) : List Text :=
  if f.mutates then ["_modifies_state", "_no_reentrancy"] else ["_returns_value"]

namespace Scenario

/-! ## The tests of a function -/

/-- The names of the tests of a function. -/
def testNames (f : EntryPoint) : List Text :=
  all.filterMap (·.testName? f)

/-- The tests of a function are named for it, each but the first with a suffix. -/
theorem testNames_eq (f : EntryPoint) :
    testNames f = ([] :: f.suffixes).map fun suffix => "test_" ++ (f.name ++ suffix) := by
  unfold testNames EntryPoint.suffixes
  cases hmutates : f.mutates <;> simp [all, testName?, hmutates]

/-- A name is that of a test of a function if it is the name of the function behind a prefix,
perhaps with a suffix. -/
theorem mem_testNames_iff : name ∈ testNames f ↔
    name = "test_" ++ f.name ∨ ∃ suffix ∈ f.suffixes, name = "test_" ++ (f.name ++ suffix) := by
  rw [testNames_eq, List.map_cons, List.append_nil, List.mem_cons, List.mem_map]
  simp only [eq_comm]

/-- Every suffix of a further test. -/
def allSuffixes : List Text :=
  ["_modifies_state", "_no_reentrancy", "_returns_value"]

theorem mem_allSuffixes (h : suffix ∈ f.suffixes) : suffix ∈ allSuffixes := by
  have hall : allSuffixes =
      (["_modifies_state", "_no_reentrancy"] : List Text) ++ (["_returns_value"] : List Text) := rfl
  unfold EntryPoint.suffixes at h
  rw [hall, List.mem_append]
  split at h
  · exact .inl h
  · exact .inr h

/-- No suffix is empty, and none ends in another. -/
theorem allSuffixes_apart : [] ∉ allSuffixes ∧
    ∀ suffix ∈ allSuffixes, ∀ suffix' ∈ allSuffixes, suffix <:+ suffix' → suffix = suffix' := by
  decide

theorem ne_nil_of_mem_suffixes (h : suffix ∈ f.suffixes) : suffix ≠ [] :=
  ne_of_mem_of_not_mem (mem_allSuffixes h) allSuffixes_apart.1

/-- A name with a suffix behind it is taken apart in one way only. -/
theorem eq_of_append_suffix (hsuffix : suffix ∈ f.suffixes) (hsuffix' : suffix' ∈ g.suffixes)
    (h : s ++ suffix = t ++ suffix') : s = t := by
  obtain ⟨-, hapart⟩ := allSuffixes_apart
  have hmem := mem_allSuffixes hsuffix
  have hmem' := mem_allSuffixes hsuffix'
  have hend : suffix <:+ t ++ suffix' := h ▸ List.suffix_append s suffix
  have heq : suffix = suffix' := by
    rcases List.suffix_or_suffix_of_suffix hend (List.suffix_append t suffix') with hle | hle
    · exact hapart suffix hmem suffix' hmem' hle
    · exact (hapart suffix' hmem' suffix hmem hle).symm
  subst heq
  exact List.append_cancel_right h

/-- No two tests of one function have the same name. -/
theorem nodup_testNames (f : EntryPoint) : (testNames f).Nodup := by
  rw [testNames_eq]
  refine List.Nodup.map ((List.append_right_injective _).comp (List.append_right_injective _)) ?_
  unfold EntryPoint.suffixes
  split <;> decide

/-! ## The tests of two functions -/

/-- The first function is named like the second with a suffix of its further tests. -/
def Shadows (f g : EntryPoint) : Prop :=
  ∃ suffix ∈ g.suffixes, f.name = g.name ++ suffix

theorem not_shadows_self (f : EntryPoint) : ¬ Shadows f f := by
  rintro ⟨suffix, hsuffix, h⟩
  exact ne_nil_of_mem_suffixes hsuffix (List.append_right_eq_self.1 h.symm)

/-- Two functions share no name of a test exactly if their own names differ and none of them shadows
the other. -/
theorem disjoint_testNames_iff : List.Disjoint (testNames f) (testNames g) ↔
    f.name ≠ g.name ∧ ¬ Shadows f g ∧ ¬ Shadows g f := by
  rw [List.disjoint_left]
  simp only [mem_testNames_iff]
  constructor
  · intro h
    refine ⟨fun heq => ?_, ?_, ?_⟩
    · exact h (.inl rfl) (.inl (by rw [heq]))
    · rintro ⟨suffix, hsuffix, hname⟩
      exact h (.inl rfl) (.inr ⟨suffix, hsuffix, by rw [hname]⟩)
    · rintro ⟨suffix, hsuffix, hname⟩
      exact h (.inr ⟨suffix, hsuffix, rfl⟩) (.inl (by rw [hname]))
  · rintro ⟨hne, hshadows, hshadows'⟩ _ (rfl | ⟨suffix, hsuffix, rfl⟩) hg
    · rcases hg with hname | ⟨suffix', hsuffix', hname⟩
      · exact hne (List.append_cancel_left hname)
      · exact hshadows ⟨suffix', hsuffix', List.append_cancel_left hname⟩
    · rcases hg with hname | ⟨suffix', hsuffix', hname⟩
      · exact hshadows' ⟨suffix, hsuffix, (List.append_cancel_left hname).symm⟩
      · exact hne (eq_of_append_suffix hsuffix hsuffix' (List.append_cancel_left hname))

/-- The tests of all functions have different names exactly if the functions have and none of them
shadows another. -/
theorem nodup_flatMap_testNames_iff : (fs.flatMap testNames).Nodup ↔
    (fs.map (·.name)).Nodup ∧ ∀ f ∈ fs, ∀ g ∈ fs, ¬ Shadows f g := by
  have hpairs : fs.Pairwise (fun f g => ¬ Shadows f g ∧ ¬ Shadows g f) ↔
      ∀ f ∈ fs, ∀ g ∈ fs, ¬ Shadows f g := by
    constructor
    · intro h f hf g hg
      have : Std.Symm fun f g => ¬ Shadows f g ∧ ¬ Shadows g f := ⟨fun _ _ h => h.symm⟩
      exact (h.forall_of_forall (fun f _ => ⟨not_shadows_self f, not_shadows_self f⟩) hf hg).1
    · intro h
      exact List.pairwise_of_forall_mem_list fun f hf g hg => ⟨h f hf g hg, h g hg f hf⟩
  have hdisjoint : fs.Pairwise (Function.onFun List.Disjoint testNames) ↔
      fs.Pairwise fun f g => f.name ≠ g.name ∧ ¬ Shadows f g ∧ ¬ Shadows g f :=
    List.Pairwise.iff fun f g => disjoint_testNames_iff
  rw [List.nodup_flatMap, hdisjoint, List.pairwise_and_iff, hpairs, List.Nodup, List.pairwise_map]
  exact and_iff_right fun f _ => nodup_testNames f

end Scenario

/-! ## The tests of a module -/

/-- The test is a function of the name whose argument is the contract. -/
def GeneratedTest.Defines (contract : Text) (test : GeneratedTest) (name : Text) : Prop :=
  ∃ body : Text, test.code =
    "    #[motsu::test]\n    fn " ++ (name ++ ("(contract: " ++ (contract ++ (") \x7b\n" ++ body))))

/-- The code of a test defines a function of its name. -/
theorem Scenario.exists_testCode_eq (contract name : Text) (body : List Text) :
    ∃ rest : Text, testCode contract name body =
      "    #[motsu::test]\n    fn " ++
        (name ++ ("(contract: " ++ (contract ++ (") \x7b\n" ++ rest)))) := by
  refine ⟨unlines (body.concat "    \x7d"), ?_⟩
  have hbody : body.concat "    \x7d" ≠ [] := by simp
  change unlines ([_, _] ++ body.concat "    \x7d") = _
  rw [unlines_append (List.cons_ne_nil _ _) hbody]
  simp [unlines]

namespace TestModule

/-- The names of all tests of a contract, in order. -/
def testNames (c : Contract) : List Text :=
  c.functions.flatMap Scenario.testNames

/-- The tests of a function define functions of the names of the scenarios. -/
theorem forall₂_testsOf (contract : Text) (f : EntryPoint) :
    List.Forall₂ (GeneratedTest.Defines contract) (testsOf contract f) (Scenario.testNames f) := by
  unfold testsOf Scenario.testNames
  induction Scenario.all with
  | nil => exact .nil
  | cons s scenarios ih =>
    cases hname : s.testName? f with
    | none => simpa [Scenario.code?, hname] using ih
    | some name =>
      have hdefines := Scenario.exists_testCode_eq contract name (s.bodyLines f)
      simpa [Scenario.code?, hname] using List.Forall₂.cons hdefines ih

/-- The tests of a module define functions of these names, and no two of them have the same name
exactly if no two functions of the contract have, and none is named like another one with the suffix
of a further test. -/
theorem testNames_nodup_iff (c : Contract) :
    List.Forall₂ (GeneratedTest.Defines c.name) (ofContract c).tests (testNames c) ∧
      ((testNames c).Nodup ↔ (c.functions.map (·.name)).Nodup ∧
        ∀ f ∈ c.functions, ∀ g ∈ c.functions, ¬ Scenario.Shadows f g) := by
  refine ⟨?_, Scenario.nodup_flatMap_testNames_iff⟩
  unfold ofContract testNames
  induction c.functions with
  | nil => exact .nil
  | cons f fs ih => exact List.rel_append (forall₂_testsOf c.name f) ih

/-- A contract with a function that is named like the second test of the one before it. -/
def shadowingContract : Contract where
  name := "Vault"
  fields := []
  functions := [⟨"get", [], "U256", false, 3, []⟩, ⟨"get_returns_value", [], "bool", false, 6, []⟩]

/-- Different names of functions are not enough for the names of tests to be different. -/
theorem testNames_clash :
    (shadowingContract.functions.map (·.name)).Nodup ∧ ¬ (testNames shadowingContract).Nodup ∧
      (testNames shadowingContract).count ("test_get_returns_value" : Text) = 2 := by
  decide +kernel

end TestModule

end StylusSurvey
