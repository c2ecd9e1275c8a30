import StylusSurvey.Contract.Parse
import StylusSurvey.Text.Line

/-!
# Test modules

A test module for a contract: a header, for each function one test per scenario
that applies to it, and a footer. The tests call the function with a literal for
each parameter, chosen by its type.
-/

namespace StylusSurvey

open Text

/-- Keys of types, and the literal for a type in which one of them occurs. -/
structure DefaultValue where
  keys : List Text
  literal : Text

namespace DefaultValue

/-- The literals, in the order in which they are tried. -/
def table : List DefaultValue :=
  [{ keys := ["Vec<u8>"], literal := "vec![1, 2, 3]" },
    { keys := ["U256"], literal := "U256::from(42)" },
    { keys := ["U128"], literal := "U128::from(42)" },
    { keys := ["U64"], literal := "U64::from(42)" },
    { keys := ["Address"], literal := "Address::ZERO" },
    { keys := ["bool"], literal := "true" },
    { keys := ["u8", "u16", "u32", "u64"], literal := "42" },
    { keys := ["String", "str"], literal := "\"hello\".to_string()" }]

/-- The literal for a type in which no key occurs. -/
def fallback : Text := "Default::default()"

/-- The literal for a type. -/
def ofType (type : Text) : Text :=
  let type := trim type
  match table.find? fun row => row.keys.any fun key => occurs key type with
  | some row => row.literal
  | none => fallback

end DefaultValue

/-- What is tested of a function. -/
inductive Scenario where
  | basicCall
  | stateChange
  | reentrancy
deriving DecidableEq, Repr

namespace Scenario

/-- The scenarios, in order. -/
def all : List Scenario := [basicCall, stateChange, reentrancy]

/-- The short name of a scenario. -/
def id : Scenario → Text
  | basicCall => "basic-call"
  | stateChange => "state-change"
  | reentrancy => "reentrancy"

/-- The title of a scenario. -/
def label : Scenario → Text
  | basicCall => "Basic function call"
  | stateChange => "State change verification"
  | reentrancy => "Reentrancy guard"

/-- The name of the test of a function, if the scenario applies to it. -/
def testName? (s : Scenario) (f : EntryPoint) : Option Text :=
  match s with
  | basicCall => some ("test_" ++ f.name)
  | stateChange =>
    some ("test_" ++ f.name ++ (if f.mutates then "_modifies_state" else "_returns_value"))
  | reentrancy => if f.mutates then some ("test_" ++ f.name ++ "_no_reentrancy") else none

/-- The call of a function with a literal for each parameter. -/
def call (f : EntryPoint) : Text :=
  "contract." ++ f.name ++ "(" ++
    List.intercalate [',', ' '] (f.params.map fun p => DefaultValue.ofType p.type) ++ ")"

/-- The lines that call a function, bind the result to a name and assert that it is no error. -/
def assertOk (result : Text) (f : EntryPoint) : List Text :=
  ["        let " ++ result ++ " = " ++ call f ++ ";",
    "        assert!(" ++ result ++ ".is_ok());"]

/-- What is left to do in the test of a function that changes the state. -/
def stateRemark : List Text :=
  ["", "        // TODO: Assert state was modified as expected",
    "        // e.g., let stored = contract.getter().unwrap();"]

/-- What the second call in a test of reentrancy means. -/
def secondCallRemark : List Text :=
  ["",
    "        // Second call in same context should also succeed (no reentrancy guard by default)"]

/-- The lines in the body of the test of a function. -/
def bodyLines (s : Scenario) (f : EntryPoint) : List Text :=
  match s with
  | basicCall => assertOk "result" f
  | stateChange =>
    if f.mutates then "        // Act" :: (assertOk "result" f ++ stateRemark)
    else assertOk "result" f
  | reentrancy =>
    "        // First call should succeed" ::
      (assertOk "first" f ++ secondCallRemark ++ assertOk "second" f)

/-- The code of a test of the given name and body. -/
def testCode (contract name : Text) (body : List Text) : Text :=
  unlines
    ("    #[motsu::test]" :: ("    fn " ++ name ++ "(contract: " ++ contract ++ ") \x7b") ::
      body.concat "    \x7d")

/-- The code of the test of a function, if the scenario applies to it. -/
def code? (s : Scenario) (contract : Text) (f : EntryPoint) : Option Text :=
  (s.testName? f).map fun name => testCode contract name (s.bodyLines f)

end Scenario

/-- A test of a test module. -/
structure GeneratedTest where
  /-- The title of the scenario. -/
  scenario : Text
  code : Text
deriving DecidableEq, Repr

/-- A test module, its parts and as a whole. -/
structure TestModule where
  header : Text
  tests : List GeneratedTest
  /-- The text of the module. -/
  fullFile : Text
deriving DecidableEq, Repr

namespace TestModule

/-- The header of the test module of a contract. -/
def headerOf (contract : Text) : Text :=
  unlines
    ["#[cfg(test)]", "mod tests \x7b", "    use super::" ++ contract ++ ";",
      "    use stylus_sdk::alloy_primitives::\x7bU256, Address\x7d;", ""]

/-- The footer of a test module. -/
def footer : Text := "\x7d\n"

/-- The tests of a function of the contract. -/
def testsOf (contract : Text) (f : EntryPoint) : List GeneratedTest :=
  Scenario.all.filterMap fun s =>
    (s.code? contract f).map fun code => { scenario := s.label, code }

/-- The test module of a contract. -/
def ofContract (c : Contract) : TestModule :=
  let header := headerOf c.name
  let tests := c.functions.flatMap (testsOf c.name)
  { header
    tests
    fullFile := unlines ([header] ++ tests.map (·.code) ++ [[], footer]) }

/-- The test module of the contract that a source describes. -/
def ofSource (source : Text) : TestModule :=
  ofContract (Contract.parse source)

end TestModule

end StylusSurvey
