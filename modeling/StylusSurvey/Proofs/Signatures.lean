import StylusSurvey.Contract.Signature
import StylusSurvey.Proofs.Texts

/-!
# Reading a signature

The parts of a signature, each followed by whatever comes next, with any blanks that may
stand between them. The parameters have no closing parenthesis and the return type no
opening brace, so the reader stops at the first of these (`paramsAndResult?_append`,
`result?_append`). A whole signature is read as its parts (`at?_append_eq`), and the body is
what stands between the first brace and the one at the end (`EntryPoint.bodyOf_append`).
-/

namespace StylusSurvey

open Text Declaration

variable {b b₁ b₂ b₃ b₄ s t name params : Text} {result : Option Text} {mutates : Bool}

namespace Declaration

/-- The keyword of a public item is read with blanks around it. -/
theorem afterPublic?_append {k : Char} {keyword : Text} (hk : isBlank k = false) (hne₁ : b₁ ≠ [])
    (hb₁ : ∀ c ∈ b₁, isBlank c = true) (hne₂ : b₂ ≠ []) (hb₂ : ∀ c ∈ b₂, isBlank c = true) :
    afterPublic? (k :: keyword) ("pub" ++ (b₁ ++ (k :: keyword ++ (b₂ ++ s)))) =
      some (trimStart s) := by
  simp only [afterPublic?, after?_append, Option.bind_eq_bind, Option.bind_some,
    blanks?_append hne₁ hb₁, List.cons_append, trimStart_cons hk]
  rw [← List.cons_append, after?_append, Option.bind_some, blanks?_append hne₂ hb₂]

end Declaration

namespace Signature

theorem receiver?_shared (s : Text) : receiver? ("&self" ++ s) = some (false, s) := rfl

theorem receiver?_mutable (hne : b ≠ []) (hb : ∀ c ∈ b, isBlank c = true) :
    receiver? ("&mut" ++ (b ++ ("self" ++ s))) = some (true, s) := by
  have hself : trimStart ("self" ++ s) = "self" ++ s := rfl
  have hmut : after? "mut" ("mut" ++ (b ++ ("self" ++ s))) = some (b ++ ("self" ++ s)) :=
    after?_append _ _
  have hafter : after? ['&'] ("&mut" ++ (b ++ ("self" ++ s))) =
      some ("mut" ++ (b ++ ("self" ++ s))) := rfl
  simp only [receiver?, hafter, hmut, Option.bind_eq_bind, Option.bind_some, blanks?_append hne hb,
    hself, after?_append, Option.pure_def]

/-- Without an arrow there is no result. -/
theorem result?_brace (hb : ∀ c ∈ b, isBlank c = true) : result? (b ++ '{' :: t) = some none := by
  rw [result?, trimStart_blanks_append hb]
  rfl

/-- The result type is read up to the brace, without the blanks around it. -/
theorem result?_append (hb : ∀ c ∈ b, isBlank c = true) (hs : '{' ∉ s) :
    result? (b ++ ("->" ++ (s ++ '{' :: t))) = some (some (trim s)) := by
  have harrow : trimStart ("->" ++ (s ++ '{' :: t)) = '-' :: '>' :: (s ++ '{' :: t) := rfl
  rw [result?, trimStart_blanks_append hb, harrow]
  simp only [cutAt?_append hs, Option.map_some]

/-- Parameters are read up to the first closing parenthesis. -/
theorem paramsAndResult?_append (hparams : ')' ∉ params) (hs : result? s = some result) :
    paramsAndResult? (params ++ ')' :: s) = some (params, result) := by
  induction params with
  | nil => simp [paramsAndResult?, hs]
  | cons c params ih =>
    rw [List.mem_cons, not_or] at hparams
    rw [List.cons_append, paramsAndResult?, if_neg (Ne.symm hparams.1), ih hparams.2]
    rfl

theorem afterReceiver?_paren (hs : result? s = some result) :
    afterReceiver? (')' :: s) = some ([], result) := by
  have hafter : after? [')'] (')' :: s) = some s := after?_append [')'] s
  have htrim : trimStart (')' :: s) = ')' :: s := rfl
  simp only [afterReceiver?, htrim, hafter, Option.bind_eq_bind, Option.bind_some, hs,
    Option.pure_def]
  rfl

/-- Parameters follow a comma behind the receiver. -/
theorem afterReceiver?_comma (hb : ∀ c ∈ b, isBlank c = true) (hparams : ')' ∉ params)
    (hs : result? s = some result) :
    afterReceiver? (b ++ ',' :: (params ++ ')' :: s)) = some (trimStart params, result) := by
  have hcomma : trimStart (',' :: (params ++ ')' :: s)) = ',' :: (params ++ ')' :: s) := rfl
  have hparams' : ')' ∉ trimStart params := fun hmem => hparams (mem_of_mem_trimStart hmem)
  rw [afterReceiver?, trimStart_blanks_append hb, hcomma]
  simp only [trimStart_append_cons (show isBlank ')' = false from rfl)]
  exact paramsAndResult?_append hparams' hs

/-- Up to its receiver a signature is read as its parts, the blanks between them left out. -/
theorem at?_append_eq (hne₁ : b₁ ≠ []) (hb₁ : ∀ c ∈ b₁, isBlank c = true) (hne₂ : b₂ ≠ [])
    (hb₂ : ∀ c ∈ b₂, isBlank c = true) (hne : name ≠ []) (hname : ∀ c ∈ name, isWord c = true)
    (hb₃ : ∀ c ∈ b₃, isBlank c = true) (hb₄ : ∀ c ∈ b₄, isBlank c = true)
    (hs : trimStart s = s) (hreceiver : receiver? s = some (mutates, t)) :
    at? ("pub" ++ (b₁ ++ ("fn" ++ (b₂ ++ (name ++ (b₃ ++ '(' :: (b₄ ++ s))))))) =
      (afterReceiver? t).map fun (params, result) =>
        { name, mutates, params := trim params, result } := by
  have hhead : trimStart (name ++ (b₃ ++ '(' :: (b₄ ++ s))) = name ++ (b₃ ++ '(' :: (b₄ ++ s)) :=
    trimStart_word_append hne hname
  have hpublic : afterPublic? "fn" ("pub" ++ (b₁ ++ ("fn" ++ (b₂ ++ (name ++ (b₃ ++
      '(' :: (b₄ ++ s))))))) = some (name ++ (b₃ ++ '(' :: (b₄ ++ s))) :=
    (@afterPublic?_append b₁ b₂ _ 'f' ['n'] rfl hne₁ hb₁ hne₂ hb₂).trans (congrArg some hhead)
  have hend : endsWord (b₃ ++ '(' :: (b₄ ++ s)) = true := by
    cases b₃ with
    | nil =>
      rw [List.nil_append, endsWord, isWord_eq_false_of_mem_punctuation (by simp [punctuation])]
      rfl
    | cons d b₃ =>
      rw [List.cons_append, endsWord, isWord_eq_false_of_isBlank (hb₃ d List.mem_cons_self)]
      rfl
  have hopen : trimStart (b₃ ++ '(' :: (b₄ ++ s)) = '(' :: (b₄ ++ s) := by
    rw [trimStart_blanks_append hb₃]
    rfl
  have hafter : after? ['('] ('(' :: (b₄ ++ s)) = some (b₄ ++ s) := after?_append ['('] _
  have hself : trimStart (b₄ ++ s) = s := by
    rw [trimStart_blanks_append hb₄, hs]
  simp only [at?, hpublic, Option.bind_eq_bind, Option.bind_some, word?_append hne hname hend,
    hopen, hafter, hself, hreceiver]
  cases afterReceiver? t <;> rfl

end Signature

/-- The body of a block is what stands between its first brace and the one at its end. -/
theorem EntryPoint.bodyOf_append (hs : '{' ∉ s) (body : Text) :
    bodyOf (s ++ '{' :: (body ++ ['}'])) = trim body := by
  have hreverse : (body ++ ['}']).reverse = [] ++ '}' :: body.reverse := by simp
  have hclose : cutAt? '}' ([] ++ '}' :: body.reverse) = some ([], body.reverse) :=
    cutAt?_append List.not_mem_nil
  rw [bodyOf, cutAt?_append hs]
  simp only [hreverse, hclose, List.reverse_reverse]

end StylusSurvey
