import StylusSurvey.Proofs.Lines
import StylusSurvey.Proofs.Printing
import StylusSurvey.Proofs.SignatureExtent
import StylusSurvey.Proofs.Signatures

/-!
# Layouts of a signature

The tokens of a signature can be laid out with any blanks between them, newlines included
(`SignatureLayout`). A layout is read back as its tokens, whatever body stands behind it,
unless blanks stand between a lone receiver and the closing parenthesis
(`SignatureLayout.ofBlock_text`). The parameters are trimmed and cut at their commas, and a
blank piece is no parameter, so a comma at the end does no harm
(`SignatureLayout.WellFormed.splitParams_list`).

Blanks behind a lone receiver are read only if a comma follows. Without one, no signature
begins ahead of the parenthesis (`SignatureLayout.WellFormed.barren_through_paren`), and the
function is read from what stands behind it (`SignatureLayout.ofBlock_of_tokens_eq`).
-/

namespace StylusSurvey

open Text Declaration

/-- The text is not surrounded by blanks and has none of the characters. -/
def Text.IsBare (excluded : List Char) (s : Text) : Prop :=
  trim s = s ∧ ∀ c ∈ excluded, c ∉ s

/-! ## Layouts -/

/-- A parameter with the blanks around its parts. -/
structure ParamLayout where
  name : Text
  type : Text
  beforeName : Text := [' ']
  afterName : Text := []
  beforeType : Text := [' ']
  afterType : Text := []

/-- What stands behind a comma of a list of parameters. -/
inductive ParamPiece where
  | param (p : ParamLayout)
  /-- Blanks alone, as behind a comma at the end. -/
  | blank (gap : Text)

/-- The tokens of a signature, with the blanks between them. -/
structure SignatureLayout where
  name : Text
  mutates : Bool
  /-- The pieces behind the commas that follow the receiver. -/
  pieces : List ParamPiece := []
  result : Option Text := none
  indent : Text := []
  afterPub : Text := [' ']
  afterFn : Text := [' ']
  afterName : Text := []
  beforeReceiver : Text := []
  afterMut : Text := [' ']
  afterReceiver : Text := []
  afterParen : Text := [' ']
  afterArrow : Text := [' ']
  beforeBrace : Text := [' ']

/-- A signature without its layout. -/
structure SignatureTokens where
  name : Text
  mutates : Bool
  /-- The parameter behind each comma, if there is one. -/
  params : List (Option Param)
  result : Option Text
deriving DecidableEq

namespace ParamLayout

def text (p : ParamLayout) : Text :=
  (p.beforeName ++ (p.name ++ p.afterName)) ++ ':' :: (p.beforeType ++ (p.type ++ p.afterType))

def param (p : ParamLayout) : Param where
  name := p.name
  type := p.type

/-- The parts have nothing at which they would be cut, and the gaps are blank. -/
structure WellFormed (p : ParamLayout) : Prop where
  name : IsBare [',', ':', ')', '{'] p.name
  type : IsBare [',', ':', ')', '{'] p.type
  gaps : ∀ b ∈ [p.beforeName, p.afterName, p.beforeType, p.afterType], ∀ c ∈ b, isBlank c = true

end ParamLayout

namespace ParamPiece

def text : ParamPiece → Text
  | param p => p.text
  | blank gap => gap

def param? : ParamPiece → Option Param
  | param p => some p.param
  | blank _ => none

def WellFormed : ParamPiece → Prop
  | param p => p.WellFormed
  | blank gap => ∀ c ∈ gap, isBlank c = true

end ParamPiece

namespace SignatureLayout

def receiver (l : SignatureLayout) : Text :=
  if l.mutates then "&mut" ++ (l.afterMut ++ "self") else "&self"

/-- The signature up to its receiver. -/
def front (l : SignatureLayout) : Text :=
  "pub" ++ (l.afterPub ++ ("fn" ++ (l.afterFn ++ (l.name ++ (l.afterName ++
    '(' :: (l.beforeReceiver ++ l.receiver))))))

/-- The parameters, with a comma ahead of each. -/
def list (l : SignatureLayout) : Text :=
  l.pieces.flatMap fun p => ',' :: p.text

/-- What stands between the parenthesis and the brace. -/
def arrow (l : SignatureLayout) : Text :=
  match l.result with
  | none => l.afterParen
  | some type => l.afterParen ++ ("->" ++ (l.afterArrow ++ (type ++ l.beforeBrace)))

/-- What follows the parenthesis in a block with the given body. -/
def behind (l : SignatureLayout) (body : Text) : Text :=
  l.arrow ++ '{' :: (body ++ ['}'])

/-- The block of a function with the signature and the given body. -/
def text (l : SignatureLayout) (body : Text) : Text :=
  l.indent ++ (l.front ++ (l.afterReceiver ++ (l.list ++ ')' :: l.behind body)))

def tokens (l : SignatureLayout) : SignatureTokens where
  name := l.name
  mutates := l.mutates
  params := l.pieces.map ParamPiece.param?
  result := l.result

@[simp] def gaps (l : SignatureLayout) : List Text :=
  [l.indent, l.afterPub, l.afterFn, l.afterName, l.beforeReceiver, l.afterMut, l.afterReceiver,
    l.afterParen, l.afterArrow, l.beforeBrace]

/-- The tokens are as their places demand, the gaps are blank, and words are kept apart. -/
structure WellFormed (l : SignatureLayout) : Prop where
  name : IsName l.name
  pieces : ∀ p ∈ l.pieces, p.WellFormed
  result : ∀ type ∈ l.result, IsBare ['{'] type
  gaps : ∀ b ∈ l.gaps, ∀ c ∈ b, isBlank c = true
  afterPub : l.afterPub ≠ []
  afterFn : l.afterFn ≠ []
  afterMut : l.afterMut ≠ []

/-- No blanks stand between a lone receiver and the parenthesis. -/
def Tight (l : SignatureLayout) : Prop :=
  l.pieces = [] → l.afterReceiver = []

end SignatureLayout

instance (excluded : List Char) (s : Text) : Decidable (IsBare excluded s) :=
  @instDecidableAnd _ _ _ (List.decidableBAll (fun c => c ∉ s) excluded)

instance (p : ParamLayout) : Decidable p.WellFormed :=
  decidable_of_iff
    (IsBare [',', ':', ')', '{'] p.name ∧ IsBare [',', ':', ')', '{'] p.type ∧
      ∀ b ∈ [p.beforeName, p.afterName, p.beforeType, p.afterType], b.all isBlank = true)
    ⟨fun ⟨hname, htype, hgaps⟩ => ⟨hname, htype, fun b hb => List.all_eq_true.1 (hgaps b hb)⟩,
      fun h => ⟨h.name, h.type, fun b hb => List.all_eq_true.2 (h.gaps b hb)⟩⟩

instance : (p : ParamPiece) → Decidable p.WellFormed
  | .param p => inferInstanceAs (Decidable p.WellFormed)
  | .blank gap => decidable_of_iff (gap.all isBlank = true) List.all_eq_true

instance (l : SignatureLayout) : Decidable l.WellFormed :=
  decidable_of_iff
    ((IsName l.name ∧ (∀ p ∈ l.pieces, p.WellFormed) ∧ ∀ type ∈ l.result, IsBare ['{'] type) ∧
      (∀ b ∈ l.gaps, b.all isBlank = true) ∧ l.afterPub ≠ [] ∧ l.afterFn ≠ [] ∧ l.afterMut ≠ [])
    ⟨fun ⟨⟨hname, hpieces, hresult⟩, hgaps, hpub, hfn, hmut⟩ =>
      ⟨hname, hpieces, hresult, fun b hb => List.all_eq_true.1 (hgaps b hb), hpub, hfn, hmut⟩,
      fun h => ⟨⟨h.name, h.pieces, h.result⟩, fun b hb => List.all_eq_true.2 (h.gaps b hb),
        h.afterPub, h.afterFn, h.afterMut⟩⟩

/-! ## Cutting a text that is trimmed -/

namespace Text

variable {b s : Text} {sep : Char}

/-- Blanks in front of a text are trimmed off its first piece. -/
theorem map_trim_splitOn_of_blanks_append (hsep : isBlank sep = false)
    (hb : ∀ c ∈ b, isBlank c = true) :
    (splitOn sep (b ++ s)).map trim = (splitOn sep s).map trim := by
  have hnot : sep ∉ b := not_mem_of_blanks hb hsep
  by_cases hmem : sep ∈ s
  · obtain ⟨u, v, rfl, hu⟩ := List.eq_append_cons_of_mem hmem
    rw [← List.append_assoc, splitOn_append_cons (List.not_mem_append hnot hu),
      splitOn_append_cons hu, List.map_cons, List.map_cons, trim_of_blanks_append hb]
  · rw [splitOn_of_not_mem (List.not_mem_append hnot hmem), splitOn_of_not_mem hmem,
      List.map_singleton, List.map_singleton, trim_of_blanks_append hb]

theorem map_trim_splitOn_of_append_blanks (hsep : isBlank sep = false)
    (hb : ∀ c ∈ b, isBlank c = true) :
    (splitOn sep (s ++ b)).map trim = (splitOn sep s).map trim := by
  have hnot : sep ∉ b := not_mem_of_blanks hb hsep
  by_cases hmem : sep ∈ s
  · -- Here the piece behind the last separator is the one that grows.
    obtain ⟨v, u, hs, hv⟩ := List.eq_append_cons_of_mem (List.mem_reverse.2 hmem)
    obtain rfl : s = u.reverse ++ sep :: v.reverse := by
      rw [← List.reverse_reverse s, hs]
      simp
    have hv' : sep ∉ v.reverse := fun h => hv (List.mem_reverse.1 h)
    rw [List.append_assoc, List.cons_append, splitOn_append_cons_self, splitOn_append_cons_self,
      splitOn_of_not_mem hv', splitOn_of_not_mem (List.not_mem_append hv' hnot), List.map_append,
      List.map_append, List.map_singleton, List.map_singleton, trim_of_append_blanks hb]
  · rw [splitOn_of_not_mem (List.not_mem_append hmem hnot), splitOn_of_not_mem hmem,
      List.map_singleton, List.map_singleton, trim_of_append_blanks hb]

/-- Only the pieces at the ends are longer in a text that is not trimmed, by blanks. -/
theorem map_trim_splitOn_trim (hsep : isBlank sep = false) (s : Text) :
    (splitOn sep (trim s)).map trim = (splitOn sep s).map trim := by
  obtain ⟨b, b', hb, hb', hs⟩ := exists_blanks_append_trim s
  conv_rhs => rw [hs]
  rw [map_trim_splitOn_of_blanks_append hsep hb, map_trim_splitOn_of_append_blanks hsep hb']

end Text

/-! ## The list of parameters -/

namespace Signature

/-- A parameter of the two parts around a colon. -/
def ofParts : List Text → Option Param
  | [name, type] => some { name, type }
  | _ => none

/-- A parameter is read from the trimmed pieces between colons. -/
theorem param?_eq (piece : Text) : param? piece = ofParts ((splitOn ':' piece).map trim) := by
  rw [← map_trim_splitOn_trim rfl piece, param?]
  split
  case h_1 heq => rw [heq]; rfl
  case h_2 hparts =>
    generalize splitOn ':' (trim piece) = parts at hparts
    match parts with
    | [] => rfl
    | [_] => rfl
    | [name, type] => exact absurd rfl (hparts name type)
    | _ :: _ :: _ :: _ => rfl

theorem param?_trim (piece : Text) : param? (trim piece) = param? piece := by
  rw [param?_eq, param?_eq, map_trim_splitOn_trim rfl]

/-- Parameters are read from the pieces between commas that are any. -/
theorem splitParams_eq (s : Text) : splitParams s = (splitOn ',' s).filterMap param? := by
  cases s <;> rfl

/-- Blanks around a list of parameters make no difference. -/
theorem splitParams_trim (s : Text) : splitParams (trim s) = splitParams s := by
  have htrim (ps : List Text) : ps.filterMap param? = (ps.map trim).filterMap param? := by
    rw [List.filterMap_map]
    exact List.filterMap_congr fun p _ => (param?_trim p).symm
  rw [splitParams_eq, splitParams_eq, htrim, htrim (splitOn ',' s), map_trim_splitOn_trim rfl]

end Signature

namespace ParamLayout.WellFormed

variable {p : ParamLayout}

/-- A parameter has no mark in it that divides the list, but for its own colon. -/
theorem not_mem_text {c : Char} (h : p.WellFormed) (hexcluded : c ∈ [',', ':', ')', '{'])
    (hcolon : c ≠ ':') (hblank : isBlank c = false) : c ∉ p.text := by
  have hgap : ∀ b ∈ [p.beforeName, p.afterName, p.beforeType, p.afterType], c ∉ b :=
    fun b hb => not_mem_of_blanks (h.gaps b hb) hblank
  simp only [ParamLayout.text, List.mem_append, List.mem_cons, not_or]
  exact ⟨⟨hgap _ (by simp), h.name.2 c hexcluded, hgap _ (by simp)⟩, hcolon, hgap _ (by simp),
    h.type.2 c hexcluded, hgap _ (by simp)⟩

/-- A parameter is read back from its layout. -/
theorem param?_text (h : p.WellFormed) : Signature.param? p.text = some p.param := by
  have hgap : ∀ b ∈ [p.beforeName, p.afterName, p.beforeType, p.afterType], ':' ∉ b :=
    fun b hb => not_mem_of_blanks (h.gaps b hb) rfl
  have hname : ':' ∉ p.beforeName ++ (p.name ++ p.afterName) :=
    List.not_mem_append (hgap _ (by simp))
      (List.not_mem_append (h.name.2 ':' (by simp)) (hgap _ (by simp)))
  have htype : ':' ∉ p.beforeType ++ (p.type ++ p.afterType) :=
    List.not_mem_append (hgap _ (by simp))
      (List.not_mem_append (h.type.2 ':' (by simp)) (hgap _ (by simp)))
  rw [Signature.param?_eq, ParamLayout.text, splitOn_append_cons hname, splitOn_of_not_mem htype,
    List.map_cons, List.map_singleton,
    trim_blanks_append (h.gaps _ (by simp)) (h.gaps _ (by simp)) h.name.1,
    trim_blanks_append (h.gaps _ (by simp)) (h.gaps _ (by simp)) h.type.1]
  rfl

end ParamLayout.WellFormed

namespace ParamPiece.WellFormed

variable {p : ParamPiece}

/-- A piece of the list has no mark in it that divides the list, but for its own colon. -/
theorem not_mem_text {c : Char} (h : p.WellFormed) (hexcluded : c ∈ [',', ':', ')', '{'])
    (hcolon : c ≠ ':') (hblank : isBlank c = false) : c ∉ p.text := by
  cases p with
  | param p => exact ParamLayout.WellFormed.not_mem_text h hexcluded hcolon hblank
  | blank gap => exact not_mem_of_blanks h hblank

/-- A piece is read as the parameter that it gives. -/
theorem param?_text (h : p.WellFormed) : Signature.param? p.text = p.param? := by
  cases p with
  | param p => exact ParamLayout.WellFormed.param?_text h
  | blank gap =>
    have hcolon : ':' ∉ gap := not_mem_of_blanks h rfl
    rw [Signature.param?_eq, ParamPiece.text, splitOn_of_not_mem hcolon]
    rfl

end ParamPiece.WellFormed

namespace SignatureLayout.WellFormed

variable {l : SignatureLayout}

theorem not_mem_list {c : Char} (h : l.WellFormed) (hexcluded : c ∈ [',', ':', ')', '{'])
    (hcomma : c ≠ ',') (hcolon : c ≠ ':') (hblank : isBlank c = false) : c ∉ l.list := by
  rw [list, List.mem_flatMap]
  rintro ⟨p, hp, hmem⟩
  have htext : c ∉ p.text := (h.pieces p hp).not_mem_text hexcluded hcolon hblank
  exact htext ((List.mem_cons.1 hmem).resolve_left hcomma)

/-- The text behind the first comma is cut into the parameters. -/
theorem splitParams_list (h : l.WellFormed) :
    Signature.splitParams l.list.tail = l.pieces.filterMap ParamPiece.param? := by
  cases hpieces : l.pieces with
  | nil => rw [list, hpieces]; rfl
  | cons p ps =>
    have hwell := h.pieces
    rw [hpieces] at hwell
    have hcommas : ∀ q ∈ p :: ps, ',' ∉ q.text :=
      fun q hq => (hwell q hq).not_mem_text (by simp) (by decide) rfl
    obtain ⟨hp, hps⟩ := List.forall_mem_cons.1 hcommas
    have htail : l.list.tail = p.text ++ (ps.map ParamPiece.text).flatMap (',' :: ·) := by
      rw [list, hpieces, List.flatMap_cons, List.flatMap_map]
      rfl
    rw [htail, Signature.splitParams_eq, splitOn_append_flatMap hp (List.forall_mem_map.2 hps),
      ← List.map_cons, List.filterMap_map]
    exact List.filterMap_congr fun q hq => (hwell q hq).param?_text

end SignatureLayout.WellFormed

/-! ## Reading a layout -/

namespace SignatureLayout.WellFormed

variable {l : SignatureLayout}

theorem not_mem_gap {c : Char} (h : l.WellFormed) (hc : isBlank c = false) :
    ∀ b ∈ l.gaps, c ∉ b :=
  fun b hb => not_mem_of_blanks (h.gaps b hb) hc

/-- The receiver is read as it is laid out. -/
theorem receiver?_receiver (h : l.WellFormed) (s : Text) :
    Signature.receiver? (l.receiver ++ s) = some (l.mutates, s) := by
  unfold receiver
  cases l.mutates with
  | false => exact Signature.receiver?_shared s
  | true =>
    have hread := Signature.receiver?_mutable (s := s) h.afterMut (h.gaps _ (by simp))
    rw [if_pos rfl]
    simpa only [List.append_assoc] using hread

/-- The result is read as it is laid out, whatever the body. -/
theorem result?_behind (h : l.WellFormed) (body : Text) :
    Signature.result? (l.behind body) = some l.result := by
  have hparen : ∀ c ∈ l.afterParen, isBlank c = true := h.gaps _ (by simp)
  have harrow : ∀ c ∈ l.afterArrow, isBlank c = true := h.gaps _ (by simp)
  have hbrace : ∀ c ∈ l.beforeBrace, isBlank c = true := h.gaps _ (by simp)
  unfold behind arrow
  cases hresult : l.result with
  | none => exact Signature.result?_brace hparen
  | some type =>
    have htype := h.result type hresult
    have hopen : '{' ∉ l.afterArrow ++ (type ++ l.beforeBrace) :=
      List.not_mem_append (not_mem_of_blanks harrow rfl)
        (List.not_mem_append (htype.2 '{' (by simp)) (not_mem_of_blanks hbrace rfl))
    have hread := Signature.result?_append (t := body ++ ['}']) hparen hopen
    rw [trim_blanks_append harrow hbrace htype.1] at hread
    simpa only [List.append_assoc] using hread

/-- A signature is read up to its receiver, and what follows that decides. -/
theorem at?_front (h : l.WellFormed) (s : Text) :
    Signature.at? (l.front ++ s) = (Signature.afterReceiver? s).map fun (params, result) =>
      { name := l.name, mutates := l.mutates, params := trim params, result } := by
  have hstart : trimStart (l.receiver ++ s) = l.receiver ++ s := by
    unfold receiver
    split <;> rfl
  have hread := Signature.at?_append_eq h.afterPub (h.gaps _ (by simp)) h.afterFn
    (h.gaps _ (by simp)) h.name.1 h.name.2 (h.gaps l.afterName (by simp))
    (h.gaps l.beforeReceiver (by simp)) hstart (h.receiver?_receiver s)
  unfold front
  simpa only [List.append_assoc, List.cons_append] using hread

/-- The list and the result are read as they are laid out, if nothing stands between a lone receiver
and the parenthesis. -/
theorem afterReceiver?_list (h : l.WellFormed) (htight : l.Tight) (body : Text) :
    Signature.afterReceiver? (l.afterReceiver ++ (l.list ++ ')' :: l.behind body)) =
      some (trimStart l.list.tail, l.result) := by
  have hresult := h.result?_behind body
  cases hpieces : l.pieces with
  | nil =>
    have hlist : l.list = [] := by rw [list, hpieces]; rfl
    rw [htight hpieces, hlist]
    exact Signature.afterReceiver?_paren hresult
  | cons p ps =>
    obtain ⟨rest, hlist⟩ : ∃ rest, l.list = ',' :: rest := by
      rw [list, hpieces]
      exact ⟨_, rfl⟩
    have hparen : ')' ∉ rest := by
      have hnot := h.not_mem_list (c := ')') (by simp) (by decide) (by decide) rfl
      rw [hlist, List.mem_cons, not_or] at hnot
      exact hnot.2
    rw [hlist]
    exact Signature.afterReceiver?_comma (h.gaps _ (by simp)) hparen hresult

/-- The first signature of a block is the one that was laid out. -/
theorem find?_text (h : l.WellFormed) (htight : l.Tight) (body : Text) :
    Signature.find? (l.text body) = some
      { name := l.name, mutates := l.mutates, params := trim l.list.tail, result := l.result } := by
  have hindent : Signature.Barren l.indent :=
    Signature.barren_blanks (h.gaps _ (by simp))
  rw [text, Signature.find?_append_of_barren hindent, Signature.find?_eq_search]
  apply search_eq_some
  rw [h.at?_front, h.afterReceiver?_list htight, ← trim_trimStart l.list.tail]
  rfl

theorem brace_not_mem_arrow (h : l.WellFormed) : '{' ∉ l.arrow := by
  have hgap := h.not_mem_gap (c := '{') rfl
  unfold arrow
  cases hresult : l.result with
  | none => exact hgap _ (by simp)
  | some type =>
    have htype := (h.result type hresult).2 '{' (by simp)
    exact List.not_mem_append (hgap _ (by simp)) (List.not_mem_append (by decide)
      (List.not_mem_append (hgap _ (by simp))
        (List.not_mem_append htype (hgap _ (by simp)))))

theorem not_mem_receiver {c : Char} (h : l.WellFormed) (hmut : c ∉ ("&mut" : Text))
    (hself : c ∉ ("self" : Text)) (hblank : isBlank c = false) : c ∉ l.receiver := by
  have hand : c ∉ ['&'] := fun hmem => hmut (List.mem_singleton.1 hmem ▸ List.mem_cons_self)
  unfold receiver
  split
  · exact List.not_mem_append hmut
      (List.not_mem_append (h.not_mem_gap hblank _ (by simp)) hself)
  · exact List.not_mem_append hand hself

/-- The first brace of a block stands behind its signature. -/
theorem bodyOf_text (h : l.WellFormed) (body : Text) :
    EntryPoint.bodyOf (l.text body) = trim body := by
  have hgap := h.not_mem_gap (c := '{') rfl
  have hname : '{' ∉ l.name := h.name.not_mem (by simp [punctuation])
  have hfront : '{' ∉ l.front := by
    have hpub : '{' ∉ ("pub" : Text) := by decide
    have hfn : '{' ∉ ("fn" : Text) := by decide
    have hreceiver : '{' ∉ l.receiver := h.not_mem_receiver (by decide) (by decide) rfl
    simp only [front, List.mem_append, List.mem_cons, not_or]
    exact ⟨hpub, hgap _ (by simp), hfn, hgap _ (by simp), hname,
      hgap _ (by simp), by decide, hgap _ (by simp), hreceiver⟩
  have hhead : '{' ∉ l.indent ++ (l.front ++ (l.afterReceiver ++ (l.list ++ ')' :: l.arrow))) := by
    simp only [List.mem_append, List.mem_cons, not_or]
    exact ⟨hgap _ (by simp), hfront, hgap _ (by simp),
      h.not_mem_list (by simp) (by decide) (by decide) rfl, by decide, h.brace_not_mem_arrow⟩
  have hbody := EntryPoint.bodyOf_append hhead body
  simpa only [text, behind, List.append_assoc, List.cons_append] using hbody

end SignatureLayout.WellFormed

/-- A signature is recovered from its layout, whatever the body. -/
theorem SignatureLayout.ofBlock_text {l : SignatureLayout} (h : l.WellFormed) (htight : l.Tight)
    (body : Text) (line : Nat) :
    EntryPoint.ofBlock (l.text body) line =
      { name := l.name
        params := l.pieces.filterMap ParamPiece.param?
        returnType := l.result.getD EntryPoint.unitType
        mutates := l.mutates
        line
        body := trim body } := by
  rw [EntryPoint.ofBlock, h.find?_text htight, h.bodyOf_text]
  simp only [Signature.splitParams_trim, h.splitParams_list]

/-- A signature on several lines. -/
def approveLayout : SignatureLayout where
  name := "approve"
  mutates := true
  pieces :=
    [.param { name := "spender", type := "Address", beforeName := "\n        " },
      .param { name := "value", type := "U256", beforeName := "\n        ", afterName := " " },
      .blank "\n    "]
  result := some "Result<bool, Vec<u8>>"
  indent := "    "
  beforeReceiver := "\n        "
  afterMut := "  "

/-- A body with parentheses, braces that do not balance and another function in it. -/
def wildBody : Text :=
  "\n        \x7d) \x7b pub fn other(&self, a: u8) -> u8 \x7b\n    "

/-- A function with a signature on several lines and a body that looks like more of them. -/
theorem SignatureLayout.ofBlock_text_approve :
    approveLayout.WellFormed ∧ approveLayout.Tight ∧
      EntryPoint.ofBlock (approveLayout.text wildBody) 3 =
        { name := "approve"
          params := [⟨"spender", "Address"⟩, ⟨"value", "U256"⟩]
          returnType := "Result<bool, Vec<u8>>"
          mutates := true
          line := 3
          body := "\x7d) \x7b pub fn other(&self, a: u8) -> u8 \x7b" } := by
  have hwell : approveLayout.WellFormed := by decide +kernel
  have htight : approveLayout.Tight := fun hnil => absurd hnil (List.cons_ne_nil _ _)
  have hread := SignatureLayout.ofBlock_text hwell htight wildBody 3
  exact ⟨hwell, htight, hread.trans (by decide +kernel)⟩

/-! ## Blanks behind a lone receiver -/

/-- Blanks between a lone receiver and the parenthesis are not read over. -/
theorem Signature.afterReceiver?_blanks_paren {b s : Text} (hne : b ≠ [])
    (hb : ∀ c ∈ b, isBlank c = true) : afterReceiver? (b ++ ')' :: s) = none := by
  have hstart : trimStart (b ++ ')' :: s) = ')' :: s := trimStart_blanks_append hb
  have hcomma : ¬∃ u, trimStart (b ++ ')' :: s) = ',' :: u := by
    rw [hstart]
    rintro ⟨u, hu⟩
    cases hu
  obtain ⟨c, b, rfl⟩ := List.exists_cons_of_ne_nil hne
  have hc : ')' ≠ c := by
    rintro rfl
    exact absurd (hb ')' List.mem_cons_self) (by decide)
  have hparen : Text.after? [')'] (c :: (b ++ ')' :: s)) = none := if_neg hc
  rw [afterReceiver?_of_not_comma hcomma, List.cons_append, hparen]
  rfl

namespace SignatureLayout.WellFormed

variable {l : SignatureLayout}

/-- No signature begins in a header with blanks between a lone receiver and the parenthesis. -/
theorem barren_through_paren (h : l.WellFormed) (hne : l.afterReceiver ≠ []) :
    Signature.Barren (l.front ++ (l.afterReceiver ++ [')'])) := by
  have hgap := h.not_mem_gap (c := 'p') rfl
  have hat (t : Text) : Signature.at? (l.front ++ (l.afterReceiver ++ ')' :: t)) = none := by
    rw [h.at?_front, Signature.afterReceiver?_blanks_paren hne (h.gaps _ (by simp))]
    rfl
  have hwords : 'p' ∉ "ub" ++ (l.afterPub ++ ("fn" ++ l.afterFn)) := by
    have hub : 'p' ∉ ("ub" : Text) := by decide
    have hfn : 'p' ∉ ("fn" : Text) := by decide
    exact List.not_mem_append hub (List.not_mem_append (hgap _ (by simp))
      (List.not_mem_append hfn (hgap _ (by simp))))
  have hreceiver : 'p' ∉ l.beforeReceiver ++ (l.receiver ++ (l.afterReceiver ++ [')'])) :=
    List.not_mem_append (hgap _ (by simp)) (List.not_mem_append
      (h.not_mem_receiver (by decide) (by decide) rfl)
      (List.not_mem_append (hgap _ (by simp)) (by decide)))
  have hparts : l.front ++ (l.afterReceiver ++ [')']) =
      'p' :: (("ub" ++ (l.afterPub ++ ("fn" ++ l.afterFn))) ++
        ((l.name ++ (l.afterName ++ ['('])) ++
          (l.beforeReceiver ++ (l.receiver ++ (l.afterReceiver ++ [')']))))) := by
    have hpub : ("pub" : Text) = 'p' :: "ub" := rfl
    simp only [front, hpub, List.append_assoc, List.cons_append, List.nil_append]
  have hname : Signature.Barren (l.name ++ (l.afterName ++ ['('])) :=
    Signature.barren_word_paren h.name.2 (h.gaps _ (by simp))
  rw [hparts]
  refine .cons (fun t => ?_) ((Signature.barren_of_not_mem hwords).append
    (hname.append (Signature.barren_of_not_mem hreceiver)))
  rw [← List.cons_append, ← hparts, List.append_assoc, List.append_assoc]
  exact hat t

/-- Such a block is read from what stands behind the parenthesis. -/
theorem ofBlock_text_of_loose (h : l.WellFormed) (hloose : ¬ l.Tight) (body : Text) (line : Nat) :
    EntryPoint.ofBlock (l.text body) line = EntryPoint.ofBlock (l.behind body) line := by
  obtain ⟨hpieces, hne⟩ := Classical.not_imp.1 hloose
  have hlist : l.list = [] := by rw [list, hpieces]; rfl
  have hindent : Signature.Barren l.indent :=
    Signature.barren_blanks (h.gaps _ (by simp))
  have htext : l.text body =
      (l.indent ++ (l.front ++ (l.afterReceiver ++ [')']))) ++ l.behind body := by
    simp only [text, hlist, List.append_assoc, List.cons_append, List.nil_append]
  have hfind : Signature.find? (l.text body) = Signature.find? (l.behind body) := by
    rw [htext, Signature.find?_append_of_barren (hindent.append (h.barren_through_paren hne))]
  have hbody : EntryPoint.bodyOf (l.behind body) = trim body :=
    EntryPoint.bodyOf_append h.brace_not_mem_arrow body
  rw [EntryPoint.ofBlock, EntryPoint.ofBlock, hfind, h.bodyOf_text, hbody]

end SignatureLayout.WellFormed

/-- Two layouts of a signature are read alike if neither has blanks between a lone receiver and the
parenthesis. With such blanks the signature is not read at all. -/
theorem SignatureLayout.ofBlock_of_tokens_eq {l l' : SignatureLayout} (h : l.WellFormed)
    (h' : l'.WellFormed) (htokens : l.tokens = l'.tokens) (body : Text) (line : Nat) :
    (l.Tight ∧ l'.Tight →
      EntryPoint.ofBlock (l.text body) line = EntryPoint.ofBlock (l'.text body) line) ∧
    (¬ l.Tight →
      EntryPoint.ofBlock (l.text body) line = EntryPoint.ofBlock (l.behind body) line) := by
  refine ⟨fun ⟨htight, htight'⟩ => ?_, fun hloose => h.ofBlock_text_of_loose hloose body line⟩
  have hname : l.name = l'.name := congrArg SignatureTokens.name htokens
  have hmutates : l.mutates = l'.mutates := congrArg SignatureTokens.mutates htokens
  have hresult : l.result = l'.result := congrArg SignatureTokens.result htokens
  have hfilter (m : SignatureLayout) :
      m.pieces.filterMap ParamPiece.param? = m.tokens.params.filterMap id := by
    rw [tokens, List.filterMap_map]
    rfl
  rw [EntryPoint.ofBlock, EntryPoint.ofBlock, h.find?_text htight, h'.find?_text htight',
    h.bodyOf_text, h'.bodyOf_text]
  simp only [Signature.splitParams_trim, h.splitParams_list, h'.splitParams_list, hfilter, htokens,
    hname, hmutates, hresult]

/-- A signature with a lone receiver. -/
def ownerLayout : SignatureLayout where
  name := "owner"
  mutates := false
  result := some "Address"

/-- The same on two lines, with a tab ahead of the parenthesis. -/
def ownerBroken : SignatureLayout where
  name := "owner"
  mutates := false
  result := some "Address"
  afterName := "\t"
  beforeReceiver := "\n    "
  beforeBrace := []

/-- The same with the receiver on a line of its own. -/
def ownerLoose : SignatureLayout where
  name := "owner"
  mutates := false
  result := some "Address"
  beforeReceiver := "\n    "
  afterReceiver := "\n"

def ownerBody : Text :=
  "\n    self.owner.get()\n"

/-- A function laid out in three ways, one of them with blanks behind a lone receiver. -/
theorem SignatureLayout.ofBlock_of_tokens_eq_owner :
    EntryPoint.ofBlock (ownerLayout.text ownerBody) 1 =
        EntryPoint.ofBlock (ownerBroken.text ownerBody) 1 ∧
      EntryPoint.ofBlock (ownerLoose.text ownerBody) 1 =
        EntryPoint.ofBlock (ownerLoose.behind ownerBody) 1 := by
  have hlayout : ownerLayout.WellFormed := by decide +kernel
  have hbroken : ownerBroken.WellFormed := by decide +kernel
  have hloose : ownerLoose.WellFormed := by decide +kernel
  have htight : ownerLayout.Tight ∧ ownerBroken.Tight := ⟨fun _ => rfl, fun _ => rfl⟩
  have hblanks : ¬ ownerLoose.Tight := fun h => absurd (h rfl) (List.cons_ne_nil _ _)
  exact ⟨(SignatureLayout.ofBlock_of_tokens_eq hlayout hbroken rfl ownerBody 1).1 htight,
    (SignatureLayout.ofBlock_of_tokens_eq hloose hlayout rfl ownerBody 1).2 hblanks⟩

/-- The layout of a signature is not always without effect: a receiver on a line of its own makes
the function unknown. -/
theorem SignatureLayout.ofBlock_changes_with_layout :
    (ownerLayout.WellFormed ∧ ownerLoose.WellFormed ∧ ownerLayout.tokens = ownerLoose.tokens) ∧
      ownerLayout.text ownerBody =
        "pub fn owner(&self) -> Address \x7b\n    self.owner.get()\n\x7d" ∧
      ownerLoose.text ownerBody =
        "pub fn owner(\n    &self\n) -> Address \x7b\n    self.owner.get()\n\x7d" ∧
      EntryPoint.ofBlock (ownerLayout.text ownerBody) 1 =
        ⟨"owner", [], "Address", false, 1, "self.owner.get()"⟩ ∧
      EntryPoint.ofBlock (ownerLoose.text ownerBody) 1 =
        ⟨"unknown", [], "()", false, 1, "self.owner.get()"⟩ := by
  refine ⟨⟨?_, ?_, rfl⟩, ?_, ?_, ?_, ?_⟩
  all_goals decide +kernel

end StylusSurvey
