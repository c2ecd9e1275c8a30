import Mathlib.Data.List.Basic
import StylusSurvey.Document.Audit
import StylusSurvey.Proofs.Documents

/-!
# Results read back from their documents

Every result of a survey is read back from its document as it was, and two different results never
have the same document (`results_read_back`). The first needs line numbers and counts of at most
64 bits, since the reader refuses a larger number. The second does not, so it is no consequence of
the first: documents are told apart by the shape alone (`Shape.sorted_encode_injective`).
-/

namespace StylusSurvey

open Documented

variable {α : Type}

/-! ## Documents told apart -/

/-- The members under its key tell what a field holds: absence is null or no member, and a value is
neither. -/
theorem Presence.eq_of_lookup_members {key : Text} {write : α → Json}
    (hwrite : Function.Injective write) (hnull : ∀ a, write a ≠ .null) :
    ∀ {p : Presence} {v w : p.Holds α},
      (p.members key write v).lookup key = (p.members key write w).lookup key → v = w
  | required, _, _, h => hwrite (by simpa [members] using h)
  | nullable, none, none, _ => rfl
  | nullable, none, some b, h => absurd (by simpa [members, eq_comm] using h) (hnull b)
  | nullable, some a, none, h => absurd (by simpa [members] using h) (hnull a)
  | nullable, some a, some b, h => congrArg some (hwrite (by simpa [members] using h))
  | omissible, none, none, _ => rfl
  | omissible, none, some b, h => by simp [members] at h
  | omissible, some a, none, h => by simp [members] at h
  | omissible, some a, some b, h => congrArg some (hwrite (by simpa [members] using h))

mutual

/-- What a document says is told by it, also if its keys are sorted and whatever its counts. -/
theorem Shape.sorted_encode_injective : ∀ s : Shape, s.isDistinct = true →
    Function.Injective fun v : s.Value => (s.encode v).sorted
  | .text, _ => fun _ _ h => Json.string.inj h
  | .flag, _ => fun _ _ h => Json.bool.inj h
  | .count, _ => fun _ _ h => Json.Number.natural.inj (Json.number.inj h)
  | .choice names, h => fun _ _ hname =>
    have hnames : names.Nodup := of_decide_eq_true h
    hnames.get_inj_iff.1 (Json.string.inj hname)
  | .list item, h => fun vs ws hitems => by
    have hmap : (Json.array (vs.map fun v => (item.encode v).sorted)) =
        .array (ws.map fun w => (item.encode w).sorted) := by
      rw [← Json.sorted_array_map, ← Json.sorted_array_map]
      exact hitems
    exact List.map_injective_iff.2 (item.sorted_encode_injective h) (Json.array.inj hmap)
  | .record _ fields, h => fun v w hmembers => by
    -- Sorting mixes the members of all fields, so they are compared by looking them up.
    refine fields.eq_of_lookup_sorted h fun key _ => ?_
    rw [← Json.lookup_ofEntries (Fields.nodup_sortedMembers h v),
      ← Json.lookup_ofEntries (Fields.nodup_sortedMembers h w), Json.object.inj hmembers]

/-- The members under their keys tell what the fields hold. -/
theorem Fields.eq_of_lookup_sorted : ∀ (fs : Fields) {v w : fs.Value}, fs.isDistinct = true →
    (∀ key ∈ fs.keys, (Json.sortedMembers (fs.encode v)).lookup key =
      (Json.sortedMembers (fs.encode w)).lookup key) → v = w
  | .none, _, _, _, _ => rfl
  | .field key p s more, (v, vs), (w, ws), h, hmembers => by
    obtain ⟨hkey, hs, hmore⟩ := Fields.isDistinct_iff.1 h
    have hself := hmembers key List.mem_cons_self
    rw [Fields.lookup_sorted_self hkey, Fields.lookup_sorted_self hkey] at hself
    have hfirst : v = w := Presence.eq_of_lookup_members (s.sorted_encode_injective hs)
      s.encode_sorted_ne_null hself
    have hothers : vs = ws := more.eq_of_lookup_sorted hmore fun name hname => by
      have hname' := hmembers name (List.mem_cons_of_mem _ hname)
      rwa [Fields.lookup_sorted_of_mem hkey hname, Fields.lookup_sorted_of_mem hkey hname]
        at hname'
    rw [hfirst, hothers]

end

/-- Two different values have different documents. -/
theorem Documented.encodeSorted_injective [Documented α] [LawfulDocumented α] :
    Function.Injective (encodeSorted : α → Json) := by
  intro x y h
  have hvalue : toValue x = toValue y :=
    (shape α).sorted_encode_injective LawfulDocumented.isDistinct_shape h
  rw [← LawfulDocumented.ofValue_toValue x, hvalue, LawfulDocumented.ofValue_toValue]

/-! ## Contracts -/

theorem StorageField.ofValue_toValue (f : StorageField) : ofValue f.toValue = f :=
  rfl

/-- The document of a field can be read if its line has a number of at most 64 bits. -/
theorem StorageField.fits_toValue {f : StorageField} (h : f.line ≤ Text.maxSize) :
    shape.Fits f.toValue :=
  ⟨trivial, trivial, h, trivial⟩

namespace EntryPoint

theorem ofValue_toValue (f : EntryPoint) : ofValue f.toValue = f := by
  have hparams := Function.LeftInverse.list_map (@Param.ofValue_toValue "Param") f.params
  simp only [toValue, ofValue, hparams]

theorem fits_toValue {f : EntryPoint} (h : f.line ≤ Text.maxSize) : shape.Fits f.toValue :=
  ⟨trivial, List.forall_mem_map.2 fun p _ => p.fits_toValue, trivial, trivial, h, trivial, trivial⟩

end EntryPoint

namespace Contract

theorem ofValue_toValue (c : Contract) : ofValue c.toValue = c := by
  have hfields := Function.LeftInverse.list_map StorageField.ofValue_toValue c.fields
  have hfunctions := Function.LeftInverse.list_map EntryPoint.ofValue_toValue c.functions
  simp only [toValue, ofValue, hfields, hfunctions]

instance : LawfulDocumented Contract where
  isDistinct_shape := by decide
  ofValue_toValue := ofValue_toValue

/-- The line numbers in a contract are of at most 64 bits. -/
structure IsSized (c : Contract) : Prop where
  fields : ∀ f ∈ c.fields, f.line ≤ Text.maxSize
  functions : ∀ f ∈ c.functions, f.line ≤ Text.maxSize

theorem IsSized.fits_toValue {c : Contract} (h : c.IsSized) : shape.Fits c.toValue :=
  ⟨trivial, List.forall_mem_map.2 fun f hf => StorageField.fits_toValue (h.fields f hf),
    List.forall_mem_map.2 fun f hf => EntryPoint.fits_toValue (h.functions f hf), trivial⟩

end Contract

/-! ## Options and resolutions -/

instance : LawfulDocumented ManifestOptions where
  isDistinct_shape := by decide
  ofValue_toValue _ := rfl

/-- The document of options can always be read. -/
theorem ManifestOptions.fits_toValue (o : ManifestOptions) : shape.Fits o.toValue :=
  ⟨fun _ _ => trivial, fun _ _ => trivial, fun _ _ => trivial, trivial⟩

instance : LawfulDocumented Resolution where
  isDistinct_shape := by decide
  ofValue_toValue _ := rfl

/-- The document of a resolution can always be read. -/
theorem Resolution.fits_toValue (r : Resolution) : shape.Fits r.toValue :=
  ⟨trivial, fun _ _ => trivial, fun _ _ _ _ => trivial, fun _ _ => trivial, trivial⟩

/-! ## Audits -/

theorem Severity.ofValue_toValue (s : Severity) : ofValue s.toValue = s := by
  cases s <;> rfl

namespace Finding

theorem ofValue_toValue (f : Finding) : ofValue f.toValue = f := by
  simp only [toValue, ofValue, Severity.ofValue_toValue]

theorem fits_toValue {f : Finding} (h : f.line ≤ Text.maxSize) : shape.Fits f.toValue :=
  ⟨trivial, trivial, trivial, trivial, h, trivial, trivial⟩

end Finding

namespace Audit

theorem ofValue_toValue (a : Audit) : ofValue a.toValue = a := by
  have hfindings := Function.LeftInverse.list_map Finding.ofValue_toValue a.findings
  simp only [toValue, ofValue, hfindings]
  rfl

instance : LawfulDocumented Audit where
  isDistinct_shape := by decide
  ofValue_toValue := ofValue_toValue

/-- The line numbers and the counts in an audit are of at most 64 bits. -/
structure IsSized (a : Audit) : Prop where
  findings : ∀ f ∈ a.findings, f.line ≤ Text.maxSize
  high : a.summary.high ≤ Text.maxSize
  medium : a.summary.medium ≤ Text.maxSize
  low : a.summary.low ≤ Text.maxSize

theorem IsSized.fits_toValue {a : Audit} (h : a.IsSized) : shape.Fits a.toValue :=
  ⟨List.forall_mem_map.2 fun f hf => Finding.fits_toValue (h.findings f hf),
    ⟨h.high, h.medium, h.low, trivial⟩, trivial⟩

end Audit

/-! ## Test modules -/

theorem GeneratedTest.ofValue_toValue (t : GeneratedTest) : ofValue t.toValue = t :=
  rfl

namespace TestModule

theorem ofValue_toValue (m : TestModule) : ofValue m.toValue = m := by
  have htests := Function.LeftInverse.list_map GeneratedTest.ofValue_toValue m.tests
  simp only [toValue, ofValue, htests]

instance : LawfulDocumented TestModule where
  isDistinct_shape := by decide
  ofValue_toValue := ofValue_toValue

theorem fits_toValue (m : TestModule) : shape.Fits m.toValue :=
  ⟨trivial, List.forall_mem_map.2 fun _ _ => ⟨trivial, trivial, trivial⟩, trivial, trivial⟩

end TestModule

/-! ## All results -/

/-- Every result is read back from its document, and no two results of a kind have the same
document. -/
theorem results_read_back :
    ((∀ c : Contract, c.IsSized → decode (encodeSorted c) = .ok c) ∧
      (∀ m : Manifest, decode (encodeSorted m) = .ok m) ∧
      (∀ o : ManifestOptions, decode (encodeSorted o) = .ok o) ∧
      (∀ r : Resolution, decode (encodeSorted r) = .ok r) ∧
      (∀ a : Audit, a.IsSized → decode (encodeSorted a) = .ok a) ∧
      ∀ m : TestModule, decode (encodeSorted m) = .ok m) ∧
    Function.Injective (encodeSorted : Contract → Json) ∧
    Function.Injective (encodeSorted : Manifest → Json) ∧
    Function.Injective (encodeSorted : ManifestOptions → Json) ∧
    Function.Injective (encodeSorted : Resolution → Json) ∧
    Function.Injective (encodeSorted : Audit → Json) ∧
    Function.Injective (encodeSorted : TestModule → Json) := by
  refine ⟨⟨fun c h => ?_, fun m => ?_, fun o => ?_, fun r => ?_, fun a h => ?_, fun m => ?_⟩,
    encodeSorted_injective, encodeSorted_injective, encodeSorted_injective,
    encodeSorted_injective, encodeSorted_injective, encodeSorted_injective⟩
  · exact decode_encodeSorted h.fits_toValue
  · exact decode_encodeSorted m.fits_toValue
  · exact decode_encodeSorted o.fits_toValue
  · exact decode_encodeSorted r.fits_toValue
  · exact decode_encodeSorted h.fits_toValue
  · exact decode_encodeSorted m.fits_toValue

/-- A contract with a field on the last line that has a number. -/
def lastLineContract : Contract where
  name := "Ledger"
  fields := [{ name := "total", type := "mapping(address => uint256)", line := Text.maxSize }]
  functions :=
    [{ name := "note"
       params := [{ name := "\"at\"", type := "U256" }, { name := "", type := "" }]
       returnType := "()"
       mutates := true
       line := 0
       body := "let s = \"\\u007f\";\n" }]

/-- An audit with the largest line number and the largest count there are. -/
def fullAudit : Audit where
  findings :=
    [{ patternId := "loop", severity := .low, title := "", suggestion := "none"
       line := Text.maxSize, code := "for x in xs \x7b \x7d" }]
  summary := { high := 0, medium := Text.maxSize, low := 1 }

/-- The largest numbers that are read back, and a list that is empty but present. -/
theorem results_read_back_extremes :
    lastLineContract.IsSized ∧ decode (encodeSorted lastLineContract) = .ok lastLineContract ∧
      fullAudit.IsSized ∧ decode (encodeSorted fullAudit) = .ok fullAudit ∧
      decode (encodeSorted ({ matched := true, args := some [] } : Resolution)) =
        .ok ({ matched := true, args := some [] } : Resolution) := by
  have hcontract : lastLineContract.IsSized := { fields := by decide, functions := by decide }
  have haudit : fullAudit.IsSized :=
    { findings := by decide, high := by decide, medium := by decide, low := by decide }
  obtain ⟨⟨contracts, -, -, resolutions, audits, -⟩, -⟩ := results_read_back
  exact ⟨hcontract, contracts _ hcontract, haudit, audits _ haudit, resolutions _⟩

end StylusSurvey
