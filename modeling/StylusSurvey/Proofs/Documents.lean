import Mathlib.Data.List.Basic
import Mathlib.Data.List.Nodup
import Mathlib.Data.List.Perm.Basic
import StylusSurvey.Document.Decode
import StylusSurvey.Document.Encode
import StylusSurvey.Document.Manifest
import StylusSurvey.Text.Numeral

/-!
# Documents read back from JSON values

A document says the same however the members of its objects are ordered, so a value is read
back from its document with sorted keys (`Shape.decode_sorted`). An object is a document of a
record if each field finds its value under its key (`Fields.Holds`, `Shape.decode_object`).
Members whose key is no field are passed over, whatever their value, where the document is read
and where it is refused (`Shape.decode_object_filter`).

A type owes two facts, that the keys of its documents are distinct and that its values are what
the documents speak of (`LawfulDocumented`). Its values are then read back
(`Documented.decode_encodeSorted`).
-/

namespace StylusSurvey

open Text

variable {α : Type}

/-! ## Sorted members -/

namespace Json

theorem sortedItems_eq_map (vs : List Json) : sortedItems vs = vs.map sorted := by
  induction vs with
  | nil => rfl
  | cons v vs ih => rw [sortedItems, ih, List.map_cons]

/-- Sorting an array of documents sorts each of them. -/
theorem sorted_array_map (write : α → Json) (xs : List α) :
    (array (xs.map write)).sorted = .array (xs.map fun x => (write x).sorted) := by
  rw [sorted, sortedItems_eq_map, List.map_map]
  rfl

theorem sortedMembers_eq_map (ms : List (Text × Json)) :
    sortedMembers ms = ms.map fun m => (m.1, m.2.sorted) := by
  induction ms with
  | nil => rfl
  | cons m ms ih => rw [sortedMembers, ih, List.map_cons]

/-- A member with a new key is added to the others. -/
theorem insertMember_perm {key : Text} {v : Json} {ms : List (Text × Json)}
    (h : key ∉ ms.map (·.1)) : (insertMember key v ms).Perm ((key, v) :: ms) := by
  induction ms with
  | nil => exact List.Perm.refl _
  | cons m ms ih =>
    rw [List.map_cons, List.mem_cons, not_or] at h
    rw [insertMember, if_neg h.1]
    split
    · exact List.Perm.refl _
    · exact ((ih h.2).cons m).trans (List.Perm.swap _ _ _)

/-- Members with distinct keys are reordered and kept. -/
theorem ofEntries_perm {ms : List (Text × Json)} (h : (ms.map (·.1)).Nodup) :
    (ofEntries ms).Perm ms := by
  have hfold : ∀ known : List (Text × Json), ((known ++ ms).map (·.1)).Nodup →
      (ms.foldl (fun members entry => insertMember entry.1 entry.2 members) known).Perm
        (known ++ ms) := by
    clear h
    induction ms with
    | nil => exact fun known _ => by simp
    | cons m ms ih =>
      intro known h
      have hmiddle : (known ++ m :: ms).Perm ((m :: known) ++ ms) := List.perm_middle
      have hnodup : ((m :: known ++ ms).map (·.1)).Nodup := (hmiddle.map _).nodup_iff.1 h
      have hnew : m.1 ∉ known.map (·.1) := by
        rw [List.cons_append, List.map_cons, List.nodup_cons, List.map_append, List.mem_append,
          not_or] at hnodup
        exact hnodup.1.1
      have hinsert := (insertMember_perm (v := m.2) hnew).append_right ms
      exact (ih _ ((hinsert.map _).nodup_iff.2 hnodup)).trans (hinsert.trans hmiddle.symm)
  exact hfold [] h

theorem lookup_eq_none_of_not_mem {ms : List (Text × Json)} {key : Text}
    (h : key ∉ ms.map (·.1)) : ms.lookup key = none := by
  rw [List.lookup_eq_none_iff]
  intro m hm
  exact bne_iff_ne.2 fun heq => h (List.mem_map.2 ⟨m, hm, heq.symm⟩)

/-- Among members with distinct keys each is found under its key. -/
theorem lookup_eq_some_iff_mem {ms : List (Text × Json)} (h : (ms.map (·.1)).Nodup) {key : Text}
    {v : Json} : ms.lookup key = some v ↔ (key, v) ∈ ms := by
  induction ms with
  | nil => simp
  | cons m ms ih =>
    obtain ⟨name, j⟩ := m
    rw [List.map_cons, List.nodup_cons] at h
    rw [List.lookup_cons, List.mem_cons]
    by_cases hkey : key = name
    · subst hkey
      have hrest : (key, v) ∉ ms := fun hmem => h.1 (List.mem_map.2 ⟨_, hmem, rfl⟩)
      simp [hrest, eq_comm]
    · rw [beq_false_of_ne hkey, ih h.2]
      simp [hkey]

/-- Where keys are distinct, the order of the members does not matter for looking one up. -/
theorem lookup_ofEntries {ms : List (Text × Json)} (h : (ms.map (·.1)).Nodup) (key : Text) :
    (ofEntries ms).lookup key = ms.lookup key := by
  have hperm := ofEntries_perm h
  ext v
  rw [lookup_eq_some_iff_mem h, lookup_eq_some_iff_mem ((hperm.map _).nodup_iff.2 h),
    hperm.mem_iff]

end Json

/-! ## Members of sorted objects -/

namespace Json

variable {ms : List (Text × Json)}

theorem map_fst_sortedMembers (ms : List (Text × Json)) :
    (sortedMembers ms).map (·.1) = ms.map (·.1) := by
  rw [sortedMembers_eq_map, List.map_map]
  rfl

theorem sortedMembers_append (ms ns : List (Text × Json)) :
    sortedMembers (ms ++ ns) = sortedMembers ms ++ sortedMembers ns := by
  rw [sortedMembers_eq_map, sortedMembers_eq_map, sortedMembers_eq_map, List.map_append]

/-- Where a value is found, its sorted form is found among the sorted members. -/
theorem lookup_sortedMembers (key : Text) (ms : List (Text × Json)) :
    (sortedMembers ms).lookup key = (ms.lookup key).map sorted := by
  induction ms with
  | nil => rfl
  | cons m ms ih =>
    rw [sortedMembers, List.lookup_cons, List.lookup_cons, ih]
    split <;> rfl

/-- A member is found in the sorted object under its key. -/
theorem member?_sorted (ms : List (Text × Json)) (key : Text) (h : (ms.map (·.1)).Nodup) :
    (object ms).sorted.member? key = (ms.lookup key).map sorted := by
  rw [← map_fst_sortedMembers] at h
  rw [sorted, member?, lookup_ofEntries h, lookup_sortedMembers]

end Json

/-! ## Records -/

namespace Fields

/-- The members of an object give the fields these values. -/
def Holds (ms : List (Text × Json)) : (fs : Fields) → fs.Value → Prop
  | none, _ => True
  | field key p s more, (v, vs) =>
    (match ms.lookup key with
      | Option.none => p.absent? = some v
      | some j => p.decode s.decode j = .ok v) ∧ more.Holds ms vs

theorem learn_of_not_mem : ∀ (fs : Fields) {name : Text} (v : Json) (known : fs.Known),
    name ∉ fs.keys → fs.learn name v known = .ok known
  | none, _, _, _, _ => rfl
  | field key p s more, name, v, (known, others), h => by
    rw [keys, List.mem_cons, not_or] at h
    rw [learn, if_neg h.1, learn_of_not_mem more v others h.2]
    rfl

section Learn

variable {key : Text} {p : Presence} {s : Shape} {more : Fields} {ms : List (Text × Json)}

/-- What is known of the fields after all members of an object. -/
def learnAll (fs : Fields) (ms : List (Text × Json)) (known : fs.Known) :
    Except Mismatch fs.Known :=
  ms.foldlM (fun known m => fs.learn m.1 m.2 known) known

theorem learnAll_cons (fs : Fields) (m : Text × Json) (known : fs.Known) :
    fs.learnAll (m :: ms) known = fs.learn m.1 m.2 known >>= fs.learnAll ms :=
  List.foldlM_cons

theorem learnAll_none (ms : List (Text × Json)) : none.learnAll ms () = .ok () := by
  induction ms with
  | nil => rfl
  | cons m ms ih => exact ih

/-- Without a member of its key, what is known of a field stays. -/
theorem learnAll_field_of_not_mem (h : key ∉ ms.map (·.1)) (known : Option (p.Holds s.Value))
    (others : more.Known) :
    (field key p s more).learnAll ms (known, others) =
      (more.learnAll ms others).map fun others => (known, others) := by
  induction ms generalizing others with
  | nil => rfl
  | cons m ms ih =>
    rw [List.map_cons, List.mem_cons, not_or] at h
    rw [learnAll_cons, learnAll_cons, learn, if_neg (Ne.symm h.1)]
    cases more.learn m.1 m.2 others with
    | error e => rfl
    | ok others => exact ih h.2 others

/-- The only member of its key is what a field holds. -/
theorem learnAll_field_of_lookup (hms : (ms.map (·.1)).Nodup) (hkey : key ∉ more.keys) {j : Json}
    (hj : ms.lookup key = some j) {v : p.Holds s.Value} (hv : p.decode s.decode j = .ok v)
    (known : Option (p.Holds s.Value)) (others : more.Known) :
    (field key p s more).learnAll ms (known, others) =
      (more.learnAll ms others).map fun others => (some v, others) := by
  induction ms generalizing others with
  | nil => exact absurd hj (by simp)
  | cons m ms ih =>
    obtain ⟨name, i⟩ := m
    rw [List.map_cons, List.nodup_cons] at hms
    rw [learnAll_cons, learnAll_cons, learn]
    by_cases hname : name = key
    · subst hname
      rw [List.lookup_cons_self, Option.some.injEq] at hj
      subst hj
      rw [if_pos rfl, hv, learn_of_not_mem more i others hkey]
      exact learnAll_field_of_not_mem hms.1 (some v) others
    · rw [List.lookup_cons, beq_false_of_ne (Ne.symm hname)] at hj
      rw [if_neg hname]
      cases more.learn name i others with
      | error e => rfl
      | ok others => exact ih hms.2 hj others

end Learn

/-- The fields are complete with the values that the members give them. -/
theorem Holds.exists_learnAll {ms : List (Text × Json)} (hms : (ms.map (·.1)).Nodup) :
    ∀ {fs : Fields} {v : fs.Value}, fs.keys.Nodup → fs.Holds ms v →
      ∃ known, fs.learnAll ms fs.unknown = .ok known ∧ fs.complete known = .ok v
  | none, (), _, _ => ⟨(), learnAll_none ms, rfl⟩
  | field key p s more, (v, vs), hkeys, ⟨hv, hvs⟩ => by
    rw [keys, List.nodup_cons] at hkeys
    obtain ⟨others, hothers, hcomplete⟩ := hvs.exists_learnAll hms hkeys.2
    cases hlookup : ms.lookup key with
    | none =>
      rw [hlookup] at hv
      refine ⟨(Option.none, others), ?_, ?_⟩
      · rw [unknown, learnAll_field_of_not_mem, hothers]
        · rfl
        · intro hmem
          obtain ⟨m, hm, rfl⟩ := List.mem_map.1 hmem
          exact absurd (List.lookup_eq_none_iff.1 hlookup m hm) (by simp)
      · simp only [complete, Option.none_or, hv, hcomplete]
        rfl
    | some j =>
      rw [hlookup] at hv
      refine ⟨(some v, others), ?_, ?_⟩
      · rw [unknown, learnAll_field_of_lookup hms hkeys.1 hlookup hv, hothers]
        rfl
      · simp only [complete, Option.some_or, hcomplete]
        rfl

end Fields

namespace Shape

variable {name : Text} {fields : Fields} {ms : List (Text × Json)}

/-- A record is decoded by learning all members and then filling in what is missing. -/
theorem decode_object_eq (name : Text) (fields : Fields) (ms : List (Text × Json)) :
    (record name fields).decode (.object ms) =
      fields.learnAll ms fields.unknown >>= fields.complete := by
  rw [decode]
  rfl

/-- An object whose members give the fields their values is a document of the record. -/
theorem decode_object (hms : (ms.map (·.1)).Nodup) (hfields : fields.keys.Nodup)
    {v : fields.Value} (h : fields.Holds ms v) :
    (record name fields).decode (.object ms) = .ok v := by
  obtain ⟨known, hknown, hcomplete⟩ := h.exists_learnAll hms hfields
  rw [decode_object_eq, hknown]
  exact hcomplete

/-- Members whose key is no field change neither what an object says nor why it is refused. -/
theorem decode_object_filter {kept : Text → Bool} (h : ∀ key ∈ fields.keys, kept key = true)
    (name : Text) (ms : List (Text × Json)) :
    (record name fields).decode (.object (ms.filter fun m => kept m.1)) =
      (record name fields).decode (.object ms) := by
  rw [decode_object_eq, decode_object_eq, Fields.learnAll, Fields.learnAll, List.foldlM_filter]
  congr 2
  funext known m
  split
  case isTrue => rfl
  case isFalse hkept =>
    exact (Fields.learn_of_not_mem fields m.2 known fun hmem => hkept (h _ hmem)).symm

end Shape

/-! ## Values read back -/

/-- What a field holds, if it holds something, is as demanded. -/
def Presence.All (P : α → Prop) : (p : Presence) → p.Holds α → Prop
  | required, a => P a
  | nullable, held => ∀ a ∈ held, P a
  | omissible, held => ∀ a ∈ held, P a

mutual

/-- No record of the shape has two fields with one key, and no choice one name twice. -/
def Shape.isDistinct : Shape → Bool
  | .text => true
  | .flag => true
  | .count => true
  | .choice names => decide names.Nodup
  | .list item => item.isDistinct
  | .record _ fields => fields.isDistinct

/-- The fields have distinct keys, and so on in the shapes of their values. -/
def Fields.isDistinct : Fields → Bool
  | .none => true
  | .field key _ s more => !more.keys.contains key && s.isDistinct && more.isDistinct

end

mutual

/-- The counts in what a document says are of at most 64 bits. -/
def Shape.Fits : (s : Shape) → s.Value → Prop
  | .text, _ => True
  | .flag, _ => True
  | .count, n => n ≤ maxSize
  | .choice _, _ => True
  | .list item, vs => ∀ v ∈ vs, item.Fits v
  | .record _ fields, v => fields.Fits v

/-- The counts in what the fields of a record hold are of at most 64 bits. -/
def Fields.Fits : (fs : Fields) → fs.Value → Prop
  | .none, _ => True
  | .field _ p s more, (v, vs) => p.All s.Fits v ∧ more.Fits vs

end

namespace Presence

variable {key : Text} {read : Json → Except Mismatch α} {write : α → Json} {P Q : α → Prop}

theorem All.imp (h : ∀ a, P a → Q a) : ∀ {p : Presence} {v : p.Holds α}, p.All P v → p.All Q v
  | required, _, hv => h _ hv
  | nullable, _, hv => fun a ha => h a (hv a ha)
  | omissible, _, hv => fun a ha => h a (hv a ha)

/-- A field is written as one member under its key, or not at all. -/
theorem keys_members_sublist (key : Text) (write : α → Json) :
    ∀ (p : Presence) (v : p.Holds α), ((p.members key write v).map (·.1)).Sublist [key]
  | required, _ => List.Sublist.refl _
  | nullable, none => List.Sublist.refl _
  | nullable, some _ => List.Sublist.refl _
  | omissible, none => List.nil_sublist _
  | omissible, some _ => List.Sublist.refl _

theorem sortedMembers_members (key : Text) (write : α → Json) :
    ∀ (p : Presence) (v : p.Holds α), Json.sortedMembers (p.members key write v) =
      p.members key (fun a => (write a).sorted) v
  | required, _ => rfl
  | nullable, none => rfl
  | nullable, some _ => rfl
  | omissible, none => rfl
  | omissible, some _ => rfl

/-- Where null stands for no value, any other value is read as it would be by itself. -/
theorem decode_of_ne_null {v : Json} (h : v ≠ .null) {a : α} (hread : read v = .ok a) :
    nullable.decode read v = .ok (some a) ∧ omissible.decode read v = .ok (some a) := by
  cases v with
  | null => exact absurd rfl h
  | _ =>
    simp only [decode, hread]
    exact ⟨rfl, rfl⟩

/-- A field holds what its members say, or is absent without a member. -/
theorem decode_lookup_members :
    ∀ {p : Presence} {v : p.Holds α}, p.All (fun a => read (write a) = .ok a ∧ write a ≠ .null) v →
      match (p.members key write v).lookup key with
      | none => p.absent? = some v
      | some j => p.decode read j = .ok v
  | required, v, h => by simpa [members, decode] using h.1
  | nullable, none, _ => by simp [members, decode]
  | nullable, some a, h => by
    obtain ⟨hread, hnull⟩ := h a rfl
    simpa [members] using (decode_of_ne_null hnull hread).1
  | omissible, none, _ => by simp [members, absent?]
  | omissible, some a, h => by
    obtain ⟨hread, hnull⟩ := h a rfl
    simpa [members] using (decode_of_ne_null hnull hread).2

end Presence

/-- No value of a shape is written as null. -/
theorem Shape.encode_sorted_ne_null (s : Shape) (v : s.Value) : (s.encode v).sorted ≠ .null := by
  cases s <;> simp [encode, Json.sorted]

theorem variant_get {names : List Text} (h : names.Nodup) (i : Fin names.length) :
    variant names (names.get i) = .ok i := by
  have hfind : names.finIdxOf? (names.get i) = some i := by
    rw [List.finIdxOf?_eq_some_iff]
    refine ⟨rfl, fun j hj heq => ?_⟩
    exact absurd (h.get_inj_iff.1 heq) (Fin.ne_of_lt hj)
  rw [variant, hfind]

namespace Fields

/-- The keys of a record are distinct if the first is none of the others, and so on, in all records
inside. -/
theorem isDistinct_iff {key : Text} {p : Presence} {s : Shape} {more : Fields} :
    (field key p s more).isDistinct = true ↔
      key ∉ more.keys ∧ s.isDistinct = true ∧ more.isDistinct = true := by
  rw [isDistinct, Bool.and_eq_true, Bool.and_eq_true, Bool.not_eq_true', ← Bool.not_eq_true,
    List.contains_iff_mem, and_assoc]

theorem keys_nodup_of_isDistinct : ∀ {fs : Fields}, fs.isDistinct = true → fs.keys.Nodup
  | none, _ => List.nodup_nil
  | field _ _ _ _, h =>
    have ⟨hkey, _, hmore⟩ := isDistinct_iff.1 h
    List.nodup_cons.2 ⟨hkey, keys_nodup_of_isDistinct hmore⟩

/-- Fields are written under their keys, in their order. -/
theorem keys_encode_sublist : ∀ (fs : Fields) (v : fs.Value),
    ((fs.encode v).map (·.1)).Sublist fs.keys
  | none, _ => List.Sublist.refl _
  | field key p s more, (v, vs) => by
    rw [encode, List.map_append]
    exact (p.keys_members_sublist key s.encode v).append (keys_encode_sublist more vs)

/-- No key of a record is written twice. -/
theorem nodup_sortedMembers {fs : Fields} (h : fs.isDistinct = true) (v : fs.Value) :
    ((Json.sortedMembers (fs.encode v)).map (·.1)).Nodup := by
  rw [Json.map_fst_sortedMembers]
  exact (fs.keys_encode_sublist v).nodup (keys_nodup_of_isDistinct h)

section Lookup

variable {key name : Text} {p : Presence} {s : Shape} {more : Fields} {v : p.Holds s.Value}
  {vs : more.Value}

/-- Under the key of the first field stand its own members. -/
theorem lookup_sorted_self (hkey : key ∉ more.keys) :
    (Json.sortedMembers ((field key p s more).encode (v, vs))).lookup key =
      (p.members key (fun a => (s.encode a).sorted) v).lookup key := by
  have habsent : (Json.sortedMembers (more.encode vs)).lookup key = Option.none := by
    refine Json.lookup_eq_none_of_not_mem fun hmem => hkey ?_
    rw [Json.map_fst_sortedMembers] at hmem
    exact (more.keys_encode_sublist vs).subset hmem
  rw [encode, Json.sortedMembers_append, p.sortedMembers_members, List.lookup_append, habsent,
    Option.or_none]

/-- Under the keys of the other fields stand the members of these. -/
theorem lookup_sorted_of_mem (hkey : key ∉ more.keys) (hname : name ∈ more.keys) :
    (Json.sortedMembers ((field key p s more).encode (v, vs))).lookup name =
      (Json.sortedMembers (more.encode vs)).lookup name := by
  have habsent : (p.members key (fun a => (s.encode a).sorted) v).lookup name = Option.none := by
    refine Json.lookup_eq_none_of_not_mem fun hmem => hkey ?_
    have := (p.keys_members_sublist key _ v).subset hmem
    rwa [← List.mem_singleton.1 this]
  rw [encode, Json.sortedMembers_append, p.sortedMembers_members, List.lookup_append, habsent,
    Option.none_or]

end Lookup

end Fields


mutual

/-- What a document says is read back from it, also if its keys are sorted. -/
theorem Shape.decode_sorted : ∀ (s : Shape) {v : s.Value}, s.isDistinct = true → s.Fits v →
    s.decode (s.encode v).sorted = .ok v
  | .text, _, _, _ => rfl
  | .flag, _, _, _ => rfl
  | .count, n, _, h => by
    have hn : n ≤ maxSize := h
    rw [Shape.encode, Json.sorted, Shape.decode, Json.count, if_pos hn]
  | .choice names, i, h, _ => by
    have hnames : names.Nodup := of_decide_eq_true h
    exact variant_get hnames i
  | .list item, vs, h, hvs => by
    rw [Shape.encode, Json.sorted_array_map]
    show (vs.map fun v => (item.encode v).sorted).mapM item.decode = .ok vs
    induction vs with
    | nil => rfl
    | cons v vs ih =>
      obtain ⟨hv, hvs⟩ := List.forall_mem_cons.1 hvs
      rw [List.map_cons, List.mapM_cons, item.decode_sorted h hv]
      show (vs.map fun v => (item.encode v).sorted).mapM item.decode >>= _ = _
      rw [ih hvs]
      rfl
  | .record name fields, v, h, hv => by
    have hkeys := Fields.nodup_sortedMembers h v
    rw [Shape.encode, Json.sorted]
    refine Shape.decode_object (((Json.ofEntries_perm hkeys).map _).nodup_iff.2 hkeys)
      (Fields.keys_nodup_of_isDistinct h) ?_
    exact fields.holds_sorted h hv fun key _ => Json.lookup_ofEntries hkeys key

/-- The fields hold what their document says, also if its keys are sorted. -/
theorem Fields.holds_sorted : ∀ (fs : Fields) {v : fs.Value} {ms : List (Text × Json)},
    fs.isDistinct = true → fs.Fits v →
    (∀ key ∈ fs.keys, ms.lookup key = (Json.sortedMembers (fs.encode v)).lookup key) → fs.Holds ms v
  | .none, _, _, _, _, _ => trivial
  | .field key p s more, (v, vs), ms, h, ⟨hv, hvs⟩, hms => by
    obtain ⟨hkey, hs, hmore⟩ := Fields.isDistinct_iff.1 h
    constructor
    · rw [hms key List.mem_cons_self, Fields.lookup_sorted_self hkey]
      exact Presence.decode_lookup_members
        (hv.imp fun a ha => ⟨s.decode_sorted hs ha, s.encode_sorted_ne_null a⟩)
    · refine more.holds_sorted hmore hvs fun name hname => ?_
      rw [hms name (List.mem_cons_of_mem _ hname), Fields.lookup_sorted_of_mem hkey hname]

end

/-! ## Types with documents -/

/-- A type of whose values nothing is lost in their documents. -/
class LawfulDocumented (α : Type) [Documented α] : Prop where
  /-- The documents have distinct keys, and the names to choose from are distinct. -/
  isDistinct_shape : (Documented.shape α).isDistinct = true
  /-- A value is what its document speaks of. -/
  ofValue_toValue (x : α) : Documented.ofValue (Documented.toValue x) = x

namespace Documented

variable [Documented α] [LawfulDocumented α]

/-- A value with counts of at most 64 bits is read back from its document. -/
theorem decode_encodeSorted {x : α} (h : (shape α).Fits (toValue x)) :
    decode (encodeSorted x) = .ok x := by
  have hdecode : (shape α).decode (encodeSorted x) = .ok (toValue x) :=
    (shape α).decode_sorted LawfulDocumented.isDistinct_shape h
  rw [decode, hdecode]
  exact congrArg Except.ok (LawfulDocumented.ofValue_toValue x)

end Documented

/-! ## Manifests -/

theorem Param.ofValue_toValue {record : Text} (p : Param) :
    Param.ofValue (p.toValue : (paramShape record).Value) = p :=
  rfl

theorem Param.fits_toValue {record : Text} (p : Param) :
    (paramShape record).Fits p.toValue :=
  ⟨trivial, trivial, trivial⟩

theorem Mutability.ofValue_toValue (m : Mutability) : Mutability.ofValue m.toValue = m := by
  cases m <;> rfl

namespace ManifestEntry

theorem ofValue_toValue (e : ManifestEntry) : ofValue e.toValue = e := by
  have hparams := Function.LeftInverse.list_map (@Param.ofValue_toValue "AbiParam")
  simp only [toValue, ofValue, hparams e.inputs, hparams e.outputs, Mutability.ofValue_toValue]

theorem fits_toValue (e : ManifestEntry) : shape.Fits e.toValue := by
  have hparams (ps : List Param) :
      (Shape.list (paramShape "AbiParam")).Fits (ps.map Param.toValue) :=
    List.forall_mem_map.2 fun p _ => p.fits_toValue
  exact ⟨trivial, trivial, hparams e.inputs, hparams e.outputs, trivial, trivial⟩

end ManifestEntry

namespace Manifest

theorem ofValue_toValue (m : Manifest) : ofValue m.toValue = m := by
  have hentries := Function.LeftInverse.list_map ManifestEntry.ofValue_toValue m.entries
  simp only [toValue, ofValue, hentries]

theorem isDistinct_shape : shape.isDistinct = true := by
  decide

instance : LawfulDocumented Manifest where
  isDistinct_shape := isDistinct_shape
  ofValue_toValue := ofValue_toValue

/-- There are no counts in a manifest. -/
theorem fits_toValue (m : Manifest) : shape.Fits m.toValue :=
  ⟨trivial, trivial, trivial, trivial, List.forall_mem_map.2 fun e _ => e.fits_toValue, trivial⟩

end Manifest

end StylusSurvey
