import StylusSurvey.Proofs.Declarations
import StylusSurvey.Proofs.Positions
import StylusSurvey.Proofs.Printing
import StylusSurvey.Proofs.StorageScan

/-!
# What the lines of a storage block say

The recognisers of a line, in terms of what the line consists of. A line opens a storage
block if the key word of the block stands in it with an opening brace behind
(`opensStorage_iff`). The struct on a line is the leftmost one (`structName?_eq_some_iff`).
An indented line declares a field if behind its margin there are a type, a gap, a name and
a semicolon (`DeclaresField`). A margin, a type and a gap can be told apart in several ways,
but the name and the trimmed type are the same in all of them (`DeclaresField.unique`), so
the recogniser gives the field whichever of them it looks at (`fieldOn?_eq_some_iff`).

Blanks are among the characters of a type. So a name that stands alone on its line, three
blanks or more behind the margin, is read as a field whose type is a blank: trimmed, there
is nothing left of it. Every other field has a type (`field_on_its_line`).
-/

namespace StylusSurvey

open Text

variable {l line name s t type : Text} {n : Nat} {f : StorageField}

namespace Declaration

/-! ## Openings, attributes and structs -/

/-- The line has the key word of a storage block with an opening brace behind it, blanks between
them or none. -/
def OpensStorage (l : Text) : Prop :=
  ∃ before blanks rest : Text, l = before ++ ("sol_storage!" ++ (blanks ++ '{' :: rest)) ∧
    ∀ c ∈ blanks, isBlank c = true

/-- The line begins with the attribute of a storage struct, blanks ahead of it or none. -/
def HasStorageAttribute (l : Text) : Prop :=
  ∃ blanks name rest : Text, l = blanks ++ ("#[" ++ (name ++ ']' :: rest)) ∧
    (∀ c ∈ blanks, isBlank c = true) ∧ (name = "storage" ∨ name = "entrypoint")

/-- A public struct of the name begins the text. -/
def StructAt (s name : Text) : Prop :=
  ∃ gap gap' rest : Text, s = "pub" ++ (gap ++ ("struct" ++ (gap' ++ (name ++ rest)))) ∧
    gap ≠ [] ∧ (∀ c ∈ gap, isBlank c = true) ∧ gap' ≠ [] ∧ (∀ c ∈ gap', isBlank c = true) ∧
    IsName name ∧ endsWord rest = true

/-- The leftmost public struct on the line has the name. -/
def DeclaresStruct (l name : Text) : Prop :=
  Leftmost StructAt l name

theorem opensStorage_iff : opensStorage l = true ↔ OpensStorage l := by
  have hbrace : isBlank '{' = false := rfl
  rw [opensStorage, isSome_search_iff]
  simp only [Option.isSome_iff_exists, Option.bind_eq_bind, Option.bind_eq_some_iff,
    @after?_eq_some_iff "sol_storage!", after?_trimStart_eq_some_iff hbrace]
  constructor
  · rintro ⟨before, _, rfl, rest, _, rfl, blanks, rfl, hblanks⟩
    exact ⟨before, blanks, rest, rfl, hblanks⟩
  · rintro ⟨before, blanks, rest, rfl, hblanks⟩
    exact ⟨before, _, rfl, rest, _, rfl, blanks, rfl, hblanks⟩

theorem isStorageAttribute_iff : isStorageAttribute l = true ↔ HasStorageAttribute l := by
  rw [isStorageAttribute]
  constructor
  · intro h
    obtain ⟨rest, hrest⟩ := Option.isSome_iff_exists.1 h
    obtain ⟨blanks, hblanks, name, hname, rfl⟩ := eq_append_of_afterAttribute? hrest
    exact ⟨blanks, name, rest, by simp, hblanks, by simpa using hname⟩
  · rintro ⟨blanks, name, rest, rfl, hblanks, hname⟩
    have hstart : trimStart ("#[" ++ (name ++ ']' :: rest)) = "#[" ++ (name ++ ']' :: rest) := rfl
    have hafter : after? (name ++ [']']) (name ++ ']' :: rest) = some rest :=
      after?_eq_some_iff.2 (by simp)
    rw [afterAttribute?, trimStart_blanks_append hblanks, hstart, after?_append]
    simp only [Option.bind_eq_bind, Option.bind_some, List.findSome?_isSome_iff]
    exact ⟨name, by simpa using hname, by rw [hafter]; rfl⟩

/-- The keywords of a public struct are read with blanks behind each of them. -/
theorem afterPublic?_struct_eq_some_iff : afterPublic? "struct" s = some t ↔
    ∃ gap gap' : Text, s = "pub" ++ (gap ++ ("struct" ++ (gap' ++ t))) ∧ gap ≠ [] ∧
      (∀ c ∈ gap, isBlank c = true) ∧ gap' ≠ [] ∧ (∀ c ∈ gap', isBlank c = true) ∧
      trimStart t = t := by
  simp only [afterPublic?, Option.bind_eq_bind, Option.bind_eq_some_iff, after?_eq_some_iff,
    blanks?_eq_some_iff]
  constructor
  · rintro ⟨_, rfl, _, ⟨gap, rfl, hne, hgap, -⟩, _, rfl, gap', rfl, hne', hgap', ht⟩
    exact ⟨gap, gap', rfl, hne, hgap, hne', hgap', ht⟩
  · rintro ⟨gap, gap', rfl, hne, hgap, hne', hgap', ht⟩
    exact ⟨_, rfl, _, ⟨gap, rfl, hne, hgap, rfl⟩, _, rfl, gap', rfl, hne', hgap', ht⟩

/-- The name of a struct is read exactly from the lines that declare it. -/
theorem structName?_eq_some_iff : structName? l = some name ↔ DeclaresStruct l name := by
  refine search_eq_some_iff_leftmost fun s name => ?_
  simp only [Option.bind_eq_bind, Option.bind_eq_some_iff, afterPublic?_struct_eq_some_iff,
    Prod.exists, word?_eq_some_iff, Option.pure_def, Option.some.injEq]
  constructor
  · rintro ⟨_, ⟨gap, gap', rfl, hne, hgap, hne', hgap', -⟩, _, rest, ⟨rfl, hword⟩, rfl⟩
    exact ⟨gap, gap', rest, rfl, hne, hgap, hne', hgap', ⟨hword.1, hword.2.1⟩, hword.2.2⟩
  · rintro ⟨gap, gap', rest, rfl, hne, hgap, hne', hgap', hname, hend⟩
    exact ⟨name ++ rest, ⟨gap, gap', rfl, hne, hgap, hne', hgap',
      trimStart_word_append hname.1 hname.2⟩, name, rest, ⟨rfl, hname.1, hname.2, hend⟩, rfl⟩

end Declaration

namespace StorageLayout

/-! ## Fields -/

/-- The text is a type, a gap, a name and a semicolon, with blanks in front of the semicolon or
none. A type has at least one character, and blanks count as such. -/
def FieldAt (s type name : Text) : Prop :=
  ∃ gap gap' rest : Text, s = type ++ (gap ++ (name ++ (gap' ++ ';' :: rest))) ∧
    type ≠ [] ∧ (∀ c ∈ type, isTypeChar c = true) ∧ gap ≠ [] ∧ (∀ c ∈ gap, isBlank c = true) ∧
    IsName name ∧ ∀ c ∈ gap', isBlank c = true

/-- The line is a margin and a field behind it. -/
def DeclaresField (line type name : Text) : Prop :=
  ∃ margin s : Text, line = margin ++ s ∧ margin ≠ [] ∧ (∀ c ∈ margin, isBlank c = true) ∧
    FieldAt s type name

theorem declaredName?_eq_some_iff : declaredName? s = some name ↔
    ∃ gap rest : Text, s = name ++ (gap ++ ';' :: rest) ∧ IsName name ∧
      ∀ c ∈ gap, isBlank c = true := by
  have hsemicolon : isBlank ';' = false := rfl
  simp only [declaredName?, Option.bind_eq_bind, Option.bind_eq_some_iff, Prod.exists,
    word?_eq_some_iff, after?_trimStart_eq_some_iff hsemicolon, Option.pure_def,
    Option.some.injEq]
  constructor
  · rintro ⟨_, _, ⟨rfl, hne, hword, -⟩, rest, ⟨gap, rfl, hgap⟩, rfl⟩
    exact ⟨gap, rest, rfl, ⟨hne, hword⟩, hgap⟩
  · rintro ⟨gap, rest, rfl, hname, hgap⟩
    have hend : endsWord (gap ++ ';' :: rest) = true := by
      cases gap with
      | nil => rfl
      | cons c gap =>
        have hc := isWord_eq_false_of_isBlank (hgap c List.mem_cons_self)
        simpa [endsWord] using hc
    exact ⟨name, _, ⟨rfl, hname.1, hname.2, hend⟩, rest, ⟨gap, rfl, hgap⟩, rfl⟩

/-- What is read as a type and a name is followed by a gap and a semicolon. -/
theorem fieldAt_of_typeAndName? (h : typeAndName? s = some (type, name)) :
    FieldAt s type name := by
  induction s generalizing type with
  | nil => cases h
  | cons c s ih =>
    rw [typeAndName?] at h
    split_ifs at h with hc
    split at h
    case h_1 name' hname =>
      obtain ⟨rfl, rfl⟩ := Prod.mk.inj (Option.some.inj h)
      obtain ⟨u, hu, hdeclared⟩ := Option.bind_eq_some_iff.1 hname
      obtain ⟨gap, rfl, hne, hgap, -⟩ := blanks?_eq_some_iff.1 hu
      obtain ⟨gap', rest, rfl, hword, hgap'⟩ := declaredName?_eq_some_iff.1 hdeclared
      exact ⟨gap, gap', rest, rfl, List.cons_ne_nil c [], by simpa using hc, hne, hgap, hword,
        hgap'⟩
    case h_2 =>
      obtain ⟨⟨type', name'⟩, hrest, hcons⟩ := Option.map_eq_some_iff.1 h
      obtain ⟨rfl, rfl⟩ := Prod.mk.inj hcons
      obtain ⟨gap, gap', rest, rfl, -, htype, hrest⟩ := ih hrest
      exact ⟨gap, gap', rest, rfl, List.cons_ne_nil c type', List.forall_mem_cons.2 ⟨hc, htype⟩,
        hrest⟩

/-- Where a type and a name can be told apart, some type and name are read. -/
theorem isSome_typeAndName? (h : FieldAt s type name) : (typeAndName? s).isSome = true := by
  obtain ⟨gap, gap', rest, rfl, hne, htype, hgapne, hgap, hname, hgap'⟩ := h
  -- Induction on the type: the reader stops inside it or behind it.
  induction type with
  | nil => exact absurd rfl hne
  | cons c type ih =>
    obtain ⟨hc, htype⟩ := List.forall_mem_cons.1 htype
    rw [List.cons_append, typeAndName?, if_pos hc]
    split
    case h_1 => rfl
    case h_2 hnone =>
      rw [Option.isSome_map]
      refine ih ?_ htype
      rintro rfl
      have hstart : trimStart (name ++ (gap' ++ ';' :: rest)) = name ++ (gap' ++ ';' :: rest) :=
        trimStart_word_append hname.1 hname.2
      have hread : declaredName? (name ++ (gap' ++ ';' :: rest)) = some name :=
        declaredName?_eq_some_iff.2 ⟨gap', rest, rfl, hname, hgap'⟩
      rw [List.nil_append, blanks?_append hgapne hgap, hstart, Option.bind_some, hread] at hnone
      cases hnone

/-- A type and a name are read behind the margin, or else a name alone where the margin leaves room
for a type. -/
theorem declaration?_eq_some_iff : declaration? line = some (type, name) ↔
    line.takeWhile isBlank ≠ [] ∧
      (typeAndName? (trimStart line) = some (type, name) ∨
        typeAndName? (trimStart line) = none ∧ 3 ≤ (line.takeWhile isBlank).length ∧
          type = [' '] ∧ declaredName? (trimStart line) = some name) := by
  rw [declaration?]
  generalize line.takeWhile isBlank = margin
  cases hread : typeAndName? (trimStart line) with
  | some d => rcases margin with _ | ⟨a, _ | ⟨b, _ | ⟨c, margin⟩⟩⟩ <;> simp
  | none =>
    rcases margin with _ | ⟨a, _ | ⟨b, _ | ⟨c, margin⟩⟩⟩ <;> simp [and_comm, @eq_comm _ [' ']]

/-- What is read on a line is one of the ways in which the line declares a field. -/
theorem exists_declaresField (h : declaration? line = some (type, name)) :
    ∃ type', DeclaresField line type' name ∧ trim type' = trim type := by
  have hline : line = line.takeWhile isBlank ++ trimStart line :=
    List.takeWhile_append_dropWhile.symm
  have hblank : ∀ c ∈ line.takeWhile isBlank, isBlank c = true :=
    fun c hc => List.mem_takeWhile_imp hc
  obtain ⟨hne, hread | ⟨-, hroom, rfl, hname⟩⟩ := declaration?_eq_some_iff.1 h
  · exact ⟨type, ⟨_, _, hline, hne, hblank, fieldAt_of_typeAndName? hread⟩, rfl⟩
  · -- The second blank of the margin is taken for the type, and the others behind it for the gap.
    obtain ⟨gap', rest, hstart, hname, hgap'⟩ := declaredName?_eq_some_iff.1 hname
    rw [hstart] at hline
    generalize line.takeWhile isBlank = margin at hline hblank hroom
    obtain ⟨a, b, c, gap, rfl⟩ : ∃ a b c gap, margin = a :: b :: c :: gap := by
      match margin, hroom with
      | a :: b :: c :: gap, _ => exact ⟨a, b, c, gap, rfl⟩
    simp only [List.forall_mem_cons] at hblank
    obtain ⟨ha, hb, hgap⟩ := hblank
    refine ⟨[b], ⟨[a], _, hline, List.cons_ne_nil a [], by simpa using ha, c :: gap, gap', rest,
      rfl, List.cons_ne_nil b [], ?_, List.cons_ne_nil c gap, List.forall_mem_cons.2 hgap, hname,
      hgap'⟩, ?_⟩
    · simp [isTypeChar, hb]
    · rw [trim_eq_nil_iff.2 (by simpa using hb), trim_eq_nil_iff.2 isBlank_of_mem_space]

/-- A type that is more than blanks is read behind the margin, or a part of it. -/
theorem isSome_typeAndName?_trimStart (h : DeclaresField line type name)
    (htype : ∃ c ∈ type, isBlank c = false) : (typeAndName? (trimStart line)).isSome = true := by
  obtain ⟨margin, _, rfl, -, hmargin, gap, gap', rest, rfl, -, hchars, hrest⟩ := h
  rw [trimStart_blanks_append hmargin, trimStart_append_of_exists htype]
  refine isSome_typeAndName? ⟨gap, gap', rest, rfl, ?_,
    fun c hc => hchars c (mem_of_mem_trimStart hc), hrest⟩
  obtain ⟨c, hc, hblank⟩ := htype
  intro hnil
  rw [List.dropWhile_eq_nil_iff.1 hnil c hc] at hblank
  cases hblank

/-- Where the type is nothing but blanks, the name is read behind a margin that leaves room for
it. -/
theorem declaredName?_trimStart (h : DeclaresField line type name)
    (hblank : ∀ c ∈ type, isBlank c = true) :
    3 ≤ (line.takeWhile isBlank).length ∧ declaredName? (trimStart line) = some name := by
  obtain ⟨margin, _, rfl, hne, hmargin, gap, gap', rest, rfl, htypene, -, hgapne, hgap, hname,
    hgap'⟩ := h
  have hfront : ∀ c ∈ margin ++ (type ++ gap), isBlank c = true :=
    List.forall_mem_append.2 ⟨hmargin, List.forall_mem_append.2 ⟨hblank, hgap⟩⟩
  have hregroup : margin ++ (type ++ (gap ++ (name ++ (gap' ++ ';' :: rest)))) =
      (margin ++ (type ++ gap)) ++ (name ++ (gap' ++ ';' :: rest)) := by simp
  rw [hregroup]
  constructor
  · have hm := List.length_pos_iff.2 hne
    have ht := List.length_pos_iff.2 htypene
    have hg := List.length_pos_iff.2 hgapne
    rw [List.takeWhile_append_of_pos hfront]
    simp only [List.length_append]
    omega
  · rw [trimStart_blanks_append hfront, trimStart_word_append hname.1 hname.2]
    exact declaredName?_eq_some_iff.2 ⟨gap', rest, rfl, hname, hgap'⟩

/-- Where a line declares a field, a field is read. -/
theorem isSome_declaration? (h : DeclaresField line type name) :
    (declaration? line).isSome = true := by
  have hmargin : line.takeWhile isBlank ≠ [] := by
    obtain ⟨margin, s, rfl, hne, hmargin, -⟩ := h
    rw [List.takeWhile_append_of_pos hmargin]
    exact List.append_ne_nil_of_left_ne_nil hne _
  rw [Option.isSome_iff_exists]
  cases hread : typeAndName? (trimStart line) with
  | some d => exact ⟨d, declaration?_eq_some_iff.2 ⟨hmargin, .inl hread⟩⟩
  | none =>
    have hblank : ∀ c ∈ type, isBlank c = true := by
      by_contra hex
      have hsome := isSome_typeAndName?_trimStart h (by simpa using hex)
      rw [hread] at hsome
      cases hsome
    obtain ⟨hroom, hname⟩ := declaredName?_trimStart h hblank
    exact ⟨([' '], name), declaration?_eq_some_iff.2 ⟨hmargin, .inr ⟨hread, hroom, rfl, hname⟩⟩⟩

/-! ## What a field consists of -/

/-- The line is a front that ends in a blank, the name and a semicolon, with blanks in front of the
semicolon or none, and no semicolon stands ahead of that. -/
def NamedBehind (line front name : Text) : Prop :=
  ∃ gap rest : Text, line = front ++ (name ++ (gap ++ ';' :: rest)) ∧ ';' ∉ front ∧
    (∃ u b, front = u ++ [b] ∧ isBlank b = true) ∧ IsName name ∧ ∀ c ∈ gap, isBlank c = true

/-- The first semicolon of the line tells where the name ends, and the last blank ahead of it where
it begins. -/
theorem NamedBehind.unique {front front' name' : Text} (h : NamedBehind line front name)
    (h' : NamedBehind line front' name') : front = front' ∧ name = name' := by
  have hread {front name : Text} (h : NamedBehind line front name) :
      (cutAt? ';' line).map (fun cut => trimEnd cut.1) = some (front ++ name) ∧
        ((front ++ name).reverse.takeWhile fun c => !isBlank c) = name.reverse := by
    obtain ⟨gap, rest, rfl, hfront, ⟨u, b, rfl, hb⟩, hname, hgap⟩ := h
    have hblank : ∀ c ∈ name, isBlank c = false :=
      fun c hc => isBlank_eq_false_of_isWord (hname.2 c hc)
    have hsemicolon : ';' ∉ (u ++ [b]) ++ (name ++ gap) :=
      List.not_mem_append hfront (List.not_mem_append (hname.not_mem (by simp [punctuation]))
        (not_mem_of_blanks hgap rfl))
    constructor
    · obtain ⟨v, c, rfl⟩ := (List.eq_nil_or_concat' name).resolve_left hname.1
      have hregroup : (u ++ [b]) ++ ((v ++ [c]) ++ (gap ++ ';' :: rest)) =
          ((u ++ [b]) ++ ((v ++ [c]) ++ gap)) ++ ';' :: rest := by simp
      rw [hregroup, cutAt?_append hsemicolon, Option.map_some, ← List.append_assoc,
        trimEnd_append_blanks hgap, ← List.append_assoc,
        trimEnd_append_singleton (hblank c (by simp))]
    · have hreverse : ((u ++ [b]) ++ name).reverse = name.reverse ++ b :: u.reverse := by simp
      rw [hreverse, List.takeWhile_append_of_pos (by simpa using hblank),
        List.takeWhile_cons_of_neg (by simp [hb]), List.append_nil]
  obtain ⟨hcut, hname⟩ := hread h
  obtain ⟨hcut', hname'⟩ := hread h'
  have heq : front ++ name = front' ++ name' := Option.some.inj (hcut.symm.trans hcut')
  rw [heq, hname'] at hname
  have hnames : name = name' := (List.reverse_inj.1 hname).symm
  exact ⟨List.append_cancel_right (hnames ▸ heq), hnames⟩

/-- What stands ahead of the name of a field is its type, but for blanks. -/
theorem DeclaresField.exists_namedBehind (h : DeclaresField line type name) :
    ∃ front, NamedBehind line front name ∧ trim front = trim type := by
  obtain ⟨margin, _, rfl, -, hmargin, gap, gap', rest, rfl, -, hchars, hgapne, hgap, hname,
    hgap'⟩ := h
  have hsemicolon : isTypeChar ';' = false := by decide
  have htype : ';' ∉ type := by
    intro hmem
    rw [hchars ';' hmem] at hsemicolon
    cases hsemicolon
  obtain ⟨u, b, rfl⟩ := (List.eq_nil_or_concat' gap).resolve_left hgapne
  refine ⟨margin ++ (type ++ (u ++ [b])), ⟨gap', rest, by simp, ?_, ?_, hname, hgap'⟩,
    by rw [trim_of_blanks_append hmargin, trim_of_append_blanks hgap]⟩
  · exact List.not_mem_append (not_mem_of_blanks hmargin rfl)
      (List.not_mem_append htype (not_mem_of_blanks hgap rfl))
  · exact ⟨margin ++ (type ++ u), b, by simp, hgap b (by simp)⟩

/-- However a line is taken apart, its field has the same name and the same type. -/
theorem DeclaresField.unique {type' name' : Text} (h : DeclaresField line type name)
    (h' : DeclaresField line type' name') : name = name' ∧ trim type = trim type' := by
  obtain ⟨front, hfront, htype⟩ := h.exists_namedBehind
  obtain ⟨front', hfront', htype'⟩ := h'.exists_namedBehind
  obtain ⟨rfl, hname⟩ := hfront.unique hfront'
  exact ⟨hname, htype.symm.trans htype'⟩

/-- The field on a line is what the line declares, with the type trimmed. -/
theorem fieldOn?_eq_some_iff : fieldOn? line n = some f ↔
    (∃ type, DeclaresField line type f.name ∧ trim type = f.type) ∧ f.line = n := by
  rw [fieldOn?, Option.map_eq_some_iff]
  constructor
  · rintro ⟨⟨type, name⟩, hread, rfl⟩
    exact ⟨exists_declaresField hread, rfl⟩
  · rintro ⟨⟨type, hdeclares, htype⟩, rfl⟩
    obtain ⟨⟨type', name⟩, hread⟩ := Option.isSome_iff_exists.1 (isSome_declaration? hdeclares)
    obtain ⟨type'', hdeclares', htype'⟩ := exists_declaresField hread
    obtain ⟨rfl, heq⟩ := hdeclares'.unique hdeclares
    refine ⟨_, hread, ?_⟩
    simp only [← htype', heq, htype]

/-! ## The fields of a source -/

/-- A field stands on the line with its number. -/
theorem exists_declaresField_of_mem {source : Text} (h : f ∈ (ofSource source).fields) :
    ∃ line type, lineAt (lines source) f.line = some line ∧ DeclaresField line type f.name ∧
      trim type = f.type := by
  have hfields : (ofSource source).fields =
      (StoragePlace.ahead.layoutFrom 1 (lines source)).fields := rfl
  rw [hfields, StoragePlace.mem_fields_layoutFrom] at h
  obtain ⟨k, hk, hf⟩ := h
  obtain ⟨⟨type, hdeclares, htype⟩, hline⟩ :=
    fieldOn?_eq_some_iff.1 (StoragePlace.fieldOn?_of_mem_fieldsOn hf)
  refine ⟨(lines source)[k], type, ?_, hdeclares, htype⟩
  rw [hline, Nat.add_comm 1 k, lineAt_succ hk]

/-- The trimmed type stands on the line between the margin and a gap. -/
theorem DeclaresField.exists_eq_append (h : DeclaresField line type name) :
    ∃ margin gap gap' rest : Text,
      line = margin ++ (trim type ++ (gap ++ (name ++ (gap' ++ ';' :: rest)))) ∧ margin ≠ [] ∧
        (∀ c ∈ margin, isBlank c = true) ∧ gap ≠ [] ∧ (∀ c ∈ gap, isBlank c = true) ∧
        ∀ c ∈ gap', isBlank c = true := by
  obtain ⟨margin, _, rfl, hne, hmargin, gap, gap', rest, rfl, -, -, hgapne, hgap, -, hgap'⟩ := h
  obtain ⟨b, b', hb, hb', htype⟩ := exists_blanks_append_trim type
  refine ⟨margin ++ b, b' ++ gap, gap', rest, ?_, List.append_ne_nil_of_left_ne_nil hne b,
    List.forall_mem_append.2 ⟨hmargin, hb⟩, List.append_ne_nil_of_right_ne_nil b' hgapne,
    List.forall_mem_append.2 ⟨hb', hgap⟩, hgap'⟩
  conv_lhs => rw [htype]
  simp

/-- A field has no type exactly if its name stands alone on the line, behind three blanks or
more. -/
theorem DeclaresField.trim_eq_nil_iff (h : DeclaresField line type name) : trim type = [] ↔
    ∃ margin gap rest : Text, line = margin ++ (name ++ (gap ++ ';' :: rest)) ∧ 3 ≤ margin.length ∧
      (∀ c ∈ margin, isBlank c = true) ∧ ∀ c ∈ gap, isBlank c = true := by
  constructor
  · intro hnil
    rw [Text.trim_eq_nil_iff] at hnil
    obtain ⟨hroom, hread⟩ := declaredName?_trimStart h hnil
    obtain ⟨gap, rest, hstart, -, hgap⟩ := declaredName?_eq_some_iff.1 hread
    refine ⟨line.takeWhile isBlank, gap, rest, ?_, hroom, fun c hc => List.mem_takeWhile_imp hc,
      hgap⟩
    rw [← hstart]
    exact List.takeWhile_append_dropWhile.symm
  · rintro ⟨margin, gap, rest, hline, hroom, hmargin, hgap⟩
    obtain ⟨front, hfront, htype⟩ := h.exists_namedBehind
    have hne : margin ≠ [] := List.length_pos_iff.1 (Nat.lt_of_lt_of_le (by decide) hroom)
    obtain ⟨u, b, hlast⟩ := (List.eq_nil_or_concat' margin).resolve_left hne
    have halone : NamedBehind line margin name := by
      obtain ⟨-, -, -, -, -, hname, -⟩ := hfront
      exact ⟨gap, rest, hline, not_mem_of_blanks hmargin rfl,
        ⟨u, b, hlast, hmargin b (by simp [hlast])⟩, hname, hgap⟩
    rw [← htype, (hfront.unique halone).1, Text.trim_eq_nil_iff]
    exact hmargin

/-- A field is a word with its type in front of it on its line. The type is empty exactly if the
word stands alone there. -/
theorem field_on_its_line {source : Text} (h : f ∈ (ofSource source).fields) :
    IsName f.name ∧ trim f.type = f.type ∧ ∃ line, lineAt (lines source) f.line = some line ∧
      (∃ margin gap gap' rest : Text,
        line = margin ++ (f.type ++ (gap ++ (f.name ++ (gap' ++ ';' :: rest)))) ∧ margin ≠ [] ∧
          (∀ c ∈ margin, isBlank c = true) ∧ gap ≠ [] ∧ (∀ c ∈ gap, isBlank c = true) ∧
          ∀ c ∈ gap', isBlank c = true) ∧
      (f.type = [] ↔ ∃ margin gap rest : Text,
        line = margin ++ (f.name ++ (gap ++ ';' :: rest)) ∧ 3 ≤ margin.length ∧
          (∀ c ∈ margin, isBlank c = true) ∧ ∀ c ∈ gap, isBlank c = true) := by
  obtain ⟨line, type, hline, hdeclares, htype⟩ := exists_declaresField_of_mem h
  obtain ⟨-, ⟨-, -, -, -, -, hname, -⟩, -⟩ := hdeclares.exists_namedBehind
  rw [← htype]
  exact ⟨hname, trim_trim type, line, hline, hdeclares.exists_eq_append, hdeclares.trim_eq_nil_iff⟩

/-- A storage block with a declaration that is wrapped ahead of its name. -/
def wrappedSource : Text :=
  unlines ["sol_storage! \x7b", "    pub struct Wallet \x7b", "        uint256 total;",
    "        mapping(address => uint256)", "            balances;", "    \x7d", "\x7d"]

/-- A field on one line, in a block with a declaration over two. -/
theorem field_on_its_line_wrapped :
    ⟨"total", "uint256", 3⟩ ∈ (ofSource wrappedSource).fields ∧
      ∃ line, lineAt (lines wrappedSource) 3 = some line ∧ ∃ margin gap gap' rest : Text,
        line = margin ++ ("uint256" ++ (gap ++ ("total" ++ (gap' ++ ';' :: rest)))) ∧ margin ≠ [] ∧
          (∀ c ∈ margin, isBlank c = true) ∧ gap ≠ [] ∧ (∀ c ∈ gap, isBlank c = true) ∧
          ∀ c ∈ gap', isBlank c = true := by
  have hmem : ⟨"total", "uint256", 3⟩ ∈ (ofSource wrappedSource).fields := by decide +kernel
  obtain ⟨-, -, line, hline, htyped, -⟩ := field_on_its_line hmem
  exact ⟨hmem, line, hline, htyped⟩

/-- The name of a wrapped declaration is taken for a field without a type. -/
theorem wrapped_field_has_no_type :
    ⟨"balances", [], 5⟩ ∈ (ofSource wrappedSource).fields := by decide +kernel

end StorageLayout

end StylusSurvey
