import StylusSurvey.Proofs.Lines
import StylusSurvey.Proofs.Numerals
import StylusSurvey.Report.Xml

/-!
# Tags of an XML text

A reader that knows nothing of the reports: a text is split at each `<`, and a tag goes up to the
next `>` (`Xml.tags`). Its name goes up to the first blank, and its attributes are read between
double quotes (`Xml.attributes`). Such a reader sees the tags that are written, in their order, as
long as no name, value or text in between holds one of these characters (`Xml.HasTags`), and an
escaped text never does (`XmlReport.not_mem_escape`).
-/

namespace StylusSurvey

open Text

namespace Text

variable {s t new : Text} {c d sep : Char}

/-- The first piece goes up to the separator. -/
theorem splitOn_eq_takeWhile_cons (sep : Char) (s : Text) :
    splitOn sep s = s.takeWhile (· ≠ sep) :: (splitOn sep s).tail := by
  induction s with
  | nil => rfl
  | cons c s ih =>
    rw [splitOn, ih]
    by_cases hc : c = sep <;> simp [hc]

/-- What precedes the first separator belongs to the first piece. -/
theorem tail_splitOn_append (h : sep ∉ t) (s : Text) :
    (splitOn sep (t ++ s)).tail = (splitOn sep s).tail := by
  induction t with
  | nil => rfl
  | cons c t ih =>
    rw [List.mem_cons, not_or] at h
    have hc : c ≠ sep := Ne.symm h.1
    rw [List.cons_append, splitOn, splitOn_eq_takeWhile_cons sep (t ++ s), ih h.2]
    simp [hc]

theorem takeWhile_append_cons (h : c ∉ t) (s : Text) :
    (t ++ c :: s).takeWhile (· ≠ c) = t ∧ (t ++ c :: s).dropWhile (· ≠ c) = c :: s := by
  have ht : ∀ d ∈ t, decide (d ≠ c) = true := fun d hd => decide_eq_true fun heq => h (heq ▸ hd)
  rw [List.takeWhile_append_of_pos ht, List.dropWhile_append_of_pos ht]
  simp

/-- A character that is replaced, or did not occur, does not occur unless it is written anew. -/
theorem not_mem_replace (hnew : d ∉ new) (h : d = c ∨ d ∉ s) : d ∉ replace c new s := by
  intro hmem
  obtain ⟨e, he, hd⟩ := List.mem_flatMap.1 hmem
  split at hd
  · exact hnew hd
  · obtain rfl := List.mem_singleton.1 hd
    rcases h with rfl | h
    · contradiction
    · exact h he

end Text

namespace Xml

/-! ## The reader -/

/-- What stands between each `<` and the next `>`, with the text up to the `<` after that. -/
def pieces (s : Text) : List (Text × Text) :=
  (splitOn '<' s).tail.map fun p => (p.takeWhile (· ≠ '>'), (p.dropWhile (· ≠ '>')).tail)

/-- The tags of a text, without their angle brackets. -/
def tags (s : Text) : List Text :=
  (pieces s).map (·.1)

/-- The name with which a tag begins. -/
def name (tag : Text) : Text :=
  tag.takeWhile (· ≠ ' ')

/-- The attributes in the pieces of a tag between its quotes: a key with a blank before it and an
equals sign behind it, and a value, and so on. -/
def attributesOf : List Text → List (Text × Text)
  | key :: value :: rest => (key.tail.dropLast, value) :: attributesOf rest
  | _ => []

/-- The attributes of a tag, their values as they are written. -/
def attributes (tag : Text) : List (Text × Text) :=
  attributesOf (splitOn '"' (tag.dropWhile (· ≠ ' ')))

/-- The number that an attribute of a tag gives. -/
def count? (key tag : Text) : Option Nat :=
  ((attributes tag).lookup key).bind ofNumeral?

/-- The tags of the given name. -/
def named (element : Text) (ts : List Text) : List Text :=
  ts.filter fun tag => name tag = element

/-- The tags with which the elements of the given name begin in a text. -/
def elements (element s : Text) : List Text :=
  named element (tags s)

/-! ## Tags that are written -/

variable {s t tag : Text} {ts us : List Text}

/-- What stands ahead of the first tag is in no piece. -/
theorem pieces_append (h : '<' ∉ t) (s : Text) : pieces (t ++ s) = pieces s := by
  rw [pieces, pieces, tail_splitOn_append h]

/-- A piece is a tag with the text behind it. -/
theorem pieces_cons_tag (hopen : '<' ∉ tag) (hclose : '>' ∉ tag) (s : Text) :
    pieces ('<' :: (tag ++ '>' :: s)) = (tag, s.takeWhile (· ≠ '<')) :: pieces s := by
  have hfirst : '<' ∉ tag ++ ['>'] := List.not_mem_append hopen (by decide)
  have hsplit : splitOn '<' (tag ++ '>' :: s) =
      (tag ++ '>' :: s.takeWhile (· ≠ '<')) :: (splitOn '<' s).tail := by
    have hassoc : tag ++ '>' :: s = (tag ++ ['>']) ++ s := by simp
    have hpos : ∀ c ∈ tag ++ ['>'], decide (c ≠ '<') = true :=
      fun c hc => decide_eq_true fun heq => hfirst (heq ▸ hc)
    rw [hassoc, splitOn_eq_takeWhile_cons, tail_splitOn_append hfirst,
      List.takeWhile_append_of_pos hpos, List.append_assoc, List.singleton_append]
  have hpiece := takeWhile_append_cons hclose (s.takeWhile (· ≠ '<'))
  rw [pieces, ← List.nil_append ('<' :: _), splitOn_append_cons List.not_mem_nil, List.tail_cons,
    hsplit, List.map_cons, hpiece.1, hpiece.2]
  rfl

/-- The text is read as these tags, whatever follows it. -/
def HasTags (s : Text) (ts : List Text) : Prop :=
  ∀ rest, tags (s ++ rest) = ts ++ tags rest

theorem HasTags.tags_eq (h : HasTags s ts) : tags s = ts := by
  have hs := h []
  rw [List.append_nil] at hs
  exact hs.trans (List.append_nil ts)

/-- Text without an angle bracket that opens holds no tag. -/
theorem hasTags_of_not_mem (h : '<' ∉ s) : HasTags s [] := by
  intro rest
  rw [tags, pieces_append h]
  rfl

theorem hasTags_tag (hopen : '<' ∉ tag) (hclose : '>' ∉ tag) :
    HasTags ('<' :: (tag ++ ['>'])) [tag] := by
  intro rest
  rw [tags, List.cons_append, List.append_assoc, List.singleton_append,
    pieces_cons_tag hopen hclose]
  rfl

theorem HasTags.append (hs : HasTags s ts) (ht : HasTags t us) : HasTags (s ++ t) (ts ++ us) := by
  intro rest
  rw [List.append_assoc, hs, ht, List.append_assoc]

/-- Texts one behind another have the tags of each. -/
theorem hasTags_flatMap {α : Type} {f : α → Text} {g : α → List Text} {xs : List α}
    (h : ∀ x ∈ xs, HasTags (f x) (g x)) : HasTags (xs.flatMap f) (xs.flatMap g) := by
  induction xs with
  | nil => exact hasTags_of_not_mem List.not_mem_nil
  | cons x xs ih =>
    obtain ⟨hx, hxs⟩ := List.forall_mem_cons.1 h
    exact hx.append (ih hxs)

/-! ## Tags of a name -/

section Named

variable {element : Text}

theorem named_append (element : Text) (ts us : List Text) :
    named element (ts ++ us) = named element ts ++ named element us :=
  List.filter_append ts us

theorem named_cons_of_eq (h : name tag = element) (ts : List Text) :
    named element (tag :: ts) = tag :: named element ts := by
  rw [named, List.filter_cons, if_pos (decide_eq_true h), ← named]

theorem named_cons_of_ne (h : name tag ≠ element) (ts : List Text) :
    named element (tag :: ts) = named element ts := by
  rw [named, List.filter_cons, if_neg (by simpa using h), ← named]

/-- The tags of a name are counted by their names. -/
theorem length_named (element : Text) (ts : List Text) :
    (named element ts).length = (ts.map name).count element := by
  induction ts with
  | nil => rfl
  | cons tag ts ih =>
    by_cases h : name tag = element
    · rw [named_cons_of_eq h, List.length_cons, ih, List.map_cons, h, List.count_cons_self]
    · rw [named_cons_of_ne h, ih, List.map_cons, List.count_cons_of_ne h]

/-- Where no tag has the name, none is found. -/
theorem named_eq_nil (h : (ts.map name).count element = 0) : named element ts = [] := by
  rw [← List.length_eq_zero_iff, length_named, h]

end Named

/-! ## Attributes that are written -/

open XmlReport (attr)

theorem name_append_attr {element : Text} (h : ' ' ∉ element) (key value s : Text) :
    name (element ++ (attr key value ++ s)) = element :=
  (takeWhile_append_cons h _).1

/-- The first attribute is read with its value. -/
theorem attributesOf_attr {key value : Text} (hkey : '"' ∉ key) (hvalue : '"' ∉ value) (s : Text) :
    attributesOf (splitOn '"' (attr key value ++ s)) =
      (key, value) :: attributesOf (splitOn '"' s) := by
  have hattr : attr key value ++ s = (' ' :: (key ++ ['='])) ++ '"' :: (value ++ '"' :: s) := by
    simp [attr]
  have hfirst : '"' ∉ ' ' :: (key ++ ['=']) := by simp [hkey]
  rw [hattr, splitOn_append_cons hfirst, splitOn_append_cons hvalue, attributesOf]
  simp

/-- The attributes of a tag are read behind its name. -/
theorem attributes_append_attr {element key value : Text} (h : ' ' ∉ element) (hkey : '"' ∉ key)
    (hvalue : '"' ∉ value) (s : Text) :
    attributes (element ++ (attr key value ++ s)) =
      (key, value) :: attributesOf (splitOn '"' s) := by
  have hdrop : (element ++ (attr key value ++ s)).dropWhile (· ≠ ' ') = attr key value ++ s :=
    (takeWhile_append_cons h _).2
  rw [attributes, hdrop, attributesOf_attr hkey hvalue]

end Xml

/-! ## Escaped texts -/

namespace XmlReport

/-- An escaped text neither opens nor closes a tag, and does not end a value. -/
theorem not_mem_escape {c : Char} (h : c = '<' ∨ c = '>' ∨ c = '"') (s : Text) : c ∉ escape s := by
  rcases h with rfl | rfl | rfl
  · refine not_mem_replace (by decide) (.inr (not_mem_replace (by decide) (.inr ?_)))
    exact not_mem_replace (by decide) (.inl rfl)
  · exact not_mem_replace (by decide) (.inr (not_mem_replace (by decide) (.inl rfl)))
  · exact not_mem_replace (by decide) (.inl rfl)

end XmlReport

end StylusSurvey
