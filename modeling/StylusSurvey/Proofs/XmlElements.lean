import StylusSurvey.Proofs.Texts
import StylusSurvey.Proofs.XmlReports

/-!
# Elements of an XML text

A reader for documents, which knows nothing of the reports. It undoes entities and refuses each
character that should have been written as one, so it takes exactly the texts that escaping writes
(`Xml.unescape?_eq_some_iff`). A tag opens an element, with its attributes, and the tag with a
slash and the same name closes it; what stands between them is its content, where blanks alone are
layout (`Xml.nodes?`). What `Xml.Writes` says of a text, that it adds certain nodes wherever it
stands, holds of an element if it holds of its content (`Xml.writes_element`).
-/

namespace StylusSurvey

open Text

variable {c : Char} {s t : Text}

/-! ## Entities -/

namespace XmlReport

/-- How a character is written in an escaped text. -/
def written (c : Char) : Text :=
  if c = '&' then "&amp;" else if c = '<' then "&lt;" else if c = '>' then "&gt;"
  else if c = '"' then "&quot;" else [c]

theorem escape_append (s t : Text) : escape (s ++ t) = escape s ++ escape t := by
  simp only [escape, replace_append]

/-- The characters that are written as entities. -/
def special : List Char := ['&', '<', '>', '"']

theorem ne_of_not_mem_special (h : c ∉ special) : c ≠ '&' ∧ c ≠ '<' ∧ c ≠ '>' ∧ c ≠ '"' := by
  simpa [special] using h

theorem written_of_not_mem (h : c ∉ special) : written c = [c] := by
  obtain ⟨hamp, hlt, hgt, hquot⟩ := ne_of_not_mem_special h
  rw [written, if_neg hamp, if_neg hlt, if_neg hgt, if_neg hquot]

theorem replace_singleton_of_ne {d : Char} (h : c ≠ d) (new : Text) : replace d new [c] = [c] :=
  replace_of_not_mem (by simpa using h.symm) new

theorem escape_singleton (c : Char) : escape [c] = written c := by
  by_cases hc : c ∈ special
  · have hall : ∀ c ∈ special, escape [c] = written c :=
      List.forall_iff_forall_mem.1 (by decide)
    exact hall c hc
  · obtain ⟨hamp, hlt, hgt, hquot⟩ := ne_of_not_mem_special hc
    rw [written_of_not_mem hc, escape, replace_singleton_of_ne hamp, replace_singleton_of_ne hlt,
      replace_singleton_of_ne hgt, replace_singleton_of_ne hquot]

/-- Four replacements of the whole text, one after the other, write each character on its own. -/
theorem escape_cons (c : Char) (s : Text) : escape (c :: s) = written c ++ escape s := by
  rw [← List.singleton_append, escape_append, escape_singleton]

/-- A text without special characters is written as it is. -/
theorem escape_of_forall_not_mem (h : ∀ c ∈ s, c ∉ special) : escape s = s := by
  induction s with
  | nil => rfl
  | cons c s ih =>
    obtain ⟨hc, hs⟩ := List.forall_mem_cons.1 h
    rw [escape_cons, written_of_not_mem hc, ih hs, List.singleton_append]

/-- An entity has an ampersand at its front only. -/
theorem written_eq_append_cons {front u : Text} (h : written c = front ++ '&' :: u) :
    front = [] ∧ c ∈ special := by
  have hc : c ∈ special := by
    by_contra hc
    rw [written_of_not_mem hc] at h
    have hamp : '&' ∈ [c] := h ▸ List.mem_append_right front List.mem_cons_self
    exact (ne_of_not_mem_special hc).1 (List.mem_singleton.1 hamp).symm
  refine ⟨?_, hc⟩
  have htail : ∀ c ∈ special, '&' ∉ (written c).tail := List.forall_iff_forall_mem.1 (by decide)
  cases front with
  | nil => rfl
  | cons d front => exact absurd (by rw [h]; simp) (htail c hc)

/-- Each ampersand of an escaped text begins an entity. -/
theorem exists_entity_of_escape {front back : Text} (h : escape s = front ++ '&' :: back) :
    ∃ c ∈ special, written c <+: '&' :: back := by
  induction s generalizing front with
  | nil => cases front <;> cases h
  | cons c s ih =>
    rw [escape_cons] at h
    rcases List.append_eq_append_iff.1 h with ⟨u, rfl, hu⟩ | ⟨u, hu, hback⟩
    · exact ih hu
    · cases u with
      | nil =>
        have hs : escape s = [] ++ '&' :: back := hback.symm
        exact ih hs
      | cons d u =>
        obtain ⟨rfl, rfl⟩ := List.cons.inj hback
        obtain ⟨rfl, hc⟩ := written_eq_append_cons hu
        exact ⟨c, hc, hu ▸ List.prefix_append ('&' :: u) (escape s)⟩

end XmlReport

namespace Xml

open XmlReport

/-- The text with its entities undone. A special character that begins no entity is refused. -/
def unescape? : Text → Option Text
  | [] => some []
  | '&' :: 'a' :: 'm' :: 'p' :: ';' :: s => (unescape? s).map ('&' :: ·)
  | '&' :: 'l' :: 't' :: ';' :: s => (unescape? s).map ('<' :: ·)
  | '&' :: 'g' :: 't' :: ';' :: s => (unescape? s).map ('>' :: ·)
  | '&' :: 'q' :: 'u' :: 'o' :: 't' :: ';' :: s => (unescape? s).map ('"' :: ·)
  | c :: s => if c ∈ special then none else (unescape? s).map (c :: ·)

/-- A character is read back from what is written for it. -/
theorem unescape?_written_append (c : Char) (s : Text) :
    unescape? (written c ++ s) = (unescape? s).map (c :: ·) := by
  by_cases hc : c ∈ special
  · simp only [special, List.mem_cons, List.not_mem_nil, or_false] at hc
    rcases hc with rfl | rfl | rfl | rfl <;> rfl
  · have hamp : c ≠ '&' := fun h => hc (h ▸ List.mem_cons_self)
    rw [written_of_not_mem hc, List.singleton_append, unescape?, if_neg hc]
    all_goals exact fun _ h => absurd h hamp

/-- Reading undoes escaping. -/
theorem unescape?_escape (s : Text) : unescape? (escape s) = some s := by
  induction s with
  | nil => rfl
  | cons c s ih => rw [escape_cons, unescape?_written_append, ih, Option.map_some]

/-- A text is read from nothing but its escaped form. -/
theorem eq_escape_of_unescape? (h : unescape? t = some s) : t = escape s := by
  fun_induction unescape? t generalizing s with
  | case1 =>
    obtain rfl := Option.some.inj h
    rfl
  | case2 t ih | case3 t ih | case4 t ih | case5 t ih =>
    obtain ⟨u, hu, rfl⟩ := Option.map_eq_some_iff.1 h
    rw [escape_cons, ← ih hu]
    rfl
  | case6 => cases h
  | case7 c t _ _ _ _ hc ih =>
    obtain ⟨u, hu, rfl⟩ := Option.map_eq_some_iff.1 h
    rw [escape_cons, ← ih hu, written_of_not_mem hc, List.singleton_append]

/-- A text is undone if it is an escaped one, and then to the text that was escaped. -/
theorem unescape?_eq_some_iff : unescape? t = some s ↔ t = escape s :=
  ⟨eq_escape_of_unescape?, fun h => h ▸ unescape?_escape s⟩

/-! ## The reader -/

/-- What stands in a document. -/
inductive Node where
  | data (s : Text)
  | element (name : Text) (attributes : List (Text × Text)) (content : List Node)

/-- An element that has been opened, behind the nodes that precede it. -/
structure Opened where
  before : List Node
  name : Text
  attributes : List (Text × Text)

/-- Where a reader is: the nodes that it has read in the innermost open element, and the open
elements from the inside out. -/
structure Place where
  content : List Node
  opened : List Opened

/-- Character data. Blanks alone are layout. -/
def dataNodes (s : Text) : List Node :=
  if s.all isBlank then [] else [.data s]

namespace Place

/-- More nodes in the innermost open element. -/
def add (p : Place) (nodes : List Node) : Place :=
  { p with content := p.content ++ nodes }

/-- An element opens. -/
def enter (p : Place) (name : Text) (attributes : List (Text × Text)) : Place where
  content := []
  opened := ⟨p.content, name, attributes⟩ :: p.opened

/-- The innermost open element closes, if it has the name. -/
def leave? (p : Place) (name : Text) : Option Place :=
  match p.opened with
  | [] => none
  | o :: opened =>
    if o.name = name then
      some { content := o.before ++ [.element o.name o.attributes p.content], opened }
    else none

/-- A tag opens or closes an element, or it is a declaration. -/
def tag? (p : Place) : Text → Option Place
  | '?' :: _ => some p
  | '/' :: name => p.leave? name
  | tag =>
    ((Xml.attributes tag).mapM fun a => (unescape? a.2).map fun value => (a.1, value)).map
      (p.enter (Xml.name tag))

/-- A tag, and the character data behind it. -/
def piece? (p : Place) (piece : Text × Text) : Option Place :=
  (p.tag? piece.1).bind fun q => (unescape? piece.2).map fun s => q.add (dataNodes s)

/-- The pieces of a text, one after the other. -/
def read? (p : Place) (s : Text) : Option Place :=
  (pieces s).foldlM piece? p

end Place

/-- The nodes of a document, in which all elements that are opened are closed. -/
def nodes? (s : Text) : Option (List Node) :=
  match Place.read? ⟨[], []⟩ s with
  | some ⟨nodes, []⟩ => some nodes
  | _ => none

/-! ## Tags with attributes -/

/-- A tag with its attributes, their values escaped. -/
def tagOf (name : Text) (attributes : List (Text × Text)) : Text :=
  name ++ attributes.flatMap fun a => attr a.1 (escape a.2)

/-- The text can be a name: no character in it has a meaning in a tag. -/
def IsXmlName (s : Text) : Prop :=
  Unbracketed s ∧ ' ' ∉ s ∧ '"' ∉ s ∧ s ≠ [] ∧ s.head? ≠ some '/' ∧ s.head? ≠ some '?'

instance (s : Text) : Decidable (IsXmlName s) :=
  inferInstanceAs (Decidable (_ ∧ _))

variable {name : Text} {attrs : List (Text × Text)}

/-- There are no angle brackets inside a tag. -/
theorem unbracketed_tagOf (hname : IsXmlName name)
    (hkeys : ∀ key ∈ attrs.map (·.1), IsXmlName key) :
    Unbracketed (tagOf name attrs) := by
  have hattrs : Unbracketed (attrs.flatMap fun a => attr a.1 (escape a.2)) := by
    induction attrs with
    | nil => exact ⟨List.not_mem_nil, List.not_mem_nil⟩
    | cons a attrs ih =>
      obtain ⟨ha, hattrs⟩ := List.forall_mem_cons.1 hkeys
      exact (unbracketed_attr ha.1 (unbracketed_escape a.2)).append (ih hattrs)
  exact hname.1.append hattrs

theorem attributesOf_flatMap_attr (hkeys : ∀ key ∈ attrs.map (·.1), IsXmlName key) :
    attributesOf (splitOn '"' (attrs.flatMap fun a => attr a.1 (escape a.2))) =
      attrs.map fun a => (a.1, escape a.2) := by
  induction attrs with
  | nil => rfl
  | cons a attrs ih =>
    obtain ⟨ha, hattrs⟩ := List.forall_mem_cons.1 hkeys
    rw [List.flatMap_cons, attributesOf_attr ha.2.2.1 (not_mem_escape (.inr (.inr rfl)) a.2),
      ih hattrs, List.map_cons]

theorem name_tagOf (hname : IsXmlName name) (attrs : List (Text × Text)) :
    Xml.name (tagOf name attrs) = name := by
  cases attrs with
  | nil =>
    rw [tagOf, List.flatMap_nil, List.append_nil, Xml.name, List.takeWhile_eq_self_iff]
    exact fun c hc => decide_eq_true fun heq => hname.2.1 (heq ▸ hc)
  | cons a attrs => exact name_append_attr hname.2.1 _ _ _

/-- A tag is read with its attributes, their values as they are written. -/
theorem attributes_tagOf (hname : IsXmlName name)
    (hkeys : ∀ key ∈ attrs.map (·.1), IsXmlName key) :
    Xml.attributes (tagOf name attrs) = attrs.map fun a => (a.1, escape a.2) := by
  have hdrop : (tagOf name attrs).dropWhile (· ≠ ' ') =
      attrs.flatMap fun a => attr a.1 (escape a.2) := by
    have hpos : ∀ c ∈ name, decide (c ≠ ' ') = true :=
      fun c hc => decide_eq_true fun heq => hname.2.1 (heq ▸ hc)
    rw [tagOf, List.dropWhile_append_of_pos hpos]
    cases attrs with
    | nil => rfl
    | cons a attrs => rfl
  rw [Xml.attributes, hdrop, attributesOf_flatMap_attr hkeys]

theorem head?_tagOf (hname : IsXmlName name) (attrs : List (Text × Text)) :
    (tagOf name attrs).head? = name.head? := by
  rw [tagOf, List.head?_append_of_ne_nil _ hname.2.2.2.1]

/-- What is read from each item is read from all of them. -/
theorem mapM_map_eq_some {α β γ : Type} {f : α → β} {g : β → Option γ} {k : α → γ} {xs : List α}
    (h : ∀ x ∈ xs, g (f x) = some (k x)) : (xs.map f).mapM g = some (xs.map k) := by
  induction xs with
  | nil => rfl
  | cons x xs ih =>
    obtain ⟨hx, hxs⟩ := List.forall_mem_cons.1 h
    rw [List.map_cons, List.mapM_cons, hx, ih hxs]
    rfl

namespace Place

variable {p : Place} {nodes : List Node}

/-- The tag of an element leads into it. -/
theorem tag?_tagOf (hname : IsXmlName name) (hkeys : ∀ key ∈ attrs.map (·.1), IsXmlName key)
    (p : Place) : p.tag? (tagOf name attrs) = some (p.enter name attrs) := by
  have hvalues : (Xml.attributes (tagOf name attrs)).mapM
      (fun a => (unescape? a.2).map fun value => (a.1, value)) = some attrs := by
    have hmap : (attrs.map fun a => (a.1, escape a.2)).mapM
        (fun a => (unescape? a.2).map fun value => (a.1, value)) = some (attrs.map id) :=
      mapM_map_eq_some fun a _ => by rw [unescape?_escape]; rfl
    rw [attributes_tagOf hname hkeys, hmap, List.map_id]
  obtain ⟨-, -, -, -, hslash, hquestion⟩ := id hname
  rw [tag?]
  · rw [hvalues, name_tagOf hname]
    rfl
  · intro t ht
    exact hquestion (by rw [← head?_tagOf hname attrs, ht, List.head?_cons])
  · intro t ht
    exact hslash (by rw [← head?_tagOf hname attrs, ht, List.head?_cons])

theorem add_nil (p : Place) : p.add [] = p := by
  rw [add, List.append_nil]

theorem add_add (p : Place) (nodes nodes' : List Node) :
    (p.add nodes).add nodes' = p.add (nodes ++ nodes') := by
  rw [add, add, add, List.append_assoc]

/-- What has been read since an element opened is its content when it closes. -/
theorem tag?_closing (p : Place) (name : Text) (attrs : List (Text × Text)) (nodes : List Node) :
    ((p.enter name attrs).add nodes).tag? ('/' :: name) =
      some (p.add [.element name attrs nodes]) := by
  rw [tag?, leave?, enter, add]
  exact if_pos rfl

/-! ## Pieces that are written -/

theorem read?_append (h : '<' ∉ t) (p : Place) (s : Text) : p.read? (t ++ s) = p.read? s := by
  rw [read?, read?, pieces_append h]

theorem read?_newline (p : Place) (s : Text) : p.read? ('\n' :: s) = p.read? s :=
  read?_append (t := ['\n']) (by decide) p s

/-- What stands between two tags belongs to the first of them. -/
theorem read?_around {before tag : Text} (hbefore : '<' ∉ before) (htag : Unbracketed tag)
    (p : Place) (rest : Text) : p.read? (around before tag rest) =
      (p.piece? (tag, rest.takeWhile (· ≠ '<'))).bind fun q => q.read? rest := by
  rw [around, read?_append hbefore, read?, pieces_cons_tag htag.1 htag.2, List.foldlM_cons]
  rfl

end Place

theorem around_append (before tag after rest : Text) :
    around before tag after ++ rest = around before tag (after ++ rest) := by
  simp [around]

theorem not_mem_special_of_isBlank (h : isBlank c = true) : c ∉ special := by
  have hspecial : ∀ c ∈ special, isBlank c = false := List.forall_iff_forall_mem.1 (by decide)
  intro hc
  rw [hspecial c hc] at h
  cases h

theorem unescape?_blanks {b : Text} (hb : ∀ c ∈ b, isBlank c = true) : unescape? b = some b := by
  have hescape : escape b = b :=
    escape_of_forall_not_mem fun c hc => not_mem_special_of_isBlank (hb c hc)
  rw [← hescape, unescape?_escape, hescape]

/-- Blanks between elements are no data. -/
theorem dataNodes_blanks {b : Text} (hb : ∀ c ∈ b, isBlank c = true) : dataNodes b = [] :=
  if_pos (List.all_eq_true.2 hb)

/-- Nothing but blanks stands before the first tag. -/
def IsLayout (s : Text) : Prop :=
  ∀ c ∈ s.takeWhile (· ≠ '<'), isBlank c = true

theorem isLayout_cons (hc : isBlank c = true) (h : IsLayout s) : IsLayout (c :: s) := by
  intro d hd
  rw [List.takeWhile_cons] at hd
  split at hd
  · rcases List.mem_cons.1 hd with rfl | hd
    · exact hc
    · exact h d hd
  · exact absurd hd List.not_mem_nil

theorem isLayout_around {before : Text} (hbefore : ∀ c ∈ before, isBlank c = true)
    (tag rest : Text) : IsLayout (around before tag rest) := by
  induction before with
  | nil =>
    intro c hc
    exact absurd hc List.not_mem_nil
  | cons c before ih =>
    obtain ⟨hc, hbefore⟩ := List.forall_mem_cons.1 hbefore
    exact isLayout_cons hc (ih hbefore)

variable {p q : Place} {nodes nodes' : List Node} {before tag rest : Text}

/-- A tag with layout behind it. -/
theorem read?_around_layout (hbefore : '<' ∉ before) (htag : Unbracketed tag)
    (hq : p.tag? tag = some q) (hrest : IsLayout rest) :
    p.read? (around before tag rest) = q.read? rest := by
  rw [Place.read?_around hbefore htag, Place.piece?, hq, Option.bind_some, unescape?_blanks hrest,
    Option.map_some, Option.bind_some, dataNodes_blanks hrest, Place.add_nil]

/-- A tag with character data behind it, up to the next tag. -/
theorem read?_around_data (hbefore : '<' ∉ before) (htag : Unbracketed tag)
    (hq : p.tag? tag = some q) (s rest : Text) :
    p.read? (around before tag (escape s ++ '<' :: rest)) =
      (q.add (dataNodes s)).read? ('<' :: rest) := by
  have hopen : '<' ∉ escape s := not_mem_escape (.inl rfl) s
  rw [Place.read?_around hbefore htag, Place.piece?, hq, (takeWhile_append_cons hopen rest).1,
    Option.bind_some, unescape?_escape, Option.map_some, Option.bind_some,
    Place.read?_append hopen]

/-- A closing tag completes the element, with the nodes read in it. -/
theorem read?_closing (hbefore : '<' ∉ before) (hname : IsXmlName name) (hrest : IsLayout rest) :
    ((p.enter name attrs).add nodes).read? (around before ('/' :: name) ('\n' :: rest)) =
      (p.add [.element name attrs nodes]).read? rest := by
  have htag : Unbracketed ('/' :: name) := Unbracketed.append (s := ['/']) (by decide) hname.1
  rw [read?_around_layout hbefore htag (Place.tag?_closing p name attrs nodes)
    (isLayout_cons (by decide) hrest), Place.read?_newline]

/-! ## Elements that are written -/

/-- Wherever the text stands, a reader takes these nodes from it, if layout follows, and the text is
layout up to its first tag. -/
structure Writes (s : Text) (nodes : List Node) : Prop where
  layout : ∀ {rest}, IsLayout rest → IsLayout (s ++ rest)
  reads : ∀ {rest} (p : Place), IsLayout rest → p.read? (s ++ rest) = (p.add nodes).read? rest

theorem Writes.append (hs : Writes s nodes) (ht : Writes t nodes') :
    Writes (s ++ t) (nodes ++ nodes') where
  layout hrest := by
    rw [List.append_assoc]
    exact hs.layout (ht.layout hrest)
  reads p hrest := by
    rw [List.append_assoc, hs.reads p (ht.layout hrest), ht.reads _ hrest, Place.add_add]

/-- Texts for nodes write them one after another. -/
theorem writes_flatMap {α : Type} {f : α → Text} {g : α → Node} {xs : List α}
    (h : ∀ x ∈ xs, Writes (f x) [g x]) : Writes (xs.flatMap f) (xs.map g) := by
  induction xs with
  | nil =>
    refine ⟨fun hrest => hrest, fun p hrest => ?_⟩
    rw [List.map_nil, Place.add_nil]
    rfl
  | cons x xs ih =>
    obtain ⟨hx, hxs⟩ := List.forall_mem_cons.1 h
    exact hx.append (ih hxs)

/-- An element, each of its tags on a line of its own, and what its content is written as. -/
theorem writes_element {indent : Text} (hindent : ∀ c ∈ indent, isBlank c = true)
    (hname : IsXmlName name) (hkeys : ∀ key ∈ attrs.map (·.1), IsXmlName key) (hs : Writes s nodes) :
    Writes (around indent (tagOf name attrs) ('\n' :: (s ++ around indent ('/' :: name) ['\n'])))
      [.element name attrs nodes] where
  layout hrest := by
    rw [around_append]
    exact isLayout_around hindent _ _
  reads {rest} p hrest := by
    have hopen : '<' ∉ indent := not_mem_of_blanks hindent (by decide)
    have hlast : IsLayout (around indent ('/' :: name) ('\n' :: rest)) :=
      isLayout_around hindent _ _
    have hcontent : IsLayout ('\n' :: (s ++ around indent ('/' :: name) ('\n' :: rest))) :=
      isLayout_cons (by decide) (hs.layout hlast)
    rw [around_append, List.cons_append, List.append_assoc, around_append, List.singleton_append,
      read?_around_layout hopen (unbracketed_tagOf hname hkeys) (Place.tag?_tagOf hname hkeys p)
        hcontent,
      Place.read?_newline, hs.reads _ hlast,
      read?_closing hopen hname hrest]

/-- An element on a line, with escaped character data as its content. -/
theorem writes_data_element {indent : Text} (hindent : ∀ c ∈ indent, isBlank c = true)
    (hname : IsXmlName name) (hkeys : ∀ key ∈ attrs.map (·.1), IsXmlName key) (s : Text) :
    Writes (around indent (tagOf name attrs) (escape s ++ around [] ('/' :: name) ['\n']))
      [.element name attrs (dataNodes s)] where
  layout hrest := by
    rw [around_append]
    exact isLayout_around hindent _ _
  reads {rest} p hrest := by
    have hopen : '<' ∉ indent := not_mem_of_blanks hindent (by decide)
    have hlast : around [] ('/' :: name) ('\n' :: rest) =
        '<' :: ('/' :: name ++ '>' :: '\n' :: rest) := rfl
    rw [around_append, List.append_assoc, around_append, List.singleton_append, hlast,
      read?_around_data hopen (unbracketed_tagOf hname hkeys) (Place.tag?_tagOf hname hkeys p),
      ← hlast, read?_closing List.not_mem_nil hname hrest]

/-- A document that is a declaration and an element. -/
theorem nodes?_declaration_append {declaration : Text} (hdeclaration : Unbracketed declaration)
    (hs : Writes s nodes) : nodes? (around [] ('?' :: declaration) ('\n' :: s)) = some nodes := by
  have hnil : IsLayout [] := fun _ hc => absurd hc List.not_mem_nil
  have htag : Unbracketed ('?' :: declaration) :=
    Unbracketed.append (s := ['?']) (by decide) hdeclaration
  have hlayout : IsLayout ('\n' :: s) := by
    have h := hs.layout hnil
    rw [List.append_nil] at h
    exact isLayout_cons (by decide) h
  have hread := hs.reads ⟨[], []⟩ hnil
  rw [List.append_nil] at hread
  rw [nodes?, read?_around_layout List.not_mem_nil htag rfl hlayout, ← List.singleton_append,
    Place.read?_append (by decide), hread]
  rfl

end Xml

end StylusSurvey
