import StylusSurvey.CommandLine.Run
import StylusSurvey.Proofs.Documents
import StylusSurvey.Proofs.PrintedJson

/-!
# Documents read back from their texts

The text of a document is read once, without a JSON value in between. The reader of a shape takes
the printed document of each of its values (`Shape.takes_textAt`): the proof follows the shape,
and for a record the members are taken one after another, each by the reader of its own field.
What is read of a whole text ends with the text (`Documented.read_documentText`).
-/

namespace StylusSurvey

open Json Text

variable {α : Type} {t : Text} {level : Nat}

namespace Json.Reader

/-- The text begins a value other than null. -/
def BeginsValue (t : Text) : Prop :=
  ∃ c u, t = c :: u ∧ isSpace c = false ∧ c ≠ ']' ∧ c ≠ '}' ∧ c ≠ 'n'

theorem BeginsValue.begins (h : BeginsValue t) : Begins t := by
  obtain ⟨c, u, rfl, hspace, hbracket, hbrace, -⟩ := h
  exact ⟨c, u, rfl, hspace, hbracket, hbrace⟩

theorem beginsValue_of_isDigit {c : Char} (h : c.isDigit = true) (u : Text) :
    BeginsValue (c :: u) := by
  refine ⟨c, u, rfl, ?_, ?_, ?_, ?_⟩
  · by_contra hspace
    rw [Bool.not_eq_false, isSpace] at hspace
    simp only [Bool.or_eq_true, decide_eq_true_eq] at hspace
    rcases hspace with ((rfl | rfl) | rfl) | rfl <;> exact absurd h (by decide)
  all_goals
    rintro rfl
    exact absurd h (by decide)

theorem beginsValue_stringText (s : Text) : BeginsValue (stringText s) :=
  ⟨'"', _, rfl, rfl, by decide, by decide, by decide⟩

end Json.Reader

open Json.Reader

/-! ## Values without parts -/

theorem takes_text (wanted s : Text) : Takes (Reader.text wanted) (stringText s) s := by
  intro source rest _ h
  rw [stringText_append] at h
  rw [Reader.text, peekToken_bind h]
  show (skip >>= fun _ => literal) _ = _
  rw [skip_bind]
  exact literalBody_flatMap_escapeChar s rest

theorem takes_flag (b : Bool) (level : Nat) : Takes Reader.flag ((Json.bool b).textAt level) b := by
  intro source rest _ h
  cases b with
  | true =>
    have hword : source.dropWhile isSpace = 't' :: ("rue" ++ rest) := h
    rw [Reader.flag, peekToken_bind hword]
    exact word_bind "rue"
  | false =>
    have hword : source.dropWhile isSpace = 'f' :: ("alse" ++ rest) := h
    rw [Reader.flag, peekToken_bind hword]
    exact word_bind "alse"

theorem takes_count {n : Nat} (hn : n ≤ maxSize) : Takes Reader.count (numeral n) n := by
  intro source rest hrest h
  obtain ⟨c, t, hc, hnumeral⟩ := exists_digit_cons_eq_numeral n
  have hnumber := number_numeral hn hrest
  rw [hnumeral, List.cons_append] at h hnumber
  rw [Reader.count, peekToken_bind h]
  simp only [hc, or_true, if_true]
  rw [bind_apply hnumber, Json.count, if_pos hn]
  rfl

/-- The reader of variants takes the name of each. -/
theorem takes_variant {names : List Text} (h : names.Nodup) (i : Fin names.length) :
    Takes (Reader.variant names) (stringText (names.get i)) i := by
  intro source rest _ hsource
  rw [stringText_append] at hsource
  have hname : literal ((names.get i).flatMap escapeChar ++ '"' :: rest) = .ok (names.get i, rest) :=
    literalBody_flatMap_escapeChar _ rest
  rw [Reader.variant, peekToken_bind hsource]
  show (skip >>= fun _ => literal >>= fun name => ofExcept (variant names name)) _ = _
  rw [skip_bind, bind_apply hname, variant_get h]
  rfl

/-! ## Fields -/

namespace Presence

variable {key : Text} {r : Reader α} {write : α → Json}

/-- What is known of a field from its members. -/
def given : (p : Presence) → p.Holds α → Option (p.Holds α)
  | required, v => some v
  | nullable, v => some v
  | omissible, none => none
  | omissible, some a => some (some a)

/-- What a document says of a field, or what its absence means, is what the field holds. -/
theorem given_or_absent : ∀ (p : Presence) (v : p.Holds α), (p.given v).or p.absent? = some v
  | required, _ => rfl
  | nullable, _ => rfl
  | omissible, none => rfl
  | omissible, some _ => rfl

/-- A value that may be null is taken if it is none. -/
theorem takes_optional {a : α} (h : Takes r t a) (ht : BeginsValue t) :
    Takes (held.optional r) t (some a) := by
  intro source rest hrest hsource
  obtain ⟨c, u, rfl, hspace, -, -, hnull⟩ := ht
  have htakes := h (c :: u ++ rest) rest hrest (dropWhile_of_not_isSpace hspace)
  rw [held.optional, peekToken_bind hsource]
  have hsome : some c ≠ some 'n' := fun heq => hnull (Option.some.inj heq)
  generalize some c = first at hsome
  split
  case h_1 => exact absurd rfl hsome
  case h_2 =>
    exact (bind_apply htakes).trans rfl

/-- Null is taken as no value. -/
theorem takes_optional_null : Takes (held.optional r) "null" none := by
  intro source rest _ hsource
  have hword : source.dropWhile isSpace = 'n' :: ("ull" ++ rest) := hsource
  rw [held.optional, peekToken_bind hword]
  show (skip >>= fun _ => ident "ull" >>= fun _ => pure none) _ = _
  rw [skip_bind, bind_apply (ident_append _ _)]
  rfl

theorem begins_null : Begins "null" :=
  ⟨'n', "ull", rfl, rfl, by decide, by decide⟩

/-- A field has no member and nothing is known of it, or it has one that is taken as what it
holds. -/
theorem members_cases (key : Text) :
    ∀ {p : Presence} {v : p.Holds α},
      p.All (fun a => Takes r ((write a).textAt level) a ∧ BeginsValue ((write a).textAt level)) v →
      p.members key write v = [] ∧ p.given v = none ∨
        ∃ j, p.members key write v = [(key, j)] ∧ p.given v = some v ∧
          Begins (j.textAt level) ∧ Takes (held r p) (j.textAt level) v
  | required, a, h => .inr ⟨write a, rfl, rfl, h.2.begins, h.1⟩
  | nullable, none, _ => .inr ⟨.null, rfl, rfl, begins_null, takes_optional_null⟩
  | nullable, some a, h =>
    have ⟨htakes, hbegins⟩ := h a rfl
    .inr ⟨write a, rfl, rfl, hbegins.begins, takes_optional htakes hbegins⟩
  | omissible, none, _ => .inl ⟨rfl, rfl⟩
  | omissible, some a, h =>
    have ⟨htakes, hbegins⟩ := h a rfl
    .inr ⟨write a, rfl, rfl, hbegins.begins, takes_optional htakes hbegins⟩

end Presence

namespace Fields

variable {key : Text} {p : Presence} {s : Shape} {more : Fields}

/-- What is known of the fields from their document. -/
def given : (fs : Fields) → fs.Value → fs.Known
  | none, _ => ()
  | field _ p _ more, (v, vs) => (p.given v, more.given vs)

/-- Fields are complete once their document is read. -/
theorem complete_given : ∀ (fs : Fields) (v : fs.Value), fs.complete (fs.given v) = .ok v
  | none, _ => rfl
  | field _ p _ more, (v, vs) => by
    simp only [given, complete, p.given_or_absent v, complete_given more vs]
    rfl

/-- The member of a field is taken as what the field holds. -/
theorem takes_memberReader {v : p.Holds s.Value} (h : Takes (held s.reader p) t v) (ht : Begins t)
    (others : more.Known) :
    Takes ((field key p s more).memberReader (Option.none, others) key) ([':', ' '] ++ t)
      (some v, others) := by
  intro source rest hrest hsource
  have hspace : (' ' :: (t ++ rest)).dropWhile isSpace = t ++ rest := ht.dropWhile_append
  rw [memberReader, if_pos rfl]
  show (colon >>= fun _ => held s.reader p >>= fun v => pure (some v, others)) source = _
  rw [colon_bind hsource]
  show (held s.reader p >>= fun v => pure (some v, others)) (' ' :: (t ++ rest)) = _
  rw [bind_apply (h _ rest hrest hspace)]
  rfl

/-- Members of other fields leave what is known of a field. -/
theorem takesMembers_field {ms : List (Text × Json)} {others others' : more.Known}
    (h : TakesMembers more.memberReader level others ms others') (hms : key ∉ ms.map (·.1))
    (known : Option (p.Holds s.Value)) :
    TakesMembers (field key p s more).memberReader level (known, others) ms (known, others') := by
  induction h with
  | nil others => exact .nil _
  | @cons others others' _ name v ms hmember _ ih =>
    rw [List.map_cons, List.mem_cons, not_or] at hms
    refine .cons (fun source rest hrest hsource => ?_) (ih hms.2)
    rw [memberReader.eq_def]
    simp only [if_neg (Ne.symm hms.1)]
    rw [bind_apply (hmember source rest hrest hsource)]
    rfl

end Fields

/-! ## Documents -/

namespace Shape

/-- The printed document of a value begins with a character of a value other than null. -/
theorem beginsValue_textAt_encode (level : Nat) :
    ∀ (s : Shape) (v : s.Value), BeginsValue ((s.encode v).textAt level)
  | text, v => beginsValue_stringText v
  | flag, true => ⟨'t', "rue", rfl, rfl, by decide, by decide, by decide⟩
  | flag, false => ⟨'f', "alse", rfl, rfl, by decide, by decide, by decide⟩
  | count, n => by
    obtain ⟨c, t, hc, hnumeral⟩ := exists_digit_cons_eq_numeral n
    show BeginsValue (numeral n)
    exact hnumeral ▸ beginsValue_of_isDigit hc t
  | choice names, i => beginsValue_stringText (names.get i)
  | list item, vs => by
    rw [encode]
    cases vs <;> exact ⟨'[', _, rfl, rfl, by decide, by decide, by decide⟩
  | record _ fields, v => by
    rw [encode]
    cases fields.encode v <;> exact ⟨'{', _, rfl, rfl, by decide, by decide, by decide⟩

end Shape

mutual

/-- The reader of a shape takes the printed document of each value. -/
theorem Shape.takes_textAt : ∀ (s : Shape) {v : s.Value} (level : Nat), s.isDistinct = true →
    s.Fits v → Takes s.reader ((s.encode v).textAt level) v
  | .text, v, _, _, _ => takes_text _ v
  | .flag, b, level, _, _ => takes_flag b level
  | .count, _, _, _, h => takes_count h
  | .choice _, i, _, h, _ => takes_variant (of_decide_eq_true h) i
  | .list item, vs, level, h, hvs => by
    have hitems : TakesItems item.reader (level + 1) (vs.map item.encode) vs := by
      rw [TakesItems, List.forall₂_map_left_iff, List.forall₂_same]
      exact fun v hv => ⟨(item.beginsValue_textAt_encode _ v).begins, item.takes_textAt _ h (hvs v hv)⟩
    intro source rest _ hsource
    obtain ⟨t, u, htext, htakes, hclose⟩ := exists_itemsToEnd hitems rest
    rw [Shape.encode, htext] at hsource
    rw [Shape.reader, peekToken_bind hsource]
    show (skip >>= fun _ => itemsToEnd item.reader >>= fun vs => closeArray >>= fun _ => pure vs)
      ('[' :: t) = _
    rw [skip_bind, bind_apply htakes, bind_apply hclose]
    rfl
  | .record name fields, v, level, h, hv => by
    intro source rest _ hsource
    obtain ⟨t, u, htext, htakes, hclose⟩ :=
      exists_membersToEnd (fields.takesMembers_encode (level + 1) h hv) rest
    rw [Shape.encode, htext] at hsource
    rw [Shape.reader, peekToken_bind hsource]
    show (skip >>= fun _ => membersToEnd fields.memberReader fields.unknown >>= fun known =>
      closeObject >>= fun _ => ofExcept (fields.complete known)) ('{' :: t) = _
    rw [skip_bind, bind_apply htakes, bind_apply hclose, fields.complete_given]
    rfl

/-- The members of a printed record are taken as what is known from them. -/
theorem Fields.takesMembers_encode : ∀ (fs : Fields) {v : fs.Value} (level : Nat),
    fs.isDistinct = true → fs.Fits v →
    TakesMembers fs.memberReader level fs.unknown (fs.encode v) (fs.given v)
  | .none, _, _, _, _ => .nil ()
  | .field key p s more, (v, vs), level, h, ⟨hv, hvs⟩ => by
    obtain ⟨hkey, hs, hmore⟩ := Fields.isDistinct_iff.1 h
    have hothers : key ∉ (more.encode vs).map (·.1) :=
      fun hmem => hkey ((more.keys_encode_sublist vs).subset hmem)
    have htail (known : Option (p.Holds s.Value)) :=
      Fields.takesMembers_field (more.takesMembers_encode level hmore hvs) hothers known
    have hheld := hv.imp fun a ha =>
      And.intro (s.takes_textAt level hs ha) (s.beginsValue_textAt_encode level a)
    rw [Fields.encode, Fields.given, Fields.unknown]
    rcases Presence.members_cases key hheld with ⟨hmembers, hgiven⟩ | ⟨j, hmembers, hgiven, hj⟩
    · rw [hmembers, hgiven]
      exact htail Option.none
    · rw [hmembers, hgiven]
      exact .cons (Fields.takes_memberReader hj.2 hj.1 _) (htail (some v))

end

namespace Documented

variable [Documented α] [LawfulDocumented α]

/-- A value with counts of at most 64 bits is read back from the text of its document. -/
theorem read_documentText {x : α} (hfits : (shape α).Fits (toValue x)) :
    read (documentText x) = .ok x := by
  have hspace : (documentText x).dropWhile isSpace = (encode x).textAt 0 ++ ['\n'] :=
    (Shape.beginsValue_textAt_encode 0 _ (toValue x)).begins.dropWhile_append
  have htakes := Shape.takes_textAt (shape α) 0 LawfulDocumented.isDistinct_shape hfits
    (documentText x) ['\n'] (follows_newline 0 []) hspace
  have hrun : (shape α).reader.run (documentText x) = .ok (toValue x) := by
    rw [run, StateT.run', bind_apply htakes]
    rfl
  rw [read, hrun]
  exact congrArg Except.ok (LawfulDocumented.ofValue_toValue x)

end Documented

end StylusSurvey
