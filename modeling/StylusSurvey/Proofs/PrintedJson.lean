import Mathlib.Data.List.Forall2
import StylusSurvey.Json.Reader.Value
import StylusSurvey.Proofs.JsonTokens

/-!
# Printed arrays and objects read back

Arrays and objects are printed over several lines, and the space between their parts does
not count for a reader. If the reader of an item takes what is printed for each item
(`Takes`), the reader of items takes the printed array (`itemsToEnd_array`). For an object
the reader of a member is handed what is known from the members before it, so the law is
about a chain of such steps (`TakesMembers`, `membersToEnd_object`).
-/

namespace StylusSurvey

namespace Json

open Text

namespace Reader

variable {α σ : Type} {s t rest : Text} {c : Char} {level : Nat}

/-- The reader takes the printed text as the given value, after space or none. -/
def Takes (r : Reader α) (t : Text) (a : α) : Prop :=
  ∀ s rest : Text, Follows rest → s.dropWhile isSpace = t ++ rest → r s = .ok (a, rest)

/-- The text begins with a character that is neither space nor a closing bracket. -/
def Begins (t : Text) : Prop :=
  ∃ c u, t = c :: u ∧ isSpace c = false ∧ c ≠ ']' ∧ c ≠ '}'

theorem dropWhile_of_not_isSpace (h : isSpace c = false) :
    (c :: s).dropWhile isSpace = c :: s :=
  List.dropWhile_cons_of_neg (by simp [h])

/-- No space stands ahead of a value that begins. -/
theorem Begins.dropWhile_append (h : Begins t) : (t ++ s).dropWhile isSpace = t ++ s := by
  obtain ⟨c, u, rfl, hspace, -⟩ := h
  exact dropWhile_of_not_isSpace hspace

theorem follows_newline (level : Nat) (s : Text) : Follows (newline level ++ s) := by
  intro c hc
  exact .inr (Option.mem_some.1 hc).symm

theorem follows_comma (s : Text) : Follows (',' :: s) := by
  intro c hc
  exact .inl (Option.mem_some.1 hc).symm

/-! ## Arrays -/

section Array

variable {item : Reader α} {a : α} {as : List α} {v : Json} {vs : List Json} {u : Text}

theorem hasItem_bracket (h : s.dropWhile isSpace = ']' :: t) (first : Bool) :
    hasItem first s = .ok (false, ']' :: t) := by
  rw [hasItem, peekToken_bind h]
  rfl

/-- The first item of an array has no comma ahead of it. -/
theorem hasItem_first (ht : Begins t) (h : s.dropWhile isSpace = t ++ u) :
    hasItem true s = .ok (true, t ++ u) := by
  obtain ⟨c, t, rfl, -, hc, -⟩ := ht
  rw [hasItem, peekToken_bind h]
  simp only [if_neg hc, if_true]
  rfl

theorem hasItem_comma (ht : Begins t) (h : s.dropWhile isSpace = t ++ u) :
    hasItem false (',' :: s) = .ok (true, t ++ u) := by
  obtain ⟨c, t, rfl, -, hc, -⟩ := ht
  have hcomma : (',' : Char) ≠ ']' := by decide
  rw [hasItem, peekToken_bind (dropWhile_of_not_isSpace rfl)]
  simp only [if_neg hcomma, Bool.false_eq_true, if_false, if_true]
  rw [skip_bind, peekToken_bind h]
  simp only [if_neg hc]
  rfl

theorem closeArray_bracket (h : s.dropWhile isSpace = ']' :: t) : closeArray s = .ok ((), t) := by
  rw [closeArray, peekToken_bind h]
  rfl

/-- An item is read, and then the items behind it. -/
theorem items_cons {first : Bool} {bound : Nat} (hitem : hasItem first s = .ok (true, t ++ u))
    (ht : Begins t) (htakes : Takes item t a) (hu : Follows u)
    (hitems : items item bound false u = .ok (as, rest)) :
    items item (bound + 1) first s = .ok (a :: as, rest) := by
  rw [items, bind_apply hitem]
  simp only [if_true]
  rw [bind_apply (htakes _ _ hu ht.dropWhile_append), bind_apply hitems]
  rfl

/-- Each item is printed as a text that begins a value, and taken as its value. -/
def TakesItems (item : Reader α) (level : Nat) (vs : List Json) (as : List α) : Prop :=
  List.Forall₂ (fun v a => Begins (v.textAt level) ∧ Takes item (v.textAt level) a) vs as

/-- Items are printed as one character each at least, so the text bounds their number. -/
theorem length_le_itemsText (level : Nat) (vs : List Json) :
    vs.length ≤ (itemsText level vs).length := by
  induction vs with
  | nil => exact Nat.zero_le _
  | cons v vs ih =>
    simp only [itemsText, List.length_append, List.length_cons, List.length_nil]
    omega

theorem follows_itemsText (l : Nat) (rest : Text) :
    Follows (itemsText level vs ++ (newline l ++ rest)) := by
  cases vs with
  | nil => exact follows_newline l rest
  | cons v vs =>
    rw [itemsText, List.append_assoc, List.append_assoc]
    exact follows_comma _

/-- The items behind the first are read up to the closing bracket. -/
theorem items_itemsText (h : TakesItems item level vs as) {bound : Nat}
    (hbound : vs.length < bound) (l : Nat) (rest : Text) :
    items item bound false (itemsText level vs ++ (newline l ++ ']' :: rest)) =
      .ok (as, ']' :: rest) := by
  induction h generalizing bound with
  | nil =>
    cases bound with
    | zero => exact absurd hbound (Nat.not_lt_zero _)
    | succ bound =>
      have hclose : (newline l ++ ']' :: rest).dropWhile isSpace = ']' :: rest :=
        dropWhile_newline l _
      rw [itemsText, List.nil_append, items, bind_apply (hasItem_bracket hclose false)]
      rfl
  | @cons v a vs as hv _ ih =>
    cases bound with
    | zero => exact absurd hbound (Nat.not_lt_zero _)
    | succ bound =>
      obtain ⟨hbegins, htakes⟩ := hv
      have hspace : (newline level ++ (v.textAt level ++ (itemsText level vs ++
          (newline l ++ ']' :: rest)))).dropWhile isSpace =
          v.textAt level ++ (itemsText level vs ++ (newline l ++ ']' :: rest)) := by
        rw [dropWhile_newline, hbegins.dropWhile_append]
      simp only [itemsText, List.append_assoc, List.singleton_append]
      exact items_cons (hasItem_comma hbegins hspace) hbegins htakes (follows_itemsText l _)
        (ih (Nat.lt_of_succ_lt_succ hbound))

/-- The items of a printed array are taken up to the closing bracket. -/
theorem itemsToEnd_array (h : TakesItems item level (v :: vs) as) (l : Nat) (rest : Text) :
    itemsToEnd item (newline level ++ (v.textAt level ++ (itemsText level vs ++
      (newline l ++ ']' :: rest)))) = .ok (as, ']' :: rest) := by
  cases h with
  | @cons _ a _ as hv hitems =>
  obtain ⟨hbegins, htakes⟩ := hv
  generalize hs : newline level ++ (v.textAt level ++ (itemsText level vs ++
    (newline l ++ ']' :: rest))) = s
  have hspace : s.dropWhile isSpace =
      v.textAt level ++ (itemsText level vs ++ (newline l ++ ']' :: rest)) := by
    rw [← hs, dropWhile_newline, hbegins.dropWhile_append]
  -- The text has more characters than the array has items.
  obtain ⟨bound, hbound, hlt⟩ : ∃ bound, s.length = bound + 1 ∧ vs.length < bound := by
    have hlen := length_le_itemsText level vs
    refine ⟨s.length - 1, ?_, ?_⟩
    all_goals
      rw [← hs]
      simp only [newline, List.length_append, List.length_cons]
      omega
  rw [itemsToEnd, bind_apply (r := get) (a := s) rfl, hbound]
  exact items_cons (hasItem_first hbegins hspace) hbegins htakes (follows_itemsText l _)
    (items_itemsText hitems hlt l rest)

theorem itemsToEnd_nil (item : Reader α) (rest : Text) :
    itemsToEnd item (']' :: rest) = .ok ([], ']' :: rest) := by
  rw [itemsToEnd, bind_apply (r := get) (a := ']' :: rest) rfl, List.length_cons, items,
    bind_apply (hasItem_bracket rfl true)]
  rfl

/-- The items of a printed array are taken, and then its end. -/
theorem exists_itemsToEnd (h : TakesItems item (level + 1) vs as) (rest : Text) :
    ∃ t u, (array vs).textAt level ++ rest = '[' :: t ∧ itemsToEnd item t = .ok (as, u) ∧
      closeArray u = .ok ((), rest) := by
  cases vs with
  | nil =>
    cases h
    exact ⟨']' :: rest, _, rfl, itemsToEnd_nil item rest, closeArray_bracket rfl⟩
  | cons v vs =>
    refine ⟨_, _, ?_, itemsToEnd_array h level rest, closeArray_bracket rfl⟩
    simp only [textAt, List.append_assoc, List.cons_append, List.nil_append]

end Array

/-! ## Objects -/

section Object

variable {member : σ → Text → Reader σ} {known known' : σ} {name u : Text} {v : Json}
  {ms : List (Text × Json)}

theorem hasMember_brace (h : s.dropWhile isSpace = '}' :: t) (first : Bool) :
    hasMember first s = .ok (false, '}' :: t) := by
  rw [hasMember, peekToken_bind h]
  rfl

/-- The first member of an object has no comma ahead of it. -/
theorem hasMember_first (h : s.dropWhile isSpace = stringText name ++ t) :
    hasMember true s = .ok (true, stringText name ++ t) := by
  rw [stringText_append] at h ⊢
  rw [hasMember, peekToken_bind h]
  rfl

theorem hasMember_comma (h : s.dropWhile isSpace = stringText name ++ t) :
    hasMember false (',' :: s) = .ok (true, stringText name ++ t) := by
  have hbrace : (',' : Char) ≠ '}' := by decide
  rw [stringText_append] at h ⊢
  rw [hasMember, peekToken_bind (dropWhile_of_not_isSpace rfl)]
  simp only [if_neg hbrace, Bool.false_eq_true, if_false, if_true]
  rw [skip_bind, peekToken_bind h]
  rfl

theorem closeObject_brace (h : s.dropWhile isSpace = '}' :: t) :
    closeObject s = .ok ((), t) := by
  rw [closeObject, peekToken_bind h]
  rfl

theorem colon_bind {β : Type} {k : Unit → Reader β} (h : s.dropWhile isSpace = ':' :: t) :
    (colon >>= k) s = k () t := by
  refine bind_apply ?_
  rw [colon, peekToken_bind h]
  rfl

/-- The key of a member is read from its literal. -/
theorem key_stringText (name rest : Text) : key (stringText name ++ rest) = .ok (name, rest) := by
  rw [stringText_append, key, skip_bind]
  exact literalBody_flatMap_escapeChar name rest

/-- A member is read behind its key, and then the members behind it. -/
theorem members_cons {first : Bool} {bound : Nat} {known'' : σ}
    (hmember : hasMember first s = .ok (true, stringText name ++ (t ++ u)))
    (htakes : Takes (member known name) t known') (ht : Begins t) (hu : Follows u)
    (hmembers : members member bound false known' u = .ok (known'', rest)) :
    members member (bound + 1) first known s = .ok (known'', rest) := by
  rw [members, bind_apply hmember]
  simp only [if_true]
  rw [bind_apply (key_stringText name _), bind_apply (htakes _ _ hu ht.dropWhile_append), hmembers]

/-- The members are taken one after another as they are printed, what is known before turning into
what is known after them. -/
inductive TakesMembers (member : σ → Text → Reader σ) (level : Nat) :
    σ → List (Text × Json) → σ → Prop
  | nil (known : σ) : TakesMembers member level known [] known
  | cons {known known' known'' : σ} {name : Text} {v : Json} {ms : List (Text × Json)}
    (hmember : Takes (member known name) ([':', ' '] ++ v.textAt level) known')
    (hmembers : TakesMembers member level known' ms known'') :
    TakesMembers member level known ((name, v) :: ms) known''

theorem begins_colon (t : Text) : Begins ([':', ' '] ++ t) :=
  ⟨':', ' ' :: t, rfl, rfl, by decide, by decide⟩

theorem length_le_membersText (level : Nat) (ms : List (Text × Json)) :
    ms.length ≤ (membersText level ms).length := by
  induction ms with
  | nil => exact Nat.zero_le _
  | cons m ms ih =>
    simp only [membersText, List.length_append, List.length_cons, List.length_nil]
    omega

theorem follows_membersText (l : Nat) (rest : Text) :
    Follows (membersText level ms ++ (newline l ++ rest)) := by
  cases ms with
  | nil => exact follows_newline l rest
  | cons m ms =>
    simp only [membersText, List.append_assoc]
    exact follows_comma _

theorem dropWhile_newline_stringText (level : Nat) (name rest : Text) :
    (newline level ++ (stringText name ++ rest)).dropWhile isSpace = stringText name ++ rest := by
  rw [dropWhile_newline, stringText_append, dropWhile_of_not_isSpace rfl]

/-- The members behind the first are read up to the closing brace. -/
theorem members_membersText (h : TakesMembers member level known ms known') {bound : Nat}
    (hbound : ms.length < bound) (l : Nat) (rest : Text) :
    members member bound false known (membersText level ms ++ (newline l ++ '}' :: rest)) =
      .ok (known', '}' :: rest) := by
  induction h generalizing bound with
  | nil known =>
    cases bound with
    | zero => exact absurd hbound (Nat.not_lt_zero _)
    | succ bound =>
      have hclose : (newline l ++ '}' :: rest).dropWhile isSpace = '}' :: rest :=
        dropWhile_newline l _
      rw [membersText, List.nil_append, members, bind_apply (hasMember_brace hclose false)]
      rfl
  | @cons known known' known'' name v ms hmember _ ih =>
    cases bound with
    | zero => exact absurd hbound (Nat.not_lt_zero _)
    | succ bound =>
      simp only [membersText, List.append_assoc, List.singleton_append]
      have hname := hasMember_comma (dropWhile_newline_stringText level name ([':', ' '] ++
        (v.textAt level ++ (membersText level ms ++ (newline l ++ '}' :: rest)))))
      rw [← List.append_assoc [':', ' ']] at hname
      exact members_cons hname hmember (begins_colon _) (follows_membersText l _)
        (ih (Nat.lt_of_succ_lt_succ hbound))

/-- The members of a printed object are taken up to the closing brace. -/
theorem membersToEnd_object (h : TakesMembers member level known ((name, v) :: ms) known')
    (l : Nat) (rest : Text) :
    membersToEnd member known (newline level ++ (stringText name ++ ([':', ' '] ++
      (v.textAt level ++ (membersText level ms ++ (newline l ++ '}' :: rest)))))) =
      .ok (known', '}' :: rest) := by
  cases h with
  | @cons _ known'' _ _ _ _ hmember hmembers =>
  generalize hs : newline level ++ (stringText name ++ ([':', ' '] ++
    (v.textAt level ++ (membersText level ms ++ (newline l ++ '}' :: rest))))) = s
  -- The text has more characters than the object has members.
  obtain ⟨bound, hbound, hlt⟩ : ∃ bound, s.length = bound + 1 ∧ ms.length < bound := by
    have hlen := length_le_membersText level ms
    refine ⟨s.length - 1, ?_, ?_⟩
    all_goals
      rw [← hs]
      simp only [newline, List.length_append, List.length_cons]
      omega
  rw [membersToEnd, bind_apply (r := get) (a := s) rfl, hbound]
  have hname := hasMember_first (dropWhile_newline_stringText level name ([':', ' '] ++
    (v.textAt level ++ (membersText level ms ++ (newline l ++ '}' :: rest)))))
  rw [hs, ← List.append_assoc [':', ' ']] at hname
  exact members_cons hname hmember (begins_colon _) (follows_membersText l _)
    (members_membersText hmembers hlt l rest)

theorem membersToEnd_nil (member : σ → Text → Reader σ) (known : σ) (rest : Text) :
    membersToEnd member known ('}' :: rest) = .ok (known, '}' :: rest) := by
  rw [membersToEnd, bind_apply (r := get) (a := '}' :: rest) rfl, List.length_cons, members,
    bind_apply (hasMember_brace rfl true)]
  rfl

/-- The members of a printed object are taken, and then its end. -/
theorem exists_membersToEnd (h : TakesMembers member (level + 1) known ms known') (rest : Text) :
    ∃ t u, (object ms).textAt level ++ rest = '{' :: t ∧
      membersToEnd member known t = .ok (known', u) ∧ closeObject u = .ok ((), rest) := by
  cases ms with
  | nil =>
    cases h
    exact ⟨'}' :: rest, _, rfl, membersToEnd_nil member known rest, closeObject_brace rfl⟩
  | cons m ms =>
    refine ⟨_, _, ?_, membersToEnd_object h level rest, closeObject_brace rfl⟩
    simp only [textAt, List.append_assoc, List.cons_append, List.nil_append]

end Object

end Reader

end Json

end StylusSurvey
