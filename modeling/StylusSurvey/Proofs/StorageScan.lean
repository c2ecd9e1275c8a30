import StylusSurvey.Contract.Storage
import StylusSurvey.Proofs.CommentLines

/-!
# The storage block line by line

The storage block is found and read by recursion over the lines of a source. Here the same
is done by two machines that see one line at a time. `StoragePlace` says where a line stands
with respect to the block, and the layout of the lines from there on depends on the place
alone (`StoragePlace.layoutFrom_cons`). `AttributeScan` looks for the struct under a storage
attribute (`attributedName?_eq`). Both pass over the comments that their state tolerates
(`StoragePlace.layoutFrom_fillers`, `AttributeScan.foldl_step_of_tolerates`).
-/

namespace StylusSurvey

open Text Declaration StorageLayout

variable {l : Text} {cs ls : List Text} {n : Nat}

/-! ## The place of a line -/

/-- Where a line stands with respect to the storage block. -/
inductive StoragePlace where
  /-- Ahead of the block. -/
  | ahead
  /-- In the block, whose struct may have its name. -/
  | inside (depth : BraceDepth) (name : Option Text)
  /-- Behind the block. -/
  | behind (name : Option Text)

namespace StoragePlace

/-- The place of the next line. -/
def step : StoragePlace → Text → StoragePlace
  | ahead, l =>
    if opensStorage l then
      if (BraceDepth.startingAt l).depth ≤ 0 then behind (structName? l)
      else inside (BraceDepth.startingAt l) (structName? l)
    else ahead
  | inside depth name, l =>
    if (depth.feed l).isClosed then behind (name.or (structName? l))
    else inside (depth.feed l) (name.or (structName? l))
  | behind name, _ => behind name

/-- The place behind the lines of a source so far. -/
def after (ls : List Text) : StoragePlace :=
  ls.foldl step ahead

theorem after_append (ls ms : List Text) : after (ls ++ ms) = ms.foldl step (after ls) :=
  List.foldl_append

/-- The field that the line declares at its place. -/
def fieldsOn : StoragePlace → Text → Nat → List StorageField
  | inside _ name, l, n =>
    if name = none ∧ (structName? l).isSome then [] else (fieldOn? l n).toList
  | _, _, _ => []

/-- The layout that the lines from number `n` on declare at the place. -/
def layoutFrom : StoragePlace → Nat → List Text → StorageLayout
  | ahead, n, ls => ofLines n ls
  | inside depth name, n, ls => inBlock depth name n ls
  | behind name, _, _ => { contractName := name }

/-- A line adds its field to the layout of the lines below it. -/
theorem layoutFrom_cons (p : StoragePlace) (l : Text) (ls : List Text) (n : Nat) :
    p.layoutFrom n (l :: ls) =
      { (p.step l).layoutFrom (n + 1) ls with
        fields := p.fieldsOn l n ++ ((p.step l).layoutFrom (n + 1) ls).fields } := by
  cases p with
  | ahead =>
    simp only [layoutFrom, ofLines, step, fieldsOn, List.nil_append]
    split_ifs <;> rfl
  | inside depth name =>
    simp only [layoutFrom, inBlock, step, fieldsOn]
    cases name with
    | none => cases structName? l <;> split_ifs <;> simp_all
    | some name => split_ifs <;> simp_all
  | behind name => rfl

/-- The fields that lines declare are those that each declares at its place. -/
theorem mem_fields_layoutFrom {p : StoragePlace} {f : StorageField} :
    f ∈ (p.layoutFrom n ls).fields ↔
      ∃ k, ∃ hk : k < ls.length, f ∈ ((ls.take k).foldl step p).fieldsOn ls[k] (n + k) := by
  induction ls generalizing p n with
  | nil => cases p <;> simp [layoutFrom, ofLines, inBlock]
  | cons l ls ih =>
    rw [layoutFrom_cons, List.mem_append, ih]
    constructor
    · rintro (h | ⟨k, hk, h⟩)
      · exact ⟨0, by simp, h⟩
      · refine ⟨k + 1, by simpa using hk, ?_⟩
        rw [Nat.add_assoc, Nat.add_comm 1 k] at h
        exact h
    · rintro ⟨k, hk, h⟩
      cases k with
      | zero => exact .inl h
      | succ k =>
        refine .inr ⟨k, by simpa using hk, ?_⟩
        rw [Nat.add_assoc, Nat.add_comm 1 k]
        exact h

/-- The name that the struct of the block has at the place. -/
def name? : StoragePlace → Option Text
  | ahead => none
  | inside _ name => name
  | behind name => name

/-- The name in the layout is the one that the place has come to know. -/
theorem contractName_layoutFrom (p : StoragePlace) (n : Nat) :
    (p.layoutFrom n ls).contractName = (ls.foldl step p).name? := by
  induction ls generalizing p n with
  | nil => cases p <;> rfl
  | cons l ls ih => rw [layoutFrom_cons, List.foldl_cons, ← ih]

/-- A field that a line gives is declared on it. -/
theorem fieldOn?_of_mem_fieldsOn {p : StoragePlace} {f : StorageField} (h : f ∈ p.fieldsOn l n) :
    fieldOn? l n = some f := by
  cases p with
  | inside depth name =>
    rw [fieldsOn] at h
    split_ifs at h
    · cases h
    · exact Option.mem_toList.1 h
  | _ => cases h

/-- A block that is open has a depth that says so. -/
def Live : StoragePlace → Prop
  | inside depth _ => depth.Live
  | _ => True

theorem live_step (p : StoragePlace) (l : Text) : (p.step l).Live := by
  cases p with
  | ahead =>
    rw [step]
    split_ifs with hopens hdepth
    · trivial
    · refine BraceDepth.live_add ?_
      rw [Bool.eq_false_iff, ne_eq, BraceDepth.isClosed_iff]
      exact fun h => hdepth h.2
    · trivial
  | inside depth name =>
    rw [step]
    split_ifs with hclosed
    · trivial
    · exact BraceDepth.live_add (Bool.eq_false_iff.2 hclosed)
  | behind name => trivial

theorem live_after (ls : List Text) : (after ls).Live := by
  rcases List.eq_nil_or_concat' ls with rfl | ⟨ms, l, rfl⟩
  · trivial
  · rw [after_append]
    exact live_step _ _

/-! ## Comments -/

/-- The lines do not matter at the place: ahead of the block they do not open it, and inside they
keep it open and do not name its struct. -/
def Tolerates : StoragePlace → List Text → Prop
  | ahead, cs => ∀ c ∈ cs, opensStorage c = false
  | inside depth name, cs =>
    depth.StaysOpen cs ∧ (name = none → ∀ c ∈ cs, structName? c = none)
  | behind _, _ => True

instance (p : StoragePlace) (cs : List Text) : Decidable (p.Tolerates cs) :=
  match p with
  | ahead => inferInstanceAs (Decidable (∀ c ∈ cs, opensStorage c = false))
  | inside depth name =>
    inferInstanceAs (Decidable (depth.StaysOpen cs ∧
      (name = none → ∀ c ∈ cs, structName? c = none)))
  | behind _ => inferInstanceAs (Decidable True)

theorem fieldOn?_of_isFiller (h : IsFiller l) : fieldOn? l n = none := by
  rcases h with rfl | h
  · rfl
  · obtain ⟨s, hs⟩ := exists_trimStart_of_isComment h
    have htype : isTypeChar '/' = false := by decide
    have hword : isWord '/' = false := by decide
    have htypeAndName : typeAndName? (trimStart l) = none := by
      rw [hs, typeAndName?, htype]
      rfl
    have hname : declaredName? (trimStart l) = none := by
      rw [hs, declaredName?, word?, List.takeWhile_cons_of_neg (by simp [hword])]
      rfl
    rw [fieldOn?, declaration?, htypeAndName, hname]
    split <;> rfl

theorem fieldsOn_of_isFiller (p : StoragePlace) (h : IsFiller l) : p.fieldsOn l n = [] := by
  cases p with
  | inside depth name =>
    rw [fieldsOn, fieldOn?_of_isFiller h]
    split_ifs <;> rfl
  | _ => rfl

/-- Fillers declare no fields, so the layout below them is that of the place behind them. -/
theorem layoutFrom_fillers (p : StoragePlace) (hcs : ∀ c ∈ cs, IsFiller c) (ls : List Text)
    (n : Nat) : p.layoutFrom n (cs ++ ls) = (cs.foldl step p).layoutFrom (n + cs.length) ls := by
  induction cs generalizing p n with
  | nil => rfl
  | cons c cs ih =>
    obtain ⟨hc, hcs⟩ := List.forall_mem_cons.1 hcs
    rw [List.cons_append, layoutFrom_cons, fieldsOn_of_isFiller p hc, List.nil_append, ih _ hcs,
      List.foldl_cons, List.length_cons, Nat.add_right_comm, Nat.add_assoc n]

/-- Lines that keep a block open and declare no struct change its depth only. -/
theorem foldl_step_inside {depth : BraceDepth} {name : Option Text}
    (h : ∀ p, p <+: cs → (p.foldl BraceDepth.feed depth).isClosed = false)
    (hname : name = none → ∀ c ∈ cs, structName? c = none) :
    cs.foldl step (inside depth name) = inside (cs.foldl BraceDepth.feed depth) name := by
  induction cs generalizing depth with
  | nil => rfl
  | cons c cs ih =>
    obtain ⟨hopen, hrest⟩ := BraceDepth.notClosed_cons h
    have hor : name.or (structName? c) = name := by
      cases name with
      | none => exact hname rfl c List.mem_cons_self
      | some name => rfl
    rw [List.foldl_cons, step, hopen, hor]
    exact ih hrest fun hnone d hd => hname hnone d (List.mem_cons_of_mem c hd)

/-- Lines that do not matter leave the place as it was. -/
theorem foldl_step_of_tolerates {p : StoragePlace} (hp : p.Live) (h : p.Tolerates cs) :
    cs.foldl step p = p := by
  cases p with
  | ahead =>
    induction cs with
    | nil => rfl
    | cons c cs ih =>
      obtain ⟨hc, hcs⟩ := List.forall_mem_cons.1 h
      rw [List.foldl_cons, step, hc]
      exact ih hcs
  | inside depth name =>
    obtain ⟨hopen, hname⟩ := h
    rw [foldl_step_inside hopen.notClosed hname, hopen.foldl_feed hp]
  | behind name =>
    induction cs with
    | nil => rfl
    | cons c cs ih => exact ih trivial

/-- Empty lines change nothing in a place. -/
theorem tolerates_replicate_nil {p : StoragePlace} (hp : p.Live) (count : Nat) :
    p.Tolerates (List.replicate count []) := by
  have hmem {c : Text} (hc : c ∈ List.replicate count ([] : Text)) : c = [] :=
    List.eq_of_mem_replicate hc
  cases p with
  | ahead =>
    intro c hc
    rw [hmem hc]
    rfl
  | inside depth name =>
    refine ⟨BraceDepth.staysOpen_replicate_nil hp count, fun _ c hc => ?_⟩
    rw [hmem hc]
    rfl
  | behind name => trivial

/-- A last line that is empty declares nothing. -/
theorem layoutFrom_append_nil (p : StoragePlace) (hp : p.Live) (ls : List Text) (n : Nat) :
    p.layoutFrom n (ls ++ [[]]) = p.layoutFrom n ls := by
  induction ls generalizing p n with
  | nil =>
    have hstay : ([[]] : List Text).foldl step p = p :=
      foldl_step_of_tolerates hp (tolerates_replicate_nil hp 1)
    have hfillers : ∀ c ∈ ([[]] : List Text), IsFiller c :=
      fun c hc => .inl (List.mem_singleton.1 hc)
    rw [List.nil_append, ← List.append_nil [[]], layoutFrom_fillers p hfillers, hstay]
    cases p <;> rfl
  | cons l ls ih => rw [List.cons_append, layoutFrom_cons, layoutFrom_cons, ih _ (live_step p l)]

end StoragePlace

/-! ## The struct under an attribute -/

/-- The search for a struct on one of the two lines below a storage attribute. -/
structure AttributeScan where
  /-- The name of the first such struct. -/
  found : Option Text := none
  /-- The number of lines below that an attribute still reaches. -/
  reach : Nat := 0

namespace AttributeScan

/-- The search after one more line. -/
def step (a : AttributeScan) (l : Text) : AttributeScan where
  found := a.found.or (if 0 < a.reach then structName? l else none)
  reach := if isStorageAttribute l then 2 else a.reach - 1

/-- The search after the lines of a source so far. -/
def after (ls : List Text) : AttributeScan :=
  ls.foldl step {}

theorem found_foldl_step {name : Text} {a : AttributeScan} (h : a.found = some name) :
    (ls.foldl step a).found = some name := by
  induction ls generalizing a with
  | nil => exact h
  | cons l ls ih =>
    refine ih ?_
    rw [step, h]
    rfl

theorem findSome?_take_or {α β : Type} {f : α → Option β} {i j : Nat} (h : i ≤ j) (xs : List α) :
    ((xs.take i).findSome? f).or ((xs.take j).findSome? f) = (xs.take j).findSome? f := by
  have hprefix : xs.take i <+: xs.take j := List.take_prefix_take_left h
  obtain ⟨ys, hys⟩ := hprefix
  rw [← hys, List.findSome?_append]
  cases (xs.take i).findSome? f <;> rfl

/-- An attribute on the first line goes before those below it. -/
theorem attributedName?_cons (l : Text) (ls : List Text) : attributedName? (l :: ls) =
    (if isStorageAttribute l then (ls.take 2).findSome? structName? else none).or
      (attributedName? ls) := by
  rw [attributedName?]
  split
  case h_1 name h => rw [h, Option.some_or]
  case h_2 h => rw [h, Option.none_or]

/-- The search finds the struct that an attribute above reaches, or the first one that an attribute
below does. -/
theorem found_foldl_step_of_reach {r : Nat} (hr : r ≤ 2) :
    (ls.foldl step { reach := r }).found =
      ((ls.take r).findSome? structName?).or (attributedName? ls) := by
  induction ls generalizing r with
  | nil =>
    rw [List.take_nil]
    rfl
  | cons l ls ih =>
    have hbelow (k : Nat) (hk : k ≤ 1) :
        (ls.foldl step { reach := if isStorageAttribute l then 2 else k }).found =
          ((ls.take k).findSome? structName?).or (attributedName? (l :: ls)) := by
      rw [attributedName?_cons]
      split_ifs
      · rw [ih le_rfl, ← Option.or_assoc, findSome?_take_or (by omega)]
      · rw [ih (by omega), Option.none_or]
    cases r with
    | zero => exact hbelow 0 (Nat.zero_le 1)
    | succ r =>
      rw [List.take_succ_cons, List.findSome?_cons, List.foldl_cons]
      cases hname : structName? l with
      | some name =>
        refine found_foldl_step ?_
        rw [step, if_pos r.succ_pos, hname]
        rfl
      | none =>
        have hstep : step { reach := r + 1 } l =
            { reach := if isStorageAttribute l then 2 else r } := by
          rw [step, if_pos r.succ_pos, hname]
          rfl
        rw [hstep, hbelow r (by omega)]

/-- The search line by line finds the name under an attribute. -/
theorem attributedName?_eq (ls : List Text) : attributedName? ls = (after ls).found := by
  rw [after, found_foldl_step_of_reach (Nat.zero_le 2)]
  rfl

/-- The lines do not matter to the search: as long as it goes on, no struct stands on those that an
attribute reaches. -/
def Tolerates (a : AttributeScan) (cs : List Text) : Prop :=
  a.found = none → ∀ c ∈ cs.take a.reach, structName? c = none

/-- Fillers that are tolerated change nothing but how far an attribute reaches. -/
theorem foldl_step_of_tolerates {a : AttributeScan} (hcs : ∀ c ∈ cs, IsFiller c)
    (h : a.Tolerates cs) :
    cs.foldl step a = { found := a.found, reach := a.reach - cs.length } := by
  induction cs generalizing a with
  | nil => rfl
  | cons c cs ih =>
    obtain ⟨hc, hcs⟩ := List.forall_mem_cons.1 hcs
    have hattribute : isStorageAttribute c = false := by
      rw [isStorageAttribute, afterAttribute?_of_isFiller hc]
      rfl
    have hfound : a.found.or (if 0 < a.reach then structName? c else none) = a.found := by
      cases hfound : a.found with
      | some name => rfl
      | none =>
        rw [Option.none_or]
        split_ifs with hreach
        · refine h hfound c ?_
          obtain ⟨r, hr⟩ := Nat.exists_eq_add_of_le' hreach
          rw [hr, List.take_succ_cons]
          exact List.mem_cons_self
        · rfl
    have hstep : step a c = { found := a.found, reach := a.reach - 1 } := by
      rw [step, hattribute, hfound]
      rfl
    have hrest : Tolerates { found := a.found, reach := a.reach - 1 } cs := by
      intro hnone d hd
      refine h hnone d ?_
      cases hreach : a.reach with
      | zero =>
        rw [hreach] at hd
        exact absurd hd List.not_mem_nil
      | succ r =>
        rw [hreach] at hd
        rw [List.take_succ_cons]
        exact List.mem_cons_of_mem c hd
    rw [List.foldl_cons, hstep, ih hcs hrest, List.length_cons, Nat.sub_sub, Nat.add_comm 1]

theorem found_step_nil (a : AttributeScan) : (a.step []).found = a.found := by
  have hname : (if 0 < a.reach then structName? [] else none) = none := by
    split_ifs <;> rfl
  rw [step, hname, Option.or_none]

/-- Empty lines change nothing in the search under an attribute. -/
theorem tolerates_replicate_nil (a : AttributeScan) (count : Nat) :
    a.Tolerates (List.replicate count []) := by
  intro _ c hc
  rw [List.eq_of_mem_replicate (List.mem_of_mem_take hc)]
  rfl

end AttributeScan

end StylusSurvey
