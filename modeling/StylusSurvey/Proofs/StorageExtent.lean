import Mathlib.Data.List.Sort
import StylusSurvey.Contract.Parse
import StylusSurvey.Proofs.StorageLines

/-!
# The extent of the storage block

The storage block reaches from the first line that opens one to the first line from there
on after which its braces are closed, or to the last line (`IsStorageBlock`). After each line
the scanner for the block stands where the lines so far say: ahead of the block, inside it
with their brace sum as its depth, or behind it (`StoragePlace.Stands`, `stands_after`). So the
fields that are found are the declarations on the lines behind the first one, up to the last
(`mem_fields_ofLines_iff`), and the block is named by the first struct on its lines.

`StorageLayout.isDeclaredBy_extent` says this of a source as a whole. Text outside the block does
not matter for the fields: two sources with the same block have the same fields.
-/

namespace StylusSurvey

open Text Declaration StorageLayout

variable {ls : List Text} {l name : Text} {i k m n o o' c c' : Nat}

/-! ## Structs on lines -/

/-- Among the lines number `i` to `k`, number `m` is the first that declares a struct, and the
struct has the name. -/
def FirstStruct (ls : List Text) (i k m : Nat) (name : Text) : Prop :=
  i ≤ m ∧ m ≤ k ∧ (∃ l, lineAt ls m = some l ∧ DeclaresStruct l name) ∧
    ∀ j, i ≤ j → j < m → ∀ l name', lineAt ls j = some l → ¬DeclaresStruct l name'

/-- Line `n` begins with a storage attribute, and the first struct on the two lines below has the
name. -/
def StructBelow (ls : List Text) (n : Nat) (name : Text) : Prop :=
  (∃ l, lineAt ls n = some l ∧ HasStorageAttribute l) ∧ ∃ m, FirstStruct ls (n + 1) (n + 2) m name

/-- The struct below the first storage attribute that has one has the name. -/
def AttributedStruct (ls : List Text) (name : Text) : Prop :=
  ∃ n, StructBelow ls n name ∧ ∀ j < n, ∀ name', ¬StructBelow ls j name'

theorem lineAt_eq_some_iff :
    lineAt ls n = some l ↔ ∃ k, ∃ hk : k < ls.length, n = k + 1 ∧ ls[k] = l := by
  cases n with
  | zero => simp [lineAt]
  | succ n => simp [lineAt, List.getElem?_eq_some_iff]

/-- The lines of a slice are those of the whole with the numbers from its first one on. -/
theorem getElem?_linesFromTo {j : Nat} (hi : 1 ≤ i) (hj : i + j ≤ k) :
    (linesFromTo ls i k)[j]? = lineAt ls (i + j) := by
  obtain ⟨i, rfl⟩ := Nat.exists_eq_add_of_le' hi
  rw [linesFromTo, List.getElem?_drop, List.getElem?_take, if_pos (by omega), Nat.add_sub_cancel,
    Nat.add_right_comm, lineAt]

/-- The first of several results is that of an element ahead of which there are none. -/
theorem findSome?_eq_some_iff_getElem? {α β : Type} {f : α → Option β} {xs : List α} {b : β} :
    xs.findSome? f = some b ↔ ∃ (j : Nat) (x : α), xs[j]? = some x ∧ f x = some b ∧
      ∀ i < j, ∀ y : α, xs[i]? = some y → f y = none := by
  induction xs with
  | nil => simp
  | cons x xs ih =>
    rw [List.findSome?_cons]
    cases hx : f x with
    | some b' =>
      constructor
      · intro h
        exact ⟨0, x, rfl, hx.trans h, by simp⟩
      · rintro ⟨j, y, hy, hb, hfirst⟩
        cases j with
        | zero =>
          obtain rfl := Option.some.inj hy
          exact hx.symm.trans hb
        | succ j =>
          have hnone := hfirst 0 j.succ_pos x rfl
          rw [hx] at hnone
          cases hnone
    | none =>
      rw [ih]
      constructor
      · rintro ⟨j, y, hy, hb, hfirst⟩
        refine ⟨j + 1, y, hy, hb, fun i hi z hz => ?_⟩
        cases i with
        | zero => exact Option.some.inj hz ▸ hx
        | succ i => exact hfirst i (Nat.lt_of_succ_lt_succ hi) z hz
      · rintro ⟨j, y, hy, hb, hfirst⟩
        cases j with
        | zero =>
          obtain rfl := Option.some.inj hy
          cases hx.symm.trans hb
        | succ j => exact ⟨j, y, hy, hb, fun i hi => hfirst (i + 1) (Nat.succ_lt_succ hi)⟩

theorem structName?_eq_none_iff : structName? l = none ↔ ∀ name, ¬DeclaresStruct l name := by
  rw [Option.eq_none_iff_forall_ne_some]
  exact forall_congr' fun name => not_congr structName?_eq_some_iff

theorem le_of_getElem?_linesFromTo {j : Nat} (hi : 1 ≤ i)
    (hl : (linesFromTo ls i k)[j]? = some l) : i + j ≤ k := by
  have hlen := (List.getElem?_eq_some_iff.1 hl).1
  rw [linesFromTo, List.length_drop, List.length_take] at hlen
  omega

/-- Whether a line is the first with a struct is a matter of the lines alone, not of where they
stand. -/
theorem firstStruct_iff_getElem? {j : Nat} (hi : 1 ≤ i) : FirstStruct ls i k (i + j) name ↔
    ∃ l, (linesFromTo ls i k)[j]? = some l ∧ DeclaresStruct l name ∧
      ∀ d < j, ∀ l', (linesFromTo ls i k)[d]? = some l' → ∀ name', ¬DeclaresStruct l' name' := by
  constructor
  · rintro ⟨-, hjk, ⟨l, hl, hname⟩, hfirst⟩
    rw [← getElem?_linesFromTo hi hjk] at hl
    refine ⟨l, hl, hname, fun d hd l' hl' name' => ?_⟩
    rw [getElem?_linesFromTo hi (by omega)] at hl'
    exact hfirst (i + d) (by omega) (by omega) l' name' hl'
  · rintro ⟨l, hl, hname, hfirst⟩
    have hjk := le_of_getElem?_linesFromTo hi hl
    rw [getElem?_linesFromTo hi hjk] at hl
    refine ⟨Nat.le_add_right i j, hjk, ⟨l, hl, hname⟩, fun m him hm l' name' hl' => ?_⟩
    obtain ⟨d, rfl⟩ := Nat.exists_eq_add_of_le him
    rw [← getElem?_linesFromTo (k := k) hi (by omega)] at hl'
    exact hfirst d (by omega) l' hl' name'

/-- The search for a struct on some lines finds the first. -/
theorem findSome?_linesFromTo (hi : 1 ≤ i) :
    (linesFromTo ls i k).findSome? structName? = some name ↔ ∃ m, FirstStruct ls i k m name := by
  simp only [findSome?_eq_some_iff_getElem?, structName?_eq_some_iff, structName?_eq_none_iff]
  constructor
  · rintro ⟨j, hfirst⟩
    exact ⟨i + j, (firstStruct_iff_getElem? hi).2 hfirst⟩
  · rintro ⟨m, hm⟩
    obtain ⟨j, rfl⟩ := Nat.exists_eq_add_of_le hm.1
    exact ⟨j, (firstStruct_iff_getElem? hi).1 hm⟩

/-! ## The struct below an attribute -/

theorem lineAt_cons_succ (hn : 1 ≤ n) : lineAt (l :: ls) (n + 1) = lineAt ls n := by
  obtain ⟨n, rfl⟩ := Nat.exists_eq_add_of_le' hn
  rfl

/-- A struct stands below an attribute exactly if one of the two lines below it declares it first.
-/
theorem structBelow_iff : StructBelow ls n name ↔ (∃ l, lineAt ls n = some l ∧
    isStorageAttribute l = true) ∧ ((ls.drop n).take 2).findSome? structName? = some name := by
  have hslice : (ls.drop n).take 2 = linesFromTo ls (n + 1) (n + 2) := by
    rw [linesFromTo, Nat.add_sub_cancel, List.take_drop]
  rw [StructBelow, hslice, findSome?_linesFromTo (Nat.succ_pos n)]
  simp only [isStorageAttribute_iff]

theorem not_structBelow_zero : ¬StructBelow ls 0 name := by
  rintro ⟨⟨l, hl, -⟩, -⟩
  cases hl

theorem structBelow_cons_succ (hn : 1 ≤ n) :
    StructBelow (l :: ls) (n + 1) name ↔ StructBelow ls n name := by
  rw [structBelow_iff, structBelow_iff, lineAt_cons_succ hn, List.drop_succ_cons]

/-- The first line comes first, and the others are those of the text below it. -/
theorem attributedStruct_cons : AttributedStruct (l :: ls) name ↔ StructBelow (l :: ls) 1 name ∨
    (∀ name', ¬StructBelow (l :: ls) 1 name') ∧ AttributedStruct ls name := by
  constructor
  · rintro ⟨n, hn, hfirst⟩
    rcases n with _ | _ | n
    · exact absurd hn not_structBelow_zero
    · exact .inl hn
    · refine .inr ⟨hfirst 1 (by omega), n + 1, (structBelow_cons_succ n.succ_pos).1 hn, ?_⟩
      intro j hj name'
      rcases j with _ | j
      · exact not_structBelow_zero
      · rw [← structBelow_cons_succ j.succ_pos]
        exact hfirst (j + 2) (by omega) name'
  · rintro (h | ⟨hno, n, hn, hfirst⟩)
    · refine ⟨1, h, fun j hj name' => ?_⟩
      obtain rfl := Nat.lt_one_iff.1 hj
      exact not_structBelow_zero
    · have hpos : 1 ≤ n := by
        by_contra hzero
        obtain rfl : n = 0 := by omega
        exact not_structBelow_zero hn
      refine ⟨n + 1, (structBelow_cons_succ hpos).2 hn, fun j hj name' => ?_⟩
      rcases j with _ | _ | j
      · exact not_structBelow_zero
      · exact hno name'
      · rw [structBelow_cons_succ j.succ_pos]
        exact hfirst (j + 1) (by omega) name'

/-- The name that is found under an attribute is that of the first struct with one. -/
theorem attributedName?_eq_some_iff :
    attributedName? ls = some name ↔ AttributedStruct ls name := by
  induction ls with
  | nil =>
    refine iff_of_false (by simp [attributedName?]) ?_
    rintro ⟨n, ⟨⟨l, hl, -⟩, -⟩, -⟩
    cases n <;> cases hl
  | cons l ls ih =>
    have hone {name : Text} : StructBelow (l :: ls) 1 name ↔
        (if isStorageAttribute l then (ls.take 2).findSome? structName? else none) = some name := by
      rw [structBelow_iff]
      simp [lineAt]
    have hnone : (if isStorageAttribute l then (ls.take 2).findSome? structName? else none) = none ↔
        ∀ name', ¬StructBelow (l :: ls) 1 name' := by
      rw [Option.eq_none_iff_forall_ne_some]
      exact forall_congr' fun name' => not_congr hone.symm
    rw [AttributeScan.attributedName?_cons, Option.or_eq_some_iff, ih, ← hone, hnone,
      attributedStruct_cons]

/-! ## The block -/

/-- Line `o` is the first that opens a storage block. -/
structure OpensAt (ls : List Text) (o : Nat) : Prop where
  opens : ∃ l, lineAt ls o = some l ∧ OpensStorage l
  first : ∀ k < o, ∀ l, lineAt ls k = some l → ¬OpensStorage l

/-- The storage block reaches from line `o` to line `c`: from the first line that opens one to the
first line from there on after which the braces of the block are closed, or to the last line. -/
structure IsStorageBlock (ls : List Text) (o c : Nat) : Prop extends OpensAt ls o where
  le : o ≤ c
  le_length : c ≤ ls.length
  stays_open : ∀ k, o ≤ k → k < c → 0 < braceSum (linesFromTo ls o k)
  closes : c < ls.length → braceSum (linesFromTo ls o c) ≤ 0

theorem OpensAt.pos (h : OpensAt ls o) : 1 ≤ o := by
  obtain ⟨l, hl, -⟩ := h.opens
  obtain ⟨k, -, rfl, -⟩ := lineAt_eq_some_iff.1 hl
  exact Nat.succ_pos k

/-- There is only one first line that opens a block. -/
theorem OpensAt.unique (h : OpensAt ls o) (h' : OpensAt ls o') : o = o' := by
  obtain ⟨l, hl, hopens⟩ := h.opens
  obtain ⟨l', hl', hopens'⟩ := h'.opens
  rcases Nat.lt_trichotomy o o' with hlt | heq | hlt
  · exact absurd hopens (h'.first o hlt l hl)
  · exact heq
  · exact absurd hopens' (h.first o' hlt l' hl')

/-- There is only one storage block. -/
theorem IsStorageBlock.unique (h : IsStorageBlock ls o c) (h' : IsStorageBlock ls o' c') :
    o = o' ∧ c = c' := by
  obtain rfl := h.toOpensAt.unique h'.toOpensAt
  have hle {c c' : Nat} (h : IsStorageBlock ls o c) (h' : IsStorageBlock ls o c') : c' ≤ c := by
    by_contra hlt
    have hlen := h'.le_length
    have hpos := h'.stays_open c h.le (by omega)
    have hclosed := h.closes (by omega)
    omega
  exact ⟨rfl, Nat.le_antisymm (hle h' h) (hle h h')⟩

/-! The recognisers decide whether given lines are a block. -/

instance (l : Text) : Decidable (OpensStorage l) :=
  decidable_of_iff _ opensStorage_iff

instance (ls : List Text) (o : Nat) : Decidable (OpensAt ls o) :=
  decidable_of_iff ((∃ l ∈ lineAt ls o, OpensStorage l) ∧
      ∀ k < o, ∀ l ∈ lineAt ls k, ¬OpensStorage l)
    ⟨fun h => ⟨h.1, h.2⟩, fun h => ⟨h.opens, h.first⟩⟩

instance (ls : List Text) (o c : Nat) : Decidable (IsStorageBlock ls o c) :=
  decidable_of_iff (OpensAt ls o ∧ o ≤ c ∧ c ≤ ls.length ∧
      (∀ k < c, o ≤ k → 0 < braceSum (linesFromTo ls o k)) ∧
      (c < ls.length → braceSum (linesFromTo ls o c) ≤ 0))
    ⟨fun ⟨hopens, hle, hlen, hopen, hclosed⟩ =>
      ⟨hopens, hle, hlen, fun k hk hkc => hopen k hkc hk, hclosed⟩,
    fun h => ⟨h.toOpensAt, h.le, h.le_length, fun k hkc hk => h.stays_open k hk hkc, h.closes⟩⟩

namespace StoragePlace

/-- The place after `k` lines is the one that the lines so far give. Inside the block, the depth is
that of the lines of the block, and the name is that of the first struct on them. -/
def Stands (ls : List Text) (k : Nat) : StoragePlace → Prop
  | ahead => ∀ n ≤ k, ∀ l, lineAt ls n = some l → ¬OpensStorage l
  | inside depth name => ∃ o ≤ k, OpensAt ls o ∧
      (∀ j, o ≤ j → j ≤ k → 0 < braceSum (linesFromTo ls o j)) ∧
      depth = BraceDepth.after (linesFromTo ls o k) ∧
      name = (linesFromTo ls o k).findSome? structName?
  | behind name => ∃ o c, c ≤ k ∧ IsStorageBlock ls o c ∧
      name = (linesFromTo ls o c).findSome? structName?

/-- One more line keeps the place in step with what the lines say. -/
theorem stands_step {p : StoragePlace} (hk : k < ls.length) (h : p.Stands ls k) :
    (p.step ls[k]).Stands ls (k + 1) := by
  have hline : lineAt ls (k + 1) = some ls[k] := lineAt_succ hk
  cases p with
  | ahead =>
    have hopensAt (hopens : opensStorage ls[k] = true) : OpensAt ls (k + 1) :=
      ⟨⟨_, hline, opensStorage_iff.1 hopens⟩, fun n hn => h n (Nat.le_of_lt_succ hn)⟩
    have hself := linesFromTo_self hk
    have hname : structName? ls[k] = (linesFromTo ls (k + 1) (k + 1)).findSome? structName? := by
      rw [hself, List.findSome?_singleton]
    have hdepth :
        BraceDepth.startingAt ls[k] = BraceDepth.after (linesFromTo ls (k + 1) (k + 1)) := by
      rw [hself, BraceDepth.startingAt_eq]
    rw [step, hdepth, hname, BraceDepth.depth_after]
    split_ifs with hopens hsum
    · exact ⟨k + 1, k + 1, le_rfl, ⟨hopensAt hopens, le_rfl, hk,
        fun j hj hjk => absurd hj (by omega), fun _ => hsum⟩, rfl⟩
    · refine ⟨k + 1, le_rfl, hopensAt hopens, fun j hj hjk => ?_, rfl, rfl⟩
      obtain rfl := Nat.le_antisymm hjk hj
      omega
    · intro n hn l hl
      rcases Nat.le_succ_iff.1 hn with hn | rfl
      · exact h n hn l hl
      · rw [hline] at hl
        obtain rfl := Option.some.inj hl
        rwa [← opensStorage_iff]
  | inside depth name =>
    obtain ⟨o, hok, hopensAt, hopen, rfl, rfl⟩ := h
    have hsucc : linesFromTo ls o (k + 1) = linesFromTo ls o k ++ [ls[k]] :=
      linesFromTo_succ (by omega) hk
    have hname : ((linesFromTo ls o k).findSome? structName?).or (structName? ls[k]) =
        (linesFromTo ls o (k + 1)).findSome? structName? := by
      rw [hsucc, List.findSome?_append, List.findSome?_singleton]
    -- The block has opened on the lines before, so only the sum decides whether it is closed.
    have hclosed : (BraceDepth.after (linesFromTo ls o (k + 1))).isClosed = true ↔
        braceSum (linesFromTo ls o (k + 1)) ≤ 0 := by
      have hopened : BraceOpened (linesFromTo ls o (k + 1)) :=
        braceOpened_linesFromTo.2 ⟨k, Nat.le_succ k, hopen k hok le_rfl⟩
      rw [BraceDepth.isClosed_after, BraceClosed, and_iff_right hopened]
    rw [step, ← BraceDepth.after_append_singleton, ← hsucc, hname]
    split_ifs with hsum
    · exact ⟨o, k + 1, le_rfl, ⟨hopensAt, by omega, hk,
        fun j hj hjk => hopen j hj (Nat.le_of_lt_succ hjk), fun _ => hclosed.1 hsum⟩, rfl⟩
    · refine ⟨o, Nat.le_succ_of_le hok, hopensAt, fun j hj hjk => ?_, rfl, rfl⟩
      rcases Nat.le_succ_iff.1 hjk with hjk | rfl
      · exact hopen j hj hjk
      · exact Int.not_le.1 (hclosed.not.1 hsum)
  | behind name =>
    obtain ⟨o, c, hck, hblock, hname⟩ := h
    exact ⟨o, c, Nat.le_succ_of_le hck, hblock, hname⟩

/-- The place after some lines is what these lines say. -/
theorem stands_after (hk : k ≤ ls.length) : (after (ls.take k)).Stands ls k := by
  induction k with
  | zero =>
    intro n hn l hl
    obtain rfl := Nat.le_zero.1 hn
    cases hl
  | succ k ih =>
    rw [List.take_succ_eq_append_getElem hk, after_append]
    exact stands_step hk (ih (Nat.le_of_succ_le hk))

/-- The line below those of a slice is the first with a struct if the slice has none. -/
theorem firstStruct_succ_iff (hi : 1 ≤ i) (hik : i ≤ k + 1) (hkc : k < c) (hk : k < ls.length) :
    FirstStruct ls i c (k + 1) name ↔
      (linesFromTo ls i k).findSome? structName? = none ∧ structName? ls[k] = some name := by
  have hline : lineAt ls (k + 1) = some ls[k] := lineAt_succ hk
  rw [structName?_eq_some_iff, List.findSome?_eq_none_iff]
  constructor
  · rintro ⟨-, -, ⟨l, hl, hname⟩, hfirst⟩
    rw [hline] at hl
    obtain rfl := Option.some.inj hl
    refine ⟨fun l hl => ?_, hname⟩
    obtain ⟨j, hj⟩ := List.mem_iff_getElem?.1 hl
    have hjk := le_of_getElem?_linesFromTo hi hj
    rw [getElem?_linesFromTo hi hjk] at hj
    exact structName?_eq_none_iff.2 fun name' => hfirst (i + j) (by omega) (by omega) l name' hj
  · rintro ⟨hnone, hname⟩
    refine ⟨hik, hkc, ⟨_, hline, hname⟩, fun m him hm l' name' hl' => ?_⟩
    obtain ⟨j, rfl⟩ := Nat.exists_eq_add_of_le him
    rw [← getElem?_linesFromTo (k := k) hi (by omega)] at hl'
    exact structName?_eq_none_iff.1 (hnone l' (List.mem_of_getElem? hl')) name'

/-- The fields of a block are declared on its lines but the first, and not on the one that names
it. -/
theorem mem_fieldsOn_iff {f : StorageField} (h : IsStorageBlock ls o c) (hk : k < ls.length) :
    f ∈ (after (ls.take k)).fieldsOn ls[k] (k + 1) ↔
      (o ≤ k ∧ k < c) ∧ fieldOn? ls[k] (k + 1) = some f ∧
        ∀ name, ¬FirstStruct ls o c (k + 1) name := by
  have hstands := stands_after hk.le
  generalize after (ls.take k) = p at hstands ⊢
  cases p with
  | ahead =>
    refine iff_of_false List.not_mem_nil ?_
    rintro ⟨⟨hok, -⟩, -⟩
    obtain ⟨l, hl, hopens⟩ := h.opens
    exact hstands o hok l hl hopens
  | inside depth name =>
    obtain ⟨o', hok, hopensAt, hopen, -, rfl⟩ := hstands
    obtain rfl := h.toOpensAt.unique hopensAt
    have hkc : k < c := by
      by_contra hck
      have hpos := hopen c h.le (by omega)
      have hclosed := h.closes (by omega)
      omega
    have hnamed : ((linesFromTo ls o k).findSome? structName? = none ∧
        (structName? ls[k]).isSome = true) ↔ ∃ name, FirstStruct ls o c (k + 1) name := by
      simp only [firstStruct_succ_iff h.pos (Nat.le_succ_of_le hok) hkc hk, exists_and_left,
        Option.isSome_iff_exists]
    have hwithin : o ≤ k ∧ k < c := ⟨hok, hkc⟩
    rw [fieldsOn, ← not_exists, ← hnamed, and_iff_right hwithin]
    split_ifs with hfirst
    · exact iff_of_false List.not_mem_nil fun hmem => hmem.2 hfirst
    · rw [Option.mem_toList, and_iff_left hfirst]
  | behind name =>
    obtain ⟨o', c', hck, hblock, -⟩ := hstands
    obtain ⟨rfl, rfl⟩ := h.unique hblock
    exact iff_of_false List.not_mem_nil fun hmem => absurd hmem.1.2 (by omega)

end StoragePlace

/-! ## The layout of a source -/

/-- The extent of the storage block, which is nothing ahead of the first line if no line opens a
block. -/
inductive StorageExtent (ls : List Text) : Nat → Nat → Prop
  | absent (h : ∀ l ∈ ls, ¬OpensStorage l) : StorageExtent ls 0 0
  | block {o c : Nat} (h : IsStorageBlock ls o c) : StorageExtent ls o c

/-- The lines from number `o` to `c` declare the layout. The fields are the declarations on the
lines behind the first, in their order and with their numbers, except on the line that names the
contract. The contract is named by the first struct on the lines, or else by the first struct
below a storage attribute. -/
structure StorageLayout.IsDeclaredBy (layout : StorageLayout) (ls : List Text) (o c : Nat) :
    Prop where
  ordered : layout.fields.Pairwise fun f g => f.line < g.line
  mem_fields_iff : ∀ f, f ∈ layout.fields ↔ (o < f.line ∧ f.line ≤ c) ∧
    (∃ l type, lineAt ls f.line = some l ∧ DeclaresField l type f.name ∧ trim type = f.type) ∧
    ∀ name, ¬FirstStruct ls o c f.line name
  contractName_iff : ∀ name, layout.contractName = some name ↔
    (∃ m, FirstStruct ls o c m name) ∨
      (∀ m name', ¬FirstStruct ls o c m name') ∧ AttributedStruct ls name

theorem OpensAt.mem_opens (h : OpensAt ls o) : ∃ l ∈ ls, OpensStorage l := by
  obtain ⟨l, hl, hopens⟩ := h.opens
  obtain ⟨k, hk, -, rfl⟩ := lineAt_eq_some_iff.1 hl
  exact ⟨_, List.getElem_mem hk, hopens⟩

theorem not_firstStruct_zero : ¬FirstStruct ls 0 0 m name := by
  rintro ⟨-, hm, ⟨l, hl, -⟩, -⟩
  obtain rfl := Nat.le_zero.1 hm
  cases hl

/-- Every list of lines has an extent of its storage block, be it nothing. -/
theorem exists_storageExtent (ls : List Text) : ∃ o c, StorageExtent ls o c := by
  have hstands := @StoragePlace.stands_after ls _ le_rfl
  cases hplace : StoragePlace.after (ls.take ls.length) with
  | ahead =>
    rw [hplace] at hstands
    refine ⟨0, 0, .absent fun l hl => ?_⟩
    obtain ⟨k, hk, rfl⟩ := List.mem_iff_getElem.1 hl
    exact hstands (k + 1) hk _ (lineAt_succ hk)
  | inside depth name =>
    rw [hplace] at hstands
    obtain ⟨o, hok, hopensAt, hopen, -, -⟩ := hstands
    exact ⟨o, ls.length, .block ⟨hopensAt, hok, le_rfl, fun k hk hkc => hopen k hk hkc.le,
      fun hlt => absurd hlt (lt_irrefl _)⟩⟩
  | behind name =>
    rw [hplace] at hstands
    obtain ⟨o, c, -, hblock, -⟩ := hstands
    exact ⟨o, c, .block hblock⟩

/-- The block names the contract by its first struct. -/
theorem contractName_ofLines_iff (h : StorageExtent ls o c) :
    (ofLines 1 ls).contractName = some name ↔ ∃ m, FirstStruct ls o c m name := by
  have hstands := @StoragePlace.stands_after ls _ le_rfl
  have hname : (ofLines 1 ls).contractName = (StoragePlace.after ls).name? :=
    StoragePlace.contractName_layoutFrom .ahead 1
  rw [List.take_length] at hstands
  rw [hname]
  generalize StoragePlace.after ls = p at hstands ⊢
  cases h with
  | absent hnone =>
    have habsurd {o : Nat} (h : OpensAt ls o) : False := by
      obtain ⟨l, hl, hopens⟩ := h.mem_opens
      exact hnone l hl hopens
    cases p with
    | ahead =>
      exact iff_of_false (by simp [StoragePlace.name?]) fun ⟨m, hm⟩ => not_firstStruct_zero hm
    | inside depth name =>
      obtain ⟨o, -, hopensAt, -⟩ := hstands
      exact (habsurd hopensAt).elim
    | behind name =>
      obtain ⟨o, c, -, hblock, -⟩ := hstands
      exact (habsurd hblock.toOpensAt).elim
  | block hblock =>
    cases p with
    | ahead =>
      obtain ⟨l, hl, hopens⟩ := hblock.opens
      exact absurd hopens (hstands o (hblock.le.trans hblock.le_length) l hl)
    | inside depth name =>
      obtain ⟨o', hok, hopensAt, hopen, -, rfl⟩ := hstands
      obtain rfl := hblock.toOpensAt.unique hopensAt
      have hlast : c = ls.length := by
        by_contra hne
        have hlen := hblock.le_length
        have hpos := hopen c hblock.le hlen
        have hclosed := hblock.closes (by omega)
        omega
      rw [StoragePlace.name?, hlast, findSome?_linesFromTo hblock.pos]
    | behind name =>
      obtain ⟨o', c', -, hblock', rfl⟩ := hstands
      obtain ⟨rfl, rfl⟩ := hblock.unique hblock'
      rw [StoragePlace.name?, findSome?_linesFromTo hblock.pos]

/-- The fields are those of the block. -/
theorem mem_fields_ofLines_iff {f : StorageField} (h : StorageExtent ls o c) :
    f ∈ (ofLines 1 ls).fields ↔ (o < f.line ∧ f.line ≤ c) ∧
      (∃ l type, lineAt ls f.line = some l ∧ DeclaresField l type f.name ∧ trim type = f.type) ∧
      ∀ name, ¬FirstStruct ls o c f.line name := by
  have hfields : f ∈ (ofLines 1 ls).fields ↔ ∃ k, ∃ hk : k < ls.length,
      f ∈ (StoragePlace.after (ls.take k)).fieldsOn ls[k] (k + 1) := by
    simp only [Nat.add_comm _ 1]
    exact StoragePlace.mem_fields_layoutFrom (p := .ahead)
  rw [hfields]
  cases h with
  | absent hnone =>
    refine iff_of_false ?_ fun hmem => absurd hmem.1 (by omega)
    rintro ⟨k, hk, hf⟩
    have hstands := StoragePlace.stands_after hk.le
    generalize StoragePlace.after (ls.take k) = p at hstands hf
    cases p with
    | inside depth name =>
      obtain ⟨o, -, hopensAt, -⟩ := hstands
      obtain ⟨l, hl, hopens⟩ := hopensAt.mem_opens
      exact hnone l hl hopens
    | _ => cases hf
  | block hblock =>
    constructor
    · rintro ⟨k, hk, hf⟩
      obtain ⟨⟨hok, hkc⟩, hfield, hfirst⟩ := (StoragePlace.mem_fieldsOn_iff hblock hk).1 hf
      obtain ⟨⟨type, hdeclares, htype⟩, hline⟩ := fieldOn?_eq_some_iff.1 hfield
      rw [hline]
      exact ⟨⟨Nat.lt_succ_of_le hok, hkc⟩, ⟨_, type, lineAt_succ hk, hdeclares, htype⟩, hfirst⟩
    · rintro ⟨⟨hof, hfc⟩, ⟨l, type, hl, hdeclares, htype⟩, hfirst⟩
      obtain ⟨k, hk, hline, rfl⟩ := lineAt_eq_some_iff.1 hl
      rw [hline] at hof hfc hfirst
      exact ⟨k, hk, (StoragePlace.mem_fieldsOn_iff hblock hk).2
        ⟨⟨Nat.le_of_lt_succ hof, hfc⟩, fieldOn?_eq_some_iff.2 ⟨⟨type, hdeclares, htype⟩, hline⟩,
          hfirst⟩⟩

/-- The fields stand in the order of their lines, at most one on each. -/
theorem pairwise_fields_layoutFrom (p : StoragePlace) (ls : List Text) (n : Nat) :
    (p.layoutFrom n ls).fields.Pairwise fun f g => f.line < g.line := by
  induction ls generalizing p n with
  | nil => cases p <;> exact List.Pairwise.nil
  | cons l ls ih =>
    have hline {f : StorageField} (hf : f ∈ p.fieldsOn l n) : f.line = n :=
      (fieldOn?_eq_some_iff.1 (StoragePlace.fieldOn?_of_mem_fieldsOn hf)).2
    have hbelow {f : StorageField} (hf : f ∈ ((p.step l).layoutFrom (n + 1) ls).fields) :
        n < f.line := by
      obtain ⟨k, hk, hf⟩ := StoragePlace.mem_fields_layoutFrom.1 hf
      have heq := (fieldOn?_eq_some_iff.1 (StoragePlace.fieldOn?_of_mem_fieldsOn hf)).2
      omega
    rw [StoragePlace.layoutFrom_cons, List.pairwise_append]
    refine ⟨?_, ih _ _, fun f hf g hg => hline hf ▸ hbelow hg⟩
    cases p with
    | inside depth name =>
      rw [StoragePlace.fieldsOn]
      split_ifs
      · exact List.Pairwise.nil
      · cases fieldOn? l n <;> simp
    | _ => exact List.Pairwise.nil

/-- What is found in a source is declared by the extent of its block. -/
theorem isDeclaredBy_ofSource {source : Text} (h : StorageExtent (lines source) o c) :
    (ofSource source).IsDeclaredBy (lines source) o c where
  ordered := pairwise_fields_layoutFrom .ahead (lines source) 1
  mem_fields_iff := fun _ => mem_fields_ofLines_iff h
  contractName_iff := by
    intro name
    have hnone : (ofLines 1 (lines source)).contractName = none ↔
        ∀ m name', ¬FirstStruct (lines source) o c m name' := by
      rw [Option.eq_none_iff_forall_ne_some, forall_comm]
      simp only [ne_eq, contractName_ofLines_iff h, not_exists]
    rw [ofSource, Option.or_eq_some_iff, contractName_ofLines_iff h, hnone,
      attributedName?_eq_some_iff]

/-! ## The text around the block -/

/-- Line `d` of the block, counted from zero, declares the field and does not name the contract. -/
def DeclaredAt (block : List Text) (d : Nat) (name type : Text) : Prop :=
  0 < d ∧ (∃ l type', block[d]? = some l ∧ DeclaresField l type' name ∧ trim type' = type) ∧
    ∀ struct, ¬∃ l, block[d]? = some l ∧ DeclaresStruct l struct ∧
      ∀ e < d, ∀ l', block[e]? = some l' → ∀ name', ¬DeclaresStruct l' name'

/-- The fields are those declared on the lines of the block. -/
theorem mem_fields_iff_declaredAt {source : Text} {f : StorageField}
    (h : IsStorageBlock (lines source) o c) : f ∈ (ofSource source).fields ↔
      ∃ d, f.line = o + d ∧ DeclaredAt (linesFromTo (lines source) o c) d f.name f.type := by
  rw [(isDeclaredBy_ofSource (.block h)).mem_fields_iff]
  constructor
  · rintro ⟨⟨hof, hfc⟩, ⟨l, type, hl, hdeclares⟩, hfirst⟩
    obtain ⟨d, hd⟩ := Nat.exists_eq_add_of_le hof.le
    rw [hd] at hl hfirst hfc hof
    rw [← getElem?_linesFromTo h.pos hfc] at hl
    exact ⟨d, hd, by omega, ⟨l, type, hl, hdeclares⟩,
      fun struct hstruct => hfirst struct ((firstStruct_iff_getElem? h.pos).2 hstruct)⟩
  · rintro ⟨d, hd, hpos, ⟨l, type, hl, hdeclares⟩, hfirst⟩
    have hdc := le_of_getElem?_linesFromTo h.pos hl
    rw [getElem?_linesFromTo h.pos hdc] at hl
    rw [hd]
    exact ⟨⟨by omega, hdc⟩, ⟨l, type, hl, hdeclares⟩,
      fun struct hstruct => hfirst struct ((firstStruct_iff_getElem? h.pos).1 hstruct)⟩

/-- Sources with the same block have the same fields, wherever the block stands in them. -/
theorem fields_eq_of_same_block {source source' : Text} (h : IsStorageBlock (lines source) o c)
    (h' : IsStorageBlock (lines source') o' c')
    (hsame : linesFromTo (lines source) o c = linesFromTo (lines source') o' c') :
    (ofSource source').fields =
      (ofSource source).fields.map fun f => { f with line := f.line - o + o' } := by
  have hirrefl : Std.Irrefl fun f g : StorageField => f.line < g.line := ⟨fun f => lt_irrefl _⟩
  have hantisymm : Std.Antisymm fun f g : StorageField => f.line < g.line :=
    ⟨fun f g hfg hgf => absurd hfg (Nat.lt_asymm hgf)⟩
  have hordered := (isDeclaredBy_ofSource (.block h)).ordered
  have hordered' := (isDeclaredBy_ofSource (.block h')).ordered
  refine hordered'.eq_of_mem_iff (List.pairwise_map.2 (hordered.imp_of_mem ?_)) fun g => ?_
  · intro f g hf _ hfg
    obtain ⟨d, hd, -⟩ := (mem_fields_iff_declaredAt h).1 hf
    simp only
    omega
  · rw [mem_fields_iff_declaredAt h', ← hsame, List.mem_map]
    constructor
    · rintro ⟨d, hd, hdeclared⟩
      refine ⟨{ g with line := o + d }, (mem_fields_iff_declaredAt h).2 ⟨d, rfl, hdeclared⟩, ?_⟩
      rw [Nat.add_sub_cancel_left, Nat.add_comm d, ← hd]
    · rintro ⟨f, hf, rfl⟩
      obtain ⟨d, hd, hdeclared⟩ := (mem_fields_iff_declaredAt h).1 hf
      refine ⟨d, ?_, hdeclared⟩
      simp only
      omega

/-- A parsed contract always has a name. -/
theorem name_parse_ne_nil (source : Text) : (Contract.parse source).name ≠ [] := by
  obtain ⟨o, c, h⟩ := exists_storageExtent (lines source)
  have hstruct {l name : Text} (h : DeclaresStruct l name) : name ≠ [] := by
    obtain ⟨-, -, -, ⟨-, -, -, -, -, -, -, -, hname, -⟩, -⟩ := h
    exact hname.1
  change (ofSource source).contractName.getD Contract.unknownName ≠ []
  cases hname : (ofSource source).contractName with
  | none => decide
  | some name =>
    rcases ((isDeclaredBy_ofSource h).contractName_iff name).1 hname with
      ⟨m, -, -, ⟨l, -, hl⟩, -⟩ | ⟨-, n, ⟨-, m, -, -, ⟨l, -, hl⟩, -⟩, -⟩
    · exact hstruct hl
    · exact hstruct hl

namespace StorageLayout

/-- The layout of a source is the one that its storage block declares, whatever stands around the
block, and a contract always has a name. -/
theorem isDeclaredBy_extent (source : Text) :
    (∃ o c, StorageExtent (lines source) o c) ∧
    (∀ o c, StorageExtent (lines source) o c →
      (ofSource source).IsDeclaredBy (lines source) o c) ∧
    (∀ (source' : Text) (o c o' c' : Nat), IsStorageBlock (lines source) o c →
      IsStorageBlock (lines source') o' c' →
      linesFromTo (lines source) o c = linesFromTo (lines source') o' c' →
      (ofSource source').fields =
        (ofSource source).fields.map fun f => { f with line := f.line - o + o' }) ∧
    (Contract.parse source).fields = (ofSource source).fields ∧
    (Contract.parse source).name = (ofSource source).contractName.getD "UnknownContract" ∧
    (Contract.parse source).name ≠ [] :=
  ⟨exists_storageExtent _, fun _ _ h => isDeclaredBy_ofSource h,
    fun _ _ _ _ _ h h' hsame => fields_eq_of_same_block h h' hsame, rfl, rfl,
    name_parse_ne_nil source⟩

/-- A storage block of five lines. -/
def pairBlock : List Text :=
  ["sol_storage! \x7b", "    pub struct Pair \x7b", "        uint256 low;",
    "        uint256 high; \x7d", "\x7d"]

/-- The block ahead of another one. -/
def pairSource : Text :=
  unlines (pairBlock ++ (["", "sol_storage! \x7b", "    pub struct Other \x7b",
    "        uint256 more;", "    \x7d", "\x7d"] : List Text))

/-- The block below fields and a struct that are none of its own. -/
def latePairSource : Text :=
  unlines ((["    uint256 early;", "#[storage]", "pub struct First;"] : List Text) ++ pairBlock)

/-- Two storage blocks, of which only the first counts, wherever it stands. -/
theorem isDeclaredBy_extent_pairSource :
    IsStorageBlock (lines pairSource) 1 5 ∧
      (ofSource pairSource).IsDeclaredBy (lines pairSource) 1 5 ∧
      IsStorageBlock (lines latePairSource) 4 8 ∧
      (ofSource latePairSource).fields = [⟨"low", "uint256", 6⟩, ⟨"high", "uint256", 7⟩] := by
  have hblock : IsStorageBlock (lines pairSource) 1 5 := by decide +kernel
  have hlate : IsStorageBlock (lines latePairSource) 4 8 := by decide +kernel
  have hsame : linesFromTo (lines pairSource) 1 5 = linesFromTo (lines latePairSource) 4 8 := by
    decide +kernel
  obtain ⟨-, hdeclared, hmoved, -⟩ := isDeclaredBy_extent pairSource
  refine ⟨hblock, hdeclared 1 5 (.block hblock), hlate, ?_⟩
  rw [hmoved latePairSource 1 5 4 8 hblock hlate hsame]
  decide +kernel

end StorageLayout

end StylusSurvey
