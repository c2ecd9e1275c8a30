import StylusSurvey.Proofs.Enclosure

/-!
# Depth bookkeeping

While the scanner collects a function, the depth of the block it is in is split over two
counters, that of the region and that of the function, and when the function ends the one is
added to the other. `ScanState.Accounts` says what the counters and the collected lines have to
do with the lines read so far: the depths add up to the brace sum of the lines since the header
of the block (`BlockLines`), however many functions have been collected among them.

A scanner that starts outside keeps its accounts over every line (`Accounts.step`), and so after
every number of lines, whatever the number of the first (`accounts_run`).
-/

namespace StylusSurvey

open Declaration ScanState

variable {n : Nat} {ls before block : List Text} {l : Text} {d : BraceDepth}

/-! ## The lines of a block -/

/-- From the state, the line brings the scanner to the header of a marked block: it is the header
under a marker, or marker and header in one. -/
def ScanState.MeetsHeader : ScanState → Text → Prop
  | outside, l => (afterMarker? l).any isImplHeader = true
  | armed, l => isImplHeader l = true
  | region _, _ => False
  | collecting .., _ => False

/-- A scanner that has read the lines `before`, numbered from `n` on, meets the header of a block
on the first line of `block` and is inside that block after it and after every later line. -/
structure BlockLines (n : Nat) (before block : List Text) : Prop where
  header : ∃ l rest, block = l :: rest ∧ (outside.run n before).1.MeetsHeader l
  inside : ∀ p, p <+: block → p ≠ [] → (outside.run n (before ++ p)).1.inside = true

theorem ScanState.run_append_singleton (n : Nat) (ls : List Text) (l : Text) :
    (outside.run n (ls ++ [l])).1 = ((outside.run n ls).1.step l (n + ls.length)).1 := by
  rw [run_append]
  rfl

theorem blockLines_singleton (h : (outside.run n ls).1.MeetsHeader l)
    (hin : (outside.run n (ls ++ [l])).1.inside = true) : BlockLines n ls [l] where
  header := ⟨l, [], rfl, h⟩
  inside := by
    intro p hp hne
    rcases List.prefix_concat_iff.1 (show p <+: [] ++ [l] from hp) with rfl | hp
    · exact hin
    · exact absurd (List.prefix_nil.1 hp) hne

/-- A block goes on with every line after which the scanner is still inside. -/
theorem BlockLines.append (h : BlockLines n before block)
    (hin : (outside.run n (before ++ block ++ [l])).1.inside = true) :
    BlockLines n before (block ++ [l]) where
  header := by
    obtain ⟨m, rest, rfl, hheader⟩ := h.header
    exact ⟨m, rest ++ [l], rfl, hheader⟩
  inside := by
    intro p hp hne
    rcases List.prefix_concat_iff.1 hp with rfl | hp
    · rwa [← List.append_assoc]
    · exact h.inside p hp hne

/-- The lines end with those of the block in which the scanner is, and their braces have the
sum `depth`. -/
def BlockSum (n : Nat) (ls : List Text) (depth : Int) : Prop :=
  ∃ before block, ls = before ++ block ∧ BlockLines n before block ∧ depth = braceSum block

/-- The next line of a block adds its braces to the sum. -/
theorem BlockSum.append {depth : Int} (h : BlockSum n ls depth)
    (hin : (outside.run n (ls ++ [l])).1.inside = true) :
    BlockSum n (ls ++ [l]) (depth + braceDelta l) := by
  obtain ⟨before, block, rfl, hblock, rfl⟩ := h
  exact ⟨before, block ++ [l], List.append_assoc before block [l], hblock.append hin, by simp⟩

/-! ## The accounts of the scanner -/

/-- What the state of a scanner says about the lines `ls` that it has read, numbered from `n` on.
In a region the depth is the brace sum of the block. In a function the two depths add up to it,
the collected lines are those from the start line on, and they begin with a public function and
have the brace sum of the second counter. No counter is closed. -/
def ScanState.Accounts (n : Nat) (ls : List Text) : ScanState → Prop
  | outside => True
  | armed => True
  | region d => d.isClosed = false ∧ BlockSum n ls d.depth
  | collecting d f s acc =>
    d.isClosed = false ∧ f.isClosed = false ∧
      acc ≠ [] ∧ n ≤ s ∧ acc = ls.drop (s - n) ∧ acc.head?.any isPublicFunction = true ∧
      f.depth = braceSum acc ∧ BlockSum n ls (d.depth + f.depth)

/-- At the header of a block the depth is that of its line. -/
theorem accounts_atHeader {m : Text} (hheader : (outside.run n ls).1.MeetsHeader l)
    (hm : braceDelta m = braceDelta l) (hq : (outside.run n (ls ++ [l])).1 = atHeader m) :
    (atHeader m).Accounts n (ls ++ [l]) := by
  rcases atHeader_cases m with h | h
  · rw [h]
    trivial
  · rw [h] at hq ⊢
    refine ⟨?_, ls, [l], rfl, blockLines_singleton hheader (by rw [hq]; rfl), by simp [hm]⟩
    rw [Bool.eq_false_iff, ne_eq, BraceDepth.isClosed_after]
    exact not_braceClosed_singleton

/-- A region that goes on after a line has the depth of its block with that line. -/
theorem accounts_afterFunction {depth : Int} (h : BlockSum n ls depth)
    (hd : d.depth = depth + braceDelta l)
    (hq : (outside.run n (ls ++ [l])).1 = afterFunction d) :
    (afterFunction d).Accounts n (ls ++ [l]) := by
  rcases afterFunction_cases d with hout | ⟨hregion, hopen⟩
  · rw [hout]
    trivial
  · rw [hregion] at hq ⊢
    refine ⟨hopen, ?_⟩
    rw [hd]
    exact h.append (by rw [hq]; rfl)

/-- A scanner with right accounts has right accounts after one more line. -/
theorem ScanState.Accounts.step {q q' : ScanState} {o : Option FunctionBlock}
    (hq : (outside.run n ls).1 = q) (hq' : (outside.run n (ls ++ [l])).1 = q')
    (h : q.Accounts n ls) (hstep : Transition l (n + ls.length) q q' o) :
    q'.Accounts n (ls ++ [l]) := by
  cases hstep with
  | pass | marker | preamble | disarm => trivial
  | joined hmarker hrest =>
    refine accounts_atHeader ?_ (braceDelta_afterMarker? hmarker) hq'
    rw [hq, MeetsHeader, hmarker]
    exact hrest
  | header hheader =>
    refine accounts_atHeader ?_ rfl hq'
    rw [hq]
    exact hheader
  | filler =>
    obtain ⟨-, hsum⟩ := h
    exact accounts_afterFunction hsum rfl hq'
  | oneLine =>
    obtain ⟨-, hsum⟩ := h
    exact accounts_afterFunction hsum rfl hq'
  | start hpub =>
    obtain ⟨hopen, hsum⟩ := h
    have hin : (outside.run n (ls ++ [l])).1.inside = true := by rw [hq']; rfl
    have hfirst : ¬BraceClosed [l] := not_braceClosed_singleton
    rw [← BraceDepth.isClosed_after, Bool.not_eq_true] at hfirst
    refine ⟨hopen, hfirst, List.cons_ne_nil l [], Nat.le_add_right n _, ?_, hpub, by simp, ?_⟩
    · rw [Nat.add_sub_cancel_left, List.drop_left]
    · have hsum' := hsum.append hin
      simpa using hsum'
  | @more d f s acc hmore =>
    obtain ⟨hopen, -, hne, hs, hacc, hpub, hdepth, hsum⟩ := h
    have hin : (outside.run n (ls ++ [l])).1.inside = true := by rw [hq']; rfl
    have hlen : s - n ≤ ls.length := by
      by_contra hlt
      exact hne (by rw [hacc, List.drop_eq_nil_iff]; omega)
    refine ⟨hopen, hmore, by simp, hs, ?_, ?_, ?_, ?_⟩
    · rw [List.drop_append_of_le_length hlen, ← hacc]
    · obtain ⟨m, rest, rfl⟩ := List.exists_cons_of_ne_nil hne
      exact hpub
    · simp [BraceDepth.feed, hdepth]
    · have hsum' := hsum.append hin
      rwa [Int.add_assoc] at hsum'
  | @finish d f s acc =>
    obtain ⟨-, -, -, -, -, -, -, hsum⟩ := h
    exact accounts_afterFunction hsum (Int.add_assoc d.depth f.depth _).symm hq'

/-- A scanner that starts outside keeps right accounts over all lines, whatever the number of the
first. -/
theorem accounts_run (n : Nat) (ls : List Text) : (outside.run n ls).1.Accounts n ls := by
  induction ls using List.reverseRecOn with
  | nil => trivial
  | append_singleton ls l ih =>
    have hstep := transition_step (outside.run n ls).1 l (n + ls.length)
    rw [← run_append_singleton] at hstep
    exact ih.step rfl rfl hstep

example :
    let block : List Text :=
      ["#[public]", "impl Counter \x7b", "    pub fn get(&self) -> U256 \x7b", "        self.n.get()",
        "    \x7d"]
    (outside.run 1 (block.take 2)).1 = region ⟨1, true⟩ ∧
      (outside.run 1 (block.take 4)).1 =
        collecting ⟨1, true⟩ ⟨1, true⟩ 3
          ["    pub fn get(&self) -> U256 \x7b", "        self.n.get()"] ∧
      (outside.run 1 block).1 = region ⟨1, true⟩ := by decide

end StylusSurvey
