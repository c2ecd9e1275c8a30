import StylusSurvey.Proofs.Positions

/-!
# Blocks as slices of the source

The scanner emits the functions of a source in order, each as the lines it was read from,
and no line goes into two of them. A function that is being collected has been so since
its start line (`collecting_of_le`), and after a block is emitted nothing is collected, so
the next block starts further down (`startLine_of_emitted_after`). The extent of a block
is the least one that its braces allow (`FunctionExtent`), and the whole list of blocks is
described by `functionBlocks_slices`.
-/

namespace StylusSurvey

open Declaration ScanState

variable {ls : List Text} {s e j k k' : Nat} {b c : FunctionBlock}

/-! ## The extent of a function -/

/-- The braces of the lines from `s` to `k` have been open after an earlier one of these lines and
are closed after the last. -/
def ClosedAt (ls : List Text) (s k : Nat) : Prop :=
  (∃ j, s ≤ j ∧ j < k ∧ 0 < braceSum (linesFromTo ls s j)) ∧ braceSum (linesFromTo ls s k) ≤ 0

/-- A public function begins on line `s`, and either its braces open and close on that line, which
is line `e`, or `e` is the first line below at which they are closed. -/
def FunctionExtent (ls : List Text) (s e : Nat) : Prop :=
  ∃ l, ls[s - 1]? = some l ∧ isPublicFunction l = true ∧
    (s = e ∧ EndsOnLine l ∨
      s < e ∧ ClosedAt ls s e ∧ ∀ k, s < k → k < e → ¬ClosedAt ls s k)

/-- Lines close a block exactly if their braces are closed at the last of them. -/
theorem braceClosed_linesFromTo : BraceClosed (linesFromTo ls s k) ↔ ClosedAt ls s k := by
  rw [BraceClosed, braceOpened_linesFromTo, ClosedAt]
  refine and_congr_left fun hsum => ⟨?_, ?_⟩
  · rintro ⟨j, hj, hpos⟩
    refine ⟨j, ?_, ?_, hpos⟩
    · by_contra hlt
      rw [linesFromTo_of_lt (Nat.not_le.1 hlt)] at hpos
      exact absurd hpos (by simp)
    · refine lt_of_le_of_ne hj ?_
      rintro rfl
      omega
  · rintro ⟨j, -, hj, hpos⟩
    exact ⟨j, hj.le, hpos⟩

theorem linesFromTo_eq_cons (hs : 1 ≤ s) (hse : s ≤ e) (he : e ≤ ls.length) :
    ∃ l rest, ls[s - 1]? = some l ∧ linesFromTo ls s e = l :: rest := by
  have hlen : s - 1 < ls.length := by omega
  have hself : linesFromTo ls s s = [ls[s - 1]] := by
    obtain ⟨n, rfl⟩ := Nat.exists_eq_add_of_le' hs
    exact linesFromTo_self hlen
  have hprefix : linesFromTo ls s s <+: linesFromTo ls s e := linesFromTo_prefix hse
  obtain ⟨rest, hrest⟩ := hprefix
  rw [hself] at hrest
  exact ⟨ls[s - 1], rest, List.getElem?_eq_getElem hlen, hrest.symm⟩

/-- The lines of a function are the least extent of one that begins on their first line. -/
theorem FunctionLines.functionExtent (hs : 1 ≤ s) (hse : s ≤ e) (he : e ≤ ls.length)
    (h : FunctionLines (linesFromTo ls s e)) : FunctionExtent ls s e := by
  obtain ⟨l, rest, hl, hlines⟩ := linesFromTo_eq_cons hs hse he
  have hlen := length_linesFromTo (i := s) he
  rw [hlines] at h hlen
  rw [List.length_cons] at hlen
  refine ⟨l, hl, ?_⟩
  cases h with
  | oneLine hpub hends =>
    refine ⟨hpub, Or.inl ⟨?_, hends⟩⟩
    rw [List.length_nil] at hlen
    omega
  | block hpub hends hclose =>
    rw [← hlines] at hclose
    have hclosed := braceClosed_linesFromTo.1 hclose.1
    obtain ⟨j, hj, hje, -⟩ := hclosed.1
    refine ⟨hpub, Or.inr ⟨by omega, hclosed, fun k hk hke hc => ?_⟩⟩
    have hbelow : linesFromTo ls s k <+: linesFromTo ls s e := linesFromTo_prefix hke.le
    refine hclose.2 _ hbelow ?_ (braceClosed_linesFromTo.2 hc)
    intro heq
    have hshort : (linesFromTo ls s k).length = k - (s - 1) :=
      length_linesFromTo (hke.le.trans he)
    rw [heq, length_linesFromTo he] at hshort
    omega

/-! ## The order of the blocks -/

namespace ScanState

/-- A function that is being collected has been so since its start line. -/
theorem collecting_of_le {d f : BraceDepth} {acc : List Text} (hk : k ≤ ls.length)
    (h : stateAfter ls k = collecting d f s acc) (hsj : s ≤ j) (hjk : j ≤ k) :
    ∃ f' acc', stateAfter ls j = collecting d f' s acc' := by
  induction k generalizing f acc with
  | zero => cases h
  | succ k ih =>
    rcases Nat.lt_or_eq_of_le hjk with hlt | rfl
    · have hstep := transition_stateAfter hk
      rw [h] at hstep
      rcases hstep.to_collecting with ⟨-, -, -, rfl, -⟩ | ⟨f', acc', hq, -⟩
      · omega
      · exact ih (by omega) hq (by omega)
    · exact ⟨f, acc, h⟩

/-- Directly after a block nothing is collected. -/
theorem Transition.ne_collecting {l : Text} {n : Nat} {q q' : ScanState} {d f : BraceDepth}
    {acc : List Text} (h : Transition l n q q' (some b)) : q' ≠ collecting d f s acc := by
  cases h with
  | oneLine => exact afterFunction_ne_collecting
  | finish => exact afterFunction_ne_collecting

/-- A block that is completed further down also starts further down. -/
theorem startLine_of_emitted_after (hkk : k < k') (hk : k < ls.length) (hk' : k' < ls.length)
    (hb : ((stateAfter ls k).step ls[k] (k + 1)).2 = some b)
    (hc : ((stateAfter ls k').step ls[k'] (k' + 1)).2 = some c) : k + 1 < c.startLine := by
  have hstep := transition_stateAfter hk'
  rw [hc] at hstep
  generalize hq : stateAfter ls k' = q at hstep
  generalize stateAfter ls (k' + 1) = q' at hstep
  cases hstep with
  | oneLine => exact Nat.succ_lt_succ hkk
  | @finish d f s acc =>
    by_contra hle
    obtain ⟨f', acc', hq'⟩ := collecting_of_le hk'.le hq (Nat.not_lt.1 hle) hkk
    have hbefore := transition_stateAfter hk
    rw [hb] at hbefore
    exact hbefore.ne_collecting hq'

/-- Over the first `k` lines, each block ends above the next. -/
theorem pairwise_run_take (hls : ∀ l ∈ ls, '\n' ∉ l) (hk : k ≤ ls.length) :
    (outside.run 1 (ls.take k)).2.Pairwise fun b c => b.lastLine < c.startLine := by
  induction k with
  | zero => simp
  | succ k ih =>
    have hlen : (ls.take k).length = k := by simp; omega
    rw [List.take_succ_eq_append_getElem hk, run_append, run_cons, hlen, Nat.add_comm 1 k,
      run_nil, List.append_nil]
    refine List.pairwise_append.2 ⟨ih (by omega), ?_, fun b hb c hc => ?_⟩
    · cases ((outside.run 1 (ls.take k)).1.step ls[k] (k + 1)).2 <;> simp
    · obtain ⟨i, hi, hemit⟩ := mem_run_iff.1 hb
      rw [hlen] at hi
      rw [List.getElem_take, List.take_take, Nat.min_eq_left hi.le, Nat.add_comm 1 i] at hemit
      have hlast := lastLine_emitted hls (hi.trans hk) hemit
      rw [hlast]
      exact startLine_of_emitted_after hi (hi.trans hk) hk hemit (Option.mem_toList.1 hc)

end ScanState

/-- The blocks of a source are slices of its lines, each of the least extent, one below the
other. -/
theorem functionBlocks_slices (source : Text) :
    (functionBlocks source).Pairwise (fun b c => b.lastLine < c.startLine) ∧
      ∀ b ∈ functionBlocks source, 1 ≤ b.startLine ∧ b.startLine ≤ b.lastLine ∧
        b.lastLine ≤ (Text.lines source).length ∧
        b.text = Text.unlines (linesFromTo (Text.lines source) b.startLine b.lastLine) ∧
        FunctionExtent (Text.lines source) b.startLine b.lastLine := by
  have hls : ∀ l ∈ Text.lines source, '\n' ∉ l := fun _ hl => Text.not_mem_of_mem_lines hl
  refine ⟨?_, fun b hb => ?_⟩
  · have h := pairwise_run_take hls le_rfl
    rwa [List.take_length] at h
  · obtain ⟨k, hk, hemit⟩ := mem_run_iff.1 hb
    rw [Nat.add_comm 1 k] at hemit
    obtain ⟨hs, hsk, hlines, htext⟩ := emitted_block hk hemit
    rw [lastLine_emitted hls hk hemit]
    exact ⟨hs, hsk, hk, htext, hlines.functionExtent hs hsk hk⟩

/-- A function on one line and one over several, with a block of its own inside. -/
def stackedSource : Text :=
  Text.unlines ["#[public]", "impl Vault \x7b", "    pub fn one(&self) -> u8 \x7b 1 \x7d",
    "    pub fn add(&mut self) \x7b", "        if self.open() \x7b", "            self.push();",
    "        \x7d", "    \x7d", "\x7d"]

/-- Two functions below each other, the first of them on one line. -/
theorem functionBlocks_slices_stackedSource :
    (functionBlocks stackedSource).map (fun b => (b.startLine, b.lastLine)) = [(3, 3), (4, 8)] ∧
      FunctionExtent (Text.lines stackedSource) 3 3 ∧
      FunctionExtent (Text.lines stackedSource) 4 8 := by
  have hends : (functionBlocks stackedSource).map (fun b => (b.startLine, b.lastLine)) =
      [(3, 3), (4, 8)] := by decide +kernel
  have hextent : ∀ p ∈ ([(3, 3), (4, 8)] : List (Nat × Nat)),
      FunctionExtent (Text.lines stackedSource) p.1 p.2 := by
    intro p hp
    rw [← hends] at hp
    obtain ⟨b, hb, rfl⟩ := List.mem_map.1 hp
    obtain ⟨-, -, -, -, h⟩ := (functionBlocks_slices stackedSource).2 b hb
    exact h
  exact ⟨hends, hextent (3, 3) (by simp), hextent (4, 8) (by simp)⟩

end StylusSurvey
