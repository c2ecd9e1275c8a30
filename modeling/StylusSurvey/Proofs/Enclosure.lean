import StylusSurvey.Contract.Parse
import StylusSurvey.Proofs.Declarations
import StylusSurvey.Proofs.Positions

/-!
# The block a function is taken from

A function should stand in the open block of a marked `impl`: some header with a marker
in front of it (`HeaderUnder`) has opened its braces by the first line of the function
and keeps them open up to the line before its last one (`HeldOpen`, `Enclosed`).

The scanner counts the depth of a region on the lines outside functions and at the end of
each function, and does not look at it in between. So the block may close on a line that
the scanner has taken for part of a function, and it goes on in a region that is over
(`exposed_after_close`). These are the only lines on which that can happen: every other
line that closes the block ends the region (`InRegion.advance`). A function is enclosed
exactly when its block has opened by its first line and no line of a function closes it
before the last line, or when it is enclosed by a header other than that of its region
(`enclosed_iff`).
-/

namespace StylusSurvey

open Declaration ScanState

variable {ls : List Text} {i j k k' m s : Nat} {d d' : BraceDepth} {b : FunctionBlock}

/-! ## Enclosed functions -/

/-- Line `i` is an `impl` header whose marker stands on line `m`: the same line, or one above with
preamble lines only in between. -/
def HeaderUnder (ls : List Text) (m i : Nat) : Prop :=
  (m = i ∧ (lineAt ls i).any (fun l => (afterMarker? l).any isImplHeader) = true) ∨
    (m < i ∧ (lineAt ls m).any (fun l => (afterMarker? l).isSome) = true ∧
      (∀ k < i, m < k → (lineAt ls k).any isPreamble = true) ∧
      (lineAt ls i).any isImplHeader = true)

/-- The block that begins on line `i` has opened by line `s` and is not closed after any line
before line `e`. -/
def HeldOpen (ls : List Text) (i s e : Nat) : Prop :=
  BraceOpened (linesFromTo ls i s) ∧ ∀ k < e, ¬BraceClosed (linesFromTo ls i k)

/-- The function stands in the open block of a marked `impl`. -/
def Enclosed (ls : List Text) (b : FunctionBlock) : Prop :=
  ∃ m i, m ≤ i ∧ i ≤ b.startLine ∧ HeaderUnder ls m i ∧ HeldOpen ls i b.startLine b.lastLine

/-- The line belongs to a function that the scanner finds. -/
def FunctionLine (ls : List Text) (k : Nat) : Prop :=
  ∃ c ∈ (outside.run 1 ls).2, c.startLine ≤ k ∧ k ≤ c.lastLine

instance (ls : List Text) (m i : Nat) : Decidable (HeaderUnder ls m i) :=
  inferInstanceAs (Decidable (_ ∨ _))

instance (ls : List Text) (i s e : Nat) : Decidable (HeldOpen ls i s e) :=
  inferInstanceAs (Decidable (_ ∧ _))

instance (ls : List Text) (b : FunctionBlock) : Decidable (Enclosed ls b) :=
  decidable_of_iff (∃ i < b.startLine + 1, ∃ m < i + 1, HeaderUnder ls m i ∧
    HeldOpen ls i b.startLine b.lastLine) <| by
    constructor
    · rintro ⟨i, hi, m, hm, h⟩
      exact ⟨m, i, Nat.le_of_lt_succ hm, Nat.le_of_lt_succ hi, h⟩
    · rintro ⟨m, i, hm, hi, h⟩
      exact ⟨i, Nat.lt_succ_of_le hi, m, Nat.lt_succ_of_le hm, h⟩

instance (ls : List Text) (k : Nat) : Decidable (FunctionLine ls k) :=
  inferInstanceAs (Decidable (∃ c ∈ (outside.run 1 ls).2, _))

/-! ## The region of a function -/

/-- The scanner is in a region, between functions or in one. -/
def ScanState.inside : ScanState → Bool
  | outside => false
  | armed => false
  | region _ => true
  | collecting .. => true

/-- The scanner enters a region on line `i` and does not leave it before line `s`. -/
def Entered (ls : List Text) (i s : Nat) : Prop :=
  1 ≤ i ∧ i < s ∧ (stateAfter ls (i - 1)).inside = false ∧
    ∀ k < s, i ≤ k → (stateAfter ls k).inside = true

instance (ls : List Text) (i s : Nat) : Decidable (Entered ls i s) :=
  inferInstanceAs (Decidable (_ ∧ _))

theorem Entered.of_le {s' : Nat} (h : Entered ls i s) (his : i < s') (hs : s' ≤ s) :
    Entered ls i s' :=
  ⟨h.1, his, h.2.2.1, fun k hk => h.2.2.2 k (by omega)⟩

theorem Entered.succ (h : Entered ls i s) (hs : (stateAfter ls s).inside = true) :
    Entered ls i (s + 1) := by
  refine ⟨h.1, Nat.lt_succ_of_lt h.2.1, h.2.2.1, fun k hk hik => ?_⟩
  rcases Nat.lt_succ_iff_lt_or_eq.1 hk with hk | rfl
  · exact h.2.2.2 k hk hik
  · exact hs

/-- A region is entered on one line only. -/
theorem Entered.unique (h : Entered ls i s) (h' : Entered ls j s) : i = j := by
  obtain ⟨hi, his, hout, hin⟩ := h
  obtain ⟨hj, hjs, hout', hin'⟩ := h'
  rcases Nat.lt_trichotomy i j with hlt | heq | hlt
  · rw [hin (j - 1) (by omega) (by omega)] at hout'
    cases hout'
  · exact heq
  · rw [hin' (i - 1) (by omega) (by omega)] at hout
    cases hout

/-- Some line of a function up to line `k` closes the block that begins on line `i`. -/
def Broken (ls : List Text) (i k : Nat) : Prop :=
  ∃ j ≤ k, FunctionLine ls j ∧ BraceClosed (linesFromTo ls i j)

theorem Broken.of_le (h : Broken ls i k) (hk : k ≤ k') : Broken ls i k' := by
  obtain ⟨j, hj, hrest⟩ := h
  exact ⟨j, hj.trans hk, hrest⟩

/-- What the depth `d` of a region, entered on line `i`, says after line `k`: it is the brace sum
since the header, and it has missed an opening or a closing only if a line of a function
closes the block. -/
structure InRegion (ls : List Text) (i k : Nat) (d : BraceDepth) : Prop where
  header : ∃ m ≤ i, HeaderUnder ls m i
  depth : d.depth = braceSum (linesFromTo ls i k)
  opened : BraceOpened (linesFromTo ls i k) → d.opened = true ∨ Broken ls i k
  closed : ∀ j ≤ k, BraceClosed (linesFromTo ls i j) → Broken ls i j

/-- The depth stays right over one more line, or over the lines of a function. -/
theorem InRegion.advance (h : InRegion ls i k d) (hik : i ≤ k) (hk : k < k')
    (hk' : k' ≤ ls.length)
    (hdepth : d' = d.add (braceSum (linesFromTo ls (k + 1) k'))) (hopen : d'.isClosed = false)
    (hfun : k' = k + 1 ∨ ∀ j, k < j → j ≤ k' → FunctionLine ls j) : InRegion ls i k' d' := by
  have hsum : d'.depth = braceSum (linesFromTo ls i k') := by
    rw [hdepth, BraceDepth.depth_add, h.depth, ← braceSum_append]
    congr 1
    exact linesFromTo_append (s := k + 1) (by omega) (by omega) hk'
  have hopened : BraceOpened (linesFromTo ls i k') → d'.opened = true ∨ Broken ls i k' := by
    intro ho
    rcases Int.lt_or_le 0 d'.depth with hpos | hnonpos
    · rw [hdepth] at hpos ⊢
      exact Or.inl ((BraceDepth.opened_add _ _).2 (Or.inr hpos))
    · obtain ⟨j, hj, hpos⟩ := braceOpened_linesFromTo.1 ho
      rcases Nat.lt_or_ge k j with hkj | hjk
      -- The sum was positive inside a function, whose last line closes the block.
      · rcases hfun with rfl | hfun
        · obtain rfl : j = k + 1 := by omega
          omega
        · exact Or.inr ⟨k', le_rfl, hfun k' hk le_rfl, ho, hsum ▸ hnonpos⟩
      · rcases h.opened (braceOpened_linesFromTo.2 ⟨j, hjk, hpos⟩) with hd | hbroken
        · rw [hdepth]
          exact Or.inl ((BraceDepth.opened_add _ _).2 (Or.inl hd))
        · exact Or.inr (hbroken.of_le hk.le)
  refine ⟨h.header, hsum, hopened, fun j hj hc => ?_⟩
  rcases Nat.lt_or_ge k j with hkj | hjk
  · rcases hfun with rfl | hfun
    · obtain rfl : j = k + 1 := by omega
      rcases hopened hc.1 with hd | hbroken
      · have : d'.isClosed = true := (BraceDepth.isClosed_iff d').2 ⟨hd, hsum ▸ hc.2⟩
        simp [this] at hopen
      · exact hbroken
    · exact ⟨j, le_rfl, hfun j hkj hj, hc⟩
  · exact h.closed j hjk hc

/-- At its header, a region has the depth of that line. -/
theorem inRegion_header (hk : k < ls.length) (hm : ∃ m ≤ k + 1, HeaderUnder ls m (k + 1))
    {l : Text} (hl : braceDelta l = braceDelta ls[k]) :
    InRegion ls (k + 1) (k + 1) (BraceDepth.after [l]) := by
  have hsum : braceSum (linesFromTo ls (k + 1) (k + 1)) = braceSum [l] := by
    rw [linesFromTo_self hk]
    simp [hl]
  refine ⟨hm, by simp [hsum], fun ho => Or.inl ?_, fun j hj hc => ?_⟩
  · rw [linesFromTo_self hk] at ho hsum
    have hpos := ((@braceOpened_append_singleton [] ls[k]).1 ho).resolve_left not_braceOpened_nil
    exact (BraceDepth.opened_after [l]).2 ⟨[l], List.prefix_rfl, hsum ▸ hpos⟩
  · rcases Nat.lt_or_eq_of_le hj with hj | rfl
    · rw [linesFromTo_of_lt hj] at hc
      exact absurd hc not_braceClosed_nil
    · rw [linesFromTo_self hk] at hc
      exact absurd hc not_braceClosed_singleton

/-- Where the scanner stands after `k` lines. -/
def Standing (ls : List Text) (k : Nat) : ScanState → Prop
  | outside => True
  | armed => ∃ m ≤ k, (lineAt ls m).any (fun l => (afterMarker? l).isSome) = true ∧
      ∀ j ≤ k, m < j → (lineAt ls j).any isPreamble = true
  | region d => ∃ i, Entered ls i (k + 1) ∧ InRegion ls i k d
  | collecting d _ s _ => ∃ i, Entered ls i (k + 1) ∧ i < s ∧ InRegion ls i (s - 1) d

/-- A function that a line completes is among those of the run. -/
theorem mem_run_of_emitted (hk : k < ls.length)
    (h : ((stateAfter ls k).step ls[k] (k + 1)).2 = some b) : b ∈ (outside.run 1 ls).2 :=
  mem_run_iff.2 ⟨k, hk, by rwa [Nat.add_comm 1 k]⟩

/-- All lines from the start of a function to the one that completes it are lines of a function. -/
theorem functionLine_of_emitted (hls : ∀ l ∈ ls, '\n' ∉ l) (hk : k < ls.length)
    (h : ((stateAfter ls k).step ls[k] (k + 1)).2 = some b) (hs : b.startLine ≤ j)
    (hj : j ≤ k + 1) : FunctionLine ls j :=
  ⟨b, mem_run_of_emitted hk h, hs, by rwa [lastLine_emitted hls hk h]⟩

/-- The region that begins on line `k + 1`, under the marker of line `m`. -/
theorem standing_atHeader (hk : k < ls.length) (hout : (stateAfter ls k).inside = false)
    (hm : ∃ m ≤ k + 1, HeaderUnder ls m (k + 1)) {l : Text} (hl : braceDelta l = braceDelta ls[k])
    (hq : stateAfter ls (k + 1) = atHeader l) : Standing ls (k + 1) (atHeader l) := by
  rcases atHeader_cases l with h | h
  · rw [h]
    trivial
  · rw [h] at hq ⊢
    refine ⟨k + 1, ⟨by omega, by omega, hout, fun j hj hkj => ?_⟩, inRegion_header hk hm hl⟩
    obtain rfl : j = k + 1 := by omega
    rw [hq]
    rfl

/-- The region goes on after the lines up to number `k'`, or it is over. -/
theorem standing_afterFunction (hent : Entered ls i k') (h : InRegion ls i k d) (hik : i ≤ k)
    (hk : k < k') (hk' : k' ≤ ls.length)
    (hdepth : d' = d.add (braceSum (linesFromTo ls (k + 1) k')))
    (hfun : k' = k + 1 ∨ ∀ j, k < j → j ≤ k' → FunctionLine ls j)
    (hq : stateAfter ls k' = afterFunction d') : Standing ls k' (afterFunction d') := by
  rcases afterFunction_cases d' with hd | ⟨hd, hopen⟩
  · rw [hd]
    trivial
  · rw [hd] at hq ⊢
    refine ⟨i, hent.succ ?_, h.advance hik hk hk' hdepth hopen hfun⟩
    rw [hq]
    rfl

/-- After every number of lines, the scanner stands where the lines say. -/
theorem standing_stateAfter (hls : ∀ l ∈ ls, '\n' ∉ l) (hk : k ≤ ls.length) :
    Standing ls k (stateAfter ls k) := by
  induction k with
  | zero => trivial
  | succ k ih =>
    have hstanding := ih (by omega)
    have hstep := transition_stateAfter hk
    generalize hq' : stateAfter ls (k + 1) = q' at hstep ⊢
    generalize hq : stateAfter ls k = q at hstep hstanding
    generalize ho : (q.step ls[k] (k + 1)).2 = o at hstep
    cases hstep with
    | pass | disarm => trivial
    | marker h =>
      refine ⟨k + 1, le_rfl, by simp [lineAt_succ hk, h], fun j hj hkj => ?_⟩
      omega
    | joined h hrest =>
      refine standing_atHeader hk (by rw [hq]; rfl) ⟨k + 1, le_rfl, Or.inl ⟨rfl, ?_⟩⟩
        (braceDelta_afterMarker? h) hq'
      simp [lineAt_succ hk, h, hrest]
    | preamble h =>
      obtain ⟨m, hm, hmarker, hpre⟩ := hstanding
      refine ⟨m, by omega, hmarker, fun j hj hmj => ?_⟩
      rcases Nat.lt_or_eq_of_le hj with hj | rfl
      · exact hpre j (by omega) hmj
      · simpa [lineAt_succ hk] using h
    | header h =>
      obtain ⟨m, hm, hmarker, hpre⟩ := hstanding
      refine standing_atHeader hk (by rw [hq]; rfl) ⟨m, by omega, Or.inr ⟨by omega, hmarker,
        fun j hj => hpre j (by omega), ?_⟩⟩ rfl hq'
      simpa [lineAt_succ hk] using h
    | filler h =>
      obtain ⟨i, hent, hin⟩ := hstanding
      refine standing_afterFunction hent hin (by have := hent.2.1; omega) (Nat.lt_succ_self k) hk
        ?_ (Or.inl rfl) hq'
      rw [linesFromTo_self hk]
      simp [BraceDepth.feed]
    | oneLine h hends =>
      obtain ⟨i, hent, hin⟩ := hstanding
      refine standing_afterFunction hent hin (by have := hent.2.1; omega) (Nat.lt_succ_self k) hk
        ?_ (Or.inl rfl) hq'
      rw [linesFromTo_self hk]
      simp
    | start h hends =>
      obtain ⟨i, hent, hin⟩ := hstanding
      exact ⟨i, hent.succ (by rw [hq']; rfl), hent.2.1, hin⟩
    | more h =>
      obtain ⟨i, hent, his, hin⟩ := hstanding
      exact ⟨i, hent.succ (by rw [hq']; rfl), his, hin⟩
    | @finish d f s acc h =>
      obtain ⟨i, hent, his, hin⟩ := hstanding
      obtain ⟨hs, hsk, hacc, rfl, -⟩ := collecting_stateAfter (by omega) hq
      rw [← hq] at ho
      refine standing_afterFunction hent hin (by omega) (by omega) hk ?_
        (Or.inr fun j hj hjk => functionLine_of_emitted hls hk ho (by show s ≤ j; omega) hjk) hq'
      rw [← BraceDepth.after_append_singleton, BraceDepth.depth_after, Nat.sub_add_cancel hs,
        linesFromTo_succ (by omega) hk, hacc]

/-! ## When a function is enclosed -/

/-- The region that a block is taken from, and when it is open around the block. -/
theorem region_of_emitted (hls : ∀ l ∈ ls, '\n' ∉ l) (hb : b ∈ (outside.run 1 ls).2) :
    ∃ i, Entered ls i b.startLine ∧ (∃ m ≤ i, HeaderUnder ls m i) ∧
      (HeldOpen ls i b.startLine b.lastLine ↔ BraceOpened (linesFromTo ls i b.startLine) ∧
        ∀ k < b.lastLine, FunctionLine ls k → ¬BraceClosed (linesFromTo ls i k)) := by
  obtain ⟨k, hk, hemit⟩ := mem_run_iff.1 hb
  rw [Nat.add_comm 1 k] at hemit
  change ((stateAfter ls k).step ls[k] (k + 1)).2 = some b at hemit
  obtain ⟨hs, hsk, -, -⟩ := emitted_block hk hemit
  have hlast := lastLine_emitted hls hk hemit
  -- The region as it stood before the function began.
  have hregion : ∃ i d, Entered ls i b.startLine ∧ InRegion ls i (b.startLine - 1) d := by
    have hstanding := standing_stateAfter hls hk.le
    have hstep := transition_stateAfter hk
    rw [hemit] at hstep
    generalize stateAfter ls (k + 1) = q' at hstep
    generalize stateAfter ls k = q at hstep hstanding
    cases hstep with
    | oneLine =>
      obtain ⟨i, hent, hin⟩ := hstanding
      exact ⟨i, _, hent, hin⟩
    | finish =>
      obtain ⟨i, hent, his, hin⟩ := hstanding
      exact ⟨i, _, hent.of_le his hsk, hin⟩
  obtain ⟨i, d, hent, hin⟩ := hregion
  refine ⟨i, hent, hin.header, fun h => ⟨h.1, fun k hk _ => h.2 k hk⟩, fun h => ⟨h.1, ?_⟩⟩
  intro k' hk' hc
  rcases Nat.lt_or_ge k' b.startLine with hlt | hge
  · obtain ⟨j, hj, hfun, hc'⟩ := hin.closed k' (by omega) hc
    exact h.2 j (by omega) hfun hc'
  · exact h.2 k' hk' (functionLine_of_emitted hls hk hemit hge (by omega)) hc

/-- A function is enclosed exactly when the block of its region has opened by its first line and no
line of a function closes that block before its last line, or when another marked header
encloses it. -/
theorem enclosed_iff {source : Text} (hb : b ∈ functionBlocks source) :
    Enclosed (Text.lines source) b ↔
      (∃ i, Entered (Text.lines source) i b.startLine ∧
        BraceOpened (linesFromTo (Text.lines source) i b.startLine) ∧
        ∀ k < b.lastLine, FunctionLine (Text.lines source) k →
          ¬BraceClosed (linesFromTo (Text.lines source) i k)) ∨
      ∃ m i, m ≤ i ∧ i ≤ b.startLine ∧ ¬Entered (Text.lines source) i b.startLine ∧
        HeaderUnder (Text.lines source) m i ∧
        HeldOpen (Text.lines source) i b.startLine b.lastLine := by
  obtain ⟨i, hent, ⟨m, hmi, hheader⟩, hiff⟩ :=
    region_of_emitted (fun _ hl => Text.not_mem_of_mem_lines hl) hb
  constructor
  · rintro ⟨m', i', hmi', his', hheader', hheld⟩
    by_cases hent' : Entered (Text.lines source) i' b.startLine
    · obtain rfl := hent.unique hent'
      exact Or.inl ⟨i, hent, hiff.1 hheld⟩
    · exact Or.inr ⟨m', i', hmi', his', hent', hheader', hheld⟩
  · rintro (⟨i', hent', hopen⟩ | ⟨m', i', hmi', his', -, hheader', hheld⟩)
    · obtain rfl := hent.unique hent'
      exact ⟨m, i, hmi, hent.2.1.le, hheader, hiff.2 hopen⟩
    · exact ⟨m', i', hmi', his', hheader', hheld⟩

/-- A marked block whose function is enclosed. -/
def counterSource : Text :=
  Text.unlines ["#[external]", "// entry points", "impl Counter \x7b",
    "    pub fn count(&self) -> u8 \x7b", "        1", "    \x7d", "\x7d"]

/-- A function in a marked block. -/
theorem enclosed_counterSource :
    ∃ b ∈ functionBlocks counterSource, Enclosed (Text.lines counterSource) b := by
  have hb : ⟨Text.unlines ["    pub fn count(&self) -> u8 \x7b", "        1", "    \x7d"], 4⟩ ∈
      functionBlocks counterSource := by decide +kernel
  refine ⟨_, hb, (enclosed_iff hb).2 (Or.inl ⟨3, ?_⟩)⟩
  decide +kernel

/-- A comment that mentions a public function, in a marked block, and an unmarked block after it. -/
def mentionSource : Text :=
  Text.unlines ["#[public]", "impl Open \x7b", "    // no pub fn yet", "\x7d", "",
    "impl Hidden \x7b", "    pub fn internal(&self) \x7b", "        self.x.set(1);", "    \x7d",
    "\x7d"]

/-- From the comment on the scanner takes lines for a function, past the end of the marked block,
and the function of the unmarked block is found. -/
theorem exposed_after_close :
    ((Contract.parse mentionSource).functions.map (·.name) = ["internal"]) ∧
      ∃ b ∈ functionBlocks mentionSource, ¬Enclosed (Text.lines mentionSource) b := by
  decide +kernel

end StylusSurvey
