import StylusSurvey.Contract.Parse
import StylusSurvey.Proofs.Lines
import StylusSurvey.Proofs.SignatureExtent
import StylusSurvey.Proofs.StorageScan

/-!
# Comments are read like code

A scanner counts the braces of a comment and finds declarations in it, so a comment can
change what a contract exposes (`Contract.comments_change_contract`). Whether a run of comments
does is decided by where it stands: outside the marked blocks and behind the storage block
it never does, and elsewhere its braces must balance without closing a block and it must
declare nothing that is looked for (`Harmless`). The theorem `Contract.parse_of_emptied` says
that emptying harmless runs of comments changes nothing of a contract but the bodies of its
functions. The two scans are related state by state (`ScanState.Like`): a function that is
being collected has other lines but the same signature (`Signature.SameSignature`).
-/

namespace StylusSurvey

open Text Declaration

variable {acc acc' b cs ls ls' : List Text} {n : Nat}

/-! ## Signatures of collected lines -/

namespace Signature

/-- The lines, each with its line end. -/
def terminated (ls : List Text) : Text :=
  ls.flatMap (· ++ ['\n'])

theorem terminated_append (ls ms : List Text) :
    terminated (ls ++ ms) = terminated ls ++ terminated ms :=
  List.flatMap_append

theorem terminated_eq (h : ls ≠ []) : terminated ls = unlines ls ++ ['\n'] := by
  induction ls with
  | nil => exact absurd rfl h
  | cons l ls ih =>
    rcases eq_or_ne ls [] with rfl | hne
    · simp [terminated, unlines]
    · have hunlines : unlines (l :: ls) = l ++ '\n' :: unlines ls := by
        rw [unlines, List.intercalate_cons_of_ne_nil hne, ← unlines]
        simp
      rw [terminated, List.flatMap_cons, ← terminated, ih hne, hunlines]
      simp

/-- A newline behind the last line does not matter to the search for a signature. -/
theorem find?_unlines (ls : List Text) : find? (unlines ls) = find? (terminated ls) := by
  rcases eq_or_ne ls [] with rfl | hne
  · rfl
  · rw [terminated_eq hne, find?_append_of_not_mem (by decide)]

/-- What follows the lines of a function so far cannot change its signature: it is complete, or none
has begun on these lines and none begins on those that follow. -/
def Settled (acc cs : List Text) : Prop :=
  (find? (unlines acc)).isSome = true ∨
    Barren (terminated acc) ∧ ∀ c ∈ cs, ¬("pub" : Text) <:+: c

/-- The lines have the same signature, and the same lines may follow them: either it is complete, or
it does not begin before the lines `k` that they have in common. -/
inductive SameSignature : List Text → List Text → Prop
  | complete {acc acc' : List Text} {sig : Signature} (h : find? (unlines acc) = some sig)
    (h' : find? (unlines acc') = some sig) : SameSignature acc acc'
  | common {a a' : List Text} (h : Barren (terminated a)) (h' : Barren (terminated a'))
    (k : List Text) : SameSignature (a ++ k) (a' ++ k)

theorem sameSignature_self (acc : List Text) : SameSignature acc acc :=
  @SameSignature.common [] [] barren_nil barren_nil acc

/-- A signature that is found stays the first one, whatever lines follow. -/
theorem find?_unlines_append {sig : Signature} (h : find? (unlines acc) = some sig)
    (ls : List Text) : find? (unlines (acc ++ ls)) = some sig := by
  rw [find?_unlines] at h ⊢
  rw [terminated_append]
  exact find?_append h

/-- Lines with the same signature have the same one found in them. -/
theorem SameSignature.find?_eq (h : SameSignature acc acc') :
    find? (unlines acc) = find? (unlines acc') := by
  cases h with
  | complete h h' => rw [h, h']
  | common h h' k =>
    rw [find?_unlines, find?_unlines, terminated_append, terminated_append,
      find?_append_of_barren h, find?_append_of_barren h']

theorem SameSignature.append (h : SameSignature acc acc') (ls : List Text) :
    SameSignature (acc ++ ls) (acc' ++ ls) := by
  cases h with
  | complete h h' => exact .complete (find?_unlines_append h ls) (find?_unlines_append h' ls)
  | common h h' k =>
    rw [List.append_assoc, List.append_assoc]
    exact .common h h' (k ++ ls)

/-- Lines without the word that begins a public function have no signature. -/
theorem barren_terminated (h : ∀ c ∈ cs, ¬("pub" : Text) <:+: c) : Barren (terminated cs) := by
  induction cs with
  | nil => exact barren_nil
  | cons c cs ih =>
    obtain ⟨hc, hcs⟩ := List.forall_mem_cons.1 h
    exact (barren_line hc).append (ih hcs)

/-- Comments behind settled lines may be emptied. -/
theorem SameSignature.append_of_settled (h : SameSignature acc acc') (hcs : Settled acc cs)
    (count : Nat) : SameSignature (acc ++ cs) (acc' ++ List.replicate count []) := by
  cases h with
  | complete h h' => exact .complete (find?_unlines_append h _) (find?_unlines_append h' _)
  | @common a a' h h' k =>
    rcases hcs with hcomplete | ⟨hbarren, hpub⟩
    · obtain ⟨sig, hsig⟩ := Option.isSome_iff_exists.1 hcomplete
      have hsig' : find? (unlines (a' ++ k)) = some sig := by
        rw [← hsig, (SameSignature.common h h' k).find?_eq]
      exact .complete (find?_unlines_append hsig _) (find?_unlines_append hsig' _)
    · -- No signature begins in the lines in common either, so they join those that differ.
      rw [terminated_append] at hbarren
      have hk : Barren (terminated k) := hbarren.of_suffix (List.suffix_append _ _)
      have hempty : ∀ c ∈ List.replicate count ([] : Text), ¬("pub" : Text) <:+: c := by
        intro c hc
        rw [List.eq_of_mem_replicate hc]
        decide
      have hleft : Barren (terminated ((a ++ k) ++ cs)) := by
        rw [terminated_append, terminated_append]
        exact hbarren.append (barren_terminated hpub)
      have hright : Barren (terminated ((a' ++ k) ++ List.replicate count [])) := by
        rw [terminated_append, terminated_append]
        exact (h'.append hk).append (barren_terminated hempty)
      have hsame := SameSignature.common hleft hright []
      rwa [List.append_nil, List.append_nil] at hsame

end Signature

namespace EntryPoint

/-- The function without the text of its body. -/
def withoutBody (f : EntryPoint) : EntryPoint :=
  { f with body := [] }

/-- But for its body, a function is what its signature says. -/
theorem withoutBody_ofBlock {s t : Text} (h : Signature.find? s = Signature.find? t) (line : Nat) :
    (ofBlock s line).withoutBody = (ofBlock t line).withoutBody := by
  rw [ofBlock, ofBlock, h]
  cases Signature.find? t <;> rfl

end EntryPoint

/-- The function of a block, without its body. -/
def FunctionBlock.entry (b : FunctionBlock) : EntryPoint :=
  (EntryPoint.ofBlock b.text b.startLine).withoutBody

/-! ## The function scanner -/

namespace ScanState

open Signature

variable {d f : BraceDepth} {q q' : ScanState} {l : Text} {s : Nat}

/-- The lines do not matter in the state: between functions they begin none and keep the block of
the region open, and in a function they keep it open and leave its signature. -/
def Tolerates : ScanState → List Text → Prop
  | outside, _ => True
  | armed, _ => True
  | region depth, cs => (∀ c ∈ cs, isPublicFunction c = false) ∧ depth.StaysOpen cs
  | collecting _ function _ acc, cs => function.StaysOpen cs ∧ Settled acc cs

/-- The states differ in the lines of a function at most, and not in its signature. -/
inductive Like : ScanState → ScanState → Prop
  | outside : Like outside outside
  | armed : Like armed armed
  | region {d : BraceDepth} (hd : d.Live) : Like (region d) (region d)
  | collecting {d f : BraceDepth} {s : Nat} {acc acc' : List Text} (hf : f.Live)
    (h : SameSignature acc acc') : Like (collecting d f s acc) (collecting d f s acc')

theorem like_afterFunction (d : BraceDepth) (delta : Int) :
    Like (afterFunction (d.add delta)) (afterFunction (d.add delta)) := by
  rcases afterFunction_cases (d.add delta) with h | ⟨h, hopen⟩
  · rw [h]
    exact .outside
  · rw [h]
    exact .region (BraceDepth.live_add hopen)

/-- After its first line a block can go on. -/
theorem live_after_singleton (l : Text) : (BraceDepth.after [l]).Live := by
  refine BraceDepth.live_add ?_
  rw [Bool.eq_false_iff]
  exact fun h => not_braceClosed_singleton ((BraceDepth.isClosed_after [l]).1 h)

theorem like_atHeader (l : Text) : Like (atHeader l) (atHeader l) := by
  rcases atHeader_cases l with h | h
  · rw [h]
    exact .outside
  · rw [h]
    exact .region (live_after_singleton l)

/-- The same line keeps states alike, and completes the same function. -/
theorem Like.step (h : Like q q') (l : Text) (n : Nat) :
    Like (q.step l n).1 (q'.step l n).1 ∧
      (q.step l n).2.map FunctionBlock.entry = (q'.step l n).2.map FunctionBlock.entry := by
  cases h with
  | outside =>
    refine ⟨?_, rfl⟩
    rw [step_outside, stepOutside]
    split
    · exact .outside
    · split_ifs
      · exact like_atHeader _
      · exact .armed
  | armed =>
    refine ⟨?_, rfl⟩
    rw [step_armed, stepArmed]
    split_ifs
    · exact like_atHeader l
    · exact .armed
    · exact .outside
  | region hd =>
    refine ⟨?_, rfl⟩
    cases hpub : isPublicFunction l with
    | false =>
      rw [step_region_of_not_public hpub]
      exact like_afterFunction _ _
    | true =>
      by_cases hends : EndsOnLine l
      · rw [step_region_of_endsOnLine hpub hends]
        exact like_afterFunction _ _
      · rw [step_region_of_not_endsOnLine hpub hends]
        exact .collecting (live_after_singleton l) (sameSignature_self [l])
  | @collecting d f s acc acc' hf h =>
    have happend := h.append [l]
    rw [ScanState.step, ScanState.step, stepCollecting, stepCollecting]
    split_ifs with hclosed
    · refine ⟨like_afterFunction _ _, ?_⟩
      exact congrArg some (EntryPoint.withoutBody_ofBlock happend.find?_eq s)
    · exact ⟨.collecting (BraceDepth.live_add (Bool.eq_false_iff.2 hclosed)) happend, rfl⟩

/-- An empty line completes no function. -/
theorem Like.step_nil (h : Like q q') (n : Nat) : (q.step [] n).2 = none := by
  cases h with
  | outside => rfl
  | armed => rfl
  | region hd =>
    have hpub : isPublicFunction [] = false := rfl
    rw [step_region_of_not_public hpub]
  | @collecting d f s acc acc' hf h =>
    have hopen : (f.feed []).isClosed = false := by
      rw [BraceDepth.feed_nil hf]
      exact hf.notClosed
    simp only [ScanState.step, stepCollecting, hopen, Bool.false_eq_true, if_false]

/-- Comments that a state tolerates may be emptied. -/
theorem Like.run_comments (h : Like q q') (hcs : ∀ c ∈ cs, isComment c = true)
    (hq : q.Tolerates cs) (n : Nat) : ∃ r r', q.run n cs = (r, []) ∧
      q'.run n (List.replicate cs.length []) = (r', []) ∧ Like r r' := by
  have hfillers : ∀ c ∈ cs, IsFiller c := fun c hc => .inr (hcs c hc)
  have hempty : ∀ c ∈ List.replicate cs.length ([] : Text), IsFiller c :=
    fun c hc => isFiller_of_mem_replicate hc
  cases h with
  | outside =>
    exact ⟨_, _, run_fillers_of_outside hfillers, run_fillers_of_outside hempty, .outside⟩
  | armed => exact ⟨_, _, run_fillers_of_armed hfillers, run_fillers_of_armed hempty, .armed⟩
  | @region d hd =>
    obtain ⟨hpub, hopen⟩ := hq
    have hopen' := BraceDepth.staysOpen_replicate_nil hd cs.length
    have hpub' : ∀ c ∈ List.replicate cs.length ([] : Text), isPublicFunction c = false := by
      intro c hc
      rw [List.eq_of_mem_replicate hc]
      rfl
    refine ⟨_, _, run_region_of_notClosed hpub hopen.notClosed,
      run_region_of_notClosed hpub' hopen'.notClosed, ?_⟩
    rw [hopen.foldl_feed hd, hopen'.foldl_feed hd]
    exact .region hd
  | @collecting d f s acc acc' hf hsig =>
    obtain ⟨hopen, hsettled⟩ := hq
    -- Both functions grow, by the comments and by empty lines, and their signatures stay the same.
    have hopen' := BraceDepth.staysOpen_replicate_nil hf cs.length
    refine ⟨_, _, run_collecting_of_notClosed hopen.notClosed,
      run_collecting_of_notClosed hopen'.notClosed, ?_⟩
    rw [hopen.foldl_feed hf, hopen'.foldl_feed hf]
    exact .collecting hf (hsig.append_of_settled hsettled cs.length)

/-- The state behind the lines of a source so far. -/
def reached (ls : List Text) : ScanState :=
  (outside.run 1 ls).1

theorem reached_append (ls ms : List Text) :
    reached (ls ++ ms) = ((reached ls).run (1 + ls.length) ms).1 := by
  rw [reached, run_append]
  rfl

/-- Every state that is reached is like itself. -/
theorem like_reached (ls : List Text) : Like (reached ls) (reached ls) := by
  induction ls using List.reverseRecOn with
  | nil => exact .outside
  | append_singleton ls l ih =>
    rw [reached_append]
    exact (ih.step l _).1

end ScanState

/-! ## Emptied sources -/

/-- The run `cs` of comments does not matter behind the lines `b` of the source `src`. The search
for a struct under an attribute counts only if the storage block has no name. -/
structure Harmless (src b cs : List Text) : Prop where
  functions : (ScanState.reached b).Tolerates cs
  storage : (StoragePlace.after b).Tolerates cs
  naming : (StorageLayout.ofLines 1 src).contractName = none →
    (AttributeScan.after b).Tolerates cs

/-- Some harmless runs of comments are emptied in the lines of the source `src` behind `b`. -/
inductive Emptied (src : List Text) : List Text → List Text → List Text → Prop
  | nil {b : List Text} : Emptied src b [] []
  | kept {b ls ls' : List Text} {l : Text} (h : Emptied src (b ++ [l]) ls ls') :
    Emptied src b (l :: ls) (l :: ls')
  | comments {b cs ls ls' : List Text} (hcs : ∀ c ∈ cs, isComment c = true)
    (hb : Harmless src b cs) (h : Emptied src (b ++ cs) ls ls') :
    Emptied src b (cs ++ ls) (List.replicate cs.length [] ++ ls')

namespace Emptied

variable {src : List Text}

open ScanState

/-- The functions of the lines behind `b` are the same, bodies apart, from any state like the one
that is reached there. -/
theorem map_entry_run (h : Emptied src b ls ls') {q' : ScanState} (hq : Like (reached b) q') :
    ((reached b).run (1 + b.length) ls).2.map FunctionBlock.entry =
      (q'.run (1 + b.length) ls').2.map FunctionBlock.entry := by
  induction h generalizing q' with
  | nil => rfl
  | @kept b ls ls' l h ih =>
    obtain ⟨hlike, hentry⟩ := hq.step l (1 + b.length)
    have hreached : reached (b ++ [l]) = ((reached b).step l (1 + b.length)).1 :=
      reached_append b [l]
    have hrest := ih (hreached ▸ hlike)
    rw [hreached, List.length_append, List.length_singleton, ← Nat.add_assoc] at hrest
    rw [run_cons, run_cons, List.map_append, List.map_append, hrest, ← Option.toList_map, hentry,
      Option.toList_map]
  | @comments b cs ls ls' hcs hb h ih =>
    obtain ⟨r, r', hr, hr', hlike⟩ := hq.run_comments hcs hb.functions (1 + b.length)
    have hreached : reached (b ++ cs) = r := by rw [reached_append, hr]
    have hrest := ih (hreached ▸ hlike)
    rw [hreached, List.length_append, ← Nat.add_assoc] at hrest
    rw [run_append, run_append, hr, hr', List.length_replicate]
    exact hrest

/-- Harmless comments leave the place in the storage block, and declare no fields. -/
theorem layoutFrom_eq (h : Emptied src b ls ls') (n : Nat) :
    (StoragePlace.after b).layoutFrom n ls = (StoragePlace.after b).layoutFrom n ls' := by
  induction h generalizing n with
  | nil => rfl
  | @kept b ls ls' l h ih =>
    have hafter : StoragePlace.after (b ++ [l]) = (StoragePlace.after b).step l :=
      StoragePlace.after_append b [l]
    rw [StoragePlace.layoutFrom_cons, StoragePlace.layoutFrom_cons, ← hafter, ih]
  | @comments b cs ls ls' hcs hb h ih =>
    have hlive := StoragePlace.live_after b
    have hstay := StoragePlace.foldl_step_of_tolerates hlive hb.storage
    have hstay' := StoragePlace.foldl_step_of_tolerates hlive
      (StoragePlace.tolerates_replicate_nil hlive cs.length)
    have hafter : StoragePlace.after (b ++ cs) = StoragePlace.after b := by
      rw [StoragePlace.after_append, hstay]
    rw [StoragePlace.layoutFrom_fillers _ fun c hc => .inr (hcs c hc),
      StoragePlace.layoutFrom_fillers _ fun c hc => isFiller_of_mem_replicate hc, hstay, hstay',
      List.length_replicate, ← hafter]
    exact ih _

/-- Where the storage of a source names no contract, the search under an attribute finds the same
with comments emptied. -/
theorem found_eq (h : Emptied src b ls ls')
    (hsrc : (StorageLayout.ofLines 1 src).contractName = none) :
    (ls.foldl AttributeScan.step (AttributeScan.after b)).found =
      (ls'.foldl AttributeScan.step (AttributeScan.after b)).found := by
  induction h with
  | nil => rfl
  | @kept b ls ls' l h ih =>
    have hafter : AttributeScan.after (b ++ [l]) = (AttributeScan.after b).step l :=
      List.foldl_append
    rwa [hafter] at ih
  | @comments b cs ls ls' hcs hb h ih =>
    have hstep := AttributeScan.foldl_step_of_tolerates (fun c hc => .inr (hcs c hc))
      (hb.naming hsrc)
    have hstep' := AttributeScan.foldl_step_of_tolerates
      (fun c hc => isFiller_of_mem_replicate hc)
      (AttributeScan.tolerates_replicate_nil (AttributeScan.after b) cs.length)
    have hafter : AttributeScan.after (b ++ cs) = cs.foldl AttributeScan.step
      (AttributeScan.after b) := List.foldl_append
    rw [List.length_replicate] at hstep'
    rw [List.foldl_append, List.foldl_append, hstep', ← hstep, ← hafter]
    exact ih

end Emptied

namespace Contract

/-- The contract without the texts of its function bodies. -/
def withoutBodies (c : Contract) : Contract :=
  { c with functions := c.functions.map EntryPoint.withoutBody }

/-- What the lines of a source say of a contract, apart from the bodies. -/
def exposed (ls : List Text) : Contract :=
  let layout := StorageLayout.ofLines 1 ls
  { name := (layout.contractName.or (StorageLayout.attributedName? ls)).getD unknownName
    fields := layout.fields
    functions := (ScanState.outside.run 1 ls).2.map FunctionBlock.entry }

/-- Apart from bodies, a parsed contract is told by the lines of its source. -/
theorem withoutBodies_parse (source : Text) :
    (parse source).withoutBodies = exposed (lines source) := by
  rw [parse, withoutBodies, exposed, List.map_map]
  rfl

/-- Emptied comments do not change what is exposed. -/
theorem exposed_emptied (h : Emptied ls [] ls ls') : exposed ls' = exposed ls := by
  have hlayout : StorageLayout.ofLines 1 ls = StorageLayout.ofLines 1 ls' := h.layoutFrom_eq 1
  have hentries : (ScanState.outside.run 1 ls).2.map FunctionBlock.entry =
      (ScanState.outside.run 1 ls').2.map FunctionBlock.entry := h.map_entry_run .outside
  have hname : (StorageLayout.ofLines 1 ls).contractName.or (StorageLayout.attributedName? ls) =
      (StorageLayout.ofLines 1 ls).contractName.or (StorageLayout.attributedName? ls') := by
    cases hsrc : (StorageLayout.ofLines 1 ls).contractName with
    | some name => rfl
    | none =>
      rw [Option.none_or, Option.none_or, AttributeScan.attributedName?_eq,
        AttributeScan.attributedName?_eq]
      exact h.found_eq hsrc
  simp only [exposed, ← hlayout, ← hentries, hname]

/-- A last line that is empty says nothing. -/
theorem exposed_append_nil (ls : List Text) : exposed (ls ++ [[]]) = exposed ls := by
  have hlayout : StorageLayout.ofLines 1 (ls ++ [[]]) = StorageLayout.ofLines 1 ls :=
    StoragePlace.layoutFrom_append_nil .ahead trivial ls 1
  have hname : StorageLayout.attributedName? (ls ++ [[]]) = StorageLayout.attributedName? ls := by
    rw [AttributeScan.attributedName?_eq, AttributeScan.attributedName?_eq, AttributeScan.after,
      List.foldl_append, ← AttributeScan.after]
    exact AttributeScan.found_step_nil _
  have hblocks : (ScanState.outside.run 1 (ls ++ [[]])).2 = (ScanState.outside.run 1 ls).2 := by
    have hlike := ScanState.like_reached ls
    rw [ScanState.run_append, ScanState.run_cons, ScanState.run_nil, ← ScanState.reached,
      hlike.step_nil]
    exact List.append_nil _
  rw [exposed, exposed, hlayout, hname, hblocks]

theorem parse_of_emptied {source source' : Text} (h : Emptied (lines source) [] (lines source) ls')
    (hls' : lines source' = ls' ∨ lines source' ++ [[]] = ls') :
    (parse source').withoutBodies = (parse source).withoutBodies := by
  rw [withoutBodies_parse, withoutBodies_parse, ← exposed_emptied h]
  rcases hls' with rfl | rfl
  · rfl
  · rw [exposed_append_nil]

/-- The source with all of its comments emptied. -/
def emptyComments (source : Text) : Text :=
  unlines ((lines source).map fun l => if isComment l then [] else l)

/-- Comments ahead of the storage block, in it, between functions and in a function. -/
def annotatedLines : List Text :=
  ["// What a vault keeps", "sol_storage! \x7b", "    pub struct Vault \x7b",
    "        // one of \x7b owners \x7d", "        address owner;", "    \x7d", "\x7d",
    "#[public]", "impl Vault \x7b", "    // if open \x7b", "    // \x7d",
    "    pub fn owner(&self) -> Address \x7b", "        // pub fn old(&self) \x7b \x7d",
    "        self.owner.get()", "    \x7d", "\x7d"]

/-- A source with comments in many places. -/
theorem parse_of_emptied_annotatedLines :
    (parse (emptyComments (unlines annotatedLines))).withoutBodies =
      (parse (unlines annotatedLines)).withoutBodies := by
  have hlines : lines (emptyComments (unlines annotatedLines)) =
      annotatedLines.map fun l => if isComment l then [] else l := by decide +kernel
  have hsource : lines (unlines annotatedLines) = annotatedLines := by decide +kernel
  refine parse_of_emptied ?_ (.inl hlines)
  rw [hsource]
  have hname : (StorageLayout.ofLines 1 annotatedLines).contractName ≠ none := by decide +kernel
  have hregion : ScanState.reached (annotatedLines.take 9) = .region ⟨1, true⟩ := by decide +kernel
  have hfunction : ScanState.reached (annotatedLines.take 12) = .collecting ⟨1, true⟩ ⟨1, true⟩ 12
      ["    pub fn owner(&self) -> Address \x7b"] := by decide +kernel
  refine @Emptied.comments _ [] [_] _ _ (by decide +kernel)
    ⟨trivial, by decide +kernel, fun h => absurd h hname⟩ ?_
  refine .kept (.kept ?_)
  refine @Emptied.comments _ _ [_] _ _ (by decide +kernel)
    ⟨trivial, by decide +kernel, fun h => absurd h hname⟩ ?_
  refine .kept (.kept (.kept (.kept (.kept ?_))))
  refine @Emptied.comments _ (annotatedLines.take 9) [_, _] _ _ (by decide +kernel)
    ⟨hregion ▸ ⟨by decide +kernel, by decide +kernel⟩, by decide +kernel,
      fun h => absurd h hname⟩ ?_
  refine .kept ?_
  refine @Emptied.comments _ (annotatedLines.take 12) [_] _ _ (by decide +kernel)
    ⟨hfunction ▸ ⟨by decide +kernel, .inl (by decide +kernel)⟩, by decide +kernel,
      fun h => absurd h hname⟩ ?_
  refine .kept (.kept (.kept .nil))

/-- A function that is commented out between functions. -/
def commentedOutSource : Text :=
  unlines ["#[public]", "impl Counter \x7b", "    // pub fn old(&self) \x7b", "    // \x7d",
    "    pub fn count(&self) -> u8 \x7b 1 \x7d", "\x7d"]

/-- For each other condition on a run of comments, a source in which it alone is not met. -/
def misleadingSources : List Text :=
  [ -- a closing brace between functions
    unlines ["#[public]", "impl Counter \x7b", "    // \x7d",
      "    pub fn count(&self) -> u8 \x7b 1 \x7d", "\x7d"],
    -- an opening brace in a function
    unlines ["#[public]", "impl Counter \x7b", "    pub fn count(&self) -> u8 \x7b",
      "        // if \x7b", "        1", "    \x7d", "    pub fn reset(&mut self) \x7b \x7d",
      "\x7d"],
    -- a comment between parameters
    unlines ["#[public]", "impl Counter \x7b", "    pub fn add(", "        &mut self,",
      "        // the amount", "        by: U256) \x7b", "    \x7d", "\x7d"],
    -- a signature in a function that has none
    unlines ["#[public]", "impl Counter \x7b", "    pub fn new() -> u8 \x7b",
      "        // pub fn old(&self) \x7b \x7d", "    \x7d", "\x7d"],
    -- a storage block ahead of the storage block
    unlines ["// sol_storage! \x7b \x7d", "sol_storage! \x7b", "    pub struct Counter \x7b",
      "        uint256 count;", "    \x7d", "\x7d"],
    -- a closing brace in the storage block
    unlines ["sol_storage! \x7b", "    pub struct Counter \x7b", "        // \x7d \x7d",
      "        uint256 count;", "    \x7d", "\x7d"],
    -- a struct in the storage block
    unlines ["sol_storage! \x7b", "    // pub struct Old", "    pub struct Counter \x7b",
      "        uint256 count;", "    \x7d", "\x7d"],
    -- a struct under a storage attribute
    unlines ["#[storage]", "// pub struct Old", "pub struct Counter \x7b", "\x7d"]]

/-- A function that is commented out between functions counts, and each other condition on a run of
comments is needed too. -/
theorem comments_change_contract :
    (parse commentedOutSource).functions.map (·.name) = ["old", "count"] ∧
      (parse (emptyComments commentedOutSource)).functions.map (·.name) = ["count"] ∧
      (misleadingSources.all fun source =>
        decide ((parse (emptyComments source)).withoutBodies ≠ (parse source).withoutBodies)) =
          true := by
  decide +kernel

end Contract

end StylusSurvey
