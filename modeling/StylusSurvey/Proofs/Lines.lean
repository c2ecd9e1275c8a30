import Mathlib.Data.List.Infix
import Mathlib.Tactic.SplitIfs
import StylusSurvey.Text.Line

/-!
# Joining and splitting lines

`Text.splitOn` is the standard library's (`splitOn_eq`), so the pieces of a text and
`unlines` undo each other. A line end is a newline with the carriage return before it:
joined lines are read back if none of them holds the one or ends in the other (`IsLine`,
`lines_unlines`), and a text that ends in a newline has the same lines as without it
(`lines_unlines_append_newline`).
-/

namespace StylusSurvey

namespace Text

variable {l s : Text} {ls ps : List Text}

theorem splitOn_eq (sep : Char) (s : Text) : splitOn sep s = List.splitOn sep s := by
  induction s with
  | nil => rfl
  | cons c s ih =>
    rw [List.splitOn_cons_eq_if_modifyHead, ← ih, splitOn]
    cases hs : splitOn sep s with
    | nil => exact absurd (ih ▸ hs) (List.splitOn_ne_nil sep s)
    | cons p ps => simp

theorem splitOn_of_not_mem {sep : Char} (h : sep ∉ s) : splitOn sep s = [s] := by
  rw [splitOn_eq, List.splitOn_eq_singleton h]

theorem splitOn_append_cons {sep : Char} {t : Text} (h : sep ∉ s) :
    splitOn sep (s ++ sep :: t) = s :: splitOn sep t := by
  rw [splitOn_eq, splitOn_eq, List.splitOn_append_cons_self_of_not_mem h]

/-- Pieces with the separator ahead of each but the first. -/
theorem splitOn_append_flatMap {sep : Char} (hs : sep ∉ s) (hps : ∀ p ∈ ps, sep ∉ p) :
    splitOn sep (s ++ ps.flatMap (sep :: ·)) = s :: ps := by
  induction ps generalizing s with
  | nil => rw [List.flatMap_nil, List.append_nil, splitOn_of_not_mem hs]
  | cons p ps ih =>
    obtain ⟨hp, hps⟩ := List.forall_mem_cons.1 hps
    rw [List.flatMap_cons, List.cons_append, splitOn_append_cons hs, ih hp hps]

theorem not_mem_of_mem_splitOn {sep : Char} {p : Text} (h : p ∈ splitOn sep s) : sep ∉ p := by
  induction s generalizing p with
  | nil => simp_all [splitOn]
  | cons c s ih =>
    rw [splitOn] at h
    cases hs : splitOn sep s with
    | nil => simp [splitOn_eq] at hs
    | cons q qs =>
      simp only [hs] at h ih
      by_cases hc : c = sep
      · rw [if_pos hc, List.mem_cons] at h
        rcases h with rfl | h
        · simp
        · exact ih h
      · rw [if_neg hc, List.mem_cons] at h
        rcases h with rfl | h
        · simpa [Ne.symm hc] using ih (List.mem_cons_self)
        · exact ih (List.mem_cons_of_mem q h)

/-- The first piece stands at the front of the text, and the others inside it. -/
theorem exists_splitOn_eq_cons (sep : Char) (s : Text) :
    ∃ p ps, splitOn sep s = p :: ps ∧ p <+: s ∧ ∀ q ∈ ps, q <:+: s := by
  induction s with
  | nil => exact ⟨[], [], rfl, List.prefix_refl _, by simp⟩
  | cons c s ih =>
    obtain ⟨p, ps, hs, hp, hps⟩ := ih
    have hinside {q : Text} (hq : q <:+: s) : q <:+: c :: s :=
      hq.trans (List.suffix_cons c s).isInfix
    simp only [splitOn, hs]
    split_ifs
    · exact ⟨[], p :: ps, rfl, List.nil_prefix,
        List.forall_mem_cons.2 ⟨hinside hp.isInfix, fun q hq => hinside (hps q hq)⟩⟩
    · exact ⟨c :: p, ps, rfl, (List.prefix_cons_inj c).2 hp, fun q hq => hinside (hps q hq)⟩

/-- Every piece stands in the text. -/
theorem infix_of_mem_splitOn {sep : Char} {p : Text} (h : p ∈ splitOn sep s) : p <:+: s := by
  obtain ⟨q, qs, hs, hq, hqs⟩ := exists_splitOn_eq_cons sep s
  rw [hs] at h
  rcases List.mem_cons.1 h with rfl | h
  · exact hq.isInfix
  · exact hqs p h

/-- A text has a nonempty piece if it has a character that does not separate. -/
theorem exists_mem_splitOn_ne_nil {sep : Char} :
    (∃ p ∈ splitOn sep s, p ≠ []) ↔ ∃ c ∈ s, c ≠ sep := by
  constructor
  · rintro ⟨p, hp, hne⟩
    obtain ⟨c, p, rfl⟩ := List.exists_cons_of_ne_nil hne
    refine ⟨c, (infix_of_mem_splitOn hp).subset List.mem_cons_self, ?_⟩
    rintro rfl
    exact not_mem_of_mem_splitOn hp List.mem_cons_self
  · rintro ⟨c, hc, hne⟩
    induction s with
    | nil => exact absurd hc List.not_mem_nil
    | cons d s ih =>
      obtain ⟨p, ps, hs, -⟩ := exists_splitOn_eq_cons sep s
      simp only [splitOn, hs] at ih ⊢
      split_ifs with hd
      · rcases List.mem_cons.1 hc with rfl | hc
        · exact absurd hd hne
        · obtain ⟨q, hq, hqne⟩ := ih hc
          exact ⟨q, List.mem_cons_of_mem _ hq, hqne⟩
      · exact ⟨d :: p, List.mem_cons_self, List.cons_ne_nil d p⟩

/-! ## Line ends -/

theorem chomp_of_getLast?_ne (h : l.getLast? ≠ some '\r') : chomp l = l :=
  if_neg h

/-- The text can stand on a line of its own. -/
def IsLine (l : Text) : Prop :=
  '\n' ∉ l ∧ l.getLast? ≠ some '\r'

instance (l : Text) : Decidable (IsLine l) :=
  inferInstanceAs (Decidable (_ ∧ _))

theorem isLine_append {t : Text} (hs : '\n' ∉ s) (ht : t ≠ [] ∧ IsLine t) : IsLine (s ++ t) := by
  obtain ⟨hne, hline, hlast⟩ := ht
  refine ⟨List.not_mem_append hs hline, ?_⟩
  rwa [List.getLast?_append_of_ne_nil s hne]

theorem map_chomp (h : ∀ l ∈ ls, IsLine l) : ls.map chomp = ls :=
  (List.map_congr_left fun l hl => chomp_of_getLast?_ne (h l hl).2).trans (List.map_id ls)

theorem mem_of_mem_chomp {c : Char} (h : c ∈ chomp l) : c ∈ l := by
  unfold chomp at h
  split_ifs at h
  · exact List.mem_of_mem_dropLast h
  · exact h

/-- All pieces but the last are lines without their line ends, and the last one is a line unless
it is empty. -/
theorem linesOfPieces_append_singleton (ps : List Text) (l : Text) :
    linesOfPieces (ps ++ [l]) = ps.map chomp ++ if l.isEmpty then [] else [l] := by
  induction ps with
  | nil => rfl
  | cons p ps ih =>
    cases ps with
    | nil => simp_all [linesOfPieces]
    | cons q ps => simpa [linesOfPieces] using ih

/-- No newline is in a line. -/
theorem not_mem_of_mem_lines (h : l ∈ lines s) : '\n' ∉ l := by
  obtain ⟨ps, p, hp⟩ := (List.eq_nil_or_concat' (splitOn '\n' s)).resolve_left
    (by simp [splitOn_eq])
  have hpieces : ∀ q ∈ ps ++ [p], '\n' ∉ q := fun q hq =>
    not_mem_of_mem_splitOn (hp ▸ hq)
  rw [lines, hp, linesOfPieces_append_singleton, List.mem_append, List.mem_map] at h
  rcases h with ⟨q, hq, rfl⟩ | h
  · exact fun hmem => hpieces q (by simp [hq]) (mem_of_mem_chomp hmem)
  · split_ifs at h
    · simp at h
    · rw [List.mem_singleton.1 h]
      exact hpieces p (by simp)

/-! ## Joined lines -/

theorem unlines_append {ls ms : List Text} (hls : ls ≠ []) (hms : ms ≠ []) :
    unlines (ls ++ ms) = unlines ls ++ '\n' :: unlines ms := by
  induction ls with
  | nil => exact absurd rfl hls
  | cons l ls ih =>
    rw [unlines, List.cons_append]
    rcases eq_or_ne ls [] with rfl | hne
    · rw [List.nil_append, List.intercalate_cons_of_ne_nil hms]
      simp [unlines]
    · rw [List.intercalate_cons_of_ne_nil (by simp [hne])]
      simp only [unlines] at ih ⊢
      rw [ih hne, List.intercalate_cons_of_ne_nil hne]
      simp

@[simp] theorem unlines_singleton (l : Text) : unlines [l] = l :=
  List.intercalate_singleton

theorem unlines_cons (hls : ls ≠ []) : unlines (l :: ls) = l ++ '\n' :: unlines ls := by
  rw [← List.singleton_append, unlines_append (by simp) hls, unlines_singleton]

/-- Joining joined lines joins all of them. -/
theorem unlines_map_unlines {lss : List (List Text)} (h : ∀ ls ∈ lss, ls ≠ []) :
    unlines (lss.map unlines) = unlines lss.flatten := by
  induction lss with
  | nil => rfl
  | cons ls lss ih =>
    obtain ⟨hls, hlss⟩ := List.forall_mem_cons.1 h
    rcases List.eq_nil_or_concat' lss with rfl | ⟨front, last, rfl⟩
    · simp [unlines_singleton]
    · have hflatten : (front ++ [last]).flatten ≠ [] := by simp [hlss last (by simp)]
      rw [List.map_cons, unlines_cons (by simp), ih hlss, List.flatten_cons,
        unlines_append hls hflatten]

theorem splitOn_unlines (hls : ls ≠ []) (h : ∀ l ∈ ls, '\n' ∉ l) :
    splitOn '\n' (unlines ls) = ls := by
  rw [splitOn_eq, unlines, List.splitOn_intercalate '\n' h hls]

/-- The pieces between newlines are joined to the text again. -/
theorem unlines_splitOn (s : Text) : unlines (splitOn '\n' s) = s := by
  rw [splitOn_eq, unlines, List.intercalate_splitOn]

/-- There is one newline less than lines. -/
theorem count_newline_unlines (hls : ls ≠ []) (h : ∀ l ∈ ls, '\n' ∉ l) :
    (unlines ls).count '\n' + 1 = ls.length := by
  induction ls with
  | nil => exact absurd rfl hls
  | cons l ls ih =>
    have hl : l.count '\n' = 0 := List.count_eq_zero.2 (h l (by simp))
    rcases eq_or_ne ls [] with rfl | hne
    · simpa [unlines] using hl
    · have ih := ih hne fun m hm => h m (by simp [hm])
      rw [unlines_cons hne, List.count_append, List.count_cons_self, hl, List.length_cons, ← ih,
        Nat.zero_add]

/-- Joined lines are read back, and the last one is not lost if it is not empty. -/
theorem lines_unlines (h : ∀ l ∈ ls, IsLine l) (hlast : ls.getLast? ≠ some []) :
    lines (unlines ls) = ls := by
  rcases List.eq_nil_or_concat' ls with rfl | ⟨ps, l, rfl⟩
  · rfl
  · have hl : l.isEmpty = false := by
      simpa [List.isEmpty_eq_false_iff] using hlast
    rw [lines, splitOn_unlines (by simp) fun l hl => (h l hl).1, linesOfPieces_append_singleton,
      hl, map_chomp fun p hp => h p (by simp [hp])]
    simp

/-- An empty line at the end leaves a newline. -/
theorem unlines_concat_nil (hls : ls ≠ []) : unlines (ls ++ [[]]) = unlines ls ++ ['\n'] := by
  rw [unlines_append hls (by simp)]
  rfl

/-- A newline behind the last line begins no other line. -/
theorem lines_unlines_append_newline (hls : ls ≠ []) (h : ∀ l ∈ ls, IsLine l) :
    lines (unlines ls ++ ['\n']) = ls := by
  have hmem : ∀ l ∈ ls ++ [[]], '\n' ∉ l := by
    intro l hl
    rcases List.mem_append.1 hl with hl | hl
    · exact (h l hl).1
    · simp [List.mem_singleton.1 hl]
  rw [lines, ← unlines_concat_nil hls, splitOn_unlines (by simp) hmem,
    linesOfPieces_append_singleton, map_chomp h]
  simp

/-! ## Texts one after another -/

theorem unlines_append_newline_cons (hls : ls ≠ []) (t : Text) :
    unlines ls ++ '\n' :: t = ls.flatMap (fun l => l ++ ['\n']) ++ t := by
  induction ls with
  | nil => exact absurd rfl hls
  | cons l ls ih =>
    rcases eq_or_ne ls [] with rfl | hne
    · simp [unlines]
    · rw [unlines_cons hne, List.append_assoc, List.cons_append, ih hne]
      simp

/-- A separator between two texts divides the pieces of the one from those of the other. -/
theorem splitOn_append_cons_self (sep : Char) (s t : Text) :
    splitOn sep (s ++ sep :: t) = splitOn sep s ++ splitOn sep t := by
  induction s with
  | nil => exact splitOn_append_cons List.not_mem_nil
  | cons c s ih =>
    obtain ⟨p, ps, hs, -⟩ := exists_splitOn_eq_cons sep s
    rw [List.cons_append, splitOn, splitOn, ih, hs]
    simp only [List.cons_append]
    split_ifs <;> rfl

/-- All pieces ahead of the last one are lines. -/
theorem linesOfPieces_append_cons (ps qs : List Text) (q : Text) :
    linesOfPieces (ps ++ q :: qs) = ps.map chomp ++ linesOfPieces (q :: qs) := by
  induction ps with
  | nil => rfl
  | cons p ps ih =>
    cases ps with
    | nil => rfl
    | cons r ps => exact congrArg (chomp p :: ·) ih

/-- What follows a newline has its own lines. -/
theorem lines_append_newline_cons (s t : Text) :
    lines (s ++ '\n' :: t) = lines (s ++ ['\n']) ++ lines t := by
  have hlines (t : Text) : lines (s ++ '\n' :: t) = (splitOn '\n' s).map chomp ++ lines t := by
    obtain ⟨p, ps, ht, -⟩ := exists_splitOn_eq_cons '\n' t
    rw [lines, lines, splitOn_append_cons_self, ht, linesOfPieces_append_cons]
  have hend : lines [] = [] := rfl
  rw [hlines t, hlines [], hend, List.append_nil]

/-- The text is empty or ends with a newline, so that what follows it begins on a new line. -/
def EndsLine (s : Text) : Prop :=
  s = [] ∨ s.getLast? = some '\n'

instance (s : Text) : Decidable (EndsLine s) :=
  inferInstanceAs (Decidable (_ ∨ _))

/-- A text that ends with a line does so behind another one. -/
theorem EndsLine.append {t : Text} (hs : EndsLine s) (ht : EndsLine t) : EndsLine (s ++ t) := by
  rcases ht with rfl | ht
  · rwa [List.append_nil]
  · exact .inr (by rw [List.getLast?_append, ht, Option.some_or])

theorem endsLine_flatMap {α : Type} {f : α → Text} (h : ∀ x, EndsLine (f x)) (xs : List α) :
    EndsLine (xs.flatMap f) := by
  induction xs with
  | nil => exact .inl rfl
  | cons x xs ih => exact List.flatMap_cons ▸ (h x).append ih

/-- What follows the end of a line is read as lines of its own. -/
theorem lines_append (h : EndsLine s) (t : Text) : lines (s ++ t) = lines s ++ lines t := by
  rcases h with rfl | hlast
  · rfl
  · obtain ⟨u, rfl⟩ := List.getLast?_eq_some_iff.1 hlast
    rw [List.append_assoc, List.singleton_append, lines_append_newline_cons]

theorem lines_line_append (hl : IsLine l) (t : Text) : lines (l ++ '\n' :: t) = l :: lines t := by
  have hone : lines (unlines [l] ++ ['\n']) = [l] :=
    lines_unlines_append_newline (by simp) (by simpa using hl)
  rw [unlines_singleton] at hone
  rw [lines_append_newline_cons, hone, List.singleton_append]

/-- Lines that each end with a newline are read one by one. -/
theorem lines_flatMap_append {α : Type} {f : α → Text} {xs : List α}
    (h : ∀ x ∈ xs, IsLine (f x)) (t : Text) :
    lines (xs.flatMap (fun x => f x ++ ['\n']) ++ t) = xs.map f ++ lines t := by
  induction xs with
  | nil => rfl
  | cons x xs ih =>
    obtain ⟨hx, hxs⟩ := List.forall_mem_cons.1 h
    rw [List.flatMap_cons, List.append_assoc, List.append_assoc, List.singleton_append,
      lines_line_append hx, ih hxs, List.map_cons, List.cons_append]

end Text

end StylusSurvey
