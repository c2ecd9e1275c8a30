import StylusSurvey.Contract.Storage
import StylusSurvey.Proofs.Printing
import StylusSurvey.Proofs.Texts

/-!
# Printed fields are read back

A printed field is a type and a name with a blank between them. The shortest type that
blanks and a declared name follow is the whole type (`StorageLayout.typeAndName?_append`):
after an earlier character no declared name follows, since what stands before the semicolon
still has a part of the type in it (`StorageLayout.declaredName?_eq_none`).
-/

namespace StylusSurvey

open Text

variable {name s t : Text}

namespace StorageLayout

/-- Behind something other than blanks, a character in front is one of that text. -/
theorem after?_trimStart_eq_none {k : Char} (hk : k ∉ s) (h : ∃ c ∈ s, isBlank c = false) :
    after? [k] (trimStart (s ++ t)) = none := by
  have hne : trimStart s ≠ [] := by
    intro hnil
    obtain ⟨c, hc, hblank⟩ := h
    rw [List.dropWhile_eq_nil_iff.1 hnil c hc] at hblank
    cases hblank
  obtain ⟨c, u, hu⟩ := List.exists_cons_of_ne_nil hne
  have hc : c ∈ s := by
    apply mem_of_mem_trimStart
    rw [hu]
    exact List.mem_cons_self
  rw [trimStart_append_of_exists h, hu, List.cons_append, after?, if_neg]
  rintro rfl
  exact hk hc

/-- No name is declared where a blank and a name stand before the semicolon. -/
theorem declaredName?_eq_none (hs : ';' ∉ s) (hname : IsName name) :
    declaredName? (s ++ ' ' :: (name ++ [';'])) = none := by
  obtain ⟨c, u, rfl⟩ := List.exists_cons_of_ne_nil hname.1
  have hdrop : (s ++ ' ' :: (c :: u ++ [';'])).dropWhile isWord =
      (s.dropWhile isWord ++ ' ' :: c :: u) ++ [';'] := by
    rw [dropWhile_append_cons (isWord_eq_false_of_isBlank (by decide))]
    simp
  have hsemicolon : ';' ∉ s.dropWhile isWord ++ ' ' :: c :: u := by
    refine List.not_mem_append (fun hmem => hs ((List.dropWhile_suffix isWord).subset hmem)) ?_
    rw [List.mem_cons, not_or]
    exact ⟨by decide, hname.not_mem (by simp [punctuation])⟩
  have hafter := after?_trimStart_eq_none (t := [';']) hsemicolon
    ⟨c, by simp, isBlank_eq_false_of_isWord (hname.2 c List.mem_cons_self)⟩
  unfold declaredName? word?
  split
  · rfl
  · rw [hdrop]
    simp only [Option.bind_eq_bind, Option.bind_some, hafter, Option.bind_none]

theorem declaredName?_append (hname : IsName name) :
    declaredName? (name ++ [';']) = some name := by
  have hend : endsWord [';'] = true := by decide
  have hafter : after? [';'] (trimStart [';']) = some [] := by decide
  rw [declaredName?, word?_append hname.1 hname.2 hend]
  simp only [Option.bind_eq_bind, Option.bind_some, hafter, Option.pure_def]

/-- Before the last character of a type, no declared name follows. -/
theorem blanks?_bind_eq_none {d : Char} (hs : ';' ∉ s) (hsemicolon : ';' ≠ d)
    (hblank : isBlank d = false) (hname : IsName name) :
    (blanks? (s ++ d :: ' ' :: (name ++ [';']))).bind declaredName? = none := by
  cases s with
  | nil => simp [blanks?, hblank]
  | cons c s =>
    cases hc : isBlank c with
    | false => simp [blanks?, hc]
    | true =>
      have hmem : ';' ∉ trimStart s ++ [d] := by
        refine List.not_mem_append (fun hmem => hs ?_) (by simpa using hsemicolon)
        exact List.mem_cons_of_mem c (mem_of_mem_trimStart hmem)
      have hnone := declaredName?_eq_none hmem hname
      rw [List.append_assoc, List.singleton_append] at hnone
      rw [List.cons_append, blanks?, if_pos hc, trimStart_append_cons hblank, Option.bind_some,
        hnone]

/-- The type reaches to the last blank before the name. -/
theorem typeAndName?_append {d : Char} (hs : ∀ c ∈ s, isTypeChar c = true) (hd : isTypeChar d = true)
    (hblank : isBlank d = false) (hname : IsName name) :
    typeAndName? (s ++ d :: ' ' :: (name ++ [';'])) = some (s ++ [d], name) := by
  have hsemicolon : isTypeChar ';' = false := by decide
  -- Induction on the type before its last character: the reader stops at none of these.
  induction s with
  | nil =>
    have hstart : trimStart (name ++ [';']) = name ++ [';'] :=
      trimStart_word_append hname.1 hname.2
    have hread : (blanks? (' ' :: (name ++ [';']))).bind declaredName? = some name := by
      rw [blanks?, if_pos (by decide), hstart, Option.bind_some, declaredName?_append hname]
    rw [List.nil_append, typeAndName?, if_pos hd, hread]
    rfl
  | cons c s ih =>
    have hmem : ';' ∉ s := by
      intro hmem
      rw [hs ';' (List.mem_cons_of_mem c hmem)] at hsemicolon
      cases hsemicolon
    have hne : ';' ≠ d := by
      rintro rfl
      rw [hd] at hsemicolon
      cases hsemicolon
    rw [List.cons_append, typeAndName?, if_pos (hs c List.mem_cons_self),
      blanks?_bind_eq_none hmem hne hblank hname, ih fun e he => hs e (List.mem_cons_of_mem c he)]
    rfl

variable {f : StorageField} {fs : List StorageField} {n : Nat} {rest : List Text}

theorem print_eq (f : StorageField) :
    f.print = List.replicate 8 ' ' ++ (f.type ++ ' ' :: (f.name ++ [';'])) := by
  have hspaces : ("        " : Text) = List.replicate 8 ' ' := rfl
  unfold StorageField.print
  rw [hspaces]
  simp

/-- A printed field declares its name and type. -/
theorem declaration?_print (h : f.Printable) : declaration? f.print = some (f.type, f.name) := by
  obtain ⟨s, d, hlast⟩ := (List.eq_nil_or_concat' f.type).resolve_left h.type.1
  obtain ⟨c, u, hhead⟩ := List.exists_cons_of_ne_nil h.type.1
  have htrim := h.type.2.1
  have hc : isBlank c = false := by
    rw [hhead] at htrim
    exact isBlank_head_of_trim htrim
  have hd : isBlank d = false := by
    rw [hlast] at htrim
    exact isBlank_last_of_trim htrim
  have hindent : f.print.takeWhile isBlank = List.replicate 8 ' ' := by
    rw [print_eq, List.takeWhile_append_of_pos isBlank_of_mem_spaces, hhead, List.cons_append,
      List.takeWhile_cons_of_neg (by simp [hc]), List.append_nil]
  have hstart : trimStart f.print = s ++ d :: ' ' :: (f.name ++ [';']) := by
    have htype : s ++ d :: ' ' :: (f.name ++ [';']) = f.type ++ ' ' :: (f.name ++ [';']) := by
      rw [hlast, List.append_assoc, List.singleton_append]
    rw [print_eq, trimStart_blanks_append isBlank_of_mem_spaces, htype, hhead]
    exact trimStart_cons hc
  have hchars := h.typeChars
  rw [hlast] at hchars
  have hread := typeAndName?_append (fun e he => hchars e (List.mem_append_left [d] he))
    (hchars d (by simp)) hd h.name
  rw [declaration?, hindent, hstart]
  simp only [List.replicate, hread, hlast]

/-- A printed field is found on its line. -/
theorem fieldOn?_print (h : f.Printable) (n : Nat) :
    fieldOn? f.print n = some { f with line := n } := by
  rw [fieldOn?, declaration?_print h]
  simp [h.type.2.1]

/-- A line that leaves a named block open declares at most a field. -/
theorem inBlock_cons_of_open {depth : BraceDepth} {name line : Text}
    (h : (depth.feed line).isClosed = false) :
    inBlock depth (some name) n (line :: rest) =
      { inBlock (depth.feed line) (some name) (n + 1) rest with
        fields := (fieldOn? line n).toList ++
          (inBlock (depth.feed line) (some name) (n + 1) rest).fields } := by
  simp [inBlock, h]

/-- The line that names a block declares no field. -/
theorem inBlock_cons_of_structName? {depth : BraceDepth} {name line : Text}
    (hname : Declaration.structName? line = some name) (h : (depth.feed line).isClosed = false) :
    inBlock depth none n (line :: rest) = inBlock (depth.feed line) (some name) (n + 1) rest := by
  simp [inBlock, hname, h]

/-- The field lines of a named block are read up to the end of the block. -/
theorem inBlock_fields {name : Text} (h : ∀ f ∈ fs, f.Printable) :
    inBlock ⟨2, true⟩ (some name) n
      (fs.map StorageField.print ++ ((["    \x7d", "\x7d"] : List Text) ++ rest)) =
      { contractName := some name, fields := StorageField.numbered n fs } := by
  induction fs generalizing n with
  | nil => rfl
  | cons f fs ih =>
    have hf := h f List.mem_cons_self
    have hfs : ∀ g ∈ fs, g.Printable := fun g hg => h g (List.mem_cons_of_mem f hg)
    have hfeed : BraceDepth.feed ⟨2, true⟩ f.print = ⟨2, true⟩ := by
      rw [BraceDepth.feed, hf.isPlain_print.braceDelta_eq]
      rfl
    have hopen : (BraceDepth.feed ⟨2, true⟩ f.print).isClosed = false := by
      rw [hfeed]
      rfl
    rw [List.map_cons, List.cons_append, inBlock_cons_of_open hopen, hfeed, ih hfs,
      fieldOn?_print hf]
    rfl

end StorageLayout

end StylusSurvey
