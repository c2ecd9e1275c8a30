import StylusSurvey.Abi.Encode
import StylusSurvey.Proofs.Bytes

/-!
# The encoding read back

A strict decoder for tuples, which is given the shapes of the tokens and nothing else. The
words of the heads follow one another; the head of a dynamic token names the place where
its tail begins, and that place is the end of the tails before it, so that tails neither
overlap nor leave gaps; a tail is the length of the data, the data, and zeros up to a whole
word; unused bytes of a word are zero; and the last tail ends the encoding.

One step of the decoder reads one token (`tokenAt?_eq_some_iff`), and a run reads the
heads and the tails of its tokens (`decodeFrom?_eq_some_iff`). So the decoder accepts
exactly the encodings of tokens that fit their words (`decode?_eq_some_iff`), and gives
back the tokens that were encoded and the values that were parsed
(`decode?_encode`).
-/

namespace StylusSurvey

namespace Abi

variable {bs xs ys data : Bytes} {place count : Nat}

/-! ## Reading bytes -/

/-- The `count` bytes from `place` on. -/
def readAt? (bs : Bytes) (place count : Nat) : Option Bytes :=
  let xs := (bs.drop place).take count
  if xs.length = count then some xs else none

/-- The size of `count` bytes in whole words. -/
def paddedSize (count : Nat) : Nat :=
  (count + 31) / 32 * 32

/-- The data of the tail that begins at `place`. -/
def tailDataAt? (bs : Bytes) (place : Nat) : Option Bytes := do
  let word ← readAt? bs place wordSize
  let count := numberOf word
  let data ← readAt? bs (place + wordSize) count
  let padding ← readAt? bs (place + wordSize + count) (paddedSize count - count)
  if padding = List.replicate (paddedSize count - count) 0 then some data else none

/-- The tail that holds the data. -/
def tailOf (data : Bytes) : Bytes :=
  wordOf data.length ++ padRight data

theorem le_paddedSize (count : Nat) : count ≤ paddedSize count := by
  simp only [paddedSize]
  omega

/-- Data are padded with zeros behind them. -/
theorem padRight_eq (data : Bytes) :
    padRight data = data ++ List.replicate (paddedSize data.length - data.length) 0 := rfl

@[simp] theorem length_tailOf (data : Bytes) :
    (tailOf data).length = wordSize + paddedSize data.length := by
  have hle := le_paddedSize data.length
  simp only [tailOf, padRight_eq, List.length_append, length_wordOf, List.length_replicate]
  omega

theorem append_prefix_iff {l : Bytes} : xs ++ ys <+: l ↔ xs <+: l ∧ ys <+: l.drop xs.length := by
  constructor
  · rintro ⟨zs, rfl⟩
    rw [List.append_assoc, List.drop_left]
    exact ⟨List.prefix_append _ _, List.prefix_append _ _⟩
  · rintro ⟨⟨us, rfl⟩, hys⟩
    rw [List.drop_left] at hys
    exact (List.prefix_append_right_inj xs).2 hys

/-- What is read at a place stands there, and is of the length that was asked for. -/
theorem readAt?_eq_some_iff :
    readAt? bs place count = some xs ↔ xs.length = count ∧ xs <+: bs.drop place := by
  rw [readAt?, List.prefix_iff_eq_take]
  constructor
  · intro h
    split at h
    case isTrue hlen =>
      obtain rfl := Option.some.inj h
      exact ⟨hlen, by rw [hlen]⟩
    case isFalse => cases h
  · rintro ⟨rfl, hxs⟩
    rw [← hxs, if_pos rfl]

/-- The data of a tail are read at a place exactly if the tail with these data stands there. -/
theorem tailDataAt?_eq_some_iff :
    tailDataAt? bs place = some data ↔
      data.length < 2 ^ 256 ∧ tailOf data <+: bs.drop place := by
  simp only [tailDataAt?, Option.bind_eq_bind, Option.bind_eq_some_iff, readAt?_eq_some_iff,
    Option.ite_none_right_eq_some, Option.some.injEq]
  rw [tailOf, padRight_eq, append_prefix_iff, append_prefix_iff, List.drop_drop, List.drop_drop,
    length_wordOf]
  constructor
  · rintro ⟨word, ⟨hword, hcount⟩, data', ⟨hlen, hdata⟩, padding, ⟨-, hpadding⟩, rfl, rfl⟩
    have hlt : data'.length < 2 ^ 256 := hlen ▸ numberOf_lt_of_word hword
    have hwordOf : wordOf data'.length = word := (wordOf_eq_iff hlt hword).2 hlen.symm
    rw [← hlen] at hpadding
    rw [hwordOf]
    exact ⟨hlt, hcount, hdata, hpadding⟩
  · rintro ⟨hlt, hcount, hdata, hpadding⟩
    have hnumber : numberOf (wordOf data.length) = data.length :=
      (wordOf_eq_iff hlt (length_wordOf _)).1 rfl
    refine ⟨_, ⟨length_wordOf _, hcount⟩, data, ?_⟩
    rw [hnumber]
    exact ⟨⟨rfl, hdata⟩, _, ⟨List.length_replicate, hpadding⟩, rfl, rfl⟩

/-! ## Shapes -/

/-- What is known of a token before it is read. -/
inductive Shape where
  | uint
  | int
  | address
  | bool
  | fixedBytes (size : Nat)
  | bytes
  | string
deriving DecidableEq, Repr

namespace Shape

/-- A token of the shape has a tail. -/
def isDynamic : Shape → Bool
  | bytes => true
  | string => true
  | _ => false

/-- The token that is held in a word. -/
def ofWord? (word : Bytes) : Shape → Option Token
  | uint => some (.uint (BitVec.ofNat 256 (numberOf word)))
  | int => some (.int (BitVec.ofNat 256 (numberOf word)))
  | address =>
    if h : (word.drop 12).length = 20 then
      if word.take 12 = List.replicate 12 0 then
        some (.address ⟨(word.drop 12).toArray, by simpa using h⟩)
      else none
    else none
  | bool =>
    if numberOf word = 0 then some (.bool false)
    else if numberOf word = 1 then some (.bool true)
    else none
  | fixedBytes size =>
    if size ≤ wordSize ∧ word.drop size = List.replicate (wordSize - size) 0 then
      some (.fixedBytes (word.take size))
    else none
  | bytes => none
  | string => none

/-- The token that is held in the data of a tail. -/
def ofData? (data : Bytes) : Shape → Option Token
  | bytes => some (.bytes data)
  | string => (Text.ofBytes? data).map .string
  | _ => none

end Shape

namespace Token

/-- The shape of a token. -/
def shape : Token → Shape
  | uint _ => .uint
  | int _ => .int
  | address _ => .address
  | bool _ => .bool
  | fixedBytes data => .fixedBytes data.length
  | bytes _ => .bytes
  | string _ => .string

/-- The token fits in the place of its type: fixed bytes are no longer than a word. -/
def Fits : Token → Prop
  | fixedBytes data => data.length ≤ wordSize
  | _ => True

/-- The data that a dynamic token keeps in its tail. -/
def payload : Token → Bytes
  | bytes data => data
  | string text => Text.bytes text
  | _ => []

/-- The head of a token whose tail begins at `offset`. -/
def headWord (offset : Nat) (t : Token) : Bytes :=
  if t.isDynamic then wordOf offset else t.staticWord

variable {t : Token}

/-- The shape of a token knows whether its data stand in a tail. -/
theorem isDynamic_shape (t : Token) : t.shape.isDynamic = t.isDynamic := by
  cases t <;> rfl

/-- The tail of a dynamic token is its payload with the length in front and padding behind. -/
theorem tail_of_isDynamic (h : t.isDynamic = true) : t.tail = tailOf t.payload := by
  cases t with
  | bytes => rfl
  | string => rfl
  | _ => cases h

theorem tail_of_not_isDynamic (h : t.isDynamic = false) : t.tail = [] := by
  cases t with
  | bytes => cases h
  | string => cases h
  | _ => rfl

theorem fits_of_isDynamic (h : t.isDynamic = true) : t.Fits := by
  cases t with
  | fixedBytes => cases h
  | _ => trivial

theorem length_staticWord (t : Token) : t.staticWord.length = wordSize := by
  cases t with
  | address account => simp [staticWord, wordSize]
  | fixedBytes data =>
    simp only [staticWord, leftAligned, List.length_append, List.length_take,
      List.length_replicate]
    omega
  | _ => simp [staticWord]

theorem length_headWord (offset : Nat) (t : Token) : (t.headWord offset).length = wordSize := by
  rw [headWord]
  split
  · exact length_wordOf _
  · exact length_staticWord _

/-- The tail of the first token moves the offsets of the others. -/
theorem heads_cons (offset : Nat) (t : Token) (ts : List Token) :
    heads offset (t :: ts) = t.headWord offset ++ heads (offset + t.tail.length) ts := rfl

/-- The heads take one word for each token. -/
theorem length_heads : ∀ (offset : Nat) (ts : List Token),
    (heads offset ts).length = ts.length * wordSize
  | _, [] => by simp [heads]
  | offset, t :: ts => by
    rw [heads_cons, List.length_append, length_headWord, length_heads, List.length_cons,
      Nat.succ_mul, Nat.add_comm]

end Token

/-! ## Tokens in words and tails -/

namespace Shape

variable {t : Token} {s : Shape} {word : Bytes}

/-- A token that fits in its word is read from it. -/
theorem ofWord?_staticWord (hstatic : t.isDynamic = false) (hfits : t.Fits) :
    t.shape.ofWord? t.staticWord = some t := by
  cases t with
  | uint value =>
    have hvalue := (wordBytes_eq_iff (length_wordBytes value)).1 rfl
    rw [Token.staticWord, Token.shape, ofWord?, ← hvalue]
  | int value =>
    have hvalue := (wordBytes_eq_iff (length_wordBytes value)).1 rfl
    rw [Token.staticWord, Token.shape, ofWord?, ← hvalue]
  | address account =>
    have hdrop : (List.replicate 12 0 ++ account.toList).drop 12 = account.toList :=
      List.drop_left' List.length_replicate
    have htake : (List.replicate 12 0 ++ account.toList).take 12 = List.replicate 12 0 :=
      List.take_left' List.length_replicate
    simp only [Token.staticWord, Token.shape, ofWord?, hdrop, htake, Vector.length_toList,
      Vector.toArray_toList, dite_true, if_true]
  | bool flag =>
    have hnumber : numberOf (wordOf flag.toNat) = flag.toNat :=
      (wordOf_eq_iff (by cases flag <;> decide) (length_wordOf _)).1 rfl
    rw [Token.staticWord, Token.shape, ofWord?, hnumber]
    cases flag <;> rfl
  | fixedBytes data =>
    have htake : data.take wordSize = data := List.take_of_length_le hfits
    rw [Token.staticWord, Token.shape, ofWord?, leftAligned, htake,
      if_pos ⟨hfits, List.drop_left⟩, List.take_left]
  | bytes data => cases hstatic
  | string text => cases hstatic

/-- A token that is read from a word fits in it and is held in no other. -/
theorem of_ofWord? (hword : word.length = wordSize) (h : s.ofWord? word = some t) :
    t.shape = s ∧ t.isDynamic = false ∧ t.Fits ∧ t.staticWord = word := by
  cases s with
  | uint =>
    obtain rfl := Option.some.inj h
    exact ⟨rfl, rfl, trivial, (wordBytes_eq_iff hword).2 rfl⟩
  | int =>
    obtain rfl := Option.some.inj h
    exact ⟨rfl, rfl, trivial, (wordBytes_eq_iff hword).2 rfl⟩
  | address =>
    simp only [ofWord?, Option.dite_none_right_eq_some, Option.ite_none_right_eq_some] at h
    obtain ⟨hlen, hzeros, h⟩ := h
    obtain rfl := Option.some.inj h
    refine ⟨rfl, rfl, trivial, ?_⟩
    rw [Token.staticWord, ← hzeros]
    exact List.take_append_drop 12 word
  | bool =>
    rw [ofWord?] at h
    split at h
    case isTrue hzero =>
      obtain rfl := Option.some.inj h
      exact ⟨rfl, rfl, trivial, (wordOf_eq_iff (by decide) hword).2 hzero⟩
    case isFalse =>
      rw [Option.ite_none_right_eq_some] at h
      obtain rfl := Option.some.inj h.2
      exact ⟨rfl, rfl, trivial, (wordOf_eq_iff (by decide) hword).2 h.1⟩
  | fixedBytes size =>
    simp only [ofWord?, Option.ite_none_right_eq_some] at h
    obtain ⟨⟨hsize, hzeros⟩, h⟩ := h
    obtain rfl := Option.some.inj h
    have hlen : (word.take size).length = size := by
      rw [List.length_take]
      omega
    have hfits : (word.take size).length ≤ wordSize := hlen.le.trans hsize
    refine ⟨by rw [Token.shape, hlen], rfl, hfits, ?_⟩
    rw [Token.staticWord, leftAligned, hlen, ← hzeros, List.take_of_length_le hfits,
      List.take_append_drop]
  | bytes => cases h
  | string => cases h

/-- A token is read from the data of its tail and from no other. -/
theorem ofData?_eq_some_iff {data : Bytes} :
    s.ofData? data = some t ↔ t.shape = s ∧ t.isDynamic = true ∧ t.payload = data := by
  constructor
  · intro h
    cases s with
    | bytes =>
      obtain rfl := Option.some.inj h
      exact ⟨rfl, rfl, rfl⟩
    | string =>
      obtain ⟨text, htext, rfl⟩ := Option.map_eq_some_iff.1 h
      exact ⟨rfl, rfl, Text.ofBytes?_eq_some_iff.1 htext⟩
    | _ => cases h
  · rintro ⟨rfl, hdynamic, rfl⟩
    cases t with
    | bytes data => rfl
    | string text =>
      exact Option.map_eq_some_iff.2 ⟨text, Text.ofBytes?_eq_some_iff.2 rfl, rfl⟩
    | _ => cases hdynamic

end Shape

/-! ## Tuples -/

/-- The token whose head is at `place`, and the end of the tails with its own, where those before it
end at `frontier`. -/
def tokenAt? (bs : Bytes) (s : Shape) (place frontier : Nat) : Option (Token × Nat) := do
  let word ← readAt? bs place wordSize
  if s.isDynamic then
    if numberOf word = frontier then do
      let data ← tailDataAt? bs (numberOf word)
      let t ← s.ofData? data
      pure (t, frontier + wordSize + paddedSize data.length)
    else none
  else do
    let t ← s.ofWord? word
    pure (t, frontier)

/-- The tokens whose heads begin at `place`, where the tails before theirs end at `frontier`. The
bytes end with the last tail. -/
def decodeFrom? (bs : Bytes) : List Shape → Nat → Nat → Option (List Token)
  | [], _, frontier => if frontier = bs.length then some [] else none
  | s :: shapes, place, frontier => do
    let (t, frontier) ← tokenAt? bs s place frontier
    let ts ← decodeFrom? bs shapes (place + wordSize) frontier
    pure (t :: ts)

/-- The tokens of the given shapes that the bytes encode, unless they encode none. -/
def decode? (shapes : List Shape) (bs : Bytes) : Option (List Token) :=
  decodeFrom? bs shapes 0 (shapes.length * wordSize)

open Token

variable {s : Shape} {t : Token} {shapes : List Shape} {ts : List Token} {frontier frontier' : Nat}

/-- One step reads the head and the tail of its token. -/
theorem tokenAt?_eq_some_iff (hbs : bs.length < 2 ^ 256) :
    tokenAt? bs s place frontier = some (t, frontier') ↔
      t.shape = s ∧ t.Fits ∧ t.headWord frontier <+: bs.drop place ∧
        t.tail <+: bs.drop frontier ∧ frontier' = frontier + t.tail.length := by
  cases hs : s.isDynamic with
  | false =>
    simp only [tokenAt?, hs, Option.bind_eq_bind, Option.bind_eq_some_iff, readAt?_eq_some_iff,
      Bool.false_eq_true, if_false, Option.pure_def, Option.some.injEq, Prod.mk.injEq]
    constructor
    · rintro ⟨word, ⟨hword, hhead⟩, t', ht', rfl, rfl⟩
      obtain ⟨hshape, hstatic, hfits, rfl⟩ := Shape.of_ofWord? hword ht'
      rw [headWord, hstatic, tail_of_not_isDynamic hstatic]
      exact ⟨hshape, hfits, hhead, List.nil_prefix, rfl⟩
    · rintro ⟨rfl, hfits, hhead, -, rfl⟩
      have hstatic : t.isDynamic = false := by rw [← isDynamic_shape, hs]
      rw [headWord, hstatic] at hhead
      rw [tail_of_not_isDynamic hstatic]
      exact ⟨_, ⟨length_staticWord t, hhead⟩, t, Shape.ofWord?_staticWord hstatic hfits, rfl, rfl⟩
  | true =>
    simp only [tokenAt?, hs, Option.bind_eq_bind, Option.bind_eq_some_iff, readAt?_eq_some_iff,
      if_true, Option.pure_def, Option.some.injEq, Prod.mk.injEq, Option.ite_none_right_eq_some,
      tailDataAt?_eq_some_iff, Shape.ofData?_eq_some_iff]
    constructor
    · rintro ⟨word, ⟨hword, hhead⟩, rfl, data, ⟨-, htail⟩, t', ⟨hshape, hdynamic, rfl⟩, rfl, rfl⟩
      have hwordOf : wordOf (numberOf word) = word :=
        (wordOf_eq_iff (numberOf_lt_of_word hword) hword).2 rfl
      rw [headWord, if_pos hdynamic, hwordOf, tail_of_isDynamic hdynamic, length_tailOf,
        Nat.add_assoc]
      exact ⟨hshape, fits_of_isDynamic hdynamic, hhead, htail, rfl⟩
    · rintro ⟨rfl, hfits, hhead, htail, rfl⟩
      have hdynamic : t.isDynamic = true := by rw [← isDynamic_shape, hs]
      rw [headWord, if_pos hdynamic] at hhead
      rw [tail_of_isDynamic hdynamic] at htail ⊢
      have hlen := htail.length_le
      rw [length_tailOf, List.length_drop] at hlen
      have hpadded := le_paddedSize t.payload.length
      have hpos : 0 < wordSize := by decide
      have hnumber : numberOf (wordOf frontier) = frontier :=
        (wordOf_eq_iff (by omega) (length_wordOf _)).1 rfl
      refine ⟨_, ⟨length_wordOf _, hhead⟩, hnumber, t.payload, ⟨by omega, ?_⟩, t,
        ⟨rfl, hdynamic, rfl⟩, rfl, ?_⟩
      · rwa [hnumber]
      · rw [length_tailOf, Nat.add_assoc]

/-- A run reads the heads and the tails of its tokens, up to the end of the bytes. -/
theorem decodeFrom?_eq_some_iff (hbs : bs.length < 2 ^ 256) :
    decodeFrom? bs shapes place frontier = some ts ↔
      ts.map shape = shapes ∧ (∀ t ∈ ts, t.Fits) ∧ heads frontier ts <+: bs.drop place ∧
        ts.flatMap tail <+: bs.drop frontier ∧
        frontier + (ts.flatMap tail).length = bs.length := by
  -- Head and tails move on together, so both ends are arbitrary in the induction.
  induction shapes generalizing place frontier ts with
  | nil =>
    rw [decodeFrom?, Option.ite_none_right_eq_some, Option.some.injEq, List.map_eq_nil_iff]
    constructor
    · rintro ⟨hend, rfl⟩
      exact ⟨rfl, by simp, List.nil_prefix, List.nil_prefix, hend⟩
    · rintro ⟨rfl, -, -, -, hend⟩
      exact ⟨hend, rfl⟩
  | cons s shapes ih =>
    simp only [decodeFrom?, Option.bind_eq_bind, Option.bind_eq_some_iff, Prod.exists,
      tokenAt?_eq_some_iff hbs, ih, Option.pure_def, Option.some.injEq]
    constructor
    · rintro ⟨t, _, ⟨hshape, hfit, hhead, htail, rfl⟩, ts, ⟨hshapes, hfits, hheads, htails, hend⟩,
        rfl⟩
      rw [heads_cons, List.flatMap_cons, append_prefix_iff, append_prefix_iff, length_headWord,
        List.drop_drop, List.drop_drop, List.length_append, ← Nat.add_assoc]
      exact ⟨by rw [List.map_cons, hshape, hshapes], by simpa using ⟨hfit, hfits⟩,
        ⟨hhead, hheads⟩, ⟨htail, htails⟩, hend⟩
    · rintro ⟨hshapes, hfits, hheads, htails, hend⟩
      obtain ⟨t, ts, rfl, hshape, hshapes⟩ := List.map_eq_cons_iff.1 hshapes
      rw [heads_cons, append_prefix_iff, length_headWord, List.drop_drop] at hheads
      rw [List.flatMap_cons, append_prefix_iff, List.drop_drop] at htails
      rw [List.flatMap_cons, List.length_append, ← Nat.add_assoc] at hend
      exact ⟨t, _, ⟨hshape, hfits t (by simp), hheads.1, htails.1, rfl⟩, ts,
        ⟨hshapes, fun t ht => hfits t (by simp [ht]), hheads.2, htails.2, hend⟩, rfl⟩

/-- The decoder accepts exactly the encodings of tokens that fit. -/
theorem decode?_eq_some_iff (hbs : bs.length < 2 ^ 256) :
    decode? shapes bs = some ts ↔
      ts.map shape = shapes ∧ (∀ t ∈ ts, t.Fits) ∧ encode ts = bs := by
  rw [decode?, decodeFrom?_eq_some_iff hbs, encode, List.drop_zero]
  constructor
  · rintro ⟨rfl, hfits, hheads, htails, hend⟩
    rw [List.length_map] at hheads htails hend
    have hprefix : heads (ts.length * wordSize) ts ++ ts.flatMap tail <+: bs := by
      rw [append_prefix_iff, length_heads]
      exact ⟨hheads, htails⟩
    refine ⟨rfl, hfits, hprefix.eq_of_length ?_⟩
    rw [List.length_append, length_heads, hend]
  · rintro ⟨rfl, hfits, rfl⟩
    have hlen := length_heads (ts.length * wordSize) ts
    rw [List.length_map, List.drop_left' hlen, List.length_append, hlen]
    exact ⟨rfl, hfits, List.prefix_append _ _, List.prefix_refl _, rfl⟩

/-! ## Parsed arguments -/

section Except

variable {ε α β : Type} {b : β}

theorem bind_eq_ok_iff {x : Except ε α} {f : α → Except ε β} :
    (x >>= f) = .ok b ↔ ∃ a, x = .ok a ∧ f a = .ok b := by
  cases x with
  | error e =>
    constructor
    · intro h
      cases h
    · rintro ⟨_, h, _⟩
      cases h
  | ok a =>
    constructor
    · intro h
      exact ⟨a, rfl, h⟩
    · rintro ⟨_, h, hb⟩
      rwa [← Except.ok.inj h] at hb

theorem of_ite_eq_ok {p : Prop} [Decidable p] {b' : β} {e : ε}
    (h : (if p then .ok b' else .error e) = Except.ok b) : p ∧ b' = b := by
  split at h
  case isTrue hp => exact ⟨hp, Except.ok.inj h⟩
  case isFalse => cases h

end Except

/-- The bits of an integer type are whole bytes up to a word, and so are the bytes of a fixed byte
type. -/
def ElementaryType.WellFormed : ElementaryType → Prop
  | uint bits => 8 ≤ bits ∧ bits ≤ 256 ∧ bits % 8 = 0
  | int bits => 8 ≤ bits ∧ bits ≤ 256 ∧ bits % 8 = 0
  | fixedBytes size => 1 ≤ size ∧ size ≤ wordSize
  | _ => True

/-- The number of bits in a type name is a multiple of eight up to 256. -/
theorem bitsOf?_range {suffix : Text} {bits : Nat}
    (h : ElementaryType.bitsOf? suffix = some bits) : 8 ≤ bits ∧ bits ≤ 256 ∧ bits % 8 = 0 := by
  rw [ElementaryType.bitsOf?] at h
  split at h
  · obtain rfl := Option.some.inj h
    decide
  · rw [Option.filter_eq_some_iff] at h
    exact of_decide_eq_true h.2

/-- A name stands for well-formed types only. -/
theorem wellFormed_of_ofName? {name : Text} {e : ElementaryType}
    (h : ElementaryType.ofName? name = some e) : e.WellFormed := by
  unfold ElementaryType.ofName? at h
  split at h
  · obtain rfl := Option.some.inj h
    trivial
  split at h
  · obtain rfl := Option.some.inj h
    trivial
  split at h
  · obtain rfl := Option.some.inj h
    trivial
  split at h
  · obtain rfl := Option.some.inj h
    trivial
  split at h
  · obtain ⟨bits, hbits, rfl⟩ := Option.map_eq_some_iff.1 h
    exact bitsOf?_range hbits
  · obtain ⟨bits, hbits, rfl⟩ := Option.map_eq_some_iff.1 h
    exact bitsOf?_range hbits
  · obtain ⟨size, hsize, rfl⟩ := Option.map_eq_some_iff.1 h
    rw [ElementaryType.byteSizeOf?, Option.filter_eq_some_iff, decide_eq_true_eq] at hsize
    exact hsize.2
  · cases h

/-- The shape of the values of an elementary type. -/
def ElementaryType.shape : ElementaryType → Shape
  | uint _ => .uint
  | int _ => .int
  | address => .address
  | bool => .bool
  | fixedBytes size => .fixedBytes size
  | bytes => .bytes
  | string => .string

/-- A value that is read for a type is of the shape of the type. -/
theorem shape_of_ofType {e : ElementaryType} {type raw : Text}
    (h : Token.ofType e type raw = .ok t) : t.shape = e.shape := by
  cases e with
  | uint bits =>
    obtain ⟨n, -, h⟩ := bind_eq_ok_iff.1 h
    obtain ⟨-, rfl⟩ := of_ite_eq_ok h
    rfl
  | int bits =>
    rw [Token.ofType, Token.parseInt.eq_def] at h
    split at h
    all_goals
      obtain ⟨n, -, h⟩ := bind_eq_ok_iff.1 h
      obtain ⟨-, rfl⟩ := of_ite_eq_ok h
      rfl
  | address =>
    obtain ⟨data, -, h⟩ := bind_eq_ok_iff.1 h
    split at h
    case isTrue =>
      obtain rfl := Except.ok.inj h
      rfl
    case isFalse => cases h
  | bool =>
    simp only [Token.ofType] at h
    split at h
    case isTrue =>
      obtain rfl := Except.ok.inj h
      rfl
    case isFalse =>
      obtain ⟨-, rfl⟩ := of_ite_eq_ok h
      rfl
  | fixedBytes size =>
    obtain ⟨data, -, h⟩ := bind_eq_ok_iff.1 h
    obtain ⟨hlen, rfl⟩ := of_ite_eq_ok h
    rw [Token.shape, hlen, ElementaryType.shape]
  | bytes =>
    obtain ⟨data, -, h⟩ := bind_eq_ok_iff.1 h
    obtain rfl := Except.ok.inj h
    rfl
  | string =>
    obtain rfl := Except.ok.inj h
    rfl

/-- Values that are parsed fit in the place of their type. -/
theorem fits_of_parse {type raw : Text} (h : Token.parse type raw = .ok t) : t.Fits := by
  rw [Token.parse] at h
  split at h
  case h_2 => cases h
  case h_1 e hname =>
    have hshape := shape_of_ofType h
    cases t with
    | fixedBytes data =>
      have he : e = .fixedBytes data.length := by
        cases e with
        | fixedBytes size => rw [Shape.fixedBytes.inj hshape]
        | _ => cases hshape
      have hwell : (ElementaryType.fixedBytes data.length).WellFormed :=
        wellFormed_of_ofName? (he ▸ hname)
      exact hwell.2
    | _ => trivial

/-- Arguments are parsed exactly if each of them is. -/
theorem parseArgs_eq_ok_iff : ∀ {args : List (Text × Text)} {ts : List Token},
    parseArgs args = .ok ts ↔ args.map (fun arg => Token.parse arg.1 arg.2) = ts.map .ok
  | [], ts => by
    rw [parseArgs, Except.ok.injEq, List.map_nil, eq_comm, eq_comm (a := []), List.map_eq_nil_iff]
  | (type, value) :: args, ts => by
    simp only [parseArgs, bind_eq_ok_iff, parseArgs_eq_ok_iff, List.map_cons]
    constructor
    · rintro ⟨t, ht, ts, hts, h⟩
      obtain rfl := Except.ok.inj h
      rw [List.map_cons, ht, hts]
    · intro h
      obtain ⟨t, ts, rfl, ht, hts⟩ := List.map_eq_cons_iff.1 h.symm
      exact ⟨t, ht.symm, ts, hts.symm, rfl⟩

/-- Arguments are encoded exactly if there is a value for each type and each is parsed, and the
encoding is that of the tokens. -/
theorem encodeArgs_eq_ok_iff {types values : List Text} :
    encodeArgs types values = .ok bs ↔ types.length = values.length ∧
      ∃ ts, (types.zip values).map (fun arg => Token.parse arg.1 arg.2) = ts.map .ok ∧
        encode ts = bs := by
  rw [encodeArgs]
  constructor
  · intro h
    split at h
    case isTrue hlen =>
      obtain ⟨ts, hts, h⟩ := bind_eq_ok_iff.1 h
      exact ⟨hlen, ts, parseArgs_eq_ok_iff.1 hts, Except.ok.inj h⟩
    case isFalse => cases h
  · rintro ⟨hlen, ts, hts, rfl⟩
    rw [if_pos hlen, parseArgs_eq_ok_iff.2 hts]
    rfl

/-- Decoding undoes encoding. Sizes are numbers of a machine, so the encoding of a value has fewer
than `2 ^ 256` bytes. -/
theorem decode?_encode :
    (∀ ts : List Token, (∀ t ∈ ts, t.Fits) → (encode ts).length < 2 ^ 256 →
      decode? (ts.map shape) (encode ts) = some ts) ∧
    ∀ (types values : List Text) (bs : Bytes), encodeArgs types values = .ok bs →
      bs.length < 2 ^ 256 → types.length = values.length ∧
        ∃ ts, (types.zip values).map (fun arg => Token.parse arg.1 arg.2) = ts.map .ok ∧
          decode? (ts.map shape) bs = some ts := by
  constructor
  · intro ts hfits hlen
    exact (decode?_eq_some_iff hlen).2 ⟨rfl, hfits, rfl⟩
  · intro types values bs h hlen
    obtain ⟨harity, ts, hts, rfl⟩ := encodeArgs_eq_ok_iff.1 h
    refine ⟨harity, ts, hts, (decode?_eq_some_iff hlen).2 ⟨rfl, ?_, rfl⟩⟩
    intro t ht
    have hmem : (.ok t : Except EncodeError Token) ∈
        (types.zip values).map (fun arg => Token.parse arg.1 arg.2) := by
      rw [hts]
      exact List.mem_map_of_mem ht
    obtain ⟨arg, -, harg⟩ := List.mem_map.1 hmem
    exact fits_of_parse harg

/-- Heads and tails mixed, with data of a whole word, of less and of none. -/
def mixedTokens : List Token :=
  [.string "hi", .uint 1, .bytes (List.replicate 32 7), .fixedBytes [1, 2, 3], .bytes []]

/-- Static and dynamic tokens together, and the encoding of two arguments. -/
theorem decode?_mixedTokens :
    decode? (mixedTokens.map shape) (encode mixedTokens) = some mixedTokens ∧
      encodeArgs ["uint256", "string"] ["1", "hi"] = .ok (encode [.uint 1, .string "hi"]) ∧
      ∃ ts, [Token.parse "uint256" "1", Token.parse "string" "hi"] = ts.map .ok ∧
        decode? (ts.map shape) (encode [.uint 1, .string "hi"]) = some ts := by
  have hargs : encodeArgs ["uint256", "string"] ["1", "hi"] =
      .ok (encode [.uint 1, .string "hi"]) := by decide +kernel
  refine ⟨?_, hargs, ?_⟩
  · exact decode?_encode.1 mixedTokens (by simp [mixedTokens, Fits, wordSize])
      (by decide +kernel)
  · exact (decode?_encode.2 _ _ _ hargs (by decide +kernel)).2

end Abi

end StylusSurvey
