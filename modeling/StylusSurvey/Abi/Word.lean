import StylusSurvey.Text.Utf8

/-!
# Words

The unit of the encoding is a word of 32 bytes. Numbers are stored with the
most significant byte first.
-/

namespace StylusSurvey

namespace Abi

/-- A word of 256 bits. -/
abbrev Word := BitVec 256

/-- The number of bytes in a word. -/
def wordSize : Nat := 32

/-- The last `count` bytes of a number, most significant first. -/
def bigEndian : Nat → Nat → Bytes
  | 0, _ => []
  | count + 1, n => bigEndian count (n / 256) ++ [UInt8.ofNat n]

/-- The bytes of a word. -/
def Word.bytes (w : Word) : Bytes :=
  bigEndian wordSize w.toNat

/-- The word of a number. -/
def wordOf (n : Nat) : Bytes :=
  Word.bytes (BitVec.ofNat 256 n)

/-- The bytes, filled up with zeros behind them to a whole number of words. -/
def padRight (bs : Bytes) : Bytes :=
  bs ++ List.replicate ((bs.length + 31) / 32 * 32 - bs.length) 0

/-- The first 32 bytes, filled up with zeros behind them to one word. -/
def leftAligned (bs : Bytes) : Bytes :=
  bs.take wordSize ++ List.replicate (wordSize - bs.length) 0

end Abi

end StylusSurvey
