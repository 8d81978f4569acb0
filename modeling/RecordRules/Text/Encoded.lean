set_option autoImplicit false

namespace RecordRules.Text

def bytes (c : Char) : List Nat := (String.utf8EncodeChar c).map UInt8.toNat

abbrev ByteSequence := List (Nat × Nat)

-- Writes the numbers from `first` to `last` in base 64, with so many digits after the leading one.
-- Where the leading digits differ, the numbers below the first full block and those above the last
-- one are written apart.
def digitSequences : Nat → Nat → Nat → List ByteSequence
  | 0, first, last => [[(first, last)]]
  | count + 1, first, last =>
      let block := 1 <<< (6 * (count + 1))
      let low := first / block
      let high := last / block
      if low = high then
        (digitSequences count (first % block) (last % block)).map ((low, low) :: ·)
      else
        let below := if first % block = 0 then []
          else (digitSequences count (first % block) (block - 1)).map ((low, low) :: ·)
        let above := if last % block = block - 1 then []
          else (digitSequences count 0 (last % block)).map ((high, high) :: ·)
        let low := if below.isEmpty then low else low + 1
        let high := if above.isEmpty then high + 1 else high
        let full := if low < high then [(low, high - 1) :: List.replicate (count + 1) (0, 63)] else []
        below ++ full ++ above

def markDigits (mark : Nat) : ByteSequence → ByteSequence
  | [] => []
  | (first, last) :: rest =>
      (mark + first, mark + last) :: rest.map fun (first, last) => (0x80 + first, 0x80 + last)

-- The first and the last code point that are no surrogates and take one to four bytes, with the
-- number of bytes that follow the leading one and its mark.
def byteLengths : List (Nat × Nat × Nat × Nat) :=
  [(0, 0x7F, 0, 0), (0x80, 0x7FF, 1, 0xC0), (0x800, 0xD7FF, 2, 0xE0), (0xE000, 0xFFFF, 2, 0xE0),
    (0x10000, 0x10FFFF, 3, 0xF0)]

def byteSequences (range : Nat × Nat) : List ByteSequence :=
  byteLengths.flatMap fun (low, high, count, mark) =>
    let first := max low range.1
    let last := min high range.2
    if first ≤ last then (digitSequences count first last).map (markDigits mark) else []

example : byteSequences (0x3B1, 0x401) =
    [[(0xCE, 0xCE), (0xB1, 0xBF)], [(0xCF, 0xCF), (0x80, 0xBF)], [(0xD0, 0xD0), (0x80, 0x81)]] := by
  decide

end RecordRules.Text
