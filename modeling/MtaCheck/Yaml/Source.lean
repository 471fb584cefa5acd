import MtaCheck.Yaml.SyntaxError

/-!
# From octets to characters

A text arrives as octets and is decoded as UTF-8 in blocks of `blockSize`
octets.  A block is decoded as a whole before any of its characters is looked
at, so a bad octet spoils its whole block: the characters of the earlier blocks
can still be read, and whoever asks for one more meets the failure.

`Source.ofOctets` is total.  Its result lists the characters that can be read and
says what stands behind the last of them.
-/

namespace MtaCheck.Yaml

/-- The octets that are decoded together. -/
def blockSize : Nat := 16384

/-- A text that has been decoded: its readable characters, and the error that
stands behind them if the octets do not go on well. -/
structure Source where
  characters : List Char
  failure : Option SyntaxError

/-! ## One character -/

/-- Characters that may occur in a text: tab, the line breaks, and what is
printable; a byte order mark is allowed anywhere. -/
def isAllowed (code : Nat) : Bool :=
  code == 0x09 || code == 0x0A || code == 0x0D || code == 0x85
    || (0x20 ≤ code && code ≤ 0x7E)
    || (0xA0 ≤ code && code ≤ 0xD7FF)
    || (0xE000 ≤ code && code ≤ 0xFFFD)
    || (0x10000 ≤ code && code ≤ 0x10FFFF)

/-- What the front of an octet sequence holds. -/
inductive Front
  /-- A character, the number of its octets and those behind it. -/
  | character (char : Char) (width : Nat) (rest : List UInt8)
  /-- The beginning of a character whose other octets are missing. -/
  | truncated
  /-- No character, because of the octet at the given position. -/
  | broken (problem : EncodingProblem) (position : Nat)

/-- The number of octets that a leading octet announces, zero for none. -/
def announcedWidth (octet : Nat) : Nat :=
  if octet < 0x80 then 1
  else if octet / 0x20 == 0x06 then 2
  else if octet / 0x10 == 0x0E then 3
  else if octet / 0x08 == 0x1E then 4
  else 0

/-- The bits that a leading octet of the given width contributes. -/
def leadingBits (octet width : Nat) : Nat :=
  match width with
  | 1 => octet
  | 2 => octet % 0x20
  | 3 => octet % 0x10
  | _ => octet % 0x08

/-- Adds the bits of the trailing octets to `bits`; `position` is the place of
the first of them.  The failing case is the place of an octet that is no
trailing one. -/
def trailingBits : List UInt8 → Nat → Nat → Except Nat Nat
  | [], bits, _ => .ok bits
  | octet :: octets, bits, position =>
      if octet.toNat / 0x40 == 2 then
        trailingBits octets (bits * 0x40 + octet.toNat % 0x40) (position + 1)
      else .error position

/-- The least code that needs `width` octets. -/
def leastCode : Nat → Nat
  | 1 => 0
  | 2 => 0x80
  | 3 => 0x800
  | _ => 0x10000

/-- The character in front of `leading :: octets`, if there is one. -/
def front (leading : UInt8) (octets : List UInt8) : Front :=
  let width := announcedWidth leading.toNat
  if width == 0 then .broken .leadingOctet 0
  else
    let trailing := octets.take (width - 1)
    if trailing.length < width - 1 then .truncated
    else match trailingBits trailing (leadingBits leading.toNat width) 1 with
      | .error position => .broken .trailingOctet position
      | .ok code =>
          if code < leastCode width then .broken .overlongSequence 0
          else if (0xD800 ≤ code && code ≤ 0xDFFF) || code > 0x10FFFF then
            .broken .notACharacter 0
          else if !isAllowed code then .broken .controlCharacter 0
          else .character (Char.ofNat code) width (octets.drop (width - 1))

/-! ## One block -/

/-- What decoding a block gives: its characters and the octets of a character
that the block cuts in two, or the problem and how far into the block it is. -/
inductive BlockResult
  | decoded (characters : List Char) (remainder : List UInt8)
  | broken (problem : EncodingProblem) (position : Nat)

/-- Decodes the octets of a block.  The first argument bounds the number of
characters; `seen` holds those before, newest first. -/
def decodeBlock : Nat → List UInt8 → Nat → List Char → BlockResult
  | _, [], _, seen => .decoded seen.reverse []
  | 0, octets, _, seen => .decoded seen.reverse octets
  | bound + 1, leading :: octets, position, seen =>
      match front leading octets with
      | .truncated => .decoded seen.reverse (leading :: octets)
      | .broken problem place => .broken problem (position + place)
      | .character char width rest => decodeBlock bound rest (position + width) (char :: seen)

/-! ## The whole text -/

/-- Decodes block after block.  The first argument bounds the number of blocks;
`offset` is the place of the octets in the text. -/
def decodeBlocks : Nat → List UInt8 → Nat → Source
  | 0, _, _ => ⟨[], none⟩
  | bound + 1, octets, offset =>
      if octets.isEmpty then ⟨[], none⟩
      else
        let block := octets.take blockSize
        let later := octets.drop blockSize
        match decodeBlock block.length block 0 [] with
        | .broken problem position => ⟨[], some (.encoding problem (offset + position))⟩
        | .decoded characters remainder =>
            let next := offset + (block.length - remainder.length)
            if later.isEmpty && !remainder.isEmpty then
              ⟨characters, some (.encoding .incompleteSequence next)⟩
            else
              let following := decodeBlocks bound (remainder ++ later) next
              ⟨characters ++ following.characters, following.failure⟩

/-- The octets `ff fe` and `fe ff` are no special case: a text is UTF-8, and
either of them is a bad leading octet. -/
def Source.ofOctets (octets : List UInt8) : Source :=
  decodeBlocks (octets.length + 1) octets 0

end MtaCheck.Yaml
