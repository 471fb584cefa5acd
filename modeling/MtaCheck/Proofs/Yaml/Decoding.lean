import Mathlib.Data.List.Basic
import MtaCheck.Yaml.Document

/-!
# Decoding ASCII

Decoding undoes the encoding of a text: `Source.ofOctets` gives back the characters that
`String.toUTF8` was given (`ofOctets_toUTF8`).  The theorem is for texts in ASCII without
control characters, whose octets are their characters one by one, so that no character is
cut in two by the end of a block.

With it a document is read from its characters (`Document.ofOctets_toUTF8`), and texts that
are written down in Lean can be evaluated without going through their octets.
-/

namespace MtaCheck.Yaml

/-! ## The octets of a text -/

theorem toList_loop (bytes : ByteArray) (index : Nat) (seen : List UInt8) :
    ByteArray.toList.loop bytes index seen = seen.reverse ++ bytes.data.toList.drop index := by
  fun_induction ByteArray.toList.loop bytes index seen with
  | case1 index seen hindex ih =>
      have hlt : index < bytes.data.toList.length := hindex
      rw [ih, List.reverse_cons, List.append_assoc, List.drop_eq_getElem_cons hlt]
      have hget : bytes.get! index = bytes.data.toList[index] := by
        simp [ByteArray.get!, getElem!_pos bytes.data index hindex]
      rw [hget]
      rfl
  | case2 index seen hindex =>
      have hle : bytes.data.toList.length ≤ index := Nat.le_of_not_lt hindex
      rw [List.drop_eq_nil_of_le hle, List.append_nil]

theorem toList_toUTF8 (text : String) :
    text.toUTF8.toList = text.toList.flatMap String.utf8EncodeChar := by
  rw [ByteArray.toList, toList_loop, String.toUTF8_eq_toByteArray, ← String.utf8Encode_toList,
    List.utf8Encode, List.toList_data_toByteArray]
  rfl

/-- The characters of ASCII that may occur in a text. -/
def IsSimple (char : Char) : Prop := char.toNat < 0x80 ∧ isAllowed char.toNat = true

/-- Whether a text is in ASCII. -/
def isSimpleText (chars : List Char) : Bool :=
  chars.all fun char => char.toNat.blt 0x80 && isAllowed char.toNat

theorem isSimple_of_mem {chars : List Char} (htext : isSimpleText chars = true) :
    ∀ char ∈ chars, IsSimple char := by
  intro char hchar
  have hboth := List.all_eq_true.mp htext char hchar
  rw [Bool.and_eq_true, Nat.blt_eq] at hboth
  exact hboth

/-- The octet of a character of ASCII. -/
def octetOf (char : Char) : UInt8 := UInt8.ofNat char.toNat

theorem utf8EncodeChar_of_isSimple {char : Char} (hsimple : IsSimple char) :
    String.utf8EncodeChar char = [octetOf char] := by
  have hle : char.val.toNat ≤ 127 := Nat.le_of_lt_succ hsimple.1
  rw [String.utf8EncodeChar, if_pos hle]
  rfl

theorem toList_toUTF8_of_isSimple {text : String} (hsimple : ∀ char ∈ text.toList, IsSimple char) :
    text.toUTF8.toList = text.toList.map octetOf := by
  rw [toList_toUTF8, List.map_eq_flatMap]
  exact List.flatMap_congr fun char hchar => utf8EncodeChar_of_isSimple (hsimple char hchar)

/-! ## Decoding them -/

theorem front_octetOf {char : Char} (hsimple : IsSimple char) (octets : List UInt8) :
    front (octetOf char) octets = .character char 1 octets := by
  obtain ⟨hlt, hallowed⟩ := hsimple
  have hoctet : (octetOf char).toNat = char.toNat := by
    rw [octetOf, UInt8.toNat_ofNat']
    omega
  have hwidth : announcedWidth char.toNat = 1 := by rw [announcedWidth, if_pos hlt]
  have hscalar : ¬((0xD800 ≤ char.toNat ∧ char.toNat ≤ 0xDFFF) ∨ 0x10FFFF < char.toNat) := by
    omega
  simp [front, hwidth, hoctet, trailingBits, leadingBits, leastCode, hallowed, hscalar]

theorem decodeBlock_map_octetOf {chars : List Char} (hsimple : ∀ char ∈ chars, IsSimple char)
    (position : Nat) (seen : List Char) :
    decodeBlock (chars.map octetOf).length (chars.map octetOf) position seen =
      .decoded (seen.reverse ++ chars) [] := by
  induction chars generalizing position seen with
  | nil => simp [decodeBlock]
  | cons char chars ih =>
      rw [List.forall_mem_cons] at hsimple
      rw [List.map_cons, List.length_cons, decodeBlock, front_octetOf hsimple.1]
      simp only
      rw [ih hsimple.2, List.reverse_cons, List.append_assoc, List.singleton_append]

/-- Blocks of ASCII leave nothing over, so that each of them is decoded on its own. -/
theorem decodeBlocks_map_octetOf (bound : Nat) {chars : List Char} (hbound : chars.length < bound)
    (hsimple : ∀ char ∈ chars, IsSimple char) (offset : Nat) :
    decodeBlocks bound (chars.map octetOf) offset = ⟨chars, none⟩ := by
  induction bound generalizing chars offset with
  | zero => exact absurd hbound (Nat.not_lt_zero _)
  | succ bound ih =>
      rw [decodeBlocks]
      by_cases hempty : chars = []
      · subst hempty
        rfl
      · have hlength : 0 < chars.length := List.length_pos_iff.mpr hempty
        have hlater : (chars.drop blockSize).length < bound := by
          rw [List.length_drop]
          have : 0 < blockSize := by decide
          omega
        have htake : ∀ char ∈ chars.take blockSize, IsSimple char :=
          fun char hchar => hsimple char (List.mem_of_mem_take hchar)
        have hblock := decodeBlock_map_octetOf htake 0 []
        have hfollowing := ih hlater (fun char hchar => hsimple char (List.mem_of_mem_drop hchar))
        rw [if_neg (by simpa using hempty), ← List.map_take, ← List.map_drop]
        simp only [hblock, hfollowing, List.isEmpty_nil, Bool.not_true, Bool.and_false,
          Bool.false_eq_true, if_false, List.nil_append, List.reverse_nil, List.take_append_drop]

/-- **Decoding undoes encoding.** -/
theorem Source.ofOctets_toUTF8 {text : String} (htext : isSimpleText text.toList = true) :
    Source.ofOctets text.toUTF8.toList = ⟨text.toList, none⟩ := by
  have hsimple := isSimple_of_mem htext
  rw [toList_toUTF8_of_isSimple hsimple, Source.ofOctets, List.length_map]
  exact decodeBlocks_map_octetOf _ (Nat.lt_succ_self _) hsimple 0

/-- The document that characters spell. -/
def Document.ofCharacters (chars : List Char) : Document :=
  ofEvents (.ofTokens (.ofSource ⟨chars, none⟩))

theorem Document.ofOctets_toUTF8 {text : String} (htext : isSimpleText text.toList = true) :
    Document.ofOctets text.toUTF8.toList = ofCharacters text.toList := by
  rw [ofOctets, Source.ofOctets_toUTF8 htext, ofCharacters]

end MtaCheck.Yaml
