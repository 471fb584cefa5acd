import MtaCheck.Text.Json

/-!
# Reading JSON back

`Json.parse?` reads a document of texts, arrays and objects by the grammar of JSON: any
blanks between its parts, all escapes in texts, and nothing behind its end.  What is written
as a line of an output is read back as it was (`parse?_render_line`), in either layout and
whatever the characters of its texts are.

The reader has a bound for its steps.  Each step takes a character, so the length of the
document is always enough.
-/

namespace MtaCheck.Text.Json

/-! ## Reading texts -/

/-- Characters that may stand between the parts of a document. -/
def isBlank (char : Char) : Bool :=
  char == ' ' || char == '\t' || char == '\n' || char == '\r'

/-- What is left behind blanks. -/
def skipBlanks (chars : List Char) : List Char := chars.dropWhile isBlank

/-- The value of a hexadecimal digit. -/
def hexValue? (char : Char) : Option Nat :=
  if char.isDigit then some (char.toNat - '0'.toNat)
  else if 'a' ≤ char && char ≤ 'f' then some (char.toNat - 'a'.toNat + 10)
  else if 'A' ≤ char && char ≤ 'F' then some (char.toNat - 'A'.toNat + 10)
  else none

/-- Reads the four digits of a code. -/
def readCode : List Char → Option (Nat × List Char)
  | first :: second :: third :: fourth :: rest => do
      let first ← hexValue? first
      let second ← hexValue? second
      let third ← hexValue? third
      let fourth ← hexValue? fourth
      return (((first * 16 + second) * 16 + third) * 16 + fourth, rest)
  | _ => none

/-- Reads the character whose code has been read, or its second half if the code is only the
first half of one. -/
def readHalf (code : Nat) (rest : List Char) : Option (Char × List Char) :=
  if code < 0xD800 || 0xDFFF < code then some (Char.ofNat code, rest)
  else if code < 0xDC00 then
    match rest with
    | '\\' :: 'u' :: rest => do
        let (second, rest) ← readCode rest
        if 0xDC00 ≤ second && second ≤ 0xDFFF then
          return (Char.ofNat (0x10000 + (code - 0xD800) * 0x400 + (second - 0xDC00)), rest)
        else none
    | _ => none
  else none

/-- Reads an escape from behind its backslash. -/
def readEscape : List Char → Option (Char × List Char)
  | '"' :: rest => some ('"', rest)
  | '\\' :: rest => some ('\\', rest)
  | '/' :: rest => some ('/', rest)
  | 'b' :: rest => some ('\x08', rest)
  | 'f' :: rest => some ('\x0c', rest)
  | 'n' :: rest => some ('\n', rest)
  | 'r' :: rest => some ('\r', rest)
  | 't' :: rest => some ('\t', rest)
  | 'u' :: rest => do
      let (code, rest) ← readCode rest
      readHalf code rest
  | _ => none

/-- Reads a text from behind its first quote. -/
def readText : Nat → List Char → Option (List Char × List Char)
  | 0, _ | _, [] => none
  | bound + 1, char :: rest =>
      if char == '"' then some ([], rest)
      else if char == '\\' then do
        let (char, rest) ← readEscape rest
        let (chars, rest) ← readText bound rest
        return (char :: chars, rest)
      else if char.toNat < 0x20 then none
      else do
        let (chars, rest) ← readText bound rest
        return (char :: chars, rest)

/-! ## Reading values -/

mutual

/-- Reads a value. -/
def readValue : Nat → List Char → Option (Json × List Char)
  | 0, _ => none
  | bound + 1, chars =>
      match skipBlanks chars with
      | '"' :: rest => do
          let (chars, rest) ← readText bound rest
          return (.text (.ofList chars), rest)
      | '[' :: rest =>
          match skipBlanks rest with
          | ']' :: rest => some (.array [], rest)
          | rest => do
              let (item, rest) ← readValue bound rest
              let (items, rest) ← readItems bound rest
              return (.array (item :: items), rest)
      | '\x7b' :: rest =>
          match skipBlanks rest with
          | '\x7d' :: rest => some (.object [], rest)
          | rest => do
              let (field, rest) ← readField bound rest
              let (fields, rest) ← readFields bound rest
              return (.object (field :: fields), rest)
      | _ => none

/-- Reads further items of an array, with its end. -/
def readItems : Nat → List Char → Option (List Json × List Char)
  | 0, _ => none
  | bound + 1, chars =>
      match skipBlanks chars with
      | ']' :: rest => some ([], rest)
      | ',' :: rest => do
          let (item, rest) ← readValue bound rest
          let (items, rest) ← readItems bound rest
          return (item :: items, rest)
      | _ => none

/-- Reads a field of an object. -/
def readField : Nat → List Char → Option ((String × Json) × List Char)
  | 0, _ => none
  | bound + 1, chars =>
      match skipBlanks chars with
      | '"' :: rest => do
          let (name, rest) ← readText bound rest
          match skipBlanks rest with
          | ':' :: rest => do
              let (value, rest) ← readValue bound rest
              return ((.ofList name, value), rest)
          | _ => none
      | _ => none

/-- Reads further fields of an object, with its end. -/
def readFields : Nat → List Char → Option (List (String × Json) × List Char)
  | 0, _ => none
  | bound + 1, chars =>
      match skipBlanks chars with
      | '\x7d' :: rest => some ([], rest)
      | ',' :: rest => do
          let (field, rest) ← readField bound rest
          let (fields, rest) ← readFields bound rest
          return (field :: fields, rest)
      | _ => none

end

/-- The value that a text is, if it is one document and nothing else. -/
def parse? (text : String) : Option Json :=
  match readValue (text.toList.length + 1) text.toList with
  | some (value, rest) => if rest.all isBlank then some value else none
  | none => none

/-! ## Texts are read back -/

theorem hexValue?_hexDigit {value : Nat} (hvalue : value < 16) :
    hexValue? (hexDigit value) = some value := by
  have hall : ∀ value < 16, hexValue? (hexDigit value) = some value := by decide
  exact hall value hvalue

/-- A character below the blank is read back from its code. -/
theorem readEscape_code {char : Char} (hcontrol : char.toNat < 0x20) (rest : List Char) :
    readEscape ('u' :: '0' :: '0' :: hexDigit (char.toNat / 16) :: hexDigit (char.toNat % 16) ::
      rest) = some (char, rest) := by
  have hhigh : hexValue? (hexDigit (char.toNat / 16)) = some (char.toNat / 16) :=
    hexValue?_hexDigit (by omega)
  have hlow : hexValue? (hexDigit (char.toNat % 16)) = some (char.toNat % 16) :=
    hexValue?_hexDigit (by omega)
  have hzero : hexValue? '0' = some 0 := rfl
  have hcode : char.toNat / 16 * 16 + char.toNat % 16 = char.toNat := by omega
  have hplain : char.toNat < 0xD800 := by omega
  simp [readEscape, readCode, hhigh, hlow, hzero, hcode, readHalf, hplain]

/-- A character is read back from its written form. -/
theorem readText_escaped (char : Char) (bound : Nat) (rest : List Char) :
    readText (bound + 1) (escaped char ++ rest) =
      (readText bound rest).map fun (chars, rest) => (char :: chars, rest) := by
  have hescape : ∀ escape : List Char, readEscape (escape ++ rest) = some (char, rest) →
      readText (bound + 1) ('\\' :: (escape ++ rest)) =
        (readText bound rest).map fun (chars, rest) => (char :: chars, rest) := by
    intro escape hread
    rw [readText, if_neg (by decide), if_pos (by decide), hread]
    cases htext : readText bound rest <;> simp [htext]
  unfold escaped
  split
  case h_8 hquote hslash _ _ _ _ _ =>
    split
    · rename_i hcontrol
      exact hescape ['u', '0', '0', _, _] (readEscape_code hcontrol rest)
    · rename_i hcontrol
      have hquote : (char == '"') = false := by simpa using hquote
      have hslash : (char == '\\') = false := by simpa using hslash
      rw [List.singleton_append, readText, hquote, hslash, if_neg hcontrol]
      cases readText bound rest <;> rfl
  · exact hescape ['"'] rfl
  · exact hescape ['\\'] rfl
  · exact hescape ['n'] rfl
  · exact hescape ['r'] rfl
  · exact hescape ['t'] rfl
  · exact hescape ['b'] rfl
  · exact hescape ['f'] rfl

/-- A text is read back from its written form. -/
theorem readText_flatMap {chars : List Char} {bound : Nat} (hbound : chars.length < bound)
    (rest : List Char) :
    readText bound (chars.flatMap escaped ++ '"' :: rest) = some (chars, rest) := by
  induction chars generalizing bound with
  | nil =>
      obtain ⟨bound, rfl⟩ := Nat.exists_eq_add_one_of_ne_zero (Nat.ne_of_gt hbound)
      rfl
  | cons char chars ih =>
      obtain ⟨bound, rfl⟩ := Nat.exists_eq_add_one_of_ne_zero (Nat.ne_of_gt (Nat.zero_lt_of_lt hbound))
      rw [List.flatMap_cons, List.append_assoc, readText_escaped, ih (Nat.lt_of_succ_lt_succ hbound)]
      rfl

/-! ## Values are read back -/

/-- The characters that begin or end something, all of which are no blanks. -/
theorem skipBlanks_lineBreak (layout : Layout) (level : Nat) (rest : List Char) :
    skipBlanks (layout.lineBreak level ++ rest) = skipBlanks rest := by
  cases layout with
  | compact => rfl
  | pretty =>
      have hblanks : ∀ char ∈ Layout.pretty.lineBreak level, isBlank char = true := by
        rw [Layout.lineBreak, List.forall_mem_cons]
        refine ⟨rfl, fun char hchar => ?_⟩
        rw [List.eq_of_mem_replicate hchar]
        rfl
      exact List.dropWhile_append_of_pos hblanks

theorem skipBlanks_cons {char : Char} (hchar : isBlank char = false) (rest : List Char) :
    skipBlanks (char :: rest) = char :: rest := by
  rw [skipBlanks, List.dropWhile_cons, hchar]
  rfl

/-- What is written for a value begins with a character that is no blank and no end. -/
theorem write_eq_cons (layout : Layout) (level : Nat) (value : Json) :
    ∃ char rest, write layout level value = char :: rest ∧
      isBlank char = false ∧ char ≠ ']' ∧ char ≠ '\x7d' := by
  match value with
  | .text value => exact ⟨'"', _, by rw [write, quoted]; rfl, by decide⟩
  | .array [] => exact ⟨'[', _, by rw [write], by decide⟩
  | .array (item :: items) => exact ⟨'[', _, by rw [write]; rfl, by decide⟩
  | .object [] => exact ⟨'\x7b', _, by rw [write], by decide⟩
  | .object ((name, value) :: fields) => exact ⟨'\x7b', _, by rw [write]; rfl, by decide⟩

theorem readValue_lineBreak (layout : Layout) (level bound : Nat) (rest : List Char) :
    readValue bound (layout.lineBreak level ++ rest) = readValue bound rest := by
  cases bound with
  | zero => rfl
  | succ bound => rw [readValue, readValue, skipBlanks_lineBreak]

theorem readField_lineBreak (layout : Layout) (level bound : Nat) (rest : List Char) :
    readField bound (layout.lineBreak level ++ rest) = readField bound rest := by
  cases bound with
  | zero => rfl
  | succ bound => rw [readField, readField, skipBlanks_lineBreak]

theorem length_quoted (text : String) : text.toList.length + 2 ≤ (quoted text).length := by
  have hescaped : ∀ char, 1 ≤ (escaped char).length := by
    intro char
    unfold escaped
    split
    case h_8 => split <;> simp
    all_goals simp
  have hall : ∀ chars : List Char, chars.length ≤ (chars.flatMap escaped).length := by
    intro chars
    induction chars with
    | nil => exact Nat.le_refl _
    | cons char chars ih =>
        have hchar := hescaped char
        rw [List.flatMap_cons, List.length_append, List.length_cons]
        omega
  have htext := hall text.toList
  rw [quoted, List.cons_append, List.length_cons, List.length_append, List.length_singleton]
  omega

/-- A written text, taken apart at its first quote. -/
theorem quoted_append (text : String) (rest : List Char) :
    quoted text ++ rest = '"' :: (text.toList.flatMap escaped ++ '"' :: rest) := by
  simp [quoted]

theorem readText_of_quoted {text : String} {bound : Nat} (hbound : (quoted text).length ≤ bound + 1)
    (rest : List Char) :
    readText bound (text.toList.flatMap escaped ++ '"' :: rest) = some (text.toList, rest) := by
  have hlength := length_quoted text
  exact readText_flatMap (by omega) rest

theorem readValue_array {bound : Nat} {front rest : List Char} {char : Char}
    (hfront : skipBlanks front = char :: rest) (hchar : char ≠ ']') :
    readValue (bound + 1) ('[' :: front) = do
      let (item, rest) ← readValue bound (char :: rest)
      let (items, rest) ← readItems bound rest
      return (.array (item :: items), rest) := by
  rw [readValue, skipBlanks_cons (by decide)]
  simp only [hfront]
  split
  · rename_i heq
    exact absurd (List.cons.inj heq).1 hchar
  · rfl

theorem readValue_object {bound : Nat} {front rest : List Char} {char : Char}
    (hfront : skipBlanks front = char :: rest) (hchar : char ≠ '\x7d') :
    readValue (bound + 1) ('\x7b' :: front) = do
      let (field, rest) ← readField bound (char :: rest)
      let (fields, rest) ← readFields bound rest
      return (.object (field :: fields), rest) := by
  rw [readValue, skipBlanks_cons (by decide)]
  simp only [hfront]
  split
  · rename_i heq
    exact absurd (List.cons.inj heq).1 hchar
  · rfl

/-- A blank in front of a value makes no difference. -/
theorem readValue_blank {char : Char} (hblank : isBlank char = true) (bound : Nat)
    (rest : List Char) : readValue bound (char :: rest) = readValue bound rest := by
  have hskip : skipBlanks (char :: rest) = skipBlanks rest := by
    rw [skipBlanks, List.dropWhile_cons, if_pos hblank, skipBlanks]
  cases bound with
  | zero => rfl
  | succ bound => rw [readValue, readValue, hskip]

/-- A field is read back from its written form, if its value is. -/
theorem readField_write {layout : Layout} {level : Nat} {name : String} {value : Json}
    (hvalue : ∀ bound, (write layout level value).length ≤ bound → ∀ rest,
      readValue bound (write layout level value ++ rest) = some (value, rest)) {bound : Nat}
    (hbound : (quoted name).length + layout.colon.length + (write layout level value).length ≤ bound)
    (rest : List Char) :
    readField bound (quoted name ++ (layout.colon ++ (write layout level value ++ rest))) =
      some ((name, value), rest) := by
  have hname := length_quoted name
  obtain ⟨bound, rfl⟩ := Nat.exists_eq_add_of_le' (show 1 ≤ bound by omega)
  have htext : ∀ rest, readText bound (name.toList.flatMap escaped ++ '"' :: rest) =
      some (name.toList, rest) :=
    readText_of_quoted (by omega)
  have hread := hvalue bound (by omega) rest
  rw [quoted_append, readField, skipBlanks_cons (by decide)]
  cases layout with
  | compact =>
      simp only [Layout.colon, List.cons_append, List.nil_append] at htext ⊢
      simp [htext, skipBlanks_cons (show isBlank ':' = false by decide), hread]
  | pretty =>
      simp only [Layout.colon, List.cons_append, List.nil_append] at htext ⊢
      simp [htext, skipBlanks_cons (show isBlank ':' = false by decide),
        readValue_blank (show isBlank ' ' = true by decide), hread]

mutual

/-- A value is read back from its written form. -/
theorem readValue_write (layout : Layout) (level : Nat) (value : Json) (bound : Nat)
    (hbound : (write layout level value).length ≤ bound) (rest : List Char) :
    readValue bound (write layout level value ++ rest) = some (value, rest) := by
  obtain ⟨_, _, hwrite, -⟩ := write_eq_cons layout level value
  have hpositive : 1 ≤ bound := by
    rw [hwrite, List.length_cons] at hbound
    omega
  obtain ⟨bound, rfl⟩ := Nat.exists_eq_add_of_le' hpositive
  clear hwrite hpositive
  match value with
  | .text value =>
      rw [write] at hbound ⊢
      rw [quoted_append, readValue, skipBlanks_cons (by decide)]
      simp [readText_of_quoted hbound]
  | .array [] =>
      rw [write, List.cons_append, List.cons_append, readValue, skipBlanks_cons (by decide)]
      simp only
      rw [skipBlanks_cons (by decide)]
      rfl
  | .array (item :: items) =>
      rw [write] at hbound ⊢
      simp only [List.cons_append, List.nil_append, List.append_assoc, List.length_cons,
        List.length_append, List.length_nil] at hbound ⊢
      obtain ⟨char, tail, hitem, hblank, hchar, -⟩ := write_eq_cons layout (level + 1) item
      have hfront : ∀ behind, skipBlanks (layout.lineBreak (level + 1) ++
          (write layout (level + 1) item ++ behind)) = char :: (tail ++ behind) := by
        intro behind
        rw [skipBlanks_lineBreak, hitem, List.cons_append, skipBlanks_cons hblank]
      have hfirst := readValue_write layout (level + 1) item bound (by omega)
      have hmore := readItems_writeItems layout (level + 1) items bound (by omega) level rest
      rw [readValue_array (hfront _) hchar, ← List.cons_append, ← hitem, hfirst]
      simp [hmore]
  | .object [] =>
      rw [write, List.cons_append, List.cons_append, readValue, skipBlanks_cons (by decide)]
      simp only
      rw [skipBlanks_cons (by decide)]
      rfl
  | .object ((name, value) :: fields) =>
      rw [write] at hbound ⊢
      simp only [List.cons_append, List.nil_append, List.append_assoc, List.length_cons,
        List.length_append, List.length_nil] at hbound ⊢
      have hname := length_quoted name
      have hfront : ∀ behind, skipBlanks (layout.lineBreak (level + 1) ++ (quoted name ++ behind)) =
          '"' :: (name.toList.flatMap escaped ++ '"' :: behind) := by
        intro behind
        rw [skipBlanks_lineBreak, quoted_append, skipBlanks_cons (by decide)]
      have hfirst : ∀ rest, readField bound (quoted name ++ (layout.colon ++
          (write layout (level + 1) value ++ rest))) = some ((name, value), rest) :=
        readField_write (readValue_write layout (level + 1) value) (by omega)
      have hmore := readFields_writeFields layout (level + 1) fields bound (by omega) level rest
      rw [readValue_object (hfront _) (by decide), ← quoted_append, hfirst]
      simp [hmore]

/-- Further items of an array are read back, and the end of the array with them. -/
theorem readItems_writeItems (layout : Layout) (level : Nat) (items : List Json) (bound : Nat)
    (hbound : (writeItems layout level items).length < bound) (outer : Nat) (rest : List Char) :
    readItems bound (writeItems layout level items ++ (layout.lineBreak outer ++ ']' :: rest)) =
      some (items, rest) := by
  obtain ⟨bound, rfl⟩ := Nat.exists_eq_add_one_of_ne_zero (Nat.ne_of_gt (Nat.zero_lt_of_lt hbound))
  match items with
  | [] =>
      rw [writeItems, List.nil_append, readItems, skipBlanks_lineBreak,
        skipBlanks_cons (by decide)]
      rfl
  | item :: items =>
      rw [writeItems] at hbound ⊢
      simp only [List.cons_append, List.append_assoc, List.length_cons,
        List.length_append] at hbound ⊢
      obtain ⟨char, tail, hitem, -⟩ := write_eq_cons layout level item
      have hpositive : 1 ≤ (write layout level item).length := by
        rw [hitem, List.length_cons]
        omega
      have hfirst := readValue_write layout level item bound (by omega)
      have hmore := readItems_writeItems layout level items bound (by omega) outer rest
      rw [readItems, skipBlanks_cons (by decide)]
      simp [readValue_lineBreak, hfirst, hmore]

/-- Further fields of an object are read back, and the end of the object with them. -/
theorem readFields_writeFields (layout : Layout) (level : Nat) (fields : List (String × Json))
    (bound : Nat) (hbound : (writeFields layout level fields).length < bound) (outer : Nat)
    (rest : List Char) :
    readFields bound
      (writeFields layout level fields ++ (layout.lineBreak outer ++ '\x7d' :: rest)) =
        some (fields, rest) := by
  obtain ⟨bound, rfl⟩ := Nat.exists_eq_add_one_of_ne_zero (Nat.ne_of_gt (Nat.zero_lt_of_lt hbound))
  match fields with
  | [] =>
      rw [writeFields, List.nil_append, readFields, skipBlanks_lineBreak,
        skipBlanks_cons (by decide)]
      rfl
  | (name, value) :: fields =>
      rw [writeFields] at hbound ⊢
      simp only [List.cons_append, List.append_assoc, List.length_cons,
        List.length_append] at hbound ⊢
      have hfirst : ∀ rest, readField bound (quoted name ++ (layout.colon ++
          (write layout level value ++ rest))) = some ((name, value), rest) :=
        readField_write (readValue_write layout level value) (by omega)
      have hmore := readFields_writeFields layout level fields bound (by omega) outer rest
      rw [readFields, skipBlanks_cons (by decide)]
      simp [readField_lineBreak, hfirst, hmore]

end

/-! ## Documents are read back -/

theorem parse?_ofList_write (layout : Layout) (value : Json) {blanks : List Char}
    (hblanks : blanks.all isBlank = true) :
    parse? (.ofList (write layout 0 value ++ blanks)) = some value := by
  have hread := readValue_write layout 0 value ((write layout 0 value ++ blanks).length + 1)
    (by rw [List.length_append]; omega) blanks
  rw [parse?, String.toList_ofList, hread]
  simp [hblanks]

/-- **A value is read back from a line with its text**, in either layout. -/
theorem parse?_render_line (layout : Layout) (value : Json) :
    parse? (render layout value ++ "\n") = some value := by
  have hline : render layout value ++ "\n" = .ofList (write layout 0 value ++ ['\n']) := by
    rw [render, String.ofList_append]
  rw [hline]
  exact parse?_ofList_write layout value rfl

/-- The reader knows more forms than those that are written. -/
example : parse? "[ \"\\u00e4\\ud83d\\ude00\\/\" , \x7b \x7d ]" =
    some (.array [.text "ä😀/", .object []]) := by
  rfl

end MtaCheck.Text.Json
