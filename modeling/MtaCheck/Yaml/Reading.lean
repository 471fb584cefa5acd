import MtaCheck.Yaml.ReadError
import MtaCheck.Yaml.Resolution

/-!
# Reading a document

A reader walks over the items of a document.  It keeps its place and the number
of references it has followed; it stops where the document breaks off, where
what it finds is not what it asks for, or where one of two limits is exceeded.

* Collections may be nested `depthLimit` deep.  `Read.inside` passes on what is
  left of that.
* At most `repetitionFactor` references are followed for each item of the
  document, so that small documents cannot stand for huge values.

`Read.items` and `Read.entries` read the contents of a collection; they take the
reader of one item, or of one entry, and stop at the end of the collection.
-/

namespace MtaCheck.Yaml

/-- Where a reader stands, and how many references it has followed. -/
structure ReadState where
  place : Nat
  jumps : Nat

/-- Reading with a place in a document. -/
abbrev Read := StateT ReadState (Except ReadError)

/-- How deep collections may be nested. -/
def depthLimit : Nat := 128

/-- How many references may be followed for each item of a document. -/
def repetitionFactor : Nat := 100

namespace Read

/-! ## Single items -/

/-- The next item, which stays the next. -/
def peek (document : Document) : Read (Item × Mark) := do
  match document.items[(← get).place]? with
  | some item => return item
  | none => throw (document.failure.elim .endOfDocument .broken)

/-- Passes the next item. -/
def pass : Read Unit :=
  modify fun state => { state with place := state.place + 1 }

/-- The next item, which is passed. -/
def next (document : Document) : Read (Item × Mark) := do
  let item ← peek document
  pass
  return item

/-- Reads the value at another place and comes back. -/
def follow {α : Type} (document : Document) (place : Nat) (read : Read α) : Read α := do
  let state ← get
  let jumps := state.jumps + 1
  if jumps > document.items.size * repetitionFactor then
    throw .repetitionLimit
  set (⟨place, jumps⟩ : ReadState)
  let result ← read
  modify fun after => { after with place := state.place }
  return result

/-- Reads what the next item begins, or what it refers to. -/
def content {α : Type} (document : Document) (trail : Trail)
    (read : Trail → Item → Mark → Read α) : Read α := do
  let (item, mark) ← next document
  match item with
  | .reference place =>
      follow document place do
        let (item, mark) ← next document
        read (.reference trail) item mark
  | item => read trail item mark

/-- Stops because of what stands at `mark`. -/
def refuse {α : Type} (complaint : Complaint) (mark : Mark) (trail : Trail) : Read α :=
  throw (.refused complaint mark trail)

/-! ## Collections -/

/-- Reads inside a collection that begins at `mark` with the reader of what is
below, if the depth allows one. -/
def inside {α β : Type} (below : Option β) (mark : Mark) (read : β → Read α) : Read α :=
  match below with
  | none => throw (.recursionLimit mark)
  | some reader => read reader

/-- Whether a sequence ends with this item. -/
def endsSequence : Item → Bool
  | .sequenceEnd | .nothing => true
  | _ => false

/-- Whether a mapping ends with this item. -/
def endsMapping : Item → Bool
  | .mappingEnd | .nothing => true
  | _ => false

/-- Reads the items of a sequence from the one with the given index on, with the
end of the sequence.  The first number bounds how many there are. -/
def items {α : Type} (document : Document) (readItem : Nat → Read α) :
    Nat → Nat → Read (List α)
  | 0, _ => return []
  | bound + 1, index => do
      if endsSequence (← peek document).1 then
        pass
        return []
      else
        let item ← readItem index
        let following ← items document readItem bound (index + 1)
        return item :: following

/-- Reads the entries of a mapping one after the other, with the end of the
mapping.  What has been read so far is handed from entry to entry, and the reader
of an entry is given the text of its key, if that is a scalar. -/
def entries {σ : Type} (document : Document) (readEntry : Option String → σ → Read σ) :
    Nat → σ → Read σ
  | 0, state => return state
  | bound + 1, state => do
      let (item, _) ← peek document
      if endsMapping item then
        pass
        return state
      else
        let key := match item with
          | .scalar scalar => some scalar.text
          | _ => none
        let state ← readEntry key state
        entries document readEntry bound state

/-- The way to the value of a key. -/
def valueTrail (trail : Trail) : Option String → Trail
  | some key => .entry trail key
  | none => .unnamed trail

/-! ## Skipping -/

/-- Passes items until `depth` open collections are closed. -/
def skipFrom (document : Document) : Nat → Nat → Read Unit
  | 0, _ => pure ()
  | bound + 1, depth => do
      let (item, _) ← next document
      let depth := match item with
        | .sequenceStart _ | .mappingStart _ => depth + 1
        | .sequenceEnd | .mappingEnd => depth - 1
        | _ => depth
      if depth == 0 then pure () else skipFrom document bound depth

/-- Passes a whole value without looking at it. -/
def skip (document : Document) : Read Unit := skipFrom document (document.items.size + 1) 0

/-! ## Whole documents -/

/-- Reads a document from its beginning.  Whatever the reader has left over, the
text must be sound and hold no other document. -/
def run {α : Type} (document : Document) (read : Read α) : Except ReadError α := do
  let (result, _) ← StateT.run read ⟨0, 0⟩
  match document.failure with
  | some cause => throw (.broken cause)
  | none => if document.hasMore then throw .moreThanOneDocument else return result

end Read

/-! ## Scalars -/

/-- What a scalar means, if it is what its tag says.  With `tagged` its tag is
left aside, since the value around it has it already. -/
def Scalar.meaning (scalar : Scalar) (tagged : Bool) : Except Complaint Meaning :=
  match if tagged then none else scalar.tag with
  | some tag =>
      match standardTags.find? fun entry => tagOctets entry.1 == tag with
      | some (_, standard) =>
          match Meaning.ofTagged standard scalar.text with
          | some meaning => .ok meaning
          | none => .error (.wrongValue scalar.text standard.description)
      | none =>
          if tag.head? == some 0x21 && scalar.style == .plain then .ok (.ofPlain scalar.text)
          else .ok .text
  | none => .ok (if scalar.style == .plain then .ofPlain scalar.text else .text)

/-- The name of a tag that belongs to the document itself.  The exclamation mark
in front of it is left out, and so is a second one. -/
def localTag? (tag : Option TagOctets) : Option String := do
  match ← tag with
  | 0x21 :: name =>
      let octets := if name.isEmpty then [0x21] else name
      let octets := match octets with
        | 0x21 :: second :: rest => second :: rest
        | octets => octets
      String.fromUTF8? ⟨octets.toArray⟩
  | _ => none

end MtaCheck.Yaml
