import MtaCheck.Yaml.Event

/-!
# One document

Of the events of a text only those of its first document are of use.  A
`Document` lists them without the frame of stream and document, and with every
reference pointing at the place of the value it stands for.

Anchors are numbered by how many *names* have been anchored before.  A name that
is anchored again takes a number that may belong to another name already; the
value that was anchored last then counts for both.
-/

namespace MtaCheck.Yaml

/-- What stands at a place of a document. -/
inductive Item
  /-- The value at another place. -/
  | reference (place : Nat)
  | scalar (scalar : Scalar)
  | sequenceStart (tag : Option TagOctets)
  | sequenceEnd
  | mappingStart (tag : Option TagOctets)
  | mappingEnd
  /-- What an empty text holds. -/
  | nothing

/-- Why the items of a document break off. -/
inductive Break
  | malformed (error : SyntaxError)
  | unknownAnchor (mark : Mark)

/-- The items of a document, each with its place in the text, and the reason why
they break off, if they do. -/
structure Document where
  items : Array (Item × Mark)
  failure : Option Break
  /-- Whether there is anything but the end of the text behind the document. -/
  hasMore : Bool

namespace Document

/-! ## Anchors -/

/-- The names that have been anchored and the places of the anchored values,
each by number. -/
structure Anchors where
  numbers : List (String × Nat)
  places : List (Nat × Nat)

/-- Anchors the value at `place`. -/
def Anchors.add (anchors : Anchors) (name : String) (place : Nat) : Anchors :=
  let number := anchors.numbers.length
  ⟨(name, number) :: anchors.numbers.filter (·.1 != name),
   (number, place) :: anchors.places⟩

/-- Anchors the value at `place`, if it has a name. -/
def Anchors.add? (anchors : Anchors) (name : Option String) (place : Nat) : Anchors :=
  name.elim anchors (anchors.add · place)

/-! ## Collecting the items -/

/-- The items of a document while they are collected, newest first.  A reference
holds the number of its anchor until all places are known. -/
structure Draft where
  items : List (Item × Mark)
  count : Nat
  anchors : Anchors
  failure : Option Break

/-- Adds an item. -/
def Draft.push (draft : Draft) (item : Item) (mark : Mark) (anchor : Option String) : Draft :=
  { draft with
    items := (item, mark) :: draft.items
    count := draft.count + 1
    anchors := draft.anchors.add? anchor draft.count }

/-- Collects the items up to the end of the document and gives the events behind
it. -/
def collect (failure : Option SyntaxError) : List Event → Draft → Draft × List Event
  | [], draft => ({ draft with failure := failure.map .malformed }, [])
  | event :: events, draft =>
      let mark := event.mark
      match event.kind with
      | .streamStart | .documentStart => collect failure events draft
      | .streamEnd => (draft.push .nothing mark none, [])
      | .documentEnd => (draft, events)
      | .reference name =>
          match draft.anchors.numbers.lookup name with
          | some number => collect failure events (draft.push (.reference number) mark none)
          | none => ({ draft with failure := some (.unknownAnchor mark) }, events)
      | .scalar anchor scalar => collect failure events (draft.push (.scalar scalar) mark anchor)
      | .sequenceStart anchor tag =>
          collect failure events (draft.push (.sequenceStart tag) mark anchor)
      | .sequenceEnd => collect failure events (draft.push .sequenceEnd mark none)
      | .mappingStart anchor tag =>
          collect failure events (draft.push (.mappingStart tag) mark anchor)
      | .mappingEnd => collect failure events (draft.push .mappingEnd mark none)

/-- Replaces the number of an anchor by the place of the value that has it. -/
def resolve (anchors : Anchors) : Item → Item
  | .reference number => .reference ((anchors.places.lookup number).getD 0)
  | item => item

/-- The first document of a text. -/
def ofEvents (stream : EventStream) : Document :=
  let (draft, following) := collect stream.failure stream.events ⟨[], 0, ⟨[], []⟩, none⟩
  let items := draft.items.reverse.map fun (item, mark) => (resolve draft.anchors item, mark)
  let more := match following with
    | [] => stream.failure.isSome
    | event :: _ => match event.kind with
        | .streamEnd => false
        | _ => true
  ⟨items.toArray, draft.failure, more⟩

/-- The first document of the text that the octets spell. -/
def ofOctets (octets : List UInt8) : Document :=
  ofEvents (.ofTokens (.ofSource (.ofOctets octets)))

end Document

end MtaCheck.Yaml
