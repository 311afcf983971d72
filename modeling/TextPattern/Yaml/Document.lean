import TextPattern.Yaml.Event

/-!
# Documents of a YAML text

* `Item` : an event within a document;
* `Document` : the items of a document up to its first fault, and its anchored nodes;
* `firstDocument` : the first document of a text, and whether there are others.

Anchors are numbered by how many names had an anchor before. An alias carries the number of the anchor
last given to its name, and stands for the last node of that number.
-/

namespace TextPattern.Yaml

inductive Item.Kind where
  /-- The place of a missing document. -/
  | void
  | alias (number : Nat)
  | scalar (text : String) (plain : Bool) (tag : Option String)
  | sequence | sequenceEnd | mapping | mappingEnd
deriving DecidableEq, Repr

/-- An event within a document, with the mark where it starts. -/
structure Item where
  kind : Item.Kind
  mark : Mark
deriving DecidableEq, Repr

structure Document where
  items : List Item
  /-- The fault that ends it, if any. -/
  fault : Option Fault
  /-- The numbers of anchors with the indices of their nodes, the last first. -/
  anchored : List (Nat × Nat)
deriving Repr

namespace Document

/-- The fault that is met behind the last item. -/
def end? (d : Document) : Fault := d.fault.getD .endOfText

/-- The items from the node with an anchor's number on. -/
def resolve (d : Document) (number : Nat) : List Item :=
  match d.anchored.lookup number with
  | some index => d.items.drop index
  | none => []

end Document

/-- A document that is being read: its items, last first, with their number, the names that have an
anchor with the number of the last, and the anchored nodes. -/
structure Loading where
  items : List Item := []
  count : Nat := 0
  names : List (String × Nat) := []
  anchored : List (Nat × Nat) := []

namespace Loading

def add (l : Loading) (kind : Item.Kind) (mark : Mark) : Loading :=
  { l with items := ⟨kind, mark⟩ :: l.items, count := l.count + 1 }

def anchor (l : Loading) (name : Option String) : Loading :=
  match name with
  | none => l
  | some name =>
    let number := l.names.length
    { l with
      names := (name, number) :: l.names.filter fun n => n.1 ≠ name
      anchored := (number, l.count) :: l.anchored }

def finish (l : Loading) (fault : Option Fault) : Document := ⟨l.items.reverse, fault, l.anchored⟩

/-- The document that events make, ended by `fault` if they run out, and the events behind it. -/
def load (fault : Option Fault) : List Event → Loading → Document × List Event
  | [], l => (l.finish fault, [])
  | e :: events, l =>
    match e.kind with
    | .streamStart | .documentStart => load fault events l
    | .streamEnd =>
      ((if l.items.isEmpty then l.add .void e.mark else l).finish none, e :: events)
    | .documentEnd => (l.finish none, events)
    | .alias name =>
      match l.names.lookup name with
      | some number => load fault events (l.add (.alias number) e.mark)
      | none => (l.finish (some (.unknownAnchor e.mark)), events)
    | .scalar text plain p =>
      load fault events ((l.anchor p.anchor).add (.scalar text plain p.tag) e.mark)
    | .sequence p => load fault events ((l.anchor p.anchor).add .sequence e.mark)
    | .sequenceEnd => load fault events (l.add .sequenceEnd e.mark)
    | .mapping p => load fault events ((l.anchor p.anchor).add .mapping e.mark)
    | .mappingEnd => load fault events (l.add .mappingEnd e.mark)

end Loading

/-- The first document of a text, and whether something but the end of the text follows it. -/
def firstDocument (text : List Char) : Document × Bool :=
  let (events, fault) := eventsOf text
  let (document, rest) := Loading.load fault events {}
  (document, !rest.head?.any fun e => e.kind = .streamEnd)

end TextPattern.Yaml
