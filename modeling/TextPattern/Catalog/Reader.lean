import TextPattern.Catalog.Basic
import TextPattern.Error
import TextPattern.Yaml.Document
import TextPattern.Yaml.Resolve

/-!
# Reading catalogs

* `readCatalog` : the entries that a YAML document gives under `patterns`;
* `Catalog.ofYaml` : the catalog of a YAML text;
* `readFile`, `Catalog.ofFile` : the text and the catalog of a file.

The items of a document are read in order, and the first that is not what is expected is the fault that
is reported; a fault of the text counts where the items end.
-/

namespace TextPattern.Yaml

/-- Passes over a node, `depth` collections being open. -/
def skipNode (d : Document) : List Item → (depth : Nat) → Except Fault (List Item)
  | [], _ => .error d.end?
  | i :: items, depth =>
    match i.kind with
    | .sequence | .mapping => skipNode d items (depth + 1)
    | .sequenceEnd | .mappingEnd => if depth ≤ 1 then .ok items else skipNode d items (depth - 1)
    | _ => if depth = 0 then .ok items else skipNode d items depth

/-- A node is not of the type that is expected. -/
def unexpected {α : Type} (path : List String) (expected : String) (i : Item) : Except Fault α :=
  match i.kind with
  | .scalar text plain tag =>
    match Found.ofScalar text plain tag with
    | .ok found => .error (.wrongType path found expected i.mark)
    | .error fitting => .error (.wrongValue path text fitting i.mark)
  | .void => .error (.wrongType path .unit expected i.mark)
  | .sequence => .error (.wrongType path .sequence expected i.mark)
  | _ => .error (.wrongType path .mapping expected i.mark)

/-- The item that an item stands for: for an alias the anchored one. -/
def target (d : Document) (i : Item) : Item :=
  match i.kind with
  | .alias number => (d.resolve number).headD i
  | _ => i

def scalarText (path : List String) (expected : String) (i : Item) : Except Fault String :=
  match i.kind with
  | .scalar text .. => .ok text
  | _ => unexpected path expected i

/-- How the path to a value names its key. -/
def keyName (i : Item) : String :=
  match i.kind with
  | .scalar text .. => text
  | _ => "?"

/-- The text of the entry with a name, which may be missing. `path` leads to the entries, and `around` is
where they began. -/
def entryText (path : List String) (around : Mark) (name : String) (i : Item) :
    Except Fault (Option String) :=
  match i.kind with
  | .void => .ok none
  | .scalar text plain tag =>
    if !plain then .ok (some text)
    else if tag = some (coreTag ++ "null") then
      if isNull text then .ok none else .error (.wrongValue path text "null" around)
    else if tag.isNone && (text.isEmpty || isNull text) then .ok none
    else .ok (some text)
  | _ => unexpected (path ++ [name]) "a string" i

/-- The mapping is empty although it is written as a scalar or not at all. -/
def isMissing (i : Item) : Bool :=
  match i.kind with
  | .void => true
  | .scalar text plain _ => text.isEmpty && plain
  | _ => false

def patternsField : String := "patterns"

/-- The entries behind those in `done`, which are last first, and the items behind their mapping, to
which `path` leads. -/
def readEntries (d : Document) (path : List String) (around : Mark) :
    (rounds : Nat) → List Item → (done : List (String × String)) →
      Except Fault (List (String × String) × List Item)
  | _, [], _ => .error d.end?
  | 0, _ :: _, _ => .error d.end?
  | rounds + 1, key :: items, done => do
    if key.kind = .mappingEnd then return (done.reverse, items)
    else
      let name ← scalarText path "a string" (target d key)
      match items with
      | [] => .error d.end?
      | value :: items =>
        let text ← entryText path around (keyName key) (target d value)
        readEntries d path around rounds items ((name, text.getD "") :: done)

/-- The entries that begin with an item, to which `path` leads and which other items follow. -/
def readPatterns (d : Document) (path : List String) (first : Item) (items : List Item) :
    Except Fault (List (String × String) × List Item) :=
  match first.kind with
  | .mapping => readEntries d path first.mark items.length items []
  | _ => if isMissing first then .ok ([], items) else unexpected path "a map" first

/-- The entries under the field `patterns` of a mapping that began at `around`, and nothing else. -/
def readFields (d : Document) (around : Mark) :
    (rounds : Nat) → List Item → (found : Option (List (String × String))) →
      Except Fault (List (String × String))
  | _, [], _ => .error d.end?
  | 0, _ :: _, _ => .error d.end?
  | rounds + 1, key :: items, found => do
    if key.kind = .mappingEnd then return found.getD []
    else
      let name ← scalarText [] "field identifier" (target d key)
      if name ≠ patternsField then
        readFields d around rounds (← skipNode d items 0) found
      else if found.isSome then .error (.duplicateField patternsField around)
      else
        match items with
        | [] => .error d.end?
        | value :: items =>
          match value.kind with
          | .alias number =>
            match d.resolve number with
            | [] => .error d.end?
            | first :: behind =>
              let (entries, _) ← readPatterns d [keyName key] first behind
              readFields d around rounds items (some entries)
          | _ =>
            let (entries, items) ← readPatterns d [keyName key] value items
            readFields d around rounds items (some entries)

def readDocument (d : Document) : Except Fault (List (String × String)) :=
  match d.items with
  | [] => .error d.end?
  | first :: items =>
    match first.kind with
    | .mapping => readFields d first.mark items.length items none
    | _ => if isMissing first then .ok [] else unexpected [] "struct CatalogFile" first

/-- The entries of a text, which is a single document. -/
def readCatalog (text : List Char) : Except Fault (List (String × String)) := do
  let (document, more) := firstDocument text
  let entries ← readDocument document
  match document.fault with
  | some f => .error f
  | none => if more then .error .severalDocuments else return entries

end TextPattern.Yaml

namespace TextPattern

/-! ## Files -/

inductive FileNode where
  | folder
  | file (bytes : ByteArray)

/-- The text of what a path leads to. -/
def readFile : Option FileNode → Except FileFault String
  | none => .error .notFound
  | some .folder => .error .isDirectory
  | some (.file bytes) =>
    match String.fromUTF8? bytes with
    | some text => .ok text
    | none => .error .invalidUtf8

namespace Catalog

def ofYaml (text : String) : Except Error Catalog :=
  match Yaml.readCatalog text.toList with
  | .ok entries => .ok (ofList entries)
  | .error fault => .error (.catalog (.malformed fault))

def ofFile (path : String) (node : Option FileNode) : Logged (Except Error Catalog) := do
  report .notice ("Loading pattern catalog from: " ++ path)
  match readFile node with
  | .error fault => return .error (.catalog (.unreadable path fault))
  | .ok text =>
    match ofYaml text with
    | .error e => return .error e
    | .ok c =>
      report .notice ("Loaded " ++ toString c.size ++ " catalog entries from file " ++ path ++ ".")
      return .ok c

end Catalog

end TextPattern
