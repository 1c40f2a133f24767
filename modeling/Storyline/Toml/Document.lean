import Storyline.Toml.Item

/-!
# Documents in TOML

A document is a list of lines: entries, and headers that say into which table the entries below
them go. The table of the last header is kept apart (`Draft.current`) and joins the others when
the next header comes, or the end.

A header may name a table once; the tables that its name leads through need not have been named,
and may still be. Dotted keys may go on with tables that dotted keys opened, but not with those of
a header.
-/

namespace Storyline.Toml

/-- A table that is being put together. -/
structure Table where
  /-- Whether only parts of it have been named so far. -/
  implicit : Bool := false
  /-- Whether dotted keys opened it. -/
  dotted : Bool := false
  /-- Its entries. -/
  entries : Entries := []

namespace Table

/-- A table as an item. -/
def toItem (t : Table) : Item := .table t.implicit t.dotted t.entries

/-- The table with another entry in the place of the one with its key, or at the end. -/
def set (t : Table) (key : String) (item : Item) : Table :=
  { t with entries := t.entries.set key item }

/-- Changes the table to which names lead. A name that is not there opens an implicit table; the
last of an array of tables stands for the array. Dotted keys do not lead into tables that a header
named. -/
def changeAt {α : Type} (dotted : Bool) (change : Table → Option (α × Table)) :
    List String → Table → Option (α × Table)
  | [], t => change t
  | k :: ks, t =>
    match t.entries.lookup k with
    | none =>
      (changeAt dotted change ks { implicit := true, dotted }).map fun p ↦
        (p.1, t.set k p.2.toItem)
    | some (.table implicit wasDotted entries) =>
      if dotted && !implicit then none
      else
        (changeAt dotted change ks { implicit, dotted := wasDotted, entries }).map fun p ↦
          (p.1, t.set k p.2.toItem)
    | some (.tables elements) =>
      match elements.getLast? with
      | none => none
      | some entries =>
        (changeAt dotted change ks { entries }).map fun p ↦
          (p.1, t.set k (.tables (elements.dropLast ++ [p.2.entries])))
    | some _ => none

/-- Adds an entry under a dotted key. -/
def addEntry? (t : Table) (path : List String) (key : String) (item : Item) : Option Table :=
  let add (target : Table) : Option (Unit × Table) :=
    if target.dotted = path.isEmpty then none
    else (target.entries.add? key item).map fun entries ↦ ((), { target with entries })
  (changeAt true add path t).map (·.2)

end Table

/-- A document that is being read. -/
structure Draft where
  /-- The tables that are complete. -/
  root : Table := {}
  /-- The table of the last header. -/
  current : Table := {}
  /-- The name in that header; none before the first. -/
  header : Option (List String × String) := none
  /-- Whether that header stands in double brackets. -/
  isArray : Bool := false

namespace Draft

/-- Puts the table of the last header at its place. -/
def finish? (d : Draft) : Option Table :=
  match d.header with
  | none => some d.current
  | some (path, key) =>
    let place (parent : Table) : Option (Unit × Table) :=
      match parent.entries.lookup key with
      | none =>
        some ((), parent.set key
          (if d.isArray then .tables [d.current.entries] else d.current.toItem))
      | some (.tables elements) =>
        if d.isArray then some ((), parent.set key (.tables (elements ++ [d.current.entries])))
        else none
      | some (.table true _ _) =>
        if d.isArray then none else some ((), parent.set key d.current.toItem)
      | some _ => none
    (Table.changeAt false place path d.root).map (·.2)

/-- Goes on with the table of a header. An implicit table that headers opened is taken up again
with what it holds. -/
def startTable? (d : Draft) (path : List String) (key : String) : Option Draft := do
  let root ← d.finish?
  let takeUp (parent : Table) : Option (Entries × Table) :=
    match parent.entries.lookup key with
    | none => some ([], parent)
    | some (.table true false entries) =>
      some (entries, { parent with entries := parent.entries.filter (·.1 != key) })
    | some _ => none
  let (entries, root) ← Table.changeAt false takeUp path root
  pure { root, current := { entries }, header := some (path, key), isArray := false }

/-- Goes on with a new table of an array of tables. -/
def startArray? (d : Draft) (path : List String) (key : String) : Option Draft := do
  let root ← d.finish?
  let check (parent : Table) : Option (Unit × Table) :=
    match parent.entries.lookup key with
    | none => some ((), parent)
    | some (.tables _) => some ((), parent)
    | some _ => none
  let (_, root) ← Table.changeAt false check path root
  pure { root, current := {}, header := some (path, key), isArray := true }

/-- Adds an entry to the table of the last header. -/
def addEntry? (d : Draft) (path : List String) (key : String) (item : Item) : Option Draft :=
  (d.current.addEntry? path key item).map fun current ↦ { d with current }

end Draft

/-- Reads the name in a header and what closes it. -/
def header? (closing : List Char) (cs : List Char) : Option (List String × String × List Char) := do
  let (path, key, cs) ← key? cs
  let cs ← Text.literal? closing cs
  let cs ← endOfLine? cs
  pure (path, key, cs)

/-- Reads the lines of a document, `fuel` of them at most. -/
def lines? : Nat → Draft → List Char → Option Draft
  | 0, _, _ => none
  | fuel + 1, d, cs => do
    match skipBlanks cs with
    | [] => pure d
    | '[' :: '[' :: cs =>
      let (path, key, cs) ← header? [']', ']'] cs
      lines? fuel (← d.startArray? path key) cs
    | '[' :: cs =>
      let (path, key, cs) ← header? [']'] cs
      lines? fuel (← d.startTable? path key) cs
    | c :: cs =>
      if c = '#' || c = '\n' || c = '\r' then lines? fuel d (← endOfLine? (c :: cs))
      else
        let (path, key, cs) ← key? (c :: cs)
        let cs ← Text.literal? ['='] cs
        let (item, cs) ← value? nestingLimit (skipBlanks cs)
        let cs ← endOfLine? cs
        lines? fuel (← d.addEntry? path key item) cs

/-- Reads a document; a byte order mark may stand at its beginning. -/
def document? (text : String) : Option Entries := do
  let cs := text.toList
  let cs := if cs.head? = some (Char.ofNat 0xFEFF) then cs.drop 1 else cs
  let draft ← lines? (cs.length + 1) {} cs
  let root ← draft.finish?
  pure root.entries

end Storyline.Toml
