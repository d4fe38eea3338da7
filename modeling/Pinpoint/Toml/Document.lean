import Pinpoint.Toml.Reader

/-!
# Documents

A document is a sequence of statements, one a line: an entry, or the header of a table or of an
item of a list of tables, below which entries are placed. No statement may declare or change what
an earlier one has closed.

**Limits.** Values may be nested as deep as they like. A machine on which that uses up a stack
refuses some documents that are read here.

* `Document.parse` — the table that a document describes.
-/

namespace Pinpoint.Toml

/-- What statements have built so far. `declared` keys cannot be declared as tables again; nothing
can be added below a `closed` key; `pending` keys become declared at the next header. -/
structure Document where
  table : Table := []
  header : Key := []
  declared : List Key := []
  closed : List Key := []
  pending : List Key := []

namespace Document

/-- Nothing can be added at a key. -/
def isClosed (d : Document) (key : Key) : Bool := d.closed.any (·.isPrefixOf key) && key ≠ []

/-- The key has been declared as a table. -/
def isDeclared (d : Document) (key : Key) : Bool := d.declared.contains key

/-- Declares the keys that were waiting for a header. -/
def settle (d : Document) : Document :=
  { d with declared := d.pending ++ d.declared, pending := [] }

/-- Forgets what is known about a key and everything below it. -/
def release (d : Document) (key : Key) : Document :=
  { d with
    declared := d.declared.filter (!key.isPrefixOf ·)
    closed := d.closed.filter (!key.isPrefixOf ·) }

/-- Opens a table. -/
def openTable (d : Document) (key : Key) : Except Reason Document :=
  if d.isDeclared key || d.isClosed key then .error (.declaredTwice key)
  else
    match d.table.alter true some key with
    | none => .error .overwrite
    | some table => .ok { d with table, header := key, declared := key :: d.declared }

/-- Adds an item to a list of tables. -/
def appendItem (name : Text) (table : Table) : Option Table :=
  match table.lookup name with
  | none => Table.add name (.list [.table []]) table
  | some (.list items) => some (table.put name (.list (items ++ [.table []])))
  | some _ => none

/-- Opens the next item of a list of tables. -/
def openItem (d : Document) (key : Key) : Except Reason Document :=
  if d.isClosed key then .error (.immutable key)
  else
    match d.table.alter true (appendItem key.stem) key.parent with
    | none => .error .overwrite
    | some table =>
      let d := d.release key
      .ok { d with table, header := key, declared := key :: d.declared }

/-- The tables that a key with points leads through, below a header. -/
def through (header key : Key) : List Key :=
  (List.range key.length).tail.map fun n => header ++ key.take n

/-- Adds an entry below the last header. -/
def addEntry (d : Document) (key : Key) (v : Value) : Except Reason Document :=
  let parent := d.header ++ key.parent
  let passed := through d.header key
  match passed.find? d.isDeclared with
  | some k => .error (.redefined k)
  | none =>
    if d.isClosed parent then .error (.immutable parent)
    else
      match d.table.nest? true parent with
      | none => .error .overwrite
      | some nest =>
        if (nest.lookup key.stem).isSome then .error .overwrite
        else
          match d.table.alter true (Table.add key.stem v) parent with
          | none => .error .overwrite
          | some table =>
            .ok { d with
              table
              pending := passed ++ d.pending
              closed := if v.isClosed then (d.header ++ key) :: d.closed else d.closed }

/-- Gives a reason its place. -/
def orStop (rest : Text) : Except Reason Document → Except Stop Document
  | .ok d => .ok d
  | .error reason => .error (.fault reason rest)

/-- Reads one statement. -/
def statement (d : Document) : Text → Except Stop (Document × Text)
  | '[' :: '[' :: rest => do
    let (key, rest) ← takeKey (skipBlanks rest)
    let d ← orStop rest (d.settle.openItem key)
    match rest with
    | ']' :: ']' :: rest => return (d, rest)
    | rest => throw (.fault .listEnd rest)
  | '[' :: rest => do
    let (key, rest) ← takeKey (skipBlanks rest)
    let d ← orStop rest (d.settle.openTable key)
    match rest with
    | ']' :: rest => return (d, rest)
    | rest => throw (.fault .tableEnd rest)
  | t => do
    let (key, rest) ← takeKeyEquals t
    let (v, rest) ← takeValue rest
    return (← orStop rest (d.addEntry key v), rest)

/-- A character that an entry can start with. -/
def startsEntry (c : Char) : Bool := isBare c || c = '"' || c = '\''

/-- Reads one line: blanks, a statement or none, a comment or none. -/
def line (d : Document) (t : Text) : Except Stop (Document × Text) :=
  match skipBlanks t with
  | [] => .ok (d, [])
  | c :: rest =>
    if c = '\n' then .ok (d, c :: rest)
    else if c = '#' then do return (d, ← skipComment (c :: rest))
    else if startsEntry c || c = '[' then do
      let (d, rest) ← statement d (c :: rest)
      return (d, ← skipComment (skipBlanks rest))
    else .error (.fault .invalidStatement (c :: rest))

/-- Reads lines, at most `fuel` of them. -/
def linesWithin : (fuel : Nat) → Document → Text → Except Stop Document
  | 0, d, _ => .ok d
  | fuel + 1, d, t => do
    match ← line d t with
    | (d, []) => return d
    | (d, c :: rest) =>
      if c = '\n' then linesWithin fuel d rest
      else throw (.fault .expectedNewline (c :: rest))

/-- A line break of two characters counts as one. -/
def joinNewlines : Text → Text
  | '\r' :: '\n' :: rest => '\n' :: joinNewlines rest
  | c :: rest => c :: joinNewlines rest
  | [] => []

/-- Why a document is refused, in words and with the place. -/
inductive Fault
  | at (reason : Reason) (place : Text)
  | overlong (digits : Nat)
  deriving DecidableEq, Repr

/-- The table that a document describes. A document has one line more than line breaks. -/
def parse (source : Text) : Except Fault Table :=
  let t := joinNewlines source
  match linesWithin (t.length + 1) {} t with
  | .ok d => .ok d.table
  | .error (.fault reason rest) => .error (.at reason (place t rest))
  | .error (.overlong digits) => .error (.overlong digits)

end Document

end Pinpoint.Toml
