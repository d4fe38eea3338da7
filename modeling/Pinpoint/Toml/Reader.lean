import Pinpoint.Toml.Number
import Pinpoint.Toml.Str

/-!
# Reading values

A value is read from the start of a text and leaves the rest of it. Lists may run over several
lines and hold comments; an inline table stands on one line and is closed to later additions, key
by key.
-/

namespace Pinpoint.Toml

/-! ## Blanks and comments -/

/-- Drops blanks. -/
def skipBlanks (t : Text) : Text := t.dropWhile fun c => c = ' ' || c = '\t'

/-- The rest of a text after the comment that has begun, its line break included. -/
def skipCommentText : Text → Except Stop Text
  | [] => .ok []
  | c :: rest =>
    if c = '\n' then .ok (c :: rest)
    else if isIllegal false c then .error (.fault (.invalidCharacter c) (c :: rest))
    else skipCommentText rest

/-- Drops a comment, if there is one. -/
def skipComment : Text → Except Stop Text
  | '#' :: rest => skipCommentText rest
  | t => .ok t

/-- Drops blanks, line breaks and comments; `inComment` tells where a reader stands. -/
def skipFillerFrom : (inComment : Bool) → Text → Except Stop Text
  | _, [] => .ok []
  | false, c :: rest =>
    if c = ' ' ∨ c = '\t' ∨ c = '\n' then skipFillerFrom false rest
    else if c = '#' then skipFillerFrom true rest
    else .ok (c :: rest)
  | true, c :: rest =>
    if c = '\n' then skipFillerFrom false rest
    else if isIllegal false c then .error (.fault (.invalidCharacter c) (c :: rest))
    else skipFillerFrom true rest

/-- Drops blanks, line breaks and comments. -/
def skipFiller (t : Text) : Except Stop Text := skipFillerFrom false t

/-! ## Keys -/

/-- A character of a name without quotes. -/
def isBare (c : Char) : Bool := c.isAlphanum || c = '-' || c = '_'

/-- Reads one name of a key. -/
def takeName : Text → Except Stop (Text × Text)
  | '\'' :: rest => takeLiteral rest
  | '"' :: rest => takeBasic rest
  | t =>
    match t.takeWhile isBare with
    | [] => .error (.fault .keyStart t)
    | name => .ok (name, t.dropWhile isBare)

/-- Reads a key of at most `fuel` names, with blanks around its points. -/
def takeKeyWithin : (fuel : Nat) → Text → Except Stop (Key × Text)
  | 0, t => .error (.fault .keyStart t)
  | fuel + 1, t => do
    let (name, rest) ← takeName t
    match skipBlanks rest with
    | '.' :: rest => do
      let (names, rest) ← takeKeyWithin fuel (skipBlanks rest)
      return (name :: names, rest)
    | rest => return ([name], rest)

/-- Reads a key. Every name takes at least one character. -/
def takeKey (t : Text) : Except Stop (Key × Text) := takeKeyWithin (t.length + 1) t

/-- Reads a key and the equals sign after it. -/
def takeKeyEquals (t : Text) : Except Stop (Key × Text) := do
  match ← takeKey t with
  | (key, '=' :: rest) => return (key, skipBlanks rest)
  | (_, rest) => throw (.fault .expectedEquals rest)

/-! ## Tables being filled -/

namespace Table

/-- Replaces the value of a name, or adds it at the end. -/
def put (name : Text) (v : Value) : Table → Table
  | [] => [(name, v)]
  | (k, w) :: rest => if k = name then (name, v) :: rest else (k, w) :: put name v rest

/-- Changes the table behind a key, making tables that are missing on the way. A list stands for
its last item if `intoLists`. Nothing comes of it if something else is in the way. -/
def alter (intoLists : Bool) (f : Table → Option Table) : Key → Table → Option Table
  | [], table => f table
  | name :: key, table =>
    match table.lookup name with
    | none => do return put name (.table (← alter intoLists f key [])) table
    | some (.table inner) => do return put name (.table (← alter intoLists f key inner)) table
    | some (.list items) =>
      if intoLists then
        match items.getLast? with
        | some (.table inner) => do
          let inner ← alter intoLists f key inner
          return put name (.list (items.dropLast ++ [.table inner])) table
        | _ => none
      else none
    | some _ => none

/-- The table behind a key, if there is one. -/
def nest? (intoLists : Bool) : Key → Table → Option Table
  | [], table => some table
  | name :: key, table =>
    match table.lookup name with
    | none => nest? intoLists key []
    | some (.table inner) => nest? intoLists key inner
    | some (.list items) =>
      if intoLists then
        match items.getLast? with
        | some (.table inner) => nest? intoLists key inner
        | _ => none
      else none
    | some _ => none

/-- Adds an entry to a table. -/
def add (name : Text) (v : Value) (table : Table) : Option Table := some (table ++ [(name, v)])

end Table

/-- All names of a key but the last. -/
def Key.parent (key : Key) : Key := key.dropLast

/-- The last name of a key. -/
def Key.stem (key : Key) : Text := key.getLast?.getD []

/-- A value that no later statement may add to. -/
def Value.isClosed : Value → Bool
  | .list _ => true
  | .table _ => true
  | _ => false

/-- Puts an entry into an inline table; `closed` are the keys of earlier entries that are closed. -/
def addInline (closed : List Key) (key : Key) (v : Value) (table : Table) :
    Except Reason Table :=
  if closed.any (·.isPrefixOf key) then .error (.immutable key)
  else
    match table.nest? false key.parent with
    | none => .error .overwrite
    | some nest =>
      if (nest.lookup key.stem).isSome then .error (.duplicateKey key.stem)
      else
        match table.alter false (Table.add key.stem v) key.parent with
        | some table => .ok table
        | none => .error .overwrite

/-! ## Values -/

/-- Reads a date, alone or with a time. -/
def takeMoment? (t : Text) : Option (Except Stop (Value × Text)) :=
  match takeDate? t with
  | none => none
  | some (date, rest) =>
    some (
      if !date.isValid then .error (.fault .badDate t)
      else
        match takeTimeOfDate? rest with
        | none => .ok (.date date, rest)
        | some (time, offset, rest) => .ok (.dateTime ⟨date, time, offset⟩, rest))

/-- Reads a value that is no text, list or table. -/
def takeScalar (t : Text) : Except Stop (Value × Text) :=
  match Text.dropHead? "true" t, Text.dropHead? "false" t with
  | some rest, _ => .ok (.boolean true, rest)
  | none, some rest => .ok (.boolean false, rest)
  | none, none =>
    match takeMoment? t with
    | some result => result
    | none =>
      match takeTime? t with
      | some (time, rest) => .ok (.time time, rest)
      | none =>
        match takeNumber? t with
        | some (.ok v, rest) => .ok (v, rest)
        | some (.error digits, _) => .error (.overlong digits)
        | none =>
          match takeSpecial? t with
          | some (v, rest) => .ok (v, rest)
          | none => .error (.fault .invalidValue t)

/-- Gives a reader of texts the shape of a reader of values. -/
def asText (r : Except Stop (Text × Text)) : Except Stop (Value × Text) := do
  let (t, rest) ← r
  return (.text t, rest)

mutual

/-- Reads a value; nesting and items together use up at most `fuel`. -/
def takeValueWithin : (fuel : Nat) → Text → Except Stop (Value × Text)
  | 0, t => .error (.fault .invalidValue t)
  | fuel + 1, t =>
    match t with
    | '"' :: '"' :: '"' :: rest => asText (takeLongBasic rest)
    | '"' :: rest => asText (takeBasic rest)
    | '\'' :: '\'' :: '\'' :: rest => asText (takeLongLiteral rest)
    | '\'' :: rest => asText (takeLiteral rest)
    | '[' :: rest => do
      let (items, rest) ← takeItems fuel (← skipFiller rest)
      return (.list items, rest)
    | '\x7b' :: rest =>
      match skipBlanks rest with
      | '\x7d' :: rest => .ok (.table [], rest)
      | rest => do
        let (table, rest) ← takeEntries fuel [] [] rest
        return (.table table, rest)
    | t => takeScalar t

/-- Reads the items of a list up to its closing bracket. -/
def takeItems : (fuel : Nat) → Text → Except Stop (List Value × Text)
  | 0, t => .error (.fault .unclosedList t)
  | fuel + 1, t =>
    match t with
    | ']' :: rest => .ok ([], rest)
    | t => do
      let (v, rest) ← takeValueWithin fuel t
      match ← skipFiller rest with
      | ']' :: rest => return ([v], rest)
      | ',' :: rest => do
        let (vs, rest) ← takeItems fuel (← skipFiller rest)
        return (v :: vs, rest)
      | rest => throw (.fault .unclosedList rest)

/-- Reads the entries of an inline table up to its closing brace. -/
def takeEntries : (fuel : Nat) → (closed : List Key) → (table : Table) → Text →
    Except Stop (Table × Text)
  | 0, _, _, t => .error (.fault .unclosedTable t)
  | fuel + 1, closed, table, t => do
    let (key, rest) ← takeKeyEquals t
    let (v, rest) ← takeValueWithin fuel rest
    match addInline closed key v table with
    | .error reason => throw (.fault reason rest)
    | .ok table =>
      match skipBlanks rest with
      | '\x7d' :: rest => return (table, rest)
      | ',' :: rest =>
        takeEntries fuel (if v.isClosed then key :: closed else closed) table (skipBlanks rest)
      | rest => throw (.fault .unclosedTable rest)

end

/-- Reads a value. Each level of nesting and each item takes at least one character. -/
def takeValue (t : Text) : Except Stop (Value × Text) := takeValueWithin (2 * t.length + 2) t

end Pinpoint.Toml
