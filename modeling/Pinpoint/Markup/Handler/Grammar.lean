import Pinpoint.Markup.Handler.Escape
import Pinpoint.Markup.Handler.Reader

/-!
# The grammar of expressions

Each level of the grammar is a reader over the levels below it. Where an expression holds others,
between brackets or after a sign, it is given the `Rules` to read them with, and `rules` ties these
up to a depth that no text can exceed. A text is read twice: if it is no expression, the second
reading looks for likely mistakes, so that the fault says more than that something is wrong.

* `read` — the expression that tokens make up.
-/

namespace Pinpoint.Markup.Handler

/-- How the expressions inside an expression are read. -/
structure Rules where
  expression : Reader Expr
  inversion : Reader Expr
  union : Reader Expr
  factor : Reader Expr
  named : Reader Expr
  item : Reader Expr

/-- Readers that find nothing. -/
def Rules.none : Rules := ⟨.absent, .absent, .absent, .absent, .absent, .absent⟩

namespace Grammar

open Reader (absent ahead check depth found keyword name notAhead optional refuse remembered
  repeated separated sign symbol take unchecked)

/-! ## Numbers and quoted texts -/

/-- A number. A whole one has a limit on its digits. -/
def number : Reader Expr := do
  let (imaginary, digits) ← take fun
    | .number imaginary digits => some (imaginary, digits)
    | _ => none
  if Decimal.digitLimit < digits then refuse (.tooManyDigits digits)
  else return .constant (.number imaginary)

/-- A quoted text. -/
def quotation : Reader Quotation := take fun
  | .quotation q => some q
  | _ => none

/-- Quoted texts next to each other, which make up one. -/
def quotations : Reader Expr := do
  let first ← quotation
  let others ← repeated (fun qs => do return (← quotation) :: qs) []
  let all := first :: others.reverse
  match checkQuotations all with
  | .error fault => refuse fault
  | .ok () =>
    if all.any (·.formatted) then return .form .formatted
    else return .constant (if first.bytes then .bytes else .text)

/-! ## Brackets -/

/-- Items in a row; a comma may follow the last one. -/
def items (r : Rules) : Reader (List Expr) := do
  let es ← separated r.item
  let _ ← optional (sign ",")
  return es

/-- Items in parentheses with at least one comma, or none at all. -/
def tuple (r : Rules) : Reader Expr := do
  sign "("
  let es ← optional do
    let first ← r.item
    sign ","
    return first :: (← optional (items r)).getD []
  sign ")"
  return .tuple (es.getD [])

/-- A starred expression between parentheses. -/
def starredGroup (r : Rules) : Reader Expr :=
  (do
    sign "("
    sign "*"
    let _ ← r.expression
    sign ")"
    refuse .starredHere) <|>
  (do
    sign "("
    sign "**"
    let _ ← r.expression
    sign ")"
    refuse .doubleStarredHere)

/-- An expression in parentheses. -/
def group (r : Rules) : Reader Expr :=
  (do
    sign "("
    let e ← r.named
    sign ")"
    return e) <|>
  check (starredGroup r)

/-- A key and its value, or the entries of another table. -/
def entry (r : Rules) : Reader (List Expr) :=
  (do
    sign "**"
    return [.noKey, ← r.union]) <|>
  (do
    let key ← r.expression
    sign ":"
    return [key, ← r.expression])

/-- A value that is starred or missing. -/
def badValue (r : Rules) : Reader (List Expr) :=
  (do
    let _ ← r.expression
    sign ":"
    sign "*"
    let _ ← r.union
    refuse .starredValue) <|>
  (do
    let _ ← r.expression
    sign ":"
    ahead (sign "\x7d" <|> sign ",")
    refuse .missingValue)

/-- An entry that is none. -/
def badEntry (r : Rules) : Reader (List Expr) :=
  (do
    let _ ← r.expression
    notAhead (sign ":")
    refuse .missingColon) <|>
  badValue r

/-- Entries of which the last is none. -/
def badEntries (r : Rules) : Reader (List Expr) :=
  (do
    let _ ← separated (entry r)
    sign ","
    badEntry r) <|>
  badValue r

/-- Entries in braces. -/
def table (r : Rules) : Reader Expr :=
  (do
    sign "\x7b"
    let entries ← optional do
      let entries ← separated (entry r)
      let _ ← optional (sign ",")
      return entries.flatten
    sign "\x7d"
    return .table (entries.getD [])) <|>
  check do
    sign "\x7b"
    let _ ← badEntries r
    absent

/-- Items in braces. -/
def set (r : Rules) : Reader Expr := do
  sign "\x7b"
  let es ← items r
  sign "\x7d"
  return .set es

/-- What an expression is made of. -/
def atom (r : Rules) : Reader Expr :=
  (do return .name (← name)) <|>
  (do keyword "True"; return .constant .true) <|>
  (do keyword "False"; return .constant .false) <|>
  (do keyword "None"; return .constant .nothing) <|>
  quotations <|> number <|> tuple r <|> group r <|> table r <|> set r <|>
  (do sign "..."; return .constant .ellipsis)

/-! ## Calls -/

/-- Gives a value a name. -/
def naming (r : Rules) : Reader Expr := do
  let _ ← name
  sign ":="
  let _ ← r.expression
  return .form .naming

/-- An argument that is given by its place. -/
def positional (r : Rules) : Reader Unit :=
  (do
    sign "*"
    let _ ← r.expression) <|>
  (do
    let _ ← naming r <|> (do
      let e ← r.expression
      notAhead (sign ":=")
      return e)
    notAhead (sign "="))

/-- Constants that nothing can be assigned to. -/
def fixedConstant : Reader Text :=
  (do keyword "True"; return "True") <|> (do keyword "False"; return "False") <|>
  (do keyword "None"; return "None")

/-- An equals sign after something that is no name. -/
def badKeyword (r : Rules) : Reader Bool :=
  (do
    let constant ← fixedConstant
    sign "="
    refuse (.cannotAssignConstant constant)) <|>
  (do
    notAhead do
      let _ ← name
      sign "="
    let _ ← r.expression
    sign "="
    refuse .assignmentInCall)

/-- An argument that is given by its name. -/
def byName (r : Rules) : Reader Bool := do
  let _ ← name
  sign "="
  let _ ← r.expression
  return false

/-- An argument by name, or starred. -/
def nameOrStarred (r : Rules) : Reader Bool :=
  check (badKeyword r) <|> byName r <|>
  (do
    sign "*"
    let _ ← r.expression
    return false)

/-- An argument by name, or a table of such. -/
def nameOrTable (r : Rules) : Reader Bool :=
  check (badKeyword r) <|> byName r <|>
  (do
    sign "**"
    let _ ← r.expression
    return true)

/-- Arguments by name, and whether a table of such is among them. -/
def keywords (r : Rules) : Reader Bool :=
  (do
    let _ ← separated (nameOrStarred r)
    sign ","
    return (← separated (nameOrTable r)).any id) <|>
  (do return (← separated (nameOrStarred r)).any id) <|>
  (do return (← separated (nameOrTable r)).any id)

/-- Arguments, those by place first, and whether a table of arguments by name is among them. -/
def arguments (r : Rules) : Reader Bool :=
  (do
    let _ ← separated (positional r)
    return (← optional do sign ","; keywords r).getD false) <|>
  keywords r

/-- Arguments that come in the wrong order. -/
def badArguments (r : Rules) : Reader Bool :=
  (do
    let _ ← arguments r
    sign ","
    sign "*"
    refuse .unpackingOrder) <|>
  (do
    let unpacked ← arguments r
    sign ","
    let _ ← arguments r
    refuse (if unpacked then .afterUnpacking else .afterKeyword))

/-- All that stands between the parentheses of a call. -/
def allArguments (r : Rules) : Reader Bool :=
  (do
    let unpacked ← arguments r
    let _ ← optional (sign ",")
    ahead (sign ")")
    return unpacked) <|>
  check (badArguments r)

/-- An atom with its parts and calls. -/
def primary (r : Rules) : Reader Expr := remembered .primary do
  repeated
    (fun e =>
      (do
        sign "."
        let _ ← name
        return .form .part) <|>
      (do
        sign "("
        let given ← optional (allArguments r)
        sign ")"
        return .call e given.isNone))
    (← atom r)

/-! ## Operators -/

/-- A power, or what it would be of. -/
def power (r : Rules) : Reader Expr :=
  (do
    let _ ← primary r
    sign "**"
    let _ ← r.factor
    return .form .binary) <|>
  primary r

/-- A power with signs in front. -/
def factor (r : Rules) : Reader Expr := remembered .factor
  ((do
    sign "+" <|> sign "-"
    return .signed (← r.factor)) <|>
  (do
    sign "~"
    let _ ← r.factor
    return .form .unary) <|>
  power r)

/-- Operands with signs between them, from left to right. -/
def leftToRight (operand : Reader Expr) (signs : List String) (join : Expr → Expr → Expr) :
    Reader Expr := do
  repeated
    (fun e => do
      signs.foldr (fun s other => sign s <|> other) absent
      return join e (← operand))
    (← operand)

/-- Sums of products, shifts, and the three kinds of combining bits. -/
def union (r : Rules) : Reader Expr :=
  let binary (_ _ : Expr) : Expr := .form .binary
  let product := leftToRight (factor r) ["*", "/", "//", "%", "@"] binary
  let sum := leftToRight product ["+", "-"] .sum
  let shift := leftToRight sum ["<<", ">>"] binary
  let intersection := leftToRight shift ["&"] binary
  let exclusion := leftToRight intersection ["^"] binary
  remembered .union (leftToRight exclusion ["|"] binary)

/-- What two operands are compared by. -/
def comparator : Reader Unit :=
  sign "==" <|> sign "!=" <|> sign "<=" <|> sign "<" <|> sign ">=" <|> sign ">" <|>
  (do keyword "not"; keyword "in") <|> keyword "in" <|> (do keyword "is"; keyword "not") <|>
  keyword "is"

/-- Operands that are compared. -/
def comparison (r : Rules) : Reader Expr := do
  repeated
    (fun _ => do
      comparator
      let _ ← union r
      return .form .comparison)
    (← union r)

/-- A comparison, or the opposite of one. -/
def inversion (r : Rules) : Reader Expr := remembered .inversion
  ((do
    keyword "not"
    let _ ← r.inversion
    return .form .unary) <|>
  comparison r)

/-- Conditions of which all must hold. -/
def conjunction (r : Rules) : Reader Expr := remembered .conjunction do
  repeated
    (fun _ => do
      keyword "and"
      let _ ← inversion r
      return .form .boolean)
    (← inversion r)

/-- Conditions of which one must hold. -/
def disjunction (r : Rules) : Reader Expr := remembered .disjunction do
  repeated
    (fun _ => do
      keyword "or"
      let _ ← conjunction r
      return .form .boolean)
    (← conjunction r)

/-- One of two values, by a condition, or just a value. -/
def conditional (r : Rules) : Reader Expr :=
  (do
    let _ ← disjunction r
    keyword "if"
    let _ ← disjunction r
    keyword "else"
    let _ ← r.expression
    return .form .conditional) <|>
  disjunction r

/-! ## Likely mistakes -/

/-- A name that used to be a command. -/
def command? : Expr → Option Text
  | .name n => if n = "print".toList ∨ n = "exec".toList then some n else none
  | _ => none

/-- Names that may stand in front of others. -/
def softKeyword : Reader Unit := keyword "_" <|> keyword "case" <|> keyword "match"

/-- Two expressions next to each other. Only between brackets a comma can be missing. -/
def neighbours (r : Rules) : Reader (Option SyntaxFault) := do
  notAhead ((do
    let _ ← name
    let _ ← quotation) <|> softKeyword)
  let first ← disjunction r
  let _ ← unchecked (conditional r)
  if (command? first).isSome ∨ (← depth) = 0 then return none
  else return some .missingComma

/-- A condition without what holds otherwise. -/
def halfConditional (r : Rules) : Reader (Option SyntaxFault) := do
  let _ ← disjunction r
  keyword "if"
  let _ ← disjunction r
  notAhead (keyword "else" <|> sign ":")
  return some .missingElse

/-- A command that is given something without parentheses. -/
def bareCommand (r : Rules) : Reader (Option SyntaxFault) := do
  let n ← name
  notAhead (sign "(")
  let _ ← separated ((do sign "*"; r.union) <|> r.expression)
  return (command? (.name n)).map .missingParentheses

/-- Refuses what a check finds fault with. -/
def judge (p : Reader (Option SyntaxFault)) : Reader Expr := do
  match ← p with
  | some fault => refuse fault
  | none => absent

/-- An expression. -/
def expression (r : Rules) : Reader Expr := remembered .expression
  (check (judge (neighbours r <|> halfConditional r)) <|> check (judge (bareCommand r)) <|>
    conditional r)

/-- Takes an equals sign or a naming sign. -/
def assignmentSign : Reader Unit := sign "=" <|> sign ":="

/-- An assignment where none can be. -/
def misuse (r : Rules) : Reader Expr := remembered .misuse
  ((do
    let e ← expression r
    sign ":="
    let _ ← expression r
    refuse (.cannotName e.description)) <|>
  (do
    let _ ← name
    sign "="
    let _ ← union r
    notAhead assignmentSign
    refuse .maybeEquals) <|>
  (do
    notAhead ((do let _ ← tuple r) <|> (do let _ ← fixedConstant))
    let e ← union r
    sign "="
    let _ ← union r
    notAhead assignmentSign
    refuse (.cannotAssign e.description)))

/-- An expression that may be given a name. -/
def named (r : Rules) : Reader Expr :=
  naming r <|> check (misuse r) <|>
  (do
    let e ← expression r
    notAhead (sign ":=")
    return e)

/-- An item in brackets. -/
def item (r : Rules) : Reader Expr :=
  (do
    sign "*"
    let _ ← union r
    return .form .starred) <|>
  named r

/-! ## Whole texts -/

/-- Expressions in a row, and nothing after them but ends of lines. -/
def whole (r : Rules) : Reader Expr := do
  let es ← separated (expression r)
  let comma ← optional (sign ",")
  repeated (fun _ => symbol .newline) ()
  symbol .finish
  match es, comma with
  | [e], none => return e
  | es, _ => return .tuple es

end Grammar

/-- The rules for expressions that are nested up to a depth. -/
def rules : (depth : Nat) → Rules
  | 0 => .none
  | depth + 1 =>
    let r := rules depth
    { expression := Grammar.expression r
      inversion := Grammar.inversion r
      union := Grammar.union r
      factor := Grammar.factor r
      named := Grammar.named r
      item := Grammar.item r }

/-- The expression that tokens make up. -/
def read (tokens : List Token) : Except SyntaxFault Expr := do
  let reader := Grammar.whole (rules (tokens.length + 1))
  match ← reader { place := { rest := tokens }, checks := false } with
  | (some e, _) => return e
  | (none, _) =>
    let _ ← reader { place := { rest := tokens }, checks := true }
    throw .invalid

end Pinpoint.Markup.Handler
