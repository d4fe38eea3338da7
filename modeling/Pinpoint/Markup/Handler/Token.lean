import Pinpoint.Markup.Handler.Fault
import Pinpoint.Text.Name

/-!
# Tokens

An expression is made of words, numbers, quoted texts and signs. Tokens remember how many brackets
are open after them. What stops the reading of tokens without being wrong in itself, an open bracket
at the end or a stray backslash, is a token too: it counts only for a reader that gets that far.

* `tokens` — the tokens of a text.
-/

namespace Pinpoint.Markup.Handler

/-- A quoted text as it is written, without its letters and quotes. -/
structure Quotation where
  bytes : Bool
  raw : Bool
  formatted : Bool
  body : Text
  deriving DecidableEq, Repr

/-- What a token is. -/
inductive Symbol
  | word (name : Text)
  | number (imaginary : Bool) (digits : Nat)
  | quotation (q : Quotation)
  | sign (text : Text)
  | newline
  | finish
  | stop (fault : SyntaxFault)
  deriving DecidableEq, Repr

/-- A token, and the number of brackets that are open after it. -/
structure Token where
  symbol : Symbol
  depth : Nat
  deriving DecidableEq, Repr

/-! ## Numbers -/

/-- A character that cannot stand right after a number. -/
def joinsNumber (c : Char) : Bool := c.isAlphanum || c = '_' || 0x80 ≤ c.toNat

/-- The words that may follow a number without a blank. -/
def numberFollowers : List String := ["and", "else", "for", "if", "in", "is", "or", "not"]

/-- A number ends here. -/
def endsNumber (rest : Text) : Bool :=
  !rest.head?.any joinsNumber || numberFollowers.any fun w => Text.startsWith rest w.toList

/-- Checks that a number ends here. -/
def checkEnd (numeral : Numeral) (rest : Text) : Except SyntaxFault Unit :=
  if endsNumber rest then .ok () else .error (.badNumeral numeral)

/-- The decimal digits at the start of a text, with single underscores between them. -/
def takeDigits : Text → Except SyntaxFault (Text × Text)
  | [] => .ok ([], [])
  | c :: rest =>
    if c.isDigit then do
      let (digits, rest) ← takeDigits rest
      return (c :: digits, rest)
    else if c = '_' then
      if rest.head?.any Char.isDigit then takeDigits rest else .error (.badNumeral .decimal)
    else .ok ([], c :: rest)

/-- The digits of a numeral. -/
def Numeral.hasDigit : Numeral → Char → Bool
  | hexadecimal, c => (Text.hexValue? c).isSome
  | octal, c => '0' ≤ c && c ≤ '7'
  | binary, c => c = '0' || c = '1'
  | _, c => c.isDigit

/-- Reads the digits of a numeral; `mayEnd` and `mayPause` say whether the number may end now, or go
on with an underscore. -/
def takeNumeral (numeral : Numeral) : (mayEnd mayPause : Bool) → Text → Except SyntaxFault Text
  | mayEnd, _, [] => if mayEnd then .ok [] else .error (.badNumeral numeral)
  | mayEnd, mayPause, c :: rest =>
    if numeral.hasDigit c then takeNumeral numeral true true rest
    else if c = '_' && mayPause then takeNumeral numeral false false rest
    else if c.isDigit then .error (.badDigit c numeral)
    else if mayEnd then do
      checkEnd numeral (c :: rest)
      return c :: rest
    else .error (.badNumeral numeral)

/-- A letter of either case at the start of a text, and what follows it. -/
def afterLetter? (letter : Char) : Text → Option Text
  | c :: rest => if c.toLower = letter then some rest else none
  | [] => none

/-- Whether an imaginary unit ends a number, and what follows the number. -/
def takeUnit (rest : Text) : Except SyntaxFault (Bool × Text) :=
  match afterLetter? 'j' rest with
  | some after => do
    checkEnd .imaginary after
    return (true, after)
  | none => do
    checkEnd .decimal rest
    return (false, rest)

/-- Reads a decimal exponent, if there is one, and the end of a number. -/
def takeExponent (rest : Text) : Except SyntaxFault (Bool × Text) :=
  match afterLetter? 'e' rest with
  | none => takeUnit rest
  | some after =>
    let signed := after.head?.any fun c => c = '+' || c = '-'
    let digits := if signed then after.tail else after
    if digits.head?.any Char.isDigit then do
      let (_, rest) ← takeDigits digits
      takeUnit rest
    else if signed then .error (.badNumeral .decimal)
    else do
      checkEnd .decimal rest
      return (false, rest)

/-- Reads what follows the point of a number. -/
def takeFraction (rest : Text) : Except SyntaxFault (Bool × Text) := do
  if rest.head?.any Char.isDigit then
    let (_, rest) ← takeDigits rest
    takeExponent rest
  else takeExponent rest

/-- Reads a decimal number. Only a whole number has a number of digits. -/
def takeDecimal (t : Text) : Except SyntaxFault (Symbol × Text) := do
  let (digits, rest) ← takeDigits t
  if rest.head? = some '.' then
    let (imaginary, rest) ← takeFraction rest.tail
    return (.number imaginary 0, rest)
  else if (afterLetter? 'e' rest).isSome || (afterLetter? 'j' rest).isSome then
    let (imaginary, rest) ← takeExponent rest
    return (.number imaginary 0, rest)
  else if digits.head? = some '0' && digits.any (· ≠ '0') then throw .leadingZeros
  else
    checkEnd .decimal rest
    return (.number false digits.length, rest)

/-- The numeral that the letter after a zero announces. -/
def Numeral.ofLetter? (c : Char) : Option Numeral :=
  match c.toLower with
  | 'x' => some hexadecimal
  | 'o' => some octal
  | 'b' => some binary
  | _ => none

/-- Reads a number that starts with a digit. -/
def takeNumber (t : Text) : Except SyntaxFault (Symbol × Text) :=
  match t with
  | '0' :: letter :: rest =>
    match Numeral.ofLetter? letter with
    | some numeral => do
      let rest ← takeNumeral numeral false true rest
      return (.number false 0, rest)
    | none => takeDecimal t
  | t => takeDecimal t

/-! ## Quoted texts -/

/-- The letters that may stand in front of a quote. -/
def quotePrefixes : List String := ["", "b", "r", "u", "f", "br", "rb", "fr", "rf"]

/-- The letters in front of a quote, if a quoted text starts here. -/
def quotePrefix? (t : Text) : Option Text :=
  let letters := t.takeWhile Char.isAlpha
  let quote := (t.dropWhile Char.isAlpha).head?
  if (quote = some '\'' || quote = some '"') &&
    quotePrefixes.any (·.toList = letters.map Char.toLower) then some letters else none

/-- The body of a quoted text that ends at the next quote, and what follows. A backslash keeps the
next character from ending it. -/
def takeQuoted (quote : Char) : Text → Option (Text × Text)
  | [] => none
  | '\\' :: c :: rest => (takeQuoted quote rest).map fun (body, rest) => ('\\' :: c :: body, rest)
  | c :: rest =>
    if c = quote then some ([], rest)
    else if c = '\n' then none
    else (takeQuoted quote rest).map fun (body, rest) => (c :: body, rest)

/-- The body of a quoted text that ends at the next three quotes, and what follows. -/
def takeTripleQuoted (quote : Char) : Text → Option (Text × Text)
  | [] => none
  | '\\' :: c :: rest =>
    (takeTripleQuoted quote rest).map fun (body, rest) => ('\\' :: c :: body, rest)
  | c :: rest =>
    if Text.startsWith (c :: rest) [quote, quote, quote] then some ([], rest.drop 2)
    else (takeTripleQuoted quote rest).map fun (body, rest) => (c :: body, rest)

/-- How many lines end in a text. -/
def lineEnds (t : Text) : Nat := t.count '\n'

/-- The line ends that are passed before a quoted text that does not end is found out. -/
def openLineEnds : Text → Nat
  | [] => 0
  | '\\' :: '\n' :: rest => openLineEnds rest + 1
  | '\\' :: _ :: rest => openLineEnds rest
  | c :: rest => if c = '\n' then 0 else openLineEnds rest

/-- Reads a quoted text that starts on a line. -/
def takeQuotation (line : Nat) (letters t : Text) : Except SyntaxFault (Quotation × Text) :=
  let quote := t.headD '"'
  let lowered := letters.map Char.toLower
  let quotation (body : Text) : Quotation :=
    ⟨lowered.contains 'b', lowered.contains 'r', lowered.contains 'f', body⟩
  if Text.startsWith t [quote, quote, quote] then
    match takeTripleQuoted quote (t.drop 3) with
    | some (body, rest) => .ok (quotation body, rest)
    | none => .error (.unterminatedTriple (line + lineEnds t))
  else
    match takeQuoted quote t.tail with
    | some (body, rest) => .ok (quotation body, rest)
    | none => .error (.unterminated (line + openLineEnds t.tail))

/-! ## Words and signs -/

/-- A character that a word may start with, as far as its first look goes. -/
def startsWord (c : Char) : Bool := c.isAlpha || c = '_' || 0x80 ≤ c.toNat

/-- A character that a word may go on with, as far as its first look goes. -/
def continuesWord (c : Char) : Bool := startsWord c || c.isDigit

/-- The first character of a word that no name can have there. -/
def badCharacter? : Text → Option Char
  | [] => none
  | c :: rest => if Text.startsName c then rest.find? (!Text.continuesName ·) else some c

/-- A word that is a name. -/
def checkWord (word : Text) : Except SyntaxFault Unit :=
  match badCharacter? word with
  | none => .ok ()
  | some c => .error (if Text.isPrintable c then .badCharacter c else .unprintable c)

/-- The signs of more than one character, longer ones first. -/
def longSigns : List String := [
  "**=", "//=", "<<=", ">>=", "...", "!=", "%=", "&=", "**", "*=", "+=", "-=", "->", "//", "/=",
  ":=", "<<", "<=", "<>", "==", ">=", ">>", "@=", "^=", "|="]

/-- The sign at the start of a text, and what follows it. -/
def takeSign (t : Text) : Text × Text :=
  match longSigns.find? fun s => Text.startsWith t s.toList with
  | some s => (s.toList, t.drop s.length)
  | none => (t.take 1, t.drop 1)

/-- The bracket that closes an opening bracket. -/
def closing? : Char → Option Char
  | '(' => some ')'
  | '[' => some ']'
  | '\x7b' => some '\x7d'
  | _ => none

/-- The most brackets that may be open. -/
def maxDepth : Nat := 200

/-- Brackets that are open, innermost first, each with its line. -/
abbrev Brackets := List (Char × Nat)

/-- The brackets that are open after a sign on a line. -/
def Brackets.after (opened : Brackets) (line : Nat) (sign : Text) : Except SyntaxFault Brackets :=
  match sign with
  | [c] =>
    if (closing? c).isSome then
      if maxDepth ≤ opened.length then .error .tooDeep else .ok ((c, line) :: opened)
    else if c = ')' || c = ']' || c = '\x7d' then
      match opened with
      | [] => .error (.unmatched c)
      | (opening, itsLine) :: outer =>
        if closing? opening = some c then .ok outer
        else .error (.mismatch c opening (if itsLine = line then none else some itsLine))
    else .ok opened
  | _ => .ok opened

/-! ## Tokens of a text -/

/-- A blank inside a line. -/
def isLineBlank (c : Char) : Bool := c = ' ' || c = '\t' || c = '\x0c'

/-- What stands at the end of the tokens. -/
def ending (opened : Brackets) : Symbol :=
  match opened with
  | [] => .finish
  | (bracket, _) :: _ => .stop (.neverClosed bracket)

/-- The tokens of a text; `started` says that a token stands on the line already. -/
def tokensFrom :
    (fuel : Nat) → (line : Nat) → (started : Bool) → Brackets → Text →
      Except SyntaxFault (List Token)
  | 0, _, _, brackets, _ => .ok [⟨ending brackets, brackets.length⟩]
  | _, _, _, brackets, [] => .ok [⟨ending brackets, brackets.length⟩]
  | fuel + 1, line, started, brackets, c :: rest =>
    let go (symbol : Symbol) (line : Nat) (brackets : Brackets) (rest : Text) := do
      let tokens ← tokensFrom fuel line true brackets rest
      return ⟨symbol, brackets.length⟩ :: tokens
    if isLineBlank c then tokensFrom fuel line started brackets rest
    else if c = '#' then tokensFrom fuel line started brackets (rest.dropWhile (· ≠ '\n'))
    else if c = '\n' then
      if started && brackets.isEmpty then do
        let tokens ← tokensFrom fuel (line + 1) false brackets rest
        return ⟨.newline, 0⟩ :: tokens
      else tokensFrom fuel (line + 1) started brackets rest
    else if c = '\\' then
      match rest with
      | '\n' :: rest => tokensFrom fuel (line + 1) started brackets rest
      | _ => .ok [⟨.stop .afterBackslash, brackets.length⟩]
    else
      match quotePrefix? (c :: rest) with
      | some letters => do
        let (q, after) ← takeQuotation line letters ((c :: rest).drop letters.length)
        go (.quotation q) (line + lineEnds q.body) brackets after
      | none =>
        if startsWord c then do
          let word := (c :: rest).takeWhile continuesWord
          checkWord word
          go (.word word) line brackets ((c :: rest).dropWhile continuesWord)
        else if c.isDigit then do
          let (number, after) ← takeNumber (c :: rest)
          go number line brackets after
        else if c = '.' && rest.head?.any Char.isDigit then do
          let (imaginary, after) ← takeFraction rest
          go (.number imaginary 0) line brackets after
        else do
          let (sign, after) := takeSign (c :: rest)
          let brackets ← brackets.after line sign
          if !Text.isPrintable c then throw (.unprintable c)
          go (.sign sign) line brackets after

/-- Line ends in their one spelling. -/
def unifyLineEnds : Text → Text
  | '\r' :: '\n' :: rest => '\n' :: unifyLineEnds rest
  | c :: rest => (if c = '\r' then '\n' else c) :: unifyLineEnds rest
  | [] => []

/-- The tokens of a text. -/
def tokens (t : Text) : Except SyntaxFault (List Token) :=
  let t := unifyLineEnds t
  tokensFrom t.length 1 false [] t

end Pinpoint.Markup.Handler
