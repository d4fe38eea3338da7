import Pinpoint.Text.Integer

/-!
# Options and arguments

An option has a long name behind two dashes and maybe a letter behind one; letters may share a
dash. A value follows as the next argument, after `=` for a long name, or directly after a letter.
Two dashes alone end the options. Everything else is an argument; a lone dash is one, too.

**Limits.** Readers of options differ in how options may be written, and in how they say what is
wrong; this is one of them.

* `Parsed.ofArgs` — the options and arguments of a command line.
-/

namespace Pinpoint.CommandLine

/-! ## Misuse -/

/-- Why a command line makes no sense. -/
inductive Misuse
  | noSuchOption (name : Text)
  | missingValue (name : Text)
  | unexpectedValue (name : Text)
  | notANumber (name value : Text)
  | tooSmall (name : Text) (value : Int)
  | nulInPath (name : Text)
  | missingArgument (name : Text)
  | unexpectedArgument (arg : Text)
  | missingCommand
  | noSuchCommand (name : Text)
  deriving DecidableEq, Repr

/-- The wording of a misuse. -/
def Misuse.message : Misuse → Text
  | noSuchOption name => "No such option: " ++ name
  | missingValue name => "Option '" ++ name ++ "' requires an argument."
  | unexpectedValue name => "Option '" ++ name ++ "' does not take a value."
  | notANumber name value =>
    "Invalid value for '" ++ name ++ "': '" ++ value ++ "' is not a valid integer."
  | tooSmall name value =>
    "Invalid value for '" ++ name ++ "': " ++ Text.ofInt value ++ " is not in the range x>=1."
  | nulInPath name => "Invalid value for '" ++ name ++ "': a path cannot hold a NUL character."
  | missingArgument name => "Missing argument '" ++ name ++ "'."
  | unexpectedArgument arg => "Got unexpected extra argument (" ++ arg ++ ")"
  | missingCommand => "Missing command."
  | noSuchCommand name => "No such command '" ++ name ++ "'."

/-! ## Options -/

/-- An option that a command knows by a key. -/
structure Opt (κ : Type) where
  key : κ
  long : Text
  short : Option Char := none
  takesValue : Bool := true

/-- The options given, in order and each with its value, and the arguments. -/
structure Parsed (κ : Type) where
  given : List (κ × Text) := []
  args : List Text := []

/-- What an argument that starts with a dash says: options, the last of which may still need its
value. -/
structure Dashed (κ : Type) where
  given : List (κ × Text) := []
  needsValue : Option (Opt κ) := none

variable {κ : Type}

/-- The name of an option in messages. -/
def Opt.name (o : Opt κ) : Text := '-' :: '-' :: o.long

/-- Reads what stands behind two dashes. -/
def readLong (opts : List (Opt κ)) (body : Text) : Except Misuse (Dashed κ) :=
  let name := body.takeWhile (· ≠ '=')
  match opts.find? (·.long = name), (body.dropWhile (· ≠ '=')).tail? with
  | none, _ => .error (.noSuchOption ('-' :: '-' :: name))
  | some o, some value =>
    if o.takesValue then .ok { given := [(o.key, value)] } else .error (.unexpectedValue o.name)
  | some o, none =>
    if o.takesValue then .ok { needsValue := some o } else .ok { given := [(o.key, [])] }

/-- Reads the letters behind one dash. -/
def readShort (opts : List (Opt κ)) : Text → Except Misuse (Dashed κ)
  | [] => .ok {}
  | c :: rest =>
    match opts.find? (·.short = some c) with
    | none => .error (.noSuchOption ['-', c])
    | some o =>
      if !o.takesValue then do
        let r ← readShort opts rest
        return { r with given := (o.key, []) :: r.given }
      else if rest = [] then .ok { needsValue := some o }
      else .ok { given := [(o.key, rest)] }

/-- Reads an argument that starts with a dash and is more than that. -/
def readDashed (opts : List (Opt κ)) : Text → Except Misuse (Dashed κ)
  | '-' :: '-' :: body => readLong opts body
  | arg => readShort opts arg.tail

/-- An argument that is read for options. -/
def isDashed (arg : Text) : Bool := arg.startsWith ['-'] && arg ≠ ['-']

namespace Parsed

/-- Options in front of what follows. -/
def addGiven (given : List (κ × Text)) (p : Parsed κ) : Parsed κ :=
  { p with given := given ++ p.given }

/-- An argument in front of what follows. -/
def addArg (arg : Text) (p : Parsed κ) : Parsed κ := { p with args := arg :: p.args }

/-- The options and arguments of a command line. Where options may not stand among the arguments,
the first argument ends them. -/
def ofArgs (opts : List (Opt κ)) (optionsAmongArgs : Bool) : List Text → Except Misuse (Parsed κ)
  | [] => .ok {}
  | arg :: rest =>
    if arg = ['-', '-'] then .ok { args := rest }
    else if isDashed arg then do
      let r ← readDashed opts arg
      match r.needsValue with
      | none => return addGiven r.given (← ofArgs opts optionsAmongArgs rest)
      | some o =>
        match rest with
        | [] => throw (.missingValue o.name)
        | value :: rest =>
          return addGiven (r.given ++ [(o.key, value)]) (← ofArgs opts optionsAmongArgs rest)
    else if optionsAmongArgs then return addArg arg (← ofArgs opts optionsAmongArgs rest)
    else .ok { args := arg :: rest }

variable [DecidableEq κ]

/-- The option is given. -/
def has (p : Parsed κ) (key : κ) : Bool := p.given.any (·.1 = key)

/-- The value of an option; the last one given counts. -/
def value? (p : Parsed κ) (key : κ) : Option Text := p.given.reverse.lookup key

/-- The value of an option, if it is not empty. -/
def nonempty? (p : Parsed κ) (key : κ) : Option Text := (p.value? key).filter (· ≠ [])

/-- The options given, in the order in which they come first. -/
def keys (p : Parsed κ) : List κ := (p.given.map (·.1)).eraseDups

end Parsed

end Pinpoint.CommandLine
