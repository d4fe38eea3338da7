import Pinpoint.Path
import Pinpoint.Text.Quoted

/-!
# Specifiers

A specifier is what an argument resolves to: an existing directory, or an existing file with an
optional position in it. `Specifier.target` is the text handed to an editor.
-/

namespace Pinpoint

/-- A position in a file, counted from 1 (`Position`). -/
structure Position where
  line : Int
  column : Int := 1
  deriving DecidableEq, Repr

/-- A position is written `line:column`. -/
def Position.render (p : Position) : Text := Text.ofInt p.line ++ ':' :: Text.ofInt p.column

/-- The two kinds of specifiers (`SpecifierKind`). -/
inductive SpecifierKind
  | file
  | directory
  deriving DecidableEq, Repr

namespace SpecifierKind

/-- The name of a kind. -/
def name : SpecifierKind → Text
  | file => "file"
  | directory => "directory"

/-- The kind with a name. -/
def ofName? (t : Text) : Option SpecifierKind := [file, directory].find? (·.name = t)

end SpecifierKind

/-- An existing file with an optional position in it, or an existing directory (`PathSpecifier`). -/
inductive Specifier
  | file (path : Path) (position : Option Position)
  | directory (path : Path)
  deriving DecidableEq, Repr

namespace Specifier

/-- The kind of a specifier. -/
def kind : Specifier → SpecifierKind
  | file _ _ => .file
  | directory _ => .directory

/-- The path of a specifier. -/
def path : Specifier → Path
  | file p _ => p
  | directory p => p

/-- The position of a specifier. -/
def position : Specifier → Option Position
  | file _ pos => pos
  | directory _ => none

/-- The text for an editor (`PathSpecifier.target`): `path`, or `path:line:column`. -/
def target (s : Specifier) : Text :=
  match s.position with
  | none => s.path.render
  | some pos => s.path.render ++ ':' :: pos.render

/-- Why parts do not make a specifier. -/
inductive Fault
  | unknownKind (name : Text)
  | directoryPosition (path : Path)
  deriving DecidableEq, Repr

/-- The wording of a fault. -/
def Fault.message : Fault → Text
  | unknownKind name => Text.quoted name ++ " is not a valid SpecifierKind"
  | directoryPosition path => "Directory specifier cannot carry a position: " ++ path.render

/-- Puts a specifier together from its parts (`PathSpecifier`), unless they do not fit. -/
def ofParts (kindName : Text) (path : Path) (position : Option Position) :
    Except Fault Specifier :=
  match SpecifierKind.ofName? kindName, position with
  | none, _ => .error (.unknownKind kindName)
  | some .file, position => .ok (file path position)
  | some .directory, none => .ok (directory path)
  | some .directory, some _ => .error (.directoryPosition path)

theorem ofParts_parts (s : Specifier) : ofParts s.kind.name s.path s.position = .ok s := by
  cases s <;> rfl

end Specifier

end Pinpoint
