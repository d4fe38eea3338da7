import Pinpoint.Template.Spec
import Pinpoint.Text.Quoted

/-!
# Fields

A template is text with fields between braces; doubled braces stand for single ones. A field has a
name, with accessors into the value that it names, an optional conversion, and an optional layout,
which may hold fields itself. A template is read piece by piece, and a fault is a piece, too: it
counts only once everything before it has been filled in.

* `pieces` — the pieces of a template.
* `accessors` — the accessors of a field name.
-/

namespace Pinpoint.Template

/-- What stands between brackets: a number or a name. -/
inductive Key
  | number (n : Nat)
  | name (t : Text)
  deriving DecidableEq, Repr

/-- A key as it would be written out. -/
def Key.quoted : Key → Text
  | number n => Text.ofNat n
  | name t => Text.quoted t

/-- How a kind with an argument is written. -/
def Kind.withArgument (k : Kind) (argument : Key) : Text := k.name ++ "[" ++ argument.quoted ++ "]"

/-- Why a template cannot be filled in. -/
inductive Fault
  | strayClose
  | strayOpen
  | braceInName
  | noConversion
  | afterConversion
  | unclosedSpec
  | unclosedField
  | tooDeep
  | afterBracket
  | noBracket
  | emptyAccessor
  | unknownConversion (c : Char)
  | unknownName (name : Text)
  | positional (index : Nat)
  | unknownNumber (key : Nat)
  | indexOutOfRange (kind : Kind)
  | lacks (kind : Kind) (name : Text)
  | kindLacks (kind : Kind) (name : Text)
  | unset (name : Text)
  | keyInto (kind : Kind)
  | notSubscriptable (kind : Kind)
  | kindNotSubscriptable (kind : Kind)
  | hasArgument (kind : Kind) (argument : Key)
  | noLayout (kind : Kind)
  | spec (fault : SpecFault)
  deriving DecidableEq, Repr

/-- The fault is about an attribute that a value does not have. -/
def Fault.isAboutAttribute : Fault → Bool
  | lacks _ _ => true
  | kindLacks _ _ => true
  | unset _ => true
  | _ => false

/-- The fault is that values of a kind cannot be used in the way that a field asks for. -/
def Fault.isAboutKind : Fault → Bool
  | keyInto _ => true
  | notSubscriptable _ => true
  | kindNotSubscriptable _ => true
  | hasArgument _ _ => true
  | noLayout _ => true
  | _ => false

/-- The fault lies in what is asked of a value: its kind has no such part, or it does not fit. -/
def Fault.isAboutValue : Fault → Bool
  | spec fault => fault.isOverflow || fault = .tooLong
  | fault => fault.isAboutAttribute || fault.isAboutKind

/-! ## Names and accessors -/

/-- One step into a value. -/
inductive Accessor
  | attribute (name : Text)
  | item (key : Key)
  | broken (fault : Fault)
  deriving DecidableEq, Repr

/-- The number that a text consists of, if it is one. Too many digits are a fault even where
something else follows them. -/
def index? (t : Text) : Except Fault (Option Nat) :=
  match takeCount t.points with
  | .error fault => .error (.spec fault)
  | .ok (some n, []) => .ok (some n)
  | .ok _ => .ok none

/-- A character that ends an attribute name. -/
def startsAccessor (c : Char) : Bool := c = '.' || c = '['

/-- The accessor for what stands between brackets. -/
def bracketAccessor (name : Text) : Accessor :=
  match index? name with
  | .error fault => .broken fault
  | .ok (some n) => .item (.number n)
  | .ok none => if name = [] then .broken .emptyAccessor else .item (.name name)

/-- The accessors after the first part of a field name. -/
def accessors : Text → List Accessor
  | [] => []
  | c :: rest =>
    if c = '.' then
      let name := rest.takeWhile (!startsAccessor ·)
      if name = [] then [.broken .emptyAccessor]
      else .attribute name :: accessors (rest.dropWhile (!startsAccessor ·))
    else if c = '[' then
      if ']' ∈ rest then
        bracketAccessor (rest.takeWhile (· ≠ ']')) :: accessors (rest.dropWhile (· ≠ ']')).tail
      else [.broken .noBracket]
    else [.broken .afterBracket]
termination_by t => t.length
decreasing_by
  · have := (List.dropWhile_suffix (!startsAccessor ·) (l := rest)).length_le
    simp only [List.length_cons]
    omega
  · have := (List.dropWhile_suffix (fun d => decide (d ≠ ']')) (l := rest)).length_le
    simp only [List.length_tail, List.length_cons]
    omega

/-- A field name: what it names, and the way into it. -/
structure Name where
  first : Text
  path : List Accessor
  deriving DecidableEq, Repr

/-- Reads a field name. -/
def Name.parse (t : Text) : Name :=
  ⟨t.takeWhile (!startsAccessor ·), accessors (t.dropWhile (!startsAccessor ·))⟩

/-! ## Pieces -/

/-- A field as it is written. -/
structure Field where
  name : Text
  conversion : Option Char := none
  spec : Text := []
  deriving DecidableEq, Repr

/-- The layout of a field holds fields itself. -/
def Field.isNested (f : Field) : Bool := f.spec.contains '{'

/-- A piece of a template. -/
inductive Piece
  | char (c : Char)
  | field (f : Field)
  | broken (fault : Fault)
  deriving DecidableEq, Repr

/-- Reads a field name up to the character that ends it. Between brackets no character does. -/
def takeName : (inBrackets : Bool) → Text → Except Fault (Text × Char × Text)
  | _, [] => .error .unclosedField
  | true, c :: rest => do
    let (name, last, rest) ← takeName (c ≠ ']') rest
    return (c :: name, last, rest)
  | false, c :: rest =>
    if c = '\x7b' then .error .braceInName
    else if c = '\x7d' ∨ c = ':' ∨ c = '!' then .ok ([], c, rest)
    else do
      let (name, last, rest) ← takeName (c = '[') rest
      return (c :: name, last, rest)

/-- Reads a layout up to the brace that closes the field, `depth` braces being open inside it. -/
def takeSpec : (depth : Nat) → Text → Except Fault (Text × Text)
  | _, [] => .error .unclosedSpec
  | depth, c :: rest =>
    if c = '\x7d' ∧ depth = 0 then .ok ([], rest)
    else do
      let depth := if c = '\x7b' then depth + 1 else if c = '\x7d' then depth - 1 else depth
      let (spec, rest) ← takeSpec depth rest
      return (c :: spec, rest)

/-- Reads a conversion and a layout. The NUL character converts nothing. -/
def takeConversion (name : Text) : Text → Except Fault (Field × Text)
  | [] => .error .noConversion
  | [_] => .error .unclosedSpec
  | c :: d :: rest =>
    let conversion := if c = Text.nul then none else some c
    if d = '\x7d' then .ok ({ name, conversion }, rest)
    else if d = ':' then do
      let (spec, rest) ← takeSpec 0 rest
      return ({ name, conversion, spec }, rest)
    else .error .afterConversion

/-- Reads a field after its opening brace. -/
def takeField (t : Text) : Except Fault (Field × Text) := do
  let (name, last, rest) ← takeName false t
  if last = '!' then takeConversion name rest
  else if last = ':' then do
    let (spec, rest) ← takeSpec 0 rest
    return ({ name, spec }, rest)
  else return ({ name }, rest)

theorem length_takeName {b : Bool} {t name rest : Text} {last : Char}
    (h : takeName b t = .ok (name, last, rest)) : rest.length < t.length := by
  fun_induction takeName b t generalizing name last rest <;>
    simp_all [bind, Except.bind, pure, Except.pure]
  all_goals
    split at h <;> simp_all
    grind

theorem length_takeSpec {depth : Nat} {t spec rest : Text}
    (h : takeSpec depth t = .ok (spec, rest)) :
    rest.length < t.length := by
  fun_induction takeSpec depth t generalizing spec rest <;>
    simp_all [bind, Except.bind, pure, Except.pure]
  split at h <;> simp_all
  grind

theorem length_takeConversion {name t rest : Text} {f : Field}
    (h : takeConversion name t = .ok (f, rest)) : rest.length < t.length := by
  unfold takeConversion at h
  split at h
  · simp at h
  · simp at h
  · rename_i c d after
    simp only [bind, Except.bind, pure, Except.pure] at h
    split at h
    · obtain ⟨-, rfl⟩ : _ ∧ after = rest := by simpa using h
      simp only [List.length_cons]
      omega
    · split at h
      · split at h
        · simp at h
        · rename_i v hv
          obtain ⟨-, rfl⟩ : _ ∧ v.2 = rest := by simpa using h
          have := length_takeSpec hv
          simp only [List.length_cons]
          omega
      · simp at h

theorem length_takeField {t rest : Text} {f : Field} (h : takeField t = .ok (f, rest)) :
    rest.length < t.length := by
  simp only [takeField, bind, Except.bind, pure, Except.pure] at h
  split at h
  · simp at h
  · rename_i v hv
    obtain ⟨name, last, afterName⟩ := v
    have hname := length_takeName hv
    split at h
    · exact Nat.lt_trans (length_takeConversion h) hname
    · split at h
      · split at h
        · simp at h
        · rename_i w hw
          obtain ⟨-, rfl⟩ : _ ∧ w.2 = rest := by simpa using h
          exact Nat.lt_trans (length_takeSpec hw) hname
      · obtain ⟨-, rfl⟩ : _ ∧ afterName = rest := by simpa using h
        exact hname

/-- The pieces of a template. -/
def pieces : Text → List Piece
  | [] => []
  | '\x7b' :: [] => [.broken .strayOpen]
  | '\x7b' :: '\x7b' :: rest => .char '\x7b' :: pieces rest
  | '\x7b' :: c :: rest =>
    match h : takeField (c :: rest) with
    | .error fault => [.broken fault]
    | .ok (f, after) =>
      have := length_takeField h
      .field f :: pieces after
  | '\x7d' :: '\x7d' :: rest => .char '\x7d' :: pieces rest
  | '\x7d' :: _ => [.broken .strayClose]
  | c :: rest => .char c :: pieces rest
termination_by t => t.length
decreasing_by
  all_goals simp_all only [List.length_cons]
  all_goals omega

end Pinpoint.Template
