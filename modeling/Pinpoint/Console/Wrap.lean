import Pinpoint.Text.Blank
import Pinpoint.Text.CellWidth

/-!
# Fitting text into a width

A line that is wider than its place is broken between words; a word that is wider than a whole
line is either folded over several lines or left to be cut. Widths count terminal cells.
-/

namespace Pinpoint.Console

open Text (cells clusters isBlank Cluster)

/-! ## Tabs -/

/-- The parts of a line between its tabs, of which the first starts at cell `cell`. A tab takes one
cell and fills up to a multiple of eight. -/
def joinTabbed (cell : Nat) : List Text → Text
  | [] => []
  | [part] => part
  | part :: rest =>
    let part := part ++ [' ']
    let cell := cell + cells part
    let missing := (8 - cell % 8) % 8
    part ++ List.replicate missing ' ' ++ joinTabbed (cell + missing) rest

/-- Replaces the tabs of a line. -/
def expandTabs (line : Text) : Text := joinTabbed 0 (Text.cut '\t' line)

/-! ## Cutting lines -/

/-- As many clusters as fit into a width, with a blank for one that fits in half. -/
def takeCells : (width : Nat) → List Cluster → Text
  | _, [] => []
  | width, c :: rest =>
    if width = 0 then []
    else if c.cells ≤ width then c.text ++ takeCells (width - c.cells) rest
    else [' ']

/-- A line cut to a width. -/
def crop (width : Nat) (line : Text) : Text :=
  if cells line ≤ width then line else takeCells width (clusters line)

/-! ## Breaking lines -/

/-- The words of a line, each with the blanks after it; the first one also has the blanks before. -/
def chunks (t : Text) : List Text :=
  let before := t.takeWhile isBlank
  let body := t.dropWhile isBlank
  let afterWord := body.dropWhile (!isBlank ·)
  if body = [] then []
  else
    (before ++ body.takeWhile (!isBlank ·) ++ afterWord.takeWhile isBlank) ::
      chunks (afterWord.dropWhile isBlank)
termination_by t.length
decreasing_by
  rename_i hbody
  have h1 := (List.dropWhile_suffix isBlank (l := t)).length_le
  have h2 := (List.dropWhile_suffix isBlank
    (l := (t.dropWhile isBlank).dropWhile (!isBlank ·))).length_le
  have h3 : ((t.dropWhile isBlank).dropWhile (!isBlank ·)).length <
      (t.dropWhile isBlank).length := by
    cases hd : t.dropWhile isBlank with
    | nil => exact absurd hd hbody
    | cons c rest =>
      have hc : isBlank c = false := by
        have := List.head?_dropWhile_not isBlank t
        simpa [hd] using this
      have := (List.dropWhile_suffix (!isBlank ·) (l := rest)).length_le
      simp only [List.dropWhile_cons, hc, Bool.not_false, if_true, List.length_cons]
      omega
  omega

/-- Puts clusters together to pieces of at most `width` cells; `piece` is the one begun, of `used`
cells. -/
def chopFrom (width : Nat) (piece : Text) (used : Nat) : List Cluster → List Text
  | [] => if used = 0 then [] else [piece]
  | c :: rest =>
    if width < used + c.cells then piece :: chopFrom width c.text c.cells rest
    else chopFrom width (piece ++ c.text) (used + c.cells) rest

/-- Cuts a word into pieces of at most `width` cells. -/
def chop (width : Nat) (word : Text) : List Text := chopFrom width [] 0 (clusters word)

/-- The places of pieces that start at `start`. -/
def placesFrom (start : Nat) : List Text → List Nat
  | [] => []
  | piece :: rest => start :: placesFrom (start + piece.length) rest

/-- The places where a line is broken: `start` characters and, since the last break, `used` cells
come before the remaining words. -/
def breaksFrom (width : Nat) (fold : Bool) (start used : Nat) : List Text → List Nat
  | [] => []
  | word :: rest =>
    let next := start + word.length
    let size := cells (Text.trimRight word)
    if used + size ≤ width then breaksFrom width fold next (used + cells word) rest
    else if size ≤ width then start :: breaksFrom width fold next (cells word) rest
    else if fold then
      let pieces := chop width word
      placesFrom start pieces ++
        breaksFrom width fold next (cells (pieces.getLast?.getD [])) rest
    else start :: breaksFrom width fold next (cells word) rest

/-- Cuts a text at places, of which `start` characters have gone already. A cut at the very start
is none. -/
def cutAt (start : Nat) : List Nat → Text → List Text
  | [], t => [t]
  | p :: places, t =>
    if p = 0 then cutAt start places t
    else t.take (p - start) :: cutAt p places (t.drop (p - start))

/-- Drops blanks at the end of a line that reach beyond the width. -/
def dropExcess (width : Nat) (line : Text) : Text :=
  let blanks := (line.reverse.takeWhile isBlank).length
  line.take (line.length - min blanks (line.length - width))

/-- The lines that one line becomes in a width, some of which may still be too wide. -/
def breakLine (width : Nat) (fold : Bool) (line : Text) : List Text :=
  let line := expandTabs line
  (cutAt 0 (breaksFrom width fold 0 0 (chunks line)) line).map (dropExcess width)

/-- The lines that a text becomes in a width, some of which may still be too wide. -/
def breakLines (width : Nat) (fold : Bool) (t : Text) : List Text :=
  (Text.cut '\n' t).flatMap (breakLine width fold)

/-- The lines that a text becomes in a width, words being folded where they must. -/
def wrap (width : Nat) (t : Text) : List Text := (breakLines width true t).map (crop width)

/-! ## Placing a line -/

/-- A line with blanks after it up to a width. -/
def fitLeft (width : Nat) (line : Text) : Text := line ++ List.replicate (width - cells line) ' '

/-- A line in the middle of a width; the odd blank goes after it. -/
def fitCenter (width : Nat) (line : Text) : Text :=
  let line := crop width (Text.trimRight line)
  fitLeft width (List.replicate ((width - cells line) / 2) ' ' ++ line)

/-- A line cut to a width, with an ellipsis in its last cell if something is missing. -/
def shorten (width : Nat) (line : Text) : Text :=
  if cells line ≤ width then line
  else takeCells (width - 1) (clusters line) ++ ['…']

end Pinpoint.Console
