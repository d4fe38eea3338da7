import Pinpoint.Text

/-!
# Templates that are filled in

A template is filled in where its placeholder stands. Where the first character of the
placeholder is not, nothing changes, and what has been put in is never looked at again.

* `replace_append`, `replace_of_notMem`: text without that character.
* `replace_pattern`: the placeholder.
-/

namespace Pinpoint.Text

variable {c : Char} {x pattern new : Text}

theorem dropHead?_append (head t : Text) : dropHead? head (head ++ t) = some t := by
  induction head with
  | nil => rfl
  | cons c head ih => rw [List.cons_append, dropHead?, if_pos rfl, ih]

theorem startsWith_append (head t : Text) : startsWith (head ++ t) head = true := by
  rw [startsWith, dropHead?_append]
  rfl

theorem startsWith_cons_of_ne {d : Char} (h : c ≠ d) (pattern t : Text) :
    startsWith (d :: t) (c :: pattern) = false := by
  rw [startsWith, dropHead?, if_neg h]
  rfl

theorem replaceAfter_append (pattern new x t : Text) :
    replaceAfter pattern new x.length (x ++ t) = replaceAfter pattern new 0 t := by
  induction x with
  | nil => rfl
  | cons c x ih => exact ih

/-- Nothing is put in where no occurrence can start. -/
theorem replace_append (h : c ∉ x) (t : Text) :
    replace (x ++ t) (c :: pattern) new = x ++ replace t (c :: pattern) new := by
  induction x with
  | nil => rfl
  | cons d x ih =>
    obtain ⟨hne, hx⟩ := not_or.1 (mt List.mem_cons.2 h)
    rw [replace, List.cons_append, replaceAfter, startsWith_cons_of_ne hne]
    exact congrArg (d :: ·) (ih hx)

theorem replace_of_notMem (h : c ∉ x) (pattern new : Text) : replace x (c :: pattern) new = x := by
  have happend : replace (x ++ []) (c :: pattern) new = x ++ replace [] (c :: pattern) new :=
    replace_append h []
  rwa [List.append_nil, show replace [] (c :: pattern) new = [] from rfl,
    List.append_nil] at happend

theorem replace_pattern (c : Char) (pattern new t : Text) :
    replace (c :: pattern ++ t) (c :: pattern) new = new ++ replace t (c :: pattern) new := by
  have hstarts := startsWith_append (c :: pattern) t
  rw [List.cons_append] at hstarts ⊢
  rw [replace, replaceAfter, hstarts, if_pos rfl, List.length_cons, Nat.add_sub_cancel,
    replaceAfter_append, replace]

end Pinpoint.Text
