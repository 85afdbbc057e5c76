/-!
Texts are lists of UTF-16 code units, so that every function on them is a recursion on a list and
its laws are list laws. A unit is held as a character: as itself, if it is one, and else, as a half
of a pair of units, as `Text.ofUnit` says. This module holds what does not depend on one class of
units: joining pieces, cutting a text in two, and taking units off both ends.
-/

namespace PostalAddress

abbrev Text := List Char

namespace Text

def joinNonempty (separator : Text) (pieces : List Text) : Text :=
  separator.intercalate (pieces.filter fun piece => !piece.isEmpty)

def present? : Text → Option Text
  | [] => none
  | text => some text

def dropEndWhile (dropped : Char → Bool) (text : Text) : Text :=
  (text.reverse.dropWhile dropped).reverse

def trimWhere (dropped : Char → Bool) (text : Text) : Text :=
  dropEndWhile dropped (text.dropWhile dropped)

/-- The text before the first character of the class and the text behind it, if there is one. -/
def cutAt? (cutsAt : Char → Bool) (text : Text) : Option (Text × Text) :=
  match text.dropWhile fun letter => !cutsAt letter with
  | [] => none
  | _ :: behind => some (text.takeWhile fun letter => !cutsAt letter, behind)

theorem cut_at_append (cutsAt : Char → Bool) (text before behind : Text)
    (cut : cutAt? cutsAt text = some (before, behind)) :
    ∃ letter, cutsAt letter = true ∧ text = before ++ letter :: behind := by
  unfold cutAt? at cut
  split at cut
  case h_1 => cases cut
  case h_2 letter rest found =>
    cases cut
    refine ⟨letter, ?_, ?_⟩
    · have stopped := List.head?_dropWhile_not (fun other => !cutsAt other) text
      simpa [found] using stopped
    · rw [← found, List.takeWhile_append_dropWhile]

end Text

end PostalAddress
