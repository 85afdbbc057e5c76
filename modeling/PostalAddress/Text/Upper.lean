import PostalAddress.Text.CaseTable
import PostalAddress.Text.CodeUnit

/-!
Uppercase, character by character. A character may become several, and one that is no key of the
case table stays as it is. Two halves of a pair are one character where they stand together, and
stay as they are where they do not.
-/

namespace PostalAddress.Text

def CaseRun.covers (run : CaseRun) (point : Nat) : Bool :=
  run.first ≤ point && point ≤ run.last && (point - run.first) % run.step = 0

def CaseRun.apply (run : CaseRun) (point : Nat) : Nat := run.image + (point - run.first)

def upperPoints (point : Nat) : List Nat :=
  match caseRuns.find? fun run => run.covers point with
  | some run => [run.apply point]
  | none => (caseExpansions.lookup point).getD [point]

/-- Only letters change among the ASCII characters, so these do not ask the table. -/
def upperCharacter (letter : Char) : Text :=
  if letter.toNat < 128 then
    if 'a' ≤ letter && letter ≤ 'z' then [Char.ofNat (letter.toNat - 32)] else [letter]
  else (upperPoints letter.toNat).map Char.ofNat

def upperPair (high low : Char) : Text := (upperPoints (pairPoint high low)).flatMap ofPoint

def upper : Text → Text
  | high :: low :: rest =>
      if isPair high low then upperPair high low ++ upper rest
      else upperCharacter high ++ upper (low :: rest)
  | [unit] => upperCharacter unit
  | [] => []

end PostalAddress.Text
