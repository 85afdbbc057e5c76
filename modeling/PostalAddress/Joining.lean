import PostalAddress.Bag
import PostalAddress.Token

/-!
Tokens are joined into a bag. Tokens under one label are joined by spaces in the order in which
they come. Two house numbers with a separator between them are a range, written with a hyphen.
-/

namespace PostalAddress

inductive NumberTrail where
  | elsewhere
  | afterNumber
  | afterNumberAndSeparator
  deriving DecidableEq, Repr

/-- A separator keeps a house number open for a range; so do further separators. -/
def NumberTrail.passSeparator : NumberTrail → NumberTrail
  | elsewhere => elsewhere
  | afterNumber | afterNumberAndSeparator => afterNumberAndSeparator

def NumberTrail.ofComponent (component : Component) : NumberTrail :=
  if component = .number then afterNumber else elsewhere

structure Joining where
  bag : Bag
  trail : NumberTrail

namespace Joining

def start : Joining := ⟨.empty, .elsewhere⟩

def joiner (component : Component) (trail : NumberTrail) : Text :=
  if component = .number && trail = .afterNumberAndSeparator then ['-'] else [' ']

def append (joining : Joining) (component : Component) (value : Text) : Joining :=
  ⟨joining.bag.set component
    (if joining.bag.has component then
      joining.bag.value component ++ joiner component joining.trail ++ value
    else value),
    .ofComponent component⟩

def step (joining : Joining) (token : Token) : Joining :=
  if token.isSeparator then ⟨joining.bag, joining.trail.passSeparator⟩
  else match token.component? with
    | none => ⟨joining.bag, .elsewhere⟩
    | some component =>
        if token.text.trim.isEmpty then ⟨joining.bag, .elsewhere⟩
        else joining.append component token.text.trim

end Joining

/-- Tokens under other labels and blank tokens leave no trace, but they end a range of house
numbers. -/
def Bag.ofTokens (tokens : List Token) : Bag := (tokens.foldl Joining.step .start).bag

end PostalAddress
