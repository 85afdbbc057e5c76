import PostalAddress.Text.CodeUnit

/-!
UTF-8, byte by byte. A reader is between characters or inside one, where the first of the bytes that
are still to come is bound more closely, so that no character has two spellings and none is a half
of a pair.
-/

namespace PostalAddress

abbrev Bytes := List UInt8

namespace Utf8

inductive Reading where
  | between
  | inside (lacking point least most : Nat)
  deriving DecidableEq, Repr

def first? (byte : Nat) : Option (Text × Reading) :=
  if byte < 0x80 then some ([Text.ofUnit byte], .between)
  else if 0xC2 ≤ byte && byte < 0xE0 then some ([], .inside 1 (byte - 0xC0) 0x80 0xBF)
  else if 0xE0 ≤ byte && byte < 0xF0 then
    some ([], .inside 2 (byte - 0xE0) (if byte = 0xE0 then 0xA0 else 0x80)
      (if byte = 0xED then 0x9F else 0xBF))
  else if 0xF0 ≤ byte && byte < 0xF5 then
    some ([], .inside 3 (byte - 0xF0) (if byte = 0xF0 then 0x90 else 0x80)
      (if byte = 0xF4 then 0x8F else 0xBF))
  else none

def next? : Reading → Nat → Option (Text × Reading)
  | .between, byte => first? byte
  | .inside lacking point least most, byte =>
      if least ≤ byte && byte ≤ most then
        let longer := 0x40 * point + (byte - 0x80)
        if lacking = 1 then some (Text.ofPoint longer, .between)
        else some ([], .inside (lacking - 1) longer 0x80 0xBF)
      else none

/-- A character that breaks off is replaced, and the byte that does not go on with it is read
anew. -/
def nextOrReplaced (reading : Reading) (byte : Nat) : Text × Reading :=
  match next? reading byte, reading with
  | some progress, _ => progress
  | none, .between => (['\ufffd'], .between)
  | none, .inside .. =>
      match first? byte with
      | some (read, following) => ('\ufffd' :: read, following)
      | none => (['\ufffd', '\ufffd'], .between)

/-- What is no UTF-8 is replaced. -/
def decode (bytes : Bytes) : Text :=
  let (reversed, reading) := bytes.foldl
    (fun (reversed, reading) byte =>
      let (read, following) := nextOrReplaced reading byte.toNat
      (read.reverse ++ reversed, following))
    ([], Reading.between)
  match reading with
  | .between => reversed.reverse
  | .inside .. => ('\ufffd' :: reversed).reverse

end Utf8

end PostalAddress
