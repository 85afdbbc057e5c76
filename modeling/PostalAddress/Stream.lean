import PostalAddress.Token

/-!
The tokens of an intersection are parted into one stream for each street. Second-street tokens go
to the second stream under the first-street label. City, state and ZIP code go to the street
that they follow: the first one until a separator or a second-street token has come.
-/

namespace PostalAddress

structure Streams where
  first : List Token
  second : List Token
  deriving DecidableEq, Repr

namespace Streams

def empty : Streams := ⟨[], []⟩

def consFirst (token : Token) (streams : Streams) : Streams :=
  ⟨token :: streams.first, streams.second⟩

def consSecond (token : Token) (streams : Streams) : Streams :=
  ⟨streams.first, token :: streams.second⟩

end Streams

def Token.isLocation (token : Token) : Bool :=
  Component.locationFields.any fun component => component.label = token.label

def Token.asFirstStreet (token : Token) : Token := ⟨Label.asFirstStreet token.label, token.text⟩

def Streams.ofTokens (pastFirst : Bool) : List Token → Streams
  | [] => .empty
  | token :: rest =>
      if token.isSecondStreet then (Streams.ofTokens true rest).consSecond token.asFirstStreet
      else if token.isSeparator then Streams.ofTokens true rest
      else if token.isLocation && pastFirst then (Streams.ofTokens pastFirst rest).consSecond token
      else (Streams.ofTokens pastFirst rest).consFirst token

def splitStreets (tokens : List Token) : Streams := Streams.ofTokens false tokens

end PostalAddress
