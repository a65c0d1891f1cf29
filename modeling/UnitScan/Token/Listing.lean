import UnitScan.Text.Layout
import UnitScan.Token

/-!
# Listings of tokens

A listing has one line for each token: its position, its kind, and its payload if it has one.
The position and the kind are filled up to fixed widths, and no line ends in a blank.
-/

namespace UnitScan.Token

/-- The width of the position in a listing. -/
def positionWidth : Nat := 8

/-- The width of the kind in a listing. -/
def kindWidth : Nat := 10

/-- The payload of a token in a listing: numbers as they are written, texts quoted. -/
def listedPayload (t : Token) : String :=
  match t.payload with
  | .none => ""
  | payload => if t.kind = .number then payload.plain else payload.debugText

/-- The line of a token in a listing. -/
def listingLine (t : Token) : String :=
  String.ofList <| Text.trimRight <|
    Text.padRight positionWidth t.position.text.toList ++
      Text.padRight kindWidth t.kind.name.toList ++ t.listedPayload.toList

/-- The listing of a stream of tokens. -/
def listing (tokens : List Token) : String := "\n".intercalate (tokens.map listingLine)

end UnitScan.Token
