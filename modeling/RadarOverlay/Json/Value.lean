import RadarOverlay.Json.Document

/-!
JSON values: what a document says once strings are text and numbers are numbers. A
number written without fraction and exponent is an integer if it fits a signed or an
unsigned 64-bit word, and every other number is a floating-point number. Of fields
with the same name the last one counts.
-/
namespace RadarOverlay

/-- A value. The fields of an object have different names when it was read. -/
inductive Json where
  | null
  | boolean (value : Bool)
  | integer (value : Int)
  | real (value : Float)
  | text (value : String)
  | list (items : List Json)
  | object (fields : List (String × Json))

namespace Json

/-- The number that decimal digits denote. -/
def digitsValue (digits : List UInt8) : Nat :=
  digits.foldl (fun n octet => 10 * n + (octet.toNat - 0x30)) 0

/-- The floating-point number nearest to `± whole.fraction * 10 ^ exponent`. -/
def realOf (negative : Bool) (whole fraction : List UInt8) (exponent : Int) : Float :=
  let mantissa := digitsValue (whole ++ fraction)
  let scale := exponent - fraction.length
  let magnitude := Float.ofScientific mantissa (scale < 0) scale.natAbs
  if negative then -magnitude else magnitude

/-- The number that a lexeme denotes. -/
def ofLexeme (lexeme : List UInt8) : Json :=
  let negative := lexeme.head? = some 0x2d
  let unsigned := if negative then lexeme.drop 1 else lexeme
  let whole := unsigned.takeWhile isDigit
  let rest := unsigned.drop whole.length
  let magnitude := digitsValue whole
  let isWord := if negative then 0 < magnitude ∧ magnitude ≤ 0x8000000000000000
    else magnitude < 0x10000000000000000
  if rest = [] ∧ isWord then
    .integer (if negative then -magnitude else magnitude)
  else
    let fraction := match rest with
      | 0x2e :: rest => rest.takeWhile isDigit
      | _ => []
    let power := rest.dropWhile fun octet => octet != 0x65 && octet != 0x45
    let exponent : Int := match power with
      | _ :: 0x2d :: digits => -digitsValue digits
      | _ :: 0x2b :: digits => digitsValue digits
      | _ :: digits => digitsValue digits
      | [] => 0
    .real (realOf negative whole fraction exponent)

/-- Put a field in; of fields with the same name the last one counts. -/
def putField (name : String) (value : Json) (fields : List (String × Json)) :
    List (String × Json) :=
  if fields.any (·.1 == name) then fields else (name, value) :: fields

mutual

/-- The value of a document whose strings are all text. -/
def ofDocument? : Document → Option Json
  | .null => some .null
  | .boolean value => some (.boolean value)
  | .number lexeme => some (ofLexeme lexeme)
  | .string raw => (RawString.text? raw).map .text
  | .list items => (ofItems? items).map .list
  | .object fields => (ofFields? fields).map .object

/-- The values of the items of a list, if all have one. -/
def ofItems? : List Document → Option (List Json)
  | [] => some []
  | item :: rest => do
    let value ← ofDocument? item
    return value :: (← ofItems? rest)

/-- The fields of an object by name, if all have a name that is text and a value. -/
def ofFields? : List (RawString × Document) → Option (List (String × Json))
  | [] => some []
  | (raw, item) :: rest => do
    let name ← RawString.text? raw
    let value ← ofDocument? item
    return putField name value (← ofFields? rest)

end

/-- The value that octets spell, if they spell one. -/
def read? (input : List UInt8) : Option Json := do ofDocument? (← Document.read? input)

/-- The field of a name, if the value is an object that has it. -/
def field? (name : String) : Json → Option Json
  | .object fields => (fields.find? (·.1 == name)).map Prod.snd
  | _ => none

end Json

end RadarOverlay
