import RadarOverlay.Text.Utf8

/-!
Documents of the JSON text format, read strictly from octets: one value between
optional white space, without trailing commas, comments or leading zeros. The octets
of a string are kept as they stand, so that a string can be skipped without being
text; reading it as text is a second step that refuses malformed octets and lone
surrogates.
-/
namespace RadarOverlay.Json

/-- A piece of a string between its quotes. -/
inductive StringPart where
  | octet (value : UInt8)
  /-- A character escaped by a single letter or sign. -/
  | escaped (c : Char)
  /-- A 16-bit unit escaped by four hexadecimal digits. -/
  | codeUnit (value : Nat)
  deriving DecidableEq, Repr

/-- A string as it stands between its quotes, piece by piece. -/
abbrev RawString := List StringPart

/-- A document as it is written: numbers are lexemes, and strings are not yet text. -/
inductive Document where
  | null
  | boolean (value : Bool)
  | number (lexeme : List UInt8)
  | string (raw : RawString)
  | list (items : List Document)
  | object (fields : List (RawString × Document))

/-- The white space between values: space, tab, line feed and carriage return. -/
def isSpace (octet : UInt8) : Bool :=
  octet == 0x20 || octet == 0x09 || octet == 0x0a || octet == 0x0d

def skipSpace (input : List UInt8) : List UInt8 := input.dropWhile isSpace

def isDigit (octet : UInt8) : Bool := 0x30 ≤ octet && octet ≤ 0x39

/-- The value of a hexadecimal digit of either case. -/
def hexDigit? (octet : UInt8) : Option Nat :=
  if 0x30 ≤ octet ∧ octet ≤ 0x39 then some (octet.toNat - 0x30)
  else if 0x41 ≤ octet ∧ octet ≤ 0x46 then some (octet.toNat - 0x37)
  else if 0x61 ≤ octet ∧ octet ≤ 0x66 then some (octet.toNat - 0x57)
  else none

/-- The character that a backslash and this octet stand for. -/
def escapedChar? (octet : UInt8) : Option Char :=
  if octet = 0x22 then some '"'
  else if octet = 0x5c then some '\\'
  else if octet = 0x2f then some '/'
  else if octet = 0x62 then some (Char.ofNat 8)
  else if octet = 0x66 then some (Char.ofNat 12)
  else if octet = 0x6e then some '\n'
  else if octet = 0x72 then some '\r'
  else if octet = 0x74 then some '\t'
  else none

/-- The rest of a string after its opening quote, and what follows its closing quote. -/
def readString : List UInt8 → Option (RawString × List UInt8)
  | [] => none
  | 0x22 :: rest => some ([], rest)
  | 0x5c :: 0x75 :: a :: b :: c :: d :: rest => do
    let a ← hexDigit? a
    let b ← hexDigit? b
    let c ← hexDigit? c
    let d ← hexDigit? d
    let (parts, after) ← readString rest
    return (.codeUnit (4096 * a + 256 * b + 16 * c + d) :: parts, after)
  | 0x5c :: octet :: rest => do
    let c ← escapedChar? octet
    let (parts, after) ← readString rest
    return (.escaped c :: parts, after)
  | octet :: rest => do
    if octet < 0x20 then none else
      let (parts, after) ← readString rest
      return (.octet octet :: parts, after)

/-- One or more digits, and what follows them. -/
def readDigits (input : List UInt8) : Option (List UInt8 × List UInt8) :=
  let digits := input.takeWhile isDigit
  if digits = [] then none else some (digits, input.drop digits.length)

/-- The whole part of a number: a zero alone, or digits that begin with another one. -/
def readWhole (input : List UInt8) : Option (List UInt8 × List UInt8) := do
  let (digits, rest) ← readDigits input
  if digits.head? = some 0x30 ∧ digits ≠ [0x30] then none else return (digits, rest)

/-- The fraction of a number, its point in front, and what follows it. There may be none. -/
def readFraction : List UInt8 → Option (List UInt8 × List UInt8)
  | 0x2e :: rest => do
    let (digits, rest) ← readDigits rest
    return (0x2e :: digits, rest)
  | input => some ([], input)

/-- The exponent of a number with its mark and sign, and what follows it. There may be none. -/
def readExponent : List UInt8 → Option (List UInt8 × List UInt8)
  | [] => some ([], [])
  | mark :: rest =>
    if mark = 0x65 ∨ mark = 0x45 then
      match rest with
      | sign :: after =>
        if sign = 0x2b ∨ sign = 0x2d then do
          let (digits, rest) ← readDigits after
          return (mark :: sign :: digits, rest)
        else do
          let (digits, rest) ← readDigits rest
          return (mark :: digits, rest)
      | [] => none
    else some ([], mark :: rest)

/-- A number: its lexeme, and what follows it. -/
def readNumber (input : List UInt8) : Option (List UInt8 × List UInt8) := do
  let sign := input.takeWhile (· == 0x2d) |>.take 1
  let rest := input.drop sign.length
  let (whole, rest) ← readWhole rest
  let (fraction, rest) ← readFraction rest
  let (exponent, rest) ← readExponent rest
  return (sign ++ whole ++ fraction ++ exponent, rest)

/-- What follows a word that the input begins with. -/
def readWord (word : String) (input : List UInt8) : Option (List UInt8) :=
  let octets := Text.octets word
  if octets.isPrefixOf input then some (input.drop octets.length) else none

mutual

/-- A value and what follows it, with at most `fuel` nested steps. -/
def readValue (fuel : Nat) (input : List UInt8) : Option (Document × List UInt8) :=
  match fuel with
  | 0 => none
  | fuel + 1 =>
    match skipSpace input with
    | [] => none
    | 0x22 :: rest => do
      let (raw, rest) ← readString rest
      return (.string raw, rest)
    | 0x5b :: rest =>
      match skipSpace rest with
      | 0x5d :: after => some (.list [], after)
      | _ => do
        let (items, after) ← readItems fuel rest
        return (.list items, after)
    | 0x7b :: rest =>
      match skipSpace rest with
      | 0x7d :: after => some (.object [], after)
      | _ => do
        let (fields, after) ← readFields fuel rest
        return (.object fields, after)
    | 0x6e :: _ => do
      let rest ← readWord "null" (skipSpace input)
      return (.null, rest)
    | 0x74 :: _ => do
      let rest ← readWord "true" (skipSpace input)
      return (.boolean true, rest)
    | 0x66 :: _ => do
      let rest ← readWord "false" (skipSpace input)
      return (.boolean false, rest)
    | _ => do
      let (lexeme, rest) ← readNumber (skipSpace input)
      return (.number lexeme, rest)

/-- The items of a list up to its closing bracket, and what follows it. -/
def readItems (fuel : Nat) (input : List UInt8) : Option (List Document × List UInt8) :=
  match fuel with
  | 0 => none
  | fuel + 1 => do
    let (item, rest) ← readValue fuel input
    match skipSpace rest with
    | 0x5d :: after => return ([item], after)
    | 0x2c :: after =>
      let (items, after) ← readItems fuel after
      return (item :: items, after)
    | _ => none

/-- The fields of an object up to its closing brace, and what follows it. -/
def readFields (fuel : Nat) (input : List UInt8) :
    Option (List (RawString × Document) × List UInt8) :=
  match fuel with
  | 0 => none
  | fuel + 1 =>
    match skipSpace input with
    | 0x22 :: rest => do
      let (key, rest) ← readString rest
      match skipSpace rest with
      | 0x3a :: rest =>
        let (value, rest) ← readValue fuel rest
        match skipSpace rest with
        | 0x7d :: after => return ([(key, value)], after)
        | 0x2c :: after =>
          let (fields, after) ← readFields fuel after
          return ((key, value) :: fields, after)
        | _ => none
      | _ => none
    | _ => none

end

/-- The document that the octets are, if they are one. Each nested step but every second one
reads an octet, so twice their number is enough. -/
def Document.read? (input : List UInt8) : Option Document := do
  let (document, rest) ← readValue (2 * input.length + 2) input
  if skipSpace rest = [] then some document else none

/-- Whether a unit is the first or second half of a character beyond 16 bits. -/
def isSurrogate (n : Nat) : Bool := 0xd800 ≤ n && n < 0xe000

/-- The octets that a string stands for; a half of a character that has no other half has
none. -/
def RawString.octets? : RawString → Option (List UInt8)
  | [] => some []
  | .octet value :: rest => do return value :: (← RawString.octets? rest)
  | .escaped c :: rest => do return String.utf8EncodeChar c ++ (← RawString.octets? rest)
  | .codeUnit high :: rest =>
    if isSurrogate high then
      match rest with
      | .codeUnit low :: rest =>
        if high < 0xdc00 ∧ 0xdc00 ≤ low ∧ low < 0xe000 then do
          let c := Char.ofNat (0x10000 + 1024 * (high - 0xd800) + (low - 0xdc00))
          return String.utf8EncodeChar c ++ (← RawString.octets? rest)
        else none
      | _ => none
    else do
      return String.utf8EncodeChar (Char.ofNat high) ++ (← RawString.octets? rest)

/-- The text of a string, if its octets are text. -/
def RawString.text? (raw : RawString) : Option String := do
  Text.strict? (← RawString.octets? raw)

end RadarOverlay.Json
