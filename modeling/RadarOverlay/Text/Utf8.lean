/-!
UTF-8 read octet by octet. A text is a sequence of well-formed characters and of
faults; a fault is the longest beginning of a well-formed character that is not
continued, or else a single octet that begins none. Reading leniently writes one
replacement character for each fault, reading strictly refuses every fault.
-/
namespace RadarOverlay.Text

/-- Where a reader of octets stands. -/
inductive Utf8State where
  | between
  /-- Inside a character: the range of its next octet, the octets that follow that one, and
  the bits read so far. -/
  | inside (low high : UInt8) (following : Nat) (bits : Nat)
  deriving DecidableEq, Repr

/-- Read the first octet of a character: what is complete with it, and the state after it. -/
def beginChar (octet : UInt8) : List (Option Char) × Utf8State :=
  let n := octet.toNat
  if n < 0x80 then ([some (Char.ofNat n)], .between)
  else if n < 0xc2 then ([none], .between)
  else if n < 0xe0 then ([], .inside 0x80 0xbf 0 (n - 0xc0))
  else if n = 0xe0 then ([], .inside 0xa0 0xbf 1 0)
  else if n = 0xed then ([], .inside 0x80 0x9f 1 0xd)
  else if n < 0xf0 then ([], .inside 0x80 0xbf 1 (n - 0xe0))
  else if n = 0xf0 then ([], .inside 0x90 0xbf 2 0)
  else if n < 0xf4 then ([], .inside 0x80 0xbf 2 (n - 0xf0))
  else if n = 0xf4 then ([], .inside 0x80 0x8f 2 4)
  else ([none], .between)

/-- Read one octet: the characters and faults that end with it, and the state after it. -/
def readOctet (state : Utf8State) (octet : UInt8) : List (Option Char) × Utf8State :=
  match state with
  | .between => beginChar octet
  | .inside low high following bits =>
    if low ≤ octet ∧ octet ≤ high then
      let bits := 64 * bits + (octet.toNat - 0x80)
      match following with
      | 0 => ([some (Char.ofNat bits)], .between)
      | rest + 1 => ([], .inside 0x80 0xbf rest bits)
    else
      let (found, next) := beginChar octet
      (none :: found, next)

/-- The characters and faults of a sequence of octets, a fault being `none`. -/
def readOctets (state : Utf8State) : List UInt8 → List (Option Char)
  | [] => match state with
    | .between => []
    | .inside .. => [none]
  | octet :: rest =>
    let (found, next) := readOctet state octet
    found ++ readOctets next rest

/-- The character that stands for octets that are no text. -/
def replacement : Char := Char.ofNat 0xfffd

/-- Octets read leniently: one replacement character for each fault. -/
def lossy (octets : List UInt8) : String :=
  String.ofList ((readOctets .between octets).map (·.getD replacement))

/-- Octets read strictly: no text if there is a fault. -/
def strict? (octets : List UInt8) : Option String :=
  ((readOctets .between octets).mapM id).map String.ofList

def octets (s : String) : List UInt8 := s.toList.flatMap String.utf8EncodeChar

end RadarOverlay.Text
