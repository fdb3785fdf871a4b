import RadarOverlay.Text.Number

/-!
Tag functions: what happens when a popup element or the badge is activated. The
host keeps one signed 32-bit id per element and hands it back unchanged. An id holds
a function kind in its low 8 bits and a payload in the 20 bits above them; the top
four bits are unused. Main statements: `FunctionCode.unpack_pack` says that a packed
code is unpacked to itself, `FunctionCode.toNat_pack` which id it is, and
`TagFunction.decode_of_encode` that an id stands for the function it was made of.
-/
namespace RadarOverlay

/-- The part of a tag function that the low byte of an id names. -/
inductive FunctionKind where
  | none
  | openMenu
  | openEditAerodrome
  | submitEditAerodrome
  | toggleControlling
  | openSelectProfile
  | submitSelectProfile
  | openSelectPreset
  | submitSelectPreset
  | openSelectView
  | submitSelectView
  deriving DecidableEq, Repr

namespace FunctionKind

/-- Every kind, in the order of its code. -/
def all : List FunctionKind :=
  [.none, .openMenu, .openEditAerodrome, .submitEditAerodrome, .toggleControlling,
    .openSelectProfile, .submitSelectProfile, .openSelectPreset, .submitSelectPreset,
    .openSelectView, .submitSelectView]

/-- The code of a kind in the low byte of an id. -/
def code : FunctionKind → Nat
  | .none => 0
  | .openMenu => 1
  | .openEditAerodrome => 2
  | .submitEditAerodrome => 3
  | .toggleControlling => 4
  | .openSelectProfile => 5
  | .submitSelectProfile => 6
  | .openSelectPreset => 7
  | .submitSelectPreset => 8
  | .openSelectView => 9
  | .submitSelectView => 10

/-- The kind of a code, if the code is one. -/
def ofCode? (code : Nat) : Option FunctionKind := all[code]?

def name : FunctionKind → String
  | .none => "None"
  | .openMenu => "OpenMenu"
  | .openEditAerodrome => "OpenEditAerodrome"
  | .submitEditAerodrome => "SubmitEditAerodrome"
  | .toggleControlling => "ToggleControlling"
  | .openSelectProfile => "OpenSelectProfile"
  | .submitSelectProfile => "SubmitSelectProfile"
  | .openSelectPreset => "OpenSelectPreset"
  | .submitSelectPreset => "SubmitSelectPreset"
  | .openSelectView => "OpenSelectView"
  | .submitSelectView => "SubmitSelectView"

theorem ofCode?_code (kind : FunctionKind) : ofCode? kind.code = some kind := by
  cases kind <;> rfl

theorem code_le (kind : FunctionKind) : kind.code ≤ 10 := by
  cases kind <;> decide

theorem ofCode?_eq_some_iff {code : Nat} {kind : FunctionKind} :
    ofCode? code = some kind ↔ code = kind.code := by
  constructor
  · intro found
    have small : code < all.length := (List.getElem?_eq_some_iff.1 found).1
    have cases : ∀ n : Fin 11, ∀ k : FunctionKind, ofCode? n = some k → n.val = k.code := by
      intro n k
      revert n
      cases k <;> decide
    exact cases ⟨code, small⟩ kind found
  · rintro rfl
    exact ofCode?_code kind

theorem ofCode?_eq_none_iff {code : Nat} : ofCode? code = Option.none ↔ 10 < code := by
  have length : all.length = 11 := rfl
  rw [ofCode?, List.getElem?_eq_none_iff, length]
  omega

end FunctionKind

/-- Step of a submenu chain. A submenu cannot be opened from inside the callback of the
popup it was picked in, so picking it is a request that is opened later. -/
inductive SubmenuStep where
  | request
  | opening
  deriving DecidableEq, Repr

def SubmenuStep.name : SubmenuStep → String
  | .request => "Request"
  | .opening => "Open"

/-- Something the overlay can be asked to do. A selection carries the position of the
selected entry in the client's list. -/
inductive TagFunction where
  /-- Inert, as on a disabled element. -/
  | none
  | openMenu
  | openEditAerodrome
  | submitEditAerodrome
  | toggleControlling
  | openSelectProfile (step : SubmenuStep)
  | submitSelectProfile (index : Nat)
  | openSelectPreset (step : SubmenuStep)
  | submitSelectPreset (index : Nat)
  | openSelectView (step : SubmenuStep)
  | submitSelectView (index : Nat)
  deriving DecidableEq, Repr

/-- Why a tag function has no id, or an id no tag function. -/
inductive CodeError where
  /-- The low byte of the id is the code of no kind. -/
  | unknownKind (code : Nat)
  /-- The payload needs more than the 20 bits an id has for it. -/
  | payloadOverflow (payload : Nat)
  deriving DecidableEq, Repr

/-- The largest payload that an id has room for: 20 bits. -/
def payloadMax : Nat := 0xfffff

/-- The largest payload that an error can name: 32 bits. -/
def reportedPayloadMax : Nat := 0xffffffff

/-- An error as log messages show it. -/
def CodeError.message : CodeError → String
  | .unknownKind code => "Unknown tag function kind: " ++ Text.natText code
  | .payloadOverflow payload =>
    "Tag function payload too large: " ++ Text.natText payload ++ " (max "
      ++ Text.natText payloadMax ++ ")"

/-- A kind and payload as an id holds them. -/
structure FunctionCode where
  kind : FunctionKind
  payload : Nat
  payload_le : payload ≤ payloadMax
  deriving DecidableEq

namespace FunctionCode

/-- The code of a kind with a payload, if the payload fits. -/
def make (kind : FunctionKind) (payload : Nat) : Except CodeError FunctionCode :=
  if fits : payload ≤ payloadMax then .ok ⟨kind, payload, fits⟩
  else .error (.payloadOverflow payload)

/-- The id that a code is handed out as. -/
def pack (c : FunctionCode) : Int32 := Int32.ofNat (c.kind.code + 0x100 * c.payload)

/-- The code in an id. Bits above the payload are ignored. -/
def unpack (id : Int32) : Except CodeError FunctionCode :=
  let bits := id.toUInt32.toNat
  match FunctionKind.ofCode? (bits % 0x100) with
  | .none => .error (.unknownKind (bits % 0x100))
  | .some kind =>
    .ok ⟨kind, bits / 0x100 % 0x100000, Nat.le_pred_of_lt (Nat.mod_lt _ (by decide))⟩

theorem toNat_pack (c : FunctionCode) :
    c.pack.toUInt32.toNat = c.kind.code + 0x100 * c.payload := by
  have low := c.kind.code_le
  have high := c.payload_le
  have bound : c.kind.code + 0x100 * c.payload < 0x100000000 := by
    simp only [payloadMax] at high
    omega
  simp only [pack, Int32.toUInt32_ofNat', UInt32.toNat_ofNat']
  omega

/-- A packed code is unpacked to itself. -/
theorem unpack_pack (c : FunctionCode) : unpack c.pack = .ok c := by
  have low := c.kind.code_le
  have high := c.payload_le
  simp only [payloadMax] at high
  have first : (c.kind.code + 0x100 * c.payload) % 0x100 = c.kind.code := by omega
  have second : (c.kind.code + 0x100 * c.payload) / 0x100 % 0x100000 = c.payload := by omega
  simp only [unpack, toNat_pack, first, second, FunctionKind.ofCode?_code]

end FunctionCode

namespace SubmenuStep

/-- The number of a step in an id. -/
def payload : SubmenuStep → Nat
  | .request => 0
  | .opening => 1

/-- The step with a given payload: only 0 is a request. -/
def ofPayload (payload : Nat) : SubmenuStep := if payload = 0 then .request else .opening

end SubmenuStep

namespace TagFunction

/-- The kind of a function, without what it carries. -/
def kind : TagFunction → FunctionKind
  | .none => .none
  | .openMenu => .openMenu
  | .openEditAerodrome => .openEditAerodrome
  | .submitEditAerodrome => .submitEditAerodrome
  | .toggleControlling => .toggleControlling
  | .openSelectProfile _ => .openSelectProfile
  | .submitSelectProfile _ => .submitSelectProfile
  | .openSelectPreset _ => .openSelectPreset
  | .submitSelectPreset _ => .submitSelectPreset
  | .openSelectView _ => .openSelectView
  | .submitSelectView _ => .submitSelectView

/-- The number a function carries next to its kind. -/
def payload : TagFunction → Nat
  | .openSelectProfile step | .openSelectPreset step | .openSelectView step => step.payload
  | .submitSelectProfile index | .submitSelectPreset index | .submitSelectView index => index
  | _ => 0

/-- The form in which a submenu request is opened later, if this is such a request. -/
def deferred : TagFunction → Option TagFunction
  | .openSelectProfile .request => some (.openSelectProfile .opening)
  | .openSelectPreset .request => some (.openSelectPreset .opening)
  | .openSelectView .request => some (.openSelectView .opening)
  | _ => Option.none

/-- The code of a function, if its payload fits. A payload beyond 32 bits is reported as the
largest 32-bit number. -/
def toCode (f : TagFunction) : Except CodeError FunctionCode :=
  FunctionCode.make f.kind (min f.payload reportedPayloadMax)

/-- The function that a code stands for. -/
def ofCode (c : FunctionCode) : TagFunction :=
  match c.kind with
  | .none => .none
  | .openMenu => .openMenu
  | .openEditAerodrome => .openEditAerodrome
  | .submitEditAerodrome => .submitEditAerodrome
  | .toggleControlling => .toggleControlling
  | .openSelectProfile => .openSelectProfile (.ofPayload c.payload)
  | .submitSelectProfile => .submitSelectProfile c.payload
  | .openSelectPreset => .openSelectPreset (.ofPayload c.payload)
  | .submitSelectPreset => .submitSelectPreset c.payload
  | .openSelectView => .openSelectView (.ofPayload c.payload)
  | .submitSelectView => .submitSelectView c.payload

/-- The id of a function, if it has one. -/
def encode (f : TagFunction) : Except CodeError Int32 := f.toCode.map FunctionCode.pack

/-- The function of an id, if it has one. -/
def decode (id : Int32) : Except CodeError TagFunction := (FunctionCode.unpack id).map ofCode

/-- A payload is coded exactly when it fits. -/
theorem toCode_eq (f : TagFunction) :
    f.toCode = if fits : f.payload ≤ payloadMax then .ok ⟨f.kind, f.payload, fits⟩
      else .error (.payloadOverflow (min f.payload reportedPayloadMax)) := by
  by_cases fits : f.payload ≤ payloadMax
  · have whole : min f.payload reportedPayloadMax = f.payload := by
      simp only [payloadMax] at fits
      simp only [reportedPayloadMax]
      omega
    simp only [toCode, FunctionCode.make, whole]
  · have exceeds : ¬ min f.payload reportedPayloadMax ≤ payloadMax := by
      simp only [payloadMax, reportedPayloadMax] at fits ⊢
      omega
    simp [toCode, FunctionCode.make, fits, exceeds]

theorem ofCode_kind_payload (f : TagFunction) (fits : f.payload ≤ payloadMax) :
    ofCode ⟨f.kind, f.payload, fits⟩ = f := by
  cases f with
  | openSelectProfile step => cases step <;> rfl
  | openSelectPreset step => cases step <;> rfl
  | openSelectView step => cases step <;> rfl
  | _ => rfl

/-- A function has an id exactly when its payload fits. -/
theorem encode_isOk_iff {f : TagFunction} : (∃ id, f.encode = .ok id) ↔ f.payload ≤ payloadMax := by
  rw [encode, toCode_eq]
  split <;> simp_all [Except.map]

/-- An id stands for the function it was made of. -/
theorem decode_of_encode {f : TagFunction} {id : Int32} (encoded : f.encode = .ok id) :
    decode id = .ok f := by
  have fits := encode_isOk_iff.mp ⟨id, encoded⟩
  rw [encode, toCode_eq, dif_pos fits] at encoded
  cases encoded
  simp [decode, FunctionCode.unpack_pack, Except.map, ofCode_kind_payload]

/-- A function as log messages show it. -/
def text (f : TagFunction) : String :=
  match f with
  | .openSelectProfile step | .openSelectPreset step | .openSelectView step =>
    f.kind.name ++ "(" ++ step.name ++ ")"
  | .submitSelectProfile index | .submitSelectPreset index | .submitSelectView index =>
    f.kind.name ++ "(" ++ Text.natText index ++ ")"
  | _ => f.kind.name

end TagFunction

end RadarOverlay
