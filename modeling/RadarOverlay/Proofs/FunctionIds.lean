import Mathlib.Algebra.Group.Int.Defs
import Mathlib.Algebra.Group.Nat.Defs
import RadarOverlay.TagFunction

/-!
Which numbers are ids. Not every number stands for a function, several numbers stand
for the same one, and a selection beyond 20 bits has no id; on what remains, ids and
functions go over into each other without loss. Main statement: `functions_and_ids`.
-/
namespace RadarOverlay

namespace FunctionCode

/-- The low byte of an id, which names the kind. -/
def lowByte (id : Int32) : Nat := id.toUInt32.toNat % 2 ^ 8

/-- The 20 bits above the low byte. -/
def payloadBits (id : Int32) : Nat := id.toUInt32.toNat / 2 ^ 8 % 2 ^ 20

/-- The top four bits of an id, which no function uses. -/
def topBits (id : Int32) : Nat := id.toUInt32.toNat / 2 ^ 28

theorem bits_eq (id : Int32) :
    id.toUInt32.toNat = lowByte id + 2 ^ 8 * payloadBits id + 2 ^ 28 * topBits id := by
  simp only [lowByte, payloadBits, topBits]
  omega

theorem unpack_of_le {id : Int32} (known : lowByte id ≤ 10) :
    ∃ c, unpack id = .ok c ∧ c.kind.code = lowByte id ∧ c.payload = payloadBits id := by
  cases named : FunctionKind.ofCode? (id.toUInt32.toNat % 0x100) with
  | none =>
    have unknown := FunctionKind.ofCode?_eq_none_iff.mp named
    simp only [lowByte] at known
    omega
  | some kind =>
    refine ⟨⟨kind, payloadBits id, Nat.le_pred_of_lt (Nat.mod_lt _ (by decide))⟩, ?_, ?_, rfl⟩
    · simp only [unpack, named]
      rfl
    · exact (FunctionKind.ofCode?_eq_some_iff.mp named).symm

theorem unpack_of_lt {id : Int32} (unknown : 10 < lowByte id) :
    unpack id = .error (.unknownKind (lowByte id)) := by
  have unnamed : FunctionKind.ofCode? (id.toUInt32.toNat % 0x100) = none :=
    FunctionKind.ofCode?_eq_none_iff.mpr unknown
  simp only [unpack, unnamed]
  rfl

/-- A packed code is a number of 28 bits. -/
theorem toInt_pack (c : FunctionCode) : 0 ≤ c.pack.toInt ∧ c.pack.toInt < 2 ^ 28 := by
  have low := c.kind.code_le
  have high := c.payload_le
  simp only [payloadMax] at high
  have exact : c.pack.toInt = ((c.kind.code + 0x100 * c.payload : Nat) : Int) :=
    Int32.toInt_ofNat_of_lt (by omega)
  omega

/-- An id is the packed form of a code exactly if it has the code's parts and nothing above. -/
theorem pack_eq_iff {c : FunctionCode} {id : Int32} (named : c.kind.code = lowByte id) :
    c.pack = id ↔ topBits id = 0 ∧ c.payload = payloadBits id := by
  have bits := bits_eq id
  have packed := c.toNat_pack
  have high := c.payload_le
  simp only [payloadMax] at high
  constructor
  · rintro rfl
    omega
  · rintro ⟨top, payload⟩
    have same : c.pack.toUInt32.toNat = id.toUInt32.toNat := by omega
    exact Int32.toBitVec.inj (congrArg UInt32.toBitVec (UInt32.toNat_inj.mp same))

end FunctionCode

/-- The payloads that a kind's functions are written with: none but zero without a payload, a step
is zero or one, and an index is any number. -/
def FunctionKind.Canonical (payload : Nat) : FunctionKind → Prop
  | .openSelectProfile | .openSelectPreset | .openSelectView => payload ≤ 1
  | .submitSelectProfile | .submitSelectPreset | .submitSelectView => True
  | _ => payload = 0

namespace TagFunction

open FunctionCode

/-- The index of a selection. -/
def index? : TagFunction → Option Nat
  | .submitSelectProfile index | .submitSelectPreset index | .submitSelectView index => some index
  | _ => Option.none

/-- Only an index can be too large for an id. -/
theorem payload_of_index? (f : TagFunction) :
    f.index? = some f.payload ∨ f.index? = Option.none ∧ f.payload ≤ 1 := by
  cases f with
  | openSelectProfile step => cases step <;> exact .inr ⟨rfl, by decide⟩
  | openSelectPreset step => cases step <;> exact .inr ⟨rfl, by decide⟩
  | openSelectView step => cases step <;> exact .inr ⟨rfl, by decide⟩
  | submitSelectProfile index => exact .inl rfl
  | submitSelectPreset index => exact .inl rfl
  | submitSelectView index => exact .inl rfl
  | _ => exact .inr ⟨rfl, by decide⟩

theorem kind_ofCode (c : FunctionCode) : (ofCode c).kind = c.kind := by
  obtain ⟨kind, payload, fits⟩ := c
  cases kind <;> rfl

/-- Reading a code keeps its payload exactly if the payload is one that its kind is written
with. -/
theorem payload_ofCode_eq_iff (c : FunctionCode) :
    (ofCode c).payload = c.payload ↔ c.kind.Canonical c.payload := by
  obtain ⟨kind, payload, fits⟩ := c
  have step : (SubmenuStep.ofPayload payload).payload = payload ↔ payload ≤ 1 := by
    unfold SubmenuStep.ofPayload
    split <;> simp only [SubmenuStep.payload] <;> omega
  cases kind with
  | openSelectProfile => exact step
  | openSelectPreset => exact step
  | openSelectView => exact step
  | submitSelectProfile => exact ⟨fun _ => trivial, fun _ => rfl⟩
  | submitSelectPreset => exact ⟨fun _ => trivial, fun _ => rfl⟩
  | submitSelectView => exact ⟨fun _ => trivial, fun _ => rfl⟩
  | _ => exact eq_comm

theorem payload_ofCode_le (c : FunctionCode) : (ofCode c).payload ≤ payloadMax := by
  obtain ⟨kind, payload, fits⟩ := c
  have step : (SubmenuStep.ofPayload payload).payload ≤ payloadMax := by
    unfold SubmenuStep.ofPayload
    split <;> decide
  cases kind with
  | openSelectProfile => exact step
  | openSelectPreset => exact step
  | openSelectView => exact step
  | submitSelectProfile => exact fits
  | submitSelectPreset => exact fits
  | submitSelectView => exact fits
  | _ => exact Nat.zero_le _

theorem encode_of_fits {f : TagFunction} (fits : f.payload ≤ payloadMax) :
    f.encode = .ok (pack ⟨f.kind, f.payload, fits⟩) := by
  rw [encode, toCode_eq, dif_pos fits]
  rfl

theorem encode_of_exceeds {f : TagFunction} (exceeds : payloadMax < f.payload) :
    f.encode = .error (.payloadOverflow (min f.payload reportedPayloadMax)) := by
  rw [encode, toCode_eq, dif_neg (Nat.not_le.mpr exceeds)]
  rfl

/-- A function has an id exactly if it has no index or one below 2^20. -/
theorem encode_isOk_iff_index (f : TagFunction) :
    (∃ id, f.encode = .ok id) ↔ ∀ index, f.index? = some index → index < 2 ^ 20 := by
  rw [encode_isOk_iff, payloadMax]
  rcases f.payload_of_index? with carried | ⟨absent, small⟩
  · rw [carried]
    constructor
    · rintro fits index ⟨⟩
      omega
    · intro below
      have := below _ rfl
      omega
  · simp only [absent, reduceCtorEq, false_implies, implies_true, iff_true]
    omega

theorem decode_isOk_iff (id : Int32) : (∃ f, decode id = .ok f) ↔ lowByte id ≤ 10 := by
  constructor
  · rintro ⟨f, decoded⟩
    refine Nat.le_of_not_lt fun unknown => ?_
    rw [decode, unpack_of_lt unknown] at decoded
    cases decoded
  · intro known
    obtain ⟨c, unpacked, -, -⟩ := unpack_of_le known
    exact ⟨ofCode c, by rw [decode, unpacked]; rfl⟩

/-- What an id stands for has an id of its own, which is the same one exactly if that one is
written as the kind is. -/
theorem encode_of_decode {id : Int32} {f : TagFunction} (decoded : decode id = .ok f) :
    ∃ own, f.encode = .ok own ∧ decode own = .ok f ∧
      (own = id ↔ topBits id = 0 ∧ f.kind.Canonical (payloadBits id)) := by
  obtain ⟨c, unpacked, named, carried⟩ := unpack_of_le ((decode_isOk_iff id).mp ⟨f, decoded⟩)
  rw [decode, unpacked] at decoded
  cases decoded
  have fits := payload_ofCode_le c
  refine ⟨_, encode_of_fits fits, decode_of_encode (encode_of_fits fits), ?_⟩
  rw [pack_eq_iff ((congrArg FunctionKind.code (kind_ofCode c)).trans named), kind_ofCode,
    ← carried, payload_ofCode_eq_iff]

/-- A function has an id unless it selects beyond 2^20, and the id is a number of 28 bits that
stands for this function only. A number stands for a function unless its low byte names no kind.
The function has an id then, and it is the same number exactly if that has nothing in its top four
bits and a payload that its kind is written with. -/
theorem functions_and_ids (f : TagFunction) (id : Int32) :
    ((∃ id, f.encode = .ok id) ↔ ∀ index, f.index? = some index → index < 2 ^ 20) ∧
    (∀ index, f.index? = some index → 2 ^ 20 ≤ index →
      f.encode = .error (.payloadOverflow (min index 0xffffffff))) ∧
    (f.encode = .ok id → (0 ≤ id.toInt ∧ id.toInt < 2 ^ 28) ∧ decode id = .ok f ∧
      ∀ g : TagFunction, g.encode = .ok id → g = f) ∧
    ((∃ g, decode id = .ok g) ↔ lowByte id ≤ 10) ∧
    (10 < lowByte id → decode id = .error (.unknownKind (lowByte id))) ∧
    ∀ g, decode id = .ok g → ∃ own, g.encode = .ok own ∧ decode own = .ok g ∧
      (own = id ↔ topBits id = 0 ∧ g.kind.Canonical (payloadBits id)) := by
  refine ⟨encode_isOk_iff_index f, ?_, ?_, decode_isOk_iff id, ?_, fun g => encode_of_decode⟩
  · intro index carried large
    rcases f.payload_of_index? with same | ⟨absent, -⟩
    · rw [carried, Option.some.injEq] at same
      subst same
      exact encode_of_exceeds large
    · rw [absent] at carried
      cases carried
  · intro encoded
    have decoded := decode_of_encode encoded
    refine ⟨?_, decoded, fun g other => ?_⟩
    · have fits := encode_isOk_iff.mp ⟨id, encoded⟩
      rw [encode_of_fits fits] at encoded
      cases encoded
      exact toInt_pack _
    · have same := (decode_of_encode other).symm.trans decoded
      cases same
      rfl
  · intro unknown
    rw [decode, unpack_of_lt unknown]
    rfl

/-- A negative number stands for the list of profiles, whose own id is another. -/
theorem functions_and_ids_profiles :
    decode (-0x0ffffdfb) = .ok (.openSelectProfile .opening) ∧
      ∃ own, encode (.openSelectProfile .opening) = .ok own ∧ own ≠ -0x0ffffdfb := by
  have decoded : decode (-0x0ffffdfb) = .ok (.openSelectProfile .opening) := rfl
  obtain ⟨-, -, -, -, -, back⟩ :=
    functions_and_ids (.openSelectProfile .opening) (-0x0ffffdfb)
  obtain ⟨own, encoded, -, same⟩ := back _ decoded
  refine ⟨decoded, own, encoded, fun equal => ?_⟩
  exact absurd (same.mp equal).1 (by decide)

end TagFunction

end RadarOverlay
