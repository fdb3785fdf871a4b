import Mathlib.Algebra.Group.Nat.Defs
import RadarOverlay.Badge
import RadarOverlay.Settings
import RadarOverlay.Text.Terminated

/-!
Texts without a zero character, the ones that can be handed over. Main statement:
`noZero_readTerminated` says that whatever the octets of a buffer, the text that is
read of them has no zero character, since a reader of octets makes one only of a zero
octet; trimmed texts, written coordinates and the badge's label have none either.
-/
namespace RadarOverlay.Text

def NoZero (s : String) : Prop := '\x00' ∉ s.toList

instance (s : String) : Decidable (NoZero s) := inferInstanceAs (Decidable (_ ∉ _))

theorem ofString?_of_noZero {s : String} (clean : NoZero s) :
    Terminated.ofString? s = some ⟨s, clean⟩ := dif_pos clean

theorem ofNat_ne_zero {n : Nat} (valid : n.isValidChar)
    (positive : 0 < n) : Char.ofNat n ≠ '\x00' := by
  intro zero
  have number : (Char.ofNat n).toNat = n := by
    rw [Char.ofNat, dif_pos valid]
    rfl
  have none : (Char.ofNat n).toNat = 0 := by rw [zero]; rfl
  omega

/-- The character that a reader is inside of will be one, and not the zero character, whatever
octets complete it. -/
def Utf8State.Sound : Utf8State → Prop
  | .between => True
  | .inside low high following bits =>
    let least := (64 * bits + (low.toNat - 0x80)) * 64 ^ following
    let most := (64 * bits + (high.toNat - 0x80)) * 64 ^ following + (64 ^ following - 1)
    0x80 ≤ low.toNat ∧ following ≤ 2 ∧ 0 < least ∧
      (most < 0xd800 ∨ 0xdfff < least ∧ most < 0x110000)

theorem beginChar_sound {octet : UInt8} (nonzero : octet ≠ 0) :
    some '\x00' ∉ (beginChar octet).1 ∧ (beginChar octet).2.Sound := by
  have positive : 0 < octet.toNat := by
    rcases Nat.eq_zero_or_pos octet.toNat with zero | positive
    · exact absurd (UInt8.toNat_inj.mp zero) nonzero
    · exact positive
  unfold beginChar
  simp only
  split
  · have scalar : octet.toNat.isValidChar := .inl (by omega)
    exact ⟨by simpa using (ofNat_ne_zero scalar positive).symm, trivial⟩
  repeat' split
  all_goals simp [Utf8State.Sound]
  all_goals omega

theorem readOctet_sound {state : Utf8State} {octet : UInt8} (sound : state.Sound)
    (nonzero : octet ≠ 0) :
    some '\x00' ∉ (readOctet state octet).1 ∧ (readOctet state octet).2.Sound := by
  cases state with
  | between => exact beginChar_sound nonzero
  | inside low high following bits =>
    by_cases within : low ≤ octet ∧ octet ≤ high
    · obtain ⟨tail, short, positive, valid⟩ := sound
      have least : low.toNat ≤ octet.toNat := UInt8.le_iff_toNat_le.mp within.1
      have most : octet.toNat ≤ high.toNat := UInt8.le_iff_toNat_le.mp within.2
      cases following with
      | zero =>
        simp only [readOctet, if_pos within]
        refine ⟨?_, trivial⟩
        have scalar : (64 * bits + (octet.toNat - 0x80)).isValidChar := by
          simp only [Nat.isValidChar]
          omega
        simpa using (ofNat_ne_zero scalar (by omega)).symm
      | succ rest =>
        simp only [readOctet, if_pos within]
        refine ⟨by simp, by simp, by omega, ?_⟩
        have cases : rest = 0 ∨ rest = 1 := by omega
        have tailLow : (0x80 : UInt8).toNat = 0x80 := rfl
        have tailHigh : (0xbf : UInt8).toNat = 0xbf := rfl
        rcases cases with rfl | rfl
        · simp only [tailLow, tailHigh, zero_add, pow_one, pow_zero] at positive valid ⊢
          omega
        · simp only [tailLow, tailHigh, Nat.reduceAdd, Nat.reducePow, pow_one] at positive valid ⊢
          omega
    · simp only [readOctet, if_neg within]
      obtain ⟨found, next⟩ := beginChar_sound nonzero
      exact ⟨by simpa using found, next⟩

theorem readOctets_sound {octets : List UInt8} {state : Utf8State} (sound : state.Sound)
    (nonzero : ∀ octet ∈ octets, octet ≠ 0) : some '\x00' ∉ readOctets state octets := by
  induction octets generalizing state with
  | nil => cases state <;> simp [readOctets]
  | cons octet rest ih =>
    obtain ⟨found, next⟩ := readOctet_sound sound (nonzero octet (by simp))
    rw [readOctets, List.mem_append, not_or]
    exact ⟨found, ih next fun later member => nonzero later (by simp [member])⟩

/-- What is read of a buffer can be handed over again. -/
theorem noZero_readTerminated (buffer : List UInt8) : NoZero (readTerminated buffer) := by
  have nonzero : ∀ octet ∈ buffer.takeWhile (· != 0), octet ≠ 0 := by
    intro octet member
    simpa using List.all_eq_true.mp List.all_takeWhile octet member
  have sound := readOctets_sound (show Utf8State.between.Sound from trivial) nonzero
  rw [NoZero, readTerminated, lossy, String.toList_ofList, List.mem_map]
  rintro ⟨found, member, zero⟩
  cases found with
  | none => exact absurd zero (by decide)
  | some c => exact sound (zero ▸ member)

theorem noZero_trim {s : String} (clean : NoZero s) : NoZero (trim s) := by
  rw [NoZero, trim, String.toList_ofList]
  intro member
  have back := (List.dropWhile_sublist isBlank).mem (List.mem_reverse.mp member)
  exact clean ((List.dropWhile_sublist isBlank).mem (List.mem_reverse.mp back))

theorem noZero_coordinateText (n : Int32) : NoZero (coordinateText n) := by
  rw [NoZero, coordinateText, intText, String.toList_ofList]
  have digits (n : Nat) : '\x00' ∉ natDigits n := fun digit =>
    absurd (isDigit_of_mem_natDigits digit) (by decide)
  cases n.toInt with
  | ofNat n => exact digits n
  | negSucc n => simpa [intDigits] using digits (n + 1)

theorem mem_writeOver {target ground : List Char} {c : Char}
    (member : c ∈ Badge.writeOver target ground) : c ∈ target ∨ c ∈ ground := by
  induction target generalizing ground with
  | nil => exact .inr (by simpa [Badge.writeOver] using member)
  | cons first target ih =>
    cases ground with
    | nil => simp [Badge.writeOver] at member
    | cons old ground =>
      rcases List.mem_cons.mp member with rfl | later
      · exact .inl (by simp)
      · rcases ih later with front | back
        · exact .inl (by simp [front])
        · exact .inr (by simp [back])

theorem noZero_label {target : Option String} (clean : ∀ icao, target = some icao → NoZero icao) :
    NoZero (Badge.label target) := by
  rw [NoZero, Badge.label, String.toList_ofList]
  intro member
  rcases mem_writeOver member with front | back
  · cases target with
    | none => exact absurd front (by decide)
    | some icao => exact clean icao rfl front
  · exact absurd back (by decide)

end RadarOverlay.Text
