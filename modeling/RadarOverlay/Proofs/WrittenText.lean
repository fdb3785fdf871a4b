import RadarOverlay.Text.Utf8

/-!
Texts written as octets. The octets of a character lead a reader through the inside of
that character and out of it again, and nowhere else. Main statement: `lossy_octets`
says that a text is read back from its octets.
-/
namespace RadarOverlay.Text

theorem readOctets_cons (state : Utf8State) (octet : UInt8) (rest : List UInt8) :
    readOctets state (octet :: rest) =
      (readOctet state octet).1 ++ readOctets (readOctet state octet).2 rest := rfl

theorem toNat_ofNat_of_lt {n : Nat} (small : n < 256) : (UInt8.ofNat n).toNat = n := by
  rw [UInt8.toNat_ofNat', Nat.mod_eq_of_lt small]

/-- The last octet of a character in its range completes the character. -/
theorem readOctet_last {low high : UInt8} {bits n : Nat}
    (least : low.toNat ≤ n % 64 + 128) (most : n % 64 + 128 ≤ high.toNat) :
    readOctet (.inside low high 0 bits) (UInt8.ofNat (n % 64 + 128)) =
      ([some (Char.ofNat (64 * bits + n % 64))], .between) := by
  have octet : (UInt8.ofNat (n % 64 + 128)).toNat = n % 64 + 128 := toNat_ofNat_of_lt (by omega)
  have within : low ≤ UInt8.ofNat (n % 64 + 128) ∧ UInt8.ofNat (n % 64 + 128) ≤ high := by
    simp only [UInt8.le_iff_toNat_le, octet]
    exact ⟨least, most⟩
  simp only [readOctet, if_pos within, octet, Nat.add_sub_cancel]

/-- Any other octet in its range adds its bits. -/
theorem readOctet_inner {low high : UInt8} {following bits n : Nat}
    (least : low.toNat ≤ n % 64 + 128) (most : n % 64 + 128 ≤ high.toNat) :
    readOctet (.inside low high (following + 1) bits) (UInt8.ofNat (n % 64 + 128)) =
      ([], .inside 0x80 0xbf following (64 * bits + n % 64)) := by
  have octet : (UInt8.ofNat (n % 64 + 128)).toNat = n % 64 + 128 := toNat_ofNat_of_lt (by omega)
  have within : low ≤ UInt8.ofNat (n % 64 + 128) ∧ UInt8.ofNat (n % 64 + 128) ≤ high := by
    simp only [UInt8.le_iff_toNat_le, octet]
    exact ⟨least, most⟩
  simp only [readOctet, if_pos within, octet, Nat.add_sub_cancel]

theorem beginChar_one {n : Nat} (one : n < 0x80) :
    beginChar (UInt8.ofNat n) = ([some (Char.ofNat n)], .between) := by
  have octet : (UInt8.ofNat n).toNat = n := toNat_ofNat_of_lt (by omega)
  simp only [beginChar, octet, if_pos one]

theorem beginChar_two {n : Nat} (least : 0x80 ≤ n) (most : n < 0x800) :
    beginChar (UInt8.ofNat (n / 64 % 32 + 192)) = ([], .inside 0x80 0xbf 0 (n / 64)) := by
  have octet : (UInt8.ofNat (n / 64 % 32 + 192)).toNat = n / 64 + 192 :=
    (toNat_ofNat_of_lt (by omega)).trans (by omega)
  simp only [beginChar, octet]
  rw [if_neg (by omega), if_neg (by omega), if_pos (by omega), Nat.add_sub_cancel]

/-- The first of three octets leaves room for the second, since a character is no surrogate. -/
theorem beginChar_three {n : Nat} (least : 0x800 ≤ n) (most : n < 0x10000) (valid : n.isValidChar) :
    ∃ low high : UInt8, low.toNat ≤ n / 64 % 64 + 128 ∧ n / 64 % 64 + 128 ≤ high.toNat ∧
      beginChar (UInt8.ofNat (n / 4096 % 16 + 224)) = ([], .inside low high 1 (n / 4096)) := by
  have octet : (UInt8.ofNat (n / 4096 % 16 + 224)).toNat = n / 4096 + 224 :=
    (toNat_ofNat_of_lt (by omega)).trans (by omega)
  simp only [Nat.isValidChar] at valid
  simp only [beginChar, octet]
  rw [if_neg (by omega), if_neg (by omega), if_neg (by omega)]
  by_cases first : n / 4096 = 0
  · refine ⟨0xa0, 0xbf, ?_, ?_, ?_⟩
    · show 0xa0 ≤ _
      omega
    · show _ ≤ 0xbf
      omega
    · rw [if_pos (by omega), first]
  by_cases surrogates : n / 4096 = 13
  · refine ⟨0x80, 0x9f, ?_, ?_, ?_⟩
    · show 0x80 ≤ _
      omega
    · show _ ≤ 0x9f
      omega
    · rw [if_neg (by omega), if_pos (by omega), surrogates]
  · refine ⟨0x80, 0xbf, ?_, ?_, ?_⟩
    · show 0x80 ≤ _
      omega
    · show _ ≤ 0xbf
      omega
    · rw [if_neg (by omega), if_neg (by omega), if_pos (by omega), Nat.add_sub_cancel]

/-- The first of four octets leaves room for the second, up to the last character. -/
theorem beginChar_four {n : Nat} (least : 0x10000 ≤ n) (most : n < 0x110000) :
    ∃ low high : UInt8, low.toNat ≤ n / 4096 % 64 + 128 ∧ n / 4096 % 64 + 128 ≤ high.toNat ∧
      beginChar (UInt8.ofNat (n / 262144 % 8 + 240)) = ([], .inside low high 2 (n / 262144)) := by
  have octet : (UInt8.ofNat (n / 262144 % 8 + 240)).toNat = n / 262144 + 240 :=
    (toNat_ofNat_of_lt (by omega)).trans (by omega)
  simp only [beginChar, octet]
  rw [if_neg (by omega), if_neg (by omega), if_neg (by omega), if_neg (by omega),
    if_neg (by omega), if_neg (by omega)]
  by_cases first : n / 262144 = 0
  · refine ⟨0x90, 0xbf, ?_, ?_, ?_⟩
    · show 0x90 ≤ _
      omega
    · show _ ≤ 0xbf
      omega
    · rw [if_pos (by omega), first]
  by_cases last : n / 262144 = 4
  · refine ⟨0x80, 0x8f, ?_, ?_, ?_⟩
    · show 0x80 ≤ _
      omega
    · show _ ≤ 0x8f
      omega
    · rw [if_neg (by omega), if_neg (by omega), if_pos (by omega), last]
  · refine ⟨0x80, 0xbf, ?_, ?_, ?_⟩
    · show 0x80 ≤ _
      omega
    · show _ ≤ 0xbf
      omega
    · rw [if_neg (by omega), if_pos (by omega), Nat.add_sub_cancel]

/-- A reader of the octets of a character has read the character. -/
theorem readOctets_encodeChar (c : Char) (rest : List UInt8) :
    readOctets .between (String.utf8EncodeChar c ++ rest) = some c :: readOctets .between rest := by
  obtain ⟨n, number⟩ : ∃ n, c.val.toNat = n := ⟨_, rfl⟩
  have valid : n.isValidChar := number ▸ c.valid
  have named : Char.ofNat n = c := number ▸ Char.ofNat_toNat c
  have bound : n < 0x110000 := by
    simp only [Nat.isValidChar] at valid
    omega
  have tailLow (m : Nat) : (0x80 : UInt8).toNat ≤ m % 64 + 128 := Nat.le_add_left _ _
  have tailHigh (m : Nat) : m % 64 + 128 ≤ (0xbf : UInt8).toNat := by
    show _ ≤ 0xbf
    omega
  simp only [String.utf8EncodeChar, number]
  by_cases one : n ≤ 127
  · rw [if_pos one]
    simp only [List.cons_append, List.nil_append, readOctets_cons, readOctet]
    rw [beginChar_one (by omega), named]
    rfl
  rw [if_neg one]
  by_cases two : n ≤ 2047
  · have whole : 64 * (n / 64) + n % 64 = n := by omega
    rw [if_pos two]
    simp only [List.cons_append, List.nil_append, readOctets_cons]
    rw [readOctet, beginChar_two (by omega) (by omega), readOctet_last (tailLow n) (tailHigh n),
      whole, named]
    rfl
  rw [if_neg two]
  by_cases three : n ≤ 65535
  · have whole : 64 * (64 * (n / 4096) + n / 64 % 64) + n % 64 = n := by omega
    obtain ⟨low, high, least, most, begun⟩ := beginChar_three (by omega) (by omega) valid
    rw [if_pos three]
    simp only [List.cons_append, List.nil_append, readOctets_cons]
    rw [readOctet, begun, readOctet_inner least most, readOctet_last (tailLow n) (tailHigh n),
      whole, named]
    rfl
  · have whole : 64 * (64 * (64 * (n / 262144) + n / 4096 % 64) + n / 64 % 64) + n % 64 = n := by
      omega
    obtain ⟨low, high, least, most, begun⟩ := beginChar_four (by omega) bound
    rw [if_neg three]
    simp only [List.cons_append, List.nil_append, readOctets_cons]
    rw [readOctet, begun, readOctet_inner least most, readOctet_inner (tailLow _) (tailHigh _),
      readOctet_last (tailLow n) (tailHigh n), whole, named]
    rfl

/-- A reader of the octets of a text has read its characters and no fault. -/
theorem readOctets_octets (s : String) : readOctets .between (octets s) = s.toList.map some := by
  rw [octets]
  induction s.toList with
  | nil => rfl
  | cons c rest ih => rw [List.flatMap_cons, readOctets_encodeChar, ih, List.map_cons]

/-- A text is read back from its octets. -/
theorem lossy_octets (s : String) : lossy (octets s) = s := by
  rw [lossy, readOctets_octets, List.map_map]
  simp [Function.comp_def]

/-- Only the zero character has a zero among its octets. -/
theorem ne_zero_of_mem_encodeChar {c : Char} (other : c ≠ '\x00') {octet : UInt8}
    (member : octet ∈ String.utf8EncodeChar c) : octet ≠ 0 := by
  have positive : 0 < c.val.toNat := Nat.pos_of_ne_zero fun empty => other (by
    rw [← Char.ofNat_toNat c]
    exact congrArg Char.ofNat empty)
  have nonzero {n : Nat} (some : 0 < n) (small : n < 256) : UInt8.ofNat n ≠ 0 := by
    intro zero
    have none : (UInt8.ofNat n).toNat = 0 := congrArg UInt8.toNat zero
    rw [toNat_ofNat_of_lt small] at none
    omega
  simp only [String.utf8EncodeChar] at member
  generalize c.val.toNat = n at member positive
  split at member
  · rw [List.mem_singleton.mp member]
    exact nonzero positive (by omega)
  -- A longer character begins with a number above 191 and goes on with numbers above 127.
  · split at member
    · simp only [List.mem_cons, List.not_mem_nil, or_false] at member
      rcases member with rfl | rfl <;> exact nonzero (by omega) (by omega)
    · split at member
      · simp only [List.mem_cons, List.not_mem_nil, or_false] at member
        rcases member with rfl | rfl | rfl <;> exact nonzero (by omega) (by omega)
      · simp only [List.mem_cons, List.not_mem_nil, or_false] at member
        rcases member with rfl | rfl | rfl | rfl <;> exact nonzero (by omega) (by omega)

end RadarOverlay.Text
