import MediaTransport.Proofs.Wire.Decoder
import MediaTransport.Text.Utf8

/-!
# UTF-8 round trip

`Utf8.next_encodeChar`: the scanner finds at the front what `encodeChar` wrote there, and
`Utf8.eq_encodeChar_append`: what it finds, `encodeChar` could have written.
`Utf8.decode_encode`: text that was written is read back.
`Utf8.encode_of_decode`: text that was read is written as it came.
-/

namespace MediaTransport.Utf8

/-! ## Text that was written -/

theorem continuation_zero (low high code seen : Nat) (bytes : Bytes) :
    continuation 0 low high code seen bytes = .char (Char.ofNat code) bytes := by
  cases bytes <;> rfl

/-- A byte in the range that is allowed is taken, and the bytes after it may be any continuation.
-/
theorem continuation_succ {count low high code seen digit : Nat} {rest : Bytes}
    (lowLe : low ≤ digit) (leHigh : digit ≤ high) (small : high < 256) :
    continuation (count + 1) low high code seen (UInt8.ofNat digit :: rest) =
      continuation count 0x80 0xbf (64 * code + digit % 64) (seen + 1) rest := by
  have digitEq : (UInt8.ofNat digit).toNat = digit :=
    UInt8.toNat_ofNat_of_lt' (by simp only [UInt8.size]; omega)
  rw [continuation, digitEq, if_pos ⟨lowLe, leHigh⟩]

/-- The codes of characters leave out the surrogates. -/
theorem toNat_valid (c : Char) : c.toNat < 0xd800 ∨ 0xdfff < c.toNat ∧ c.toNat < 0x110000 :=
  c.valid

theorem char_ofNat {c : Char} {code : Nat} {rest : Bytes} (equal : code = c.toNat) :
    Front.char (Char.ofNat code) rest = .char c rest := by
  rw [equal, Char.ofNat_toNat]

/-- The form of two bytes is read back. -/
theorem next_encodeChar_two {c : Char} (rest : Bytes) (low : 0x80 ≤ c.toNat)
    (high : c.toNat < 0x800) :
    next (UInt8.ofNat (0xc0 + c.toNat / 64) :: UInt8.ofNat (0x80 + c.toNat % 64) :: rest) =
      .char c rest := by
  have lead : (UInt8.ofNat (0xc0 + c.toNat / 64)).toNat = 0xc0 + c.toNat / 64 :=
    UInt8.toNat_ofNat_of_lt' (by simp only [UInt8.size]; omega)
  simp only [next, lead]
  rw [if_neg (by omega), if_neg (by omega), if_pos (by omega),
    continuation_succ (by omega) (by omega) (by omega), continuation_zero]
  exact char_ofNat (by omega)

/-- The form of three bytes is read back.  The range of the second byte depends on the first, so
that nothing shorter and no surrogate passes. -/
theorem next_encodeChar_three {c : Char} (rest : Bytes) (low : 0x800 ≤ c.toNat)
    (high : c.toNat < 0x10000) :
    next (UInt8.ofNat (0xe0 + c.toNat / 4096) :: UInt8.ofNat (0x80 + c.toNat / 64 % 64) ::
      UInt8.ofNat (0x80 + c.toNat % 64) :: rest) = .char c rest := by
  have lead : (UInt8.ofNat (0xe0 + c.toNat / 4096)).toNat = 0xe0 + c.toNat / 4096 :=
    UInt8.toNat_ofNat_of_lt' (by simp only [UInt8.size]; omega)
  have valid := toNat_valid c
  simp only [next, lead]
  rw [if_neg (by omega), if_neg (by omega), if_neg (by omega)]
  -- The second byte is narrowed after `0xe0` and after `0xed`.
  by_cases overlong : 0xe0 + c.toNat / 4096 = 0xe0
  · rw [if_pos overlong, continuation_succ (by omega) (by omega) (by omega),
      continuation_succ (by omega) (by omega) (by omega), continuation_zero]
    exact char_ofNat (by omega)
  · rw [if_neg overlong]
    by_cases surrogate : 0xe0 + c.toNat / 4096 = 0xed
    · rw [if_pos surrogate, continuation_succ (by omega) (by omega) (by omega),
        continuation_succ (by omega) (by omega) (by omega), continuation_zero]
      exact char_ofNat (by omega)
    · rw [if_neg surrogate, if_pos (by omega), continuation_succ (by omega) (by omega) (by omega),
        continuation_succ (by omega) (by omega) (by omega), continuation_zero]
      exact char_ofNat (by omega)

/-- The form of four bytes is read back, with the same care for the second byte. -/
theorem next_encodeChar_four {c : Char} (rest : Bytes) (low : 0x10000 ≤ c.toNat) :
    next (UInt8.ofNat (0xf0 + c.toNat / 262144) :: UInt8.ofNat (0x80 + c.toNat / 4096 % 64) ::
      UInt8.ofNat (0x80 + c.toNat / 64 % 64) :: UInt8.ofNat (0x80 + c.toNat % 64) :: rest) =
      .char c rest := by
  have valid := toNat_valid c
  have lead : (UInt8.ofNat (0xf0 + c.toNat / 262144)).toNat = 0xf0 + c.toNat / 262144 :=
    UInt8.toNat_ofNat_of_lt' (by simp only [UInt8.size]; omega)
  simp only [next, lead]
  rw [if_neg (by omega), if_neg (by omega), if_neg (by omega), if_neg (by omega),
    if_neg (by omega), if_neg (by omega)]
  -- The second byte is narrowed after `0xf0` and after `0xf4`.
  by_cases overlong : 0xf0 + c.toNat / 262144 = 0xf0
  · rw [if_pos overlong, continuation_succ (by omega) (by omega) (by omega),
      continuation_succ (by omega) (by omega) (by omega),
      continuation_succ (by omega) (by omega) (by omega), continuation_zero]
    exact char_ofNat (by omega)
  · rw [if_neg overlong]
    by_cases last : 0xf0 + c.toNat / 262144 < 0xf4
    · rw [if_pos last, continuation_succ (by omega) (by omega) (by omega),
        continuation_succ (by omega) (by omega) (by omega),
        continuation_succ (by omega) (by omega) (by omega), continuation_zero]
      exact char_ofNat (by omega)
    · rw [if_neg last, if_pos (by omega), continuation_succ (by omega) (by omega) (by omega),
        continuation_succ (by omega) (by omega) (by omega),
        continuation_succ (by omega) (by omega) (by omega), continuation_zero]
      exact char_ofNat (by omega)

/-- The scanner finds at the front the character that was written there. -/
theorem next_encodeChar (c : Char) (rest : Bytes) : next (encodeChar c ++ rest) = .char c rest := by
  unfold encodeChar
  dsimp only
  split
  · next ascii =>
    have lead : (UInt8.ofNat c.toNat).toNat = c.toNat :=
      UInt8.toNat_ofNat_of_lt' (by simp only [UInt8.size]; omega)
    simp [next, lead, ascii]
  · split
    · exact next_encodeChar_two rest (by omega) (by omega)
    · split
      · exact next_encodeChar_three rest (by omega) (by omega)
      · exact next_encodeChar_four rest (by omega)

theorem length_encodeChar_pos (c : Char) : 0 < (encodeChar c).length := by
  unfold encodeChar
  dsimp only
  split
  · simp
  · split
    · simp
    · split <;> simp

theorem length_le_length_encodeChars (chars : List Char) :
    chars.length ≤ (encodeChars chars).length := by
  induction chars with
  | nil => simp
  | cons c chars ih =>
      have positive := length_encodeChar_pos c
      simp only [encodeChars, List.flatMap_cons, List.length_append, List.length_cons] at ih ⊢
      omega

theorem decodeChars_encodeChars {chars : List Char} {fuel : Nat} (index : Nat)
    (enough : chars.length ≤ fuel) :
    decodeChars fuel index (encodeChars chars) = .ok chars := by
  induction chars generalizing fuel index with
  | nil => cases fuel <;> rfl
  | cons c chars ih =>
      cases fuel with
      | zero => cases enough
      | succ fuel =>
          have front : next (encodeChars (c :: chars)) = .char c (encodeChars chars) :=
            next_encodeChar c (encodeChars chars)
          rw [decodeChars, front]
          dsimp only
          rw [ih _ (Nat.le_of_succ_le_succ enough)]
          rfl

/-- Text that is encoded is read back. -/
theorem decode_encode (text : String) : decode (encode text) = .ok text := by
  have enough := length_le_length_encodeChars text.toList
  rw [decode, encode, decodeChars_encodeChars 0 enough]
  exact congrArg Except.ok String.ofList_toList

/-- Nothing is to be repaired in what was encoded. -/
theorem repairChars_encodeChars {chars : List Char} {fuel : Nat} (enough : chars.length ≤ fuel) :
    repairChars fuel (encodeChars chars) = chars := by
  induction chars generalizing fuel with
  | nil => cases fuel <;> rfl
  | cons c chars ih =>
      cases fuel with
      | zero => cases enough
      | succ fuel =>
          have front : next (encodeChars (c :: chars)) = .char c (encodeChars chars) :=
            next_encodeChar c (encodeChars chars)
          rw [repairChars, front]
          dsimp only
          rw [ih (Nat.le_of_succ_le_succ enough)]

/-- Text that was written is not in need of repair. -/
theorem repair_encode (text : String) : repair (encode text) = text := by
  have enough := length_le_length_encodeChars text.toList
  rw [repair, encode, repairChars_encodeChars enough, String.ofList_toList]

/-! ## Text that was read -/

/-- What is read of a continuation has a byte in front, in the range that is allowed. -/
theorem continuation_succ_eq_char {count low high code seen : Nat} {bytes rest : Bytes} {c : Char}
    (scanned : continuation (count + 1) low high code seen bytes = .char c rest) :
    ∃ digit later, bytes = digit :: later ∧ low ≤ digit.toNat ∧ digit.toNat ≤ high ∧
      continuation count 0x80 0xbf (64 * code + digit.toNat % 64) (seen + 1) later =
        .char c rest := by
  cases bytes with
  | nil => cases scanned
  | cons digit later =>
      rw [continuation] at scanned
      split at scanned
      · next within => exact ⟨digit, later, rfl, within.1, within.2, scanned⟩
      · cases scanned

theorem continuation_zero_eq_char {low high code seen : Nat} {bytes rest : Bytes} {c : Char}
    (scanned : continuation 0 low high code seen bytes = .char c rest)
    (valid : code < 0xd800 ∨ 0xdfff < code ∧ code < 0x110000) : c.toNat = code ∧ bytes = rest := by
  rw [continuation_zero] at scanned
  cases scanned
  have proper : code.isValidChar := valid
  exact ⟨by rw [Char.ofNat, dif_pos proper]; rfl, rfl⟩

theorem ofNat_eq (byte : UInt8) {value : Nat} (same : value = byte.toNat) :
    UInt8.ofNat value = byte := by
  rw [same, UInt8.ofNat_toNat]

/-- A lead byte and one more are the form of the character that is read of them. -/
theorem eq_encodeChar_two {lead : UInt8} {bytes rest : Bytes} {c : Char}
    (low : 0xc2 ≤ lead.toNat) (high : lead.toNat < 0xe0)
    (scanned : continuation 1 0x80 0xbf (lead.toNat % 32) 1 bytes = .char c rest) :
    lead :: bytes = encodeChar c ++ rest := by
  obtain ⟨first, later, rfl, firstLow, firstHigh, scanned⟩ := continuation_succ_eq_char scanned
  obtain ⟨codeEq, rfl⟩ := continuation_zero_eq_char scanned (by omega)
  unfold encodeChar
  dsimp only
  rw [if_neg (by omega), if_pos (by omega), codeEq, ofNat_eq lead (by omega),
    ofNat_eq first (by omega)]
  rfl

/-- What narrows the second byte keeps the code above `0x7ff` and out of the surrogates. -/
theorem eq_encodeChar_three {lead : UInt8} {leading low high : Nat} {bytes rest : Bytes} {c : Char}
    (leadEq : lead.toNat = 0xe0 + leading) (leadingLt : leading < 16)
    (lowLe : 0x80 ≤ low) (leHigh : high ≤ 0xbf) (proper : leading = 0 → 0xa0 ≤ low)
    (noSurrogate : leading = 13 → high ≤ 0x9f)
    (scanned : continuation 2 low high leading 1 bytes = .char c rest) :
    lead :: bytes = encodeChar c ++ rest := by
  obtain ⟨first, later, rfl, firstLow, firstHigh, scanned⟩ := continuation_succ_eq_char scanned
  obtain ⟨second, later, rfl, secondLow, secondHigh, scanned⟩ := continuation_succ_eq_char scanned
  obtain ⟨codeEq, rfl⟩ := continuation_zero_eq_char scanned (by omega)
  unfold encodeChar
  dsimp only
  rw [if_neg (by omega), if_neg (by omega), if_pos (by omega), codeEq,
    ofNat_eq lead (by omega), ofNat_eq first (by omega),
    ofNat_eq second (by omega)]
  rfl

/-- What narrows the second byte keeps the code between `0x10000` and `0x10ffff`. -/
theorem eq_encodeChar_four {lead : UInt8} {leading low high : Nat} {bytes rest : Bytes} {c : Char}
    (leadEq : lead.toNat = 0xf0 + leading) (leadingLt : leading < 5)
    (lowLe : 0x80 ≤ low) (leHigh : high ≤ 0xbf) (proper : leading = 0 → 0x90 ≤ low)
    (noOverflow : leading = 4 → high ≤ 0x8f)
    (scanned : continuation 3 low high leading 1 bytes = .char c rest) :
    lead :: bytes = encodeChar c ++ rest := by
  obtain ⟨first, later, rfl, firstLow, firstHigh, scanned⟩ := continuation_succ_eq_char scanned
  obtain ⟨second, later, rfl, secondLow, secondHigh, scanned⟩ := continuation_succ_eq_char scanned
  obtain ⟨third, later, rfl, thirdLow, thirdHigh, scanned⟩ := continuation_succ_eq_char scanned
  obtain ⟨codeEq, rfl⟩ := continuation_zero_eq_char scanned (by omega)
  unfold encodeChar
  dsimp only
  rw [if_neg (by omega), if_neg (by omega), if_neg (by omega), codeEq,
    ofNat_eq lead (by omega), ofNat_eq first (by omega),
    ofNat_eq second (by omega), ofNat_eq third (by omega)]
  rfl

/-- The character at the front has no other form. -/
theorem eq_encodeChar_append {bytes rest : Bytes} {c : Char} (scanned : next bytes = .char c rest) :
    bytes = encodeChar c ++ rest := by
  cases bytes with
  | nil => cases scanned
  | cons lead later =>
      unfold next at scanned
      dsimp only at scanned
      split at scanned
      · next ascii =>
        obtain ⟨codeEq, rfl⟩ :=
          @continuation_zero_eq_char 0 0 _ 0 _ _ _ ((continuation_zero ..).trans scanned) (by omega)
        unfold encodeChar
        dsimp only
        rw [if_pos (by omega), codeEq, ofNat_eq lead rfl]
        rfl
      split at scanned
      · cases scanned
      split at scanned
      · exact eq_encodeChar_two (by omega) (by omega) scanned
      split at scanned
      · exact eq_encodeChar_three (by omega) (by omega) (by omega) (by omega) (by omega) (by omega)
          scanned
      split at scanned
      · exact eq_encodeChar_three (by omega) (by omega) (by omega) (by omega) (by omega) (by omega)
          scanned
      split at scanned
      · exact eq_encodeChar_three (by omega) (by omega) (by omega) (by omega) (by omega) (by omega)
          scanned
      split at scanned
      · exact eq_encodeChar_four (by omega) (by omega) (by omega) (by omega) (by omega) (by omega)
          scanned
      split at scanned
      · exact eq_encodeChar_four (by omega) (by omega) (by omega) (by omega) (by omega) (by omega)
          scanned
      split at scanned
      · exact eq_encodeChar_four (by omega) (by omega) (by omega) (by omega) (by omega) (by omega)
          scanned
      · cases scanned

theorem continuation_ne_done (count low high code seen : Nat) (bytes : Bytes) :
    continuation count low high code seen bytes ≠ .done := by
  induction count generalizing low high code seen bytes with
  | zero => rw [continuation_zero]; nofun
  | succ count ih =>
      cases bytes with
      | nil => nofun
      | cons digit later =>
          rw [continuation]
          split
          · exact ih _ _ _ _ _
          · nofun

/-- The end is reported only where it is. -/
theorem eq_nil_of_next_done {bytes : Bytes} (scanned : next bytes = .done) : bytes = [] := by
  cases bytes with
  | nil => rfl
  | cons lead later =>
      unfold next at scanned
      dsimp only at scanned
      repeat' split at scanned
      all_goals first
        | cases scanned
        | exact absurd scanned (continuation_ne_done _ _ _ _ _ _)

/-- Bytes that are read as text are what that text encodes to. -/
theorem encodeChars_of_decodeChars {chars : List Char} {fuel index : Nat} {bytes : Bytes}
    (enough : bytes.length ≤ fuel) (read : decodeChars fuel index bytes = .ok chars) :
    encodeChars chars = bytes := by
  induction fuel generalizing index bytes chars with
  | zero =>
      obtain rfl := List.eq_nil_of_length_eq_zero (Nat.le_zero.mp enough)
      cases read
      rfl
  | succ fuel ih =>
      rw [decodeChars] at read
      cases scanned : next bytes with
      | done =>
          rw [scanned] at read
          cases read
          rw [eq_nil_of_next_done scanned]
          rfl
      | char c rest =>
          rw [scanned] at read
          obtain rfl := eq_encodeChar_append scanned
          obtain ⟨others, readRest, rfl⟩ := Except.map_eq_ok.mp read
          have positive := length_encodeChar_pos c
          rw [List.length_append] at enough
          have later := ih (by omega) readRest
          rw [← later]
          rfl
      | invalid length rest =>
          rw [scanned] at read
          cases read
      | incomplete =>
          rw [scanned] at read
          cases read

/-- Text that was read has no other form. -/
theorem encode_of_decode {bytes : Bytes} {text : String} (read : decode bytes = .ok text) :
    encode text = bytes := by
  obtain ⟨chars, readChars, rfl⟩ := Except.map_eq_ok.mp read
  rw [encode, String.toList_ofList]
  exact encodeChars_of_decodeChars (Nat.le_refl _) readChars

end MediaTransport.Utf8
