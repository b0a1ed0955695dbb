import IotstackDriver.Edge.Base64

/-! The codec against RFC 4648. -/

namespace IotstackDriver.Edge

open Libc Support

theorem alphabetAt_eq (value : Nat) (small : value < 64) :
    alphabetAt value = some (Rfc4648.digit value) := by
  have size : base64Alphabet.length = 64 := by decide
  have inside : value < base64Alphabet.length := by omega
  simp only [alphabetAt, Int.natCast_nonneg, ↓reduceIte, Int.toNat_natCast,
    List.getElem?_eq_getElem inside]
  change _ = some (base64Alphabet.getD value 0)
  simp [inside]

theorem suffixAt_digit (sign : CharSign) (value : Nat) (small : value < 64) :
    suffixAt sign (Rfc4648.digit value) = some value := by
  have table : ∀ value < 64, suffixAt .signed (Rfc4648.digit value) = some value ∧
      suffixAt .unsigned (Rfc4648.digit value) = some value := by decide +kernel
  cases sign with
  | signed => exact (table value small).1
  | unsigned => exact (table value small).2

@[simp] theorem unsigned_nonneg (byte : UInt8) : 0 ≤ CharSign.unsigned.value byte :=
  Int.natCast_nonneg _

/-- A `char` is negative only for half of the bytes, and only where it is signed. -/
theorem value_nonneg_iff (sign : CharSign) (byte : UInt8) :
    0 ≤ sign.value byte ↔ sign = .unsigned ∨ byte < 128 := by
  cases sign with
  | unsigned => simp
  | signed =>
    have bound := byte.toNat_lt
    by_cases small : byte < 128
    · simp [CharSign.value, small]
    · simp only [CharSign.value, small, ↓reduceIte, reduceCtorEq, or_self, iff_false]
      omega

theorem value_eq {sign : CharSign} {byte : UInt8} (nonneg : 0 ≤ sign.value byte) :
    sign.value byte = byte.toNat := by
  rcases (value_nonneg_iff sign byte).mp nonneg with rfl | small
  · rfl
  · cases sign <;> simp [CharSign.value, small]

variable {sign : CharSign}

/-- A shift to the right leaves no sign bit. -/
theorem cmoveBits_eq (src : UInt8) (lnum rnum : Nat) (left : lnum < 8) (moves : 0 < rnum)
    (right : rnum < 8) : cmoveBits sign src lnum rnum =
      ((src.toNat * 2 ^ lnum % 256 / 2 ^ rnum : Nat) : Int) := by
  have lnumSmall : lnum % 256 % 8 = lnum := by omega
  have rnumSmall : rnum % 256 % 8 = rnum := by omega
  have moved : (src <<< UInt8.ofNat lnum >>> UInt8.ofNat rnum).toNat =
      src.toNat * 2 ^ lnum % 256 / 2 ^ rnum := by
    simp [Nat.shiftLeft_eq, Nat.shiftRight_eq_div_pow, lnumSmall, rnumSmall]
  have half : 2 ^ 1 ≤ 2 ^ rnum := Nat.pow_le_pow_right (by decide) moves
  have small : src.toNat * 2 ^ lnum % 256 / 2 ^ rnum < 128 :=
    Nat.div_lt_of_lt_mul (by omega)
  rw [cmoveBits, value_eq, moved]
  rw [value_nonneg_iff, UInt8.lt_iff_toNat_lt, moved]
  exact .inr small

private theorem topSix {byte : UInt8} (nonneg : 0 ≤ sign.value byte) :
    sign.value byte >>> (2 : Nat) = ((byte.toNat / 4 : Nat) : Int) := by
  rw [value_eq nonneg]
  exact congrArg Int.ofNat (Nat.shiftRight_eq_div_pow byte.toNat 2)

theorem lowSix (byte : UInt8) : (byte &&& 0x3f).toNat = byte.toNat % 64 := by
  rw [UInt8.toNat_and]
  exact Nat.and_two_pow_sub_one_eq_mod byte.toNat 6

/-- The index expressions of a round, as digits of the group they belong to. -/
private theorem round_digits (first second third : UInt8) (leading : 0 ≤ sign.value first) :
    let group := first.toNat * 2 ^ 16 + second.toNat * 2 ^ 8 + third.toNat
    alphabetAt (sign.value first >>> (2 : Nat)) = some (Rfc4648.digit (group / 2 ^ 18)) ∧
    alphabetAt (cmoveBits sign first 6 2 + cmoveBits sign second 0 4) =
      some (Rfc4648.digit (group / 2 ^ 12 % 64)) ∧
    alphabetAt (cmoveBits sign second 4 2 + cmoveBits sign third 0 6) =
      some (Rfc4648.digit (group / 2 ^ 6 % 64)) ∧
    alphabetAt (third &&& 0x3f).toNat = some (Rfc4648.digit (group % 64)) := by
  intro group
  have firstByte := first.toNat_lt
  have secondByte := second.toNat_lt
  have thirdByte := third.toNat_lt
  simp only [topSix leading, lowSix, cmoveBits_eq first 6 2 (by decide) (by decide) (by decide),
    cmoveBits_eq second 0 4 (by decide) (by decide) (by decide),
    cmoveBits_eq second 4 2 (by decide) (by decide) (by decide),
    cmoveBits_eq third 0 6 (by decide) (by decide) (by decide), ← Int.natCast_add]
  refine ⟨?_, ?_, ?_, ?_⟩
  · rw [alphabetAt_eq _ (by omega), show group / 2 ^ 18 = first.toNat / 4 by omega]
  · rw [alphabetAt_eq _ (by omega)]
    congr 2
    omega
  · rw [alphabetAt_eq _ (by omega)]
    congr 2
    omega
  · rw [alphabetAt_eq _ (by omega)]
    congr 2
    omega

private theorem cmoveBits_zero (lnum rnum : Nat) (left : lnum < 8) (moves : 0 < rnum)
    (right : rnum < 8) : cmoveBits sign 0 lnum rnum = 0 := by
  simp [cmoveBits_eq 0 lnum rnum left moves right]

variable {indata : Memory} {inlen padNum i : Int} {source p : Nat}

private theorem encodeRound_full (leading : 0 ≤ sign.value (indata source))
    (inside : ¬ (i = inlen + padNum - 3 ∧ padNum ≠ 0)) :
    encodeRound sign indata inlen padNum i source p = some (consecutive p (Rfc4648.quantum
      ((indata source).toNat * 2 ^ 16 + (indata (source + 1)).toNat * 2 ^ 8 +
        (indata (source + 2)).toNat))) := by
  obtain ⟨d0, d1, d2, d3⟩ :=
    round_digits (indata source) (indata (source + 1)) (indata (source + 2)) leading
  simp only [encodeRound, inside, ↓reduceIte, d0, d1, d2, d3, Option.bind_eq_bind,
    Option.bind_some]
  rfl

private theorem encodeRound_one (leading : 0 ≤ sign.value (indata source))
    (last : i = inlen + 2 - 3) :
    encodeRound sign indata inlen 2 i source p =
      some (consecutive p (Rfc4648.encode [indata source])) := by
  obtain ⟨d0, d1, -, -⟩ := round_digits (indata source) 0 0 leading
  rw [cmoveBits_zero 0 4 (by decide) (by decide) (by decide), Int.add_zero] at d1
  simp only [UInt8.toNat_zero, Nat.zero_mul, Nat.add_zero] at d0 d1
  have final : i = inlen + 2 - 3 ∧ (2 : Int) ≠ 0 := ⟨last, by decide⟩
  have notOne : ¬ (2 : Int) = 1 := by decide
  rw [encodeRound, d0, Option.bind_eq_bind, Option.bind_some, if_pos final, if_neg notOne,
    if_pos rfl, d1]
  rfl

private theorem encodeRound_two (leading : 0 ≤ sign.value (indata source))
    (last : i = inlen + 1 - 3) :
    encodeRound sign indata inlen 1 i source p =
      some (consecutive p (Rfc4648.encode [indata source, indata (source + 1)])) := by
  obtain ⟨d0, d1, d2, -⟩ := round_digits (indata source) (indata (source + 1)) 0 leading
  rw [cmoveBits_zero 0 6 (by decide) (by decide) (by decide), Int.add_zero] at d2
  simp only [UInt8.toNat_zero, Nat.add_zero] at d0 d1 d2
  have final : i = inlen + 1 - 3 ∧ (1 : Int) ≠ 0 := ⟨last, by decide⟩
  rw [encodeRound, d0, Option.bind_eq_bind, Option.bind_some, if_pos final, if_pos rfl, d1,
    Option.bind_some, d2]
  rfl

private theorem encodeLoop_stop (done : inlen + padNum ≤ i) (rounds : Nat) :
    encodeLoop sign indata inlen padNum rounds i source p = some [] := by
  cases rounds with
  | zero => rfl
  | succ rounds =>
    rw [encodeLoop, if_neg (Int.not_lt.mpr done)]
    rfl

private theorem encodeLoop_round {here : List (Nat × UInt8)} (inside : i < inlen + padNum)
    (round : encodeRound sign indata inlen padNum i source p = some here) (rounds : Nat) :
    encodeLoop sign indata inlen padNum (rounds + 1) i source p =
      (encodeLoop sign indata inlen padNum rounds (i + 3) (source + 3) (p + 4)).map
        (here ++ ·) := by
  rw [encodeLoop, if_pos inside, round]
  simp only [Option.bind_eq_bind, Option.bind_some]
  cases encodeLoop sign indata inlen padNum rounds (i + 3) (source + 3) (p + 4) <;> rfl

/-- The loop over the bytes from `source` on stores their encoding from `p` on.
The last round is the one whose three positions end at the padded length. -/
private theorem encodeLoop_eq (bytes : List UInt8) (rounds : Nat)
    (content : ∀ k (inside : k < bytes.length), indata (source + k) = bytes[k])
    (leading : ∀ k < bytes.length, k % 3 = 0 → 0 ≤ sign.value (indata (source + k)))
    (length : inlen = i + bytes.length)
    (padding : padNum = ((3 - bytes.length % 3) % 3 : Nat)) (enough : bytes.length ≤ rounds) :
    encodeLoop sign indata inlen padNum rounds i source p =
      some (consecutive p (Rfc4648.encode bytes)) := by
  induction bytes using Rfc4648.encode.induct generalizing rounds i source p with
  | case1 => exact encodeLoop_stop (by simp [length, padding]) rounds
  | case2 a =>
    have first : indata source = a := content 0 (by simp)
    have leads : 0 ≤ sign.value (indata source) := leading 0 (by simp) rfl
    obtain ⟨rounds, rfl⟩ := Nat.exists_eq_succ_of_ne_zero (Nat.ne_of_gt enough)
    simp only [List.length_cons, List.length_nil] at length padding
    have two : padNum = 2 := padding
    subst two
    rw [Nat.succ_eq_add_one, encodeLoop_round (by omega) (encodeRound_one leads (by omega)),
      encodeLoop_stop (by omega), first]
    simp
  | case3 a b =>
    have first : indata source = a := content 0 (by simp)
    have second : indata (source + 1) = b := content 1 (by simp)
    have leads : 0 ≤ sign.value (indata source) := leading 0 (by simp) rfl
    obtain ⟨rounds, rfl⟩ := Nat.exists_eq_succ_of_ne_zero (show rounds ≠ 0 by simp at enough; omega)
    simp only [List.length_cons, List.length_nil] at length padding
    have one : padNum = 1 := padding
    subst one
    rw [Nat.succ_eq_add_one, encodeLoop_round (by omega) (encodeRound_two leads (by omega)),
      encodeLoop_stop (by omega), first, second]
    simp
  | case4 a b c rest ih =>
    have first : indata source = a := content 0 (by simp)
    have second : indata (source + 1) = b := content 1 (by simp)
    have third : indata (source + 2) = c := content 2 (by simp)
    simp only [List.length_cons] at length padding enough
    have leads : 0 ≤ sign.value (indata source) := leading 0 (by simp) rfl
    obtain ⟨rounds, rfl⟩ := Nat.exists_eq_succ_of_ne_zero (show rounds ≠ 0 by omega)
    have more : ¬ (i = inlen + padNum - 3 ∧ padNum ≠ 0) := by omega
    have later : ∀ k (inside : k < rest.length), indata (source + 3 + k) = rest[k] := by
      intro k inside
      have shifted := content (k + 3) (by simpa using inside)
      rw [Nat.add_assoc, Nat.add_comm 3 k]
      simpa using shifted
    have laterLeading : ∀ k < rest.length, k % 3 = 0 → 0 ≤ sign.value (indata (source + 3 + k)) := by
      intro k inside aligned
      rw [Nat.add_assoc, Nat.add_comm 3 k]
      exact leading (k + 3) (by simp [inside]) (by omega)
    rw [Nat.succ_eq_add_one, encodeLoop_round (by omega) (encodeRound_full leads more),
      ih rounds later laterLeading (by omega) (by omega) (by omega), first, second, third, Rfc4648.encode,
      consecutive_append]
    rfl

/-- `base64_encode` of a non-empty buffer stores its RFC 4648 encoding, where no group
begins with a negative `char`. -/
theorem base64Encode_eq (bytes : List UInt8) (nonempty : bytes ≠ [])
    (content : ∀ k (inside : k < bytes.length), indata k = bytes[k])
    (leading : ∀ k < bytes.length, k % 3 = 0 → 0 ≤ sign.value (indata k)) :
    base64Encode sign (some indata) bytes.length =
      some ⟨0, consecutive 0 (Rfc4648.encode bytes)⟩ := by
  have positive : bytes.length ≠ 0 := by simpa using nonempty
  have notZero : ¬ (bytes.length : Int) = 0 := by omega
  have remainder : (bytes.length : Int).tmod 3 = (bytes.length % 3 : Nat) := rfl
  simp only [base64Encode, notZero, ↓reduceIte, remainder]
  rw [encodeLoop_eq bytes _ (by simpa using content) (by simpa using leading) (by simp)]
  · rfl
  · split <;> omega
  · split <;> omega

theorem base64Encode_zero (sign : CharSign) (indata : Option Memory) :
    base64Encode sign indata 0 = some ⟨-1, []⟩ := by
  cases indata <;> rfl

private theorem shift_or (t c : Nat) (small : c < 64) : t <<< 6 ||| c = t * 64 + c := by
  rw [← Nat.shiftLeft_add_eq_or_of_lt (show c < 2 ^ 6 from small), Nat.shiftLeft_eq]

/-- One digit of a group; the fourth stores the group. -/
private theorem decodeLoop_digit (small : c < 64) (rest : Bytes) (t y i : Nat) (g : Int) :
    decodeLoop sign (Rfc4648.digit c :: rest) t y i g =
      if y + 1 = 4 then
        let group := decodeGroup (t * 64 + c) i g
        (decodeLoop sign rest 0 0 (i + group.length) g).map fun later =>
          ⟨later.ret, group ++ later.stores⟩
      else decodeLoop sign rest (t * 64 + c) (y + 1) i g := by
  have notNul := Rfc4648.digit_ne_zero small
  have notInvalid : c ≠ 255 := by omega
  have notSkipped : c ≠ 253 := by omega
  have notPad : c ≠ 254 := by omega
  rw [decodeLoop, if_neg notNul, suffixAt_digit sign c small]
  simp only [Option.bind_eq_bind, Option.bind_some, notInvalid, notSkipped, notPad, ↓reduceIte,
    shift_or t c small]
  cases decodeLoop sign rest 0 0 (i + (decodeGroup (t * 64 + c) i g).length) g <;> rfl

private theorem decodeLoop_pad (rest : Bytes) (t y i : Nat) (g : Int) :
    decodeLoop sign (Rfc4648.pad :: rest) t y i g =
      if y + 1 = 4 then
        let group := decodeGroup (t * 64) i (g - 1)
        (decodeLoop sign rest 0 0 (i + group.length) (g - 1)).map fun later =>
          ⟨later.ret, group ++ later.stores⟩
      else decodeLoop sign rest (t * 64) (y + 1) i (g - 1) := by
  have code : suffixAt sign Rfc4648.pad = some 254 := by cases sign <;> decide
  rw [decodeLoop, if_neg (by decide), code]
  simp only [Option.bind_eq_bind, Option.bind_some, ↓reduceIte, Nat.reduceEqDiff,
    shift_or t 0 (by decide), Nat.add_zero]
  cases decodeLoop sign rest 0 0 (i + (decodeGroup (t * 64) i (g - 1)).length) (g - 1) <;> rfl

private theorem ofNat_lowByte (value : Nat) : UInt8.ofNat (value &&& 0xff) = UInt8.ofNat value := by
  apply UInt8.toNat_inj.mp
  rw [Nat.and_two_pow_sub_one_eq_mod value 8]
  simp

private theorem decodeGroup_eq (t i : Nat) (g : Int) : decodeGroup t i g =
    consecutive i ((Rfc4648.groupBytes t).take (if g > 2 then 3 else if g > 1 then 2 else 1)) := by
  simp only [decodeGroup, ofNat_lowByte, Nat.shiftRight_eq_div_pow, Rfc4648.groupBytes]
  split <;> split <;> first | rfl | (exfalso; omega)

/-- Decoding a text by RFC 4648 is what the loop does with it: it stores the bytes in order
and returns the position after them. -/
theorem decodeLoop_decode {text bytes : Bytes} (decoded : Rfc4648.decode text = some bytes)
    (i : Nat) : decodeLoop sign text 0 0 i 3 = some ⟨(i + bytes.length : Nat), consecutive i bytes⟩ := by
  induction text using Rfc4648.decode.induct generalizing bytes i with
  | case1 =>
    cases decoded
    rfl
  | case2 a b c d rest ih =>
    obtain ⟨first, second, firstSmall, secondSmall, rfl, rfl, group⟩ := Rfc4648.decode_group decoded
    rw [decodeLoop_digit firstSmall, if_neg (by decide), decodeLoop_digit secondSmall,
      if_neg (by decide)]
    rcases group with ⟨rfl, rfl, rfl, rfl⟩ | ⟨third, thirdSmall, rfl, ⟨rfl, rfl, rfl⟩ | later⟩
    · have value : ((0 * 64 + first) * 64 + second) * 64 * 64 = first * 2 ^ 18 + second * 2 ^ 12 := by
        omega
      rw [decodeLoop_pad, if_neg (by decide), decodeLoop_pad, if_pos rfl, value, decodeGroup_eq]
      rfl
    · have value : (((0 * 64 + first) * 64 + second) * 64 + third) * 64 =
        first * 2 ^ 18 + second * 2 ^ 12 + third * 2 ^ 6 := by omega
      rw [decodeLoop_digit thirdSmall, if_neg (by decide), decodeLoop_pad, if_pos rfl, value,
        decodeGroup_eq]
      rfl
    · obtain ⟨fourth, remaining, fourthSmall, rfl, foundRest, rfl⟩ := later
      have value : (((0 * 64 + first) * 64 + second) * 64 + third) * 64 + fourth =
        first * 2 ^ 18 + second * 2 ^ 12 + third * 2 ^ 6 + fourth := by omega
      rw [decodeLoop_digit thirdSmall, if_neg (by decide), decodeLoop_digit fourthSmall, if_pos rfl,
        value, decodeGroup_eq]
      dsimp only
      rw [ih foundRest]
      simp [Rfc4648.groupBytes, consecutive, Nat.add_assoc, Nat.add_comm 3]
  | case3 text nonempty short =>
    rw [Rfc4648.decode.eq_3 text nonempty short] at decoded
    cases decoded

/-- `base64_decode` of an encoded non-empty buffer restores it. -/
theorem base64Decode_encode (bytes : Bytes) (nonempty : bytes ≠ []) :
    base64Decode sign (some (Rfc4648.encode bytes)) (Rfc4648.encode bytes).length =
      some ⟨bytes.length, consecutive 0 bytes⟩ := by
  have positive : 0 < bytes.length := List.length_pos_iff.mpr nonempty
  have length := Rfc4648.encode_length bytes
  have notEmpty : ¬ ((Rfc4648.encode bytes).length : Int) ≤ 0 := by omega
  have whole : ((Rfc4648.encode bytes).length : Int).tmod 4 = 0 := by
    rw [length]
    exact congrArg Int.ofNat (Nat.mul_mod_right 4 _)
  rw [base64Decode, if_neg notEmpty, if_neg (by simp [whole]), decodeLoop_decode (Rfc4648.decode_encode bytes), Nat.zero_add]

/-- Encoding stores the RFC 4648 text of the bytes, and decoding that text stores
the bytes again. The encoder reads no byte past the given length. -/
theorem base64_roundTrip (bytes : Bytes) (nonempty : bytes ≠ []) (indata : Memory)
    (content : ∀ k (inside : k < bytes.length), indata k = bytes[k]) :
    base64Encode .unsigned (some indata) bytes.length =
        some ⟨0, consecutive 0 (Rfc4648.encode bytes)⟩ ∧
      (consecutive 0 (Rfc4648.encode bytes)).length = 4 * ((bytes.length + 2) / 3) ∧
      base64Decode .unsigned (some (Rfc4648.encode bytes)) (4 * ((bytes.length + 2) / 3) : Nat) =
        some ⟨bytes.length, consecutive 0 bytes⟩ := by
  have encoded := base64Encode_eq bytes nonempty content fun k _ _ => unsigned_nonneg (indata k)
  have decoded : base64Decode .unsigned _ _ = _ := base64Decode_encode bytes nonempty
  rw [Rfc4648.encode_length] at decoded
  refine ⟨encoded, ?_, decoded⟩
  rw [consecutive_length, Rfc4648.encode_length]

theorem base64_roundTrip_fourBytes :
    base64Encode .unsigned (some (.ofBytes [255, 0, 7, 128])) 4 =
        some ⟨0, consecutive 0 (Rfc4648.encode [255, 0, 7, 128])⟩ ∧
      (consecutive 0 (Rfc4648.encode [255, 0, 7, 128])).length = 8 ∧
      base64Decode .unsigned (some (Rfc4648.encode [255, 0, 7, 128])) 8 =
        some ⟨4, consecutive 0 [255, 0, 7, 128]⟩ :=
  base64_roundTrip [255, 0, 7, 128] (by decide) (.ofBytes [255, 0, 7, 128])
    (by intro k inside; simp [Memory.ofBytes, List.getElem?_eq_getElem inside])

end IotstackDriver.Edge
