import IotstackDriver.Edge.DecodedText

/-! The indices into the two tables of the codec, for both kinds of plain `char`. -/

namespace IotstackDriver.Edge

open Libc Support

theorem alphabetAt_isSome_iff (index : Int) :
    (alphabetAt index).isSome = true ↔ 0 ≤ index ∧ index < 64 := by
  have size : base64Alphabet.length = 64 := by decide
  rw [alphabetAt]
  split
  · rename_i nonneg
    rw [Option.isSome_iff_ne_none, ne_eq, List.getElem?_eq_none_iff, size]
    omega
  · rename_i negative
    simp [negative]

theorem value_bounds (sign : CharSign) (byte : UInt8) :
    -128 ≤ sign.value byte ∧ sign.value byte < 256 := by
  have bound := byte.toNat_lt
  cases sign with
  | unsigned =>
    simp only [CharSign.value]
    omega
  | signed =>
    have half : byte < 128 ↔ byte.toNat < 128 := UInt8.lt_iff_toNat_lt
    simp only [CharSign.value, half]
    split <;> omega

/-- The index is the `char` as an `unsigned int`. -/
theorem suffixAt_isSome_iff (sign : CharSign) (byte : UInt8) :
    (suffixAt sign byte).isSome = true ↔ sign.value byte % 2 ^ 32 < 256 := by
  have bounds := value_bounds sign byte
  rw [suffixAt_eq]
  split
  · rename_i nonneg
    refine iff_of_true rfl ?_
    omega
  · rename_i negative
    refine iff_of_false Bool.false_ne_true ?_
    omega

variable {sign : CharSign} {indata : Memory} {inlen padNum i : Int} {source p : Nat}

private theorem topSix_isSome (byte : UInt8) :
    (alphabetAt (sign.value byte >>> (2 : Nat))).isSome = true ↔ 0 ≤ sign.value byte := by
  have bounds := value_bounds sign byte
  rw [alphabetAt_isSome_iff, Int.shiftRight_eq_div_pow]
  omega

/-- The other indices of a round. -/
private theorem lowBits_isSome (first second third : UInt8) :
    (alphabetAt (cmoveBits sign first 6 2)).isSome = true ∧
    (alphabetAt (cmoveBits sign first 6 2 + cmoveBits sign second 0 4)).isSome = true ∧
    (alphabetAt (cmoveBits sign second 4 2)).isSome = true ∧
    (alphabetAt (cmoveBits sign second 4 2 + cmoveBits sign third 0 6)).isSome = true ∧
    (alphabetAt (third &&& 0x3f).toNat).isSome = true := by
  have bounds := And.intro first.toNat_lt (And.intro second.toNat_lt third.toNat_lt)
  simp only [alphabetAt_isSome_iff, lowSix, cmoveBits_eq first 6 2 (by decide) (by decide) (by decide),
    cmoveBits_eq second 0 4 (by decide) (by decide) (by decide),
    cmoveBits_eq second 4 2 (by decide) (by decide) (by decide),
    cmoveBits_eq third 0 6 (by decide) (by decide) (by decide)]
  omega

/-- Only the bits a round takes of its first byte without a conversion can lead out of
the table. -/
theorem encodeRound_isSome_iff : (encodeRound sign indata inlen padNum i source p).isSome = true ↔
    0 ≤ sign.value (indata source) := by
  obtain ⟨alone, second, third, both, last⟩ :=
    @lowBits_isSome sign (indata source) (indata (source + 1)) (indata (source + 2))
  rw [← topSix_isSome (indata source), encodeRound]
  simp only [Option.isSome_iff_exists] at alone second third both last
  obtain ⟨⟨_, alone⟩, ⟨_, second⟩, ⟨_, third⟩, ⟨_, both⟩, ⟨_, last⟩⟩ := And.intro alone
    (And.intro second (And.intro third (And.intro both last)))
  cases alphabetAt (sign.value (indata source) >>> (2 : Nat)) with
  | none => simp
  | some c =>
    simp only [alone, second, third, both, last, Option.bind_eq_bind, Option.bind_some]
    split
    · split
      · rfl
      · split <;> rfl
    · rfl

theorem encodeLoop_isSome_iff (rounds : Nat) :
    (encodeLoop sign indata inlen padNum rounds i source p).isSome = true ↔
      ∀ k < rounds, i + 3 * k < inlen + padNum → 0 ≤ sign.value (indata (source + 3 * k)) := by
  induction rounds generalizing i source p with
  | zero => simp [encodeLoop]
  | succ rounds ih =>
    rw [encodeLoop]
    split
    · rename_i inside
      have step : (do
          let here ← encodeRound sign indata inlen padNum i source p
          let rest ← encodeLoop sign indata inlen padNum rounds (i + 3) (source + 3) (p + 4)
          return here ++ rest).isSome = true ↔
            (encodeRound sign indata inlen padNum i source p).isSome = true ∧
            (encodeLoop sign indata inlen padNum rounds (i + 3) (source + 3) (p + 4)).isSome = true := by
        cases encodeRound sign indata inlen padNum i source p <;>
          cases encodeLoop sign indata inlen padNum rounds (i + 3) (source + 3) (p + 4) <;> simp
      rw [step, encodeRound_isSome_iff, ih, Nat.forall_lt_succ_left]
      refine and_congr (by simp [inside]) (forall₂_congr fun k _ => ?_)
      have position : i + 3 + 3 * (k : Int) = i + 3 * ((k + 1 : Nat) : Int) := by omega
      have read : source + 3 + 3 * k = source + 3 * (k + 1) := by omega
      rw [position, read]
    · rename_i done
      refine iff_of_true rfl fun k _ before => ?_
      omega

theorem base64Encode_isSome_iff (n : Nat) : (base64Encode sign (some indata) n).isSome = true ↔
    ∀ k < n, k % 3 = 0 → 0 ≤ sign.value (indata k) := by
  by_cases empty : n = 0
  · subst empty
    simp [base64Encode_zero]
  · have positive : ¬ (n : Int) = 0 := by omega
    have remainder : (n : Int).tmod 3 = (n % 3 : Nat) := rfl
    rw [base64Encode, if_neg positive, remainder]
    dsimp only
    rw [Option.isSome_map, encodeLoop_isSome_iff]
    constructor
    · intro inTable k inside aligned
      have read := inTable (k / 3) (by split <;> omega) (by split <;> omega)
      rwa [show 0 + 3 * (k / 3) = k by omega] at read
    · intro leading k _ inside
      rw [Nat.zero_add]
      exact leading (3 * k) (by split at inside <;> omega) (by omega)

theorem decodeLoop_isSome_iff {text : Bytes} (noNul : 0 ∉ text) (t y i : Nat) (g : Int) :
    (decodeLoop sign text t y i g).isSome = true ↔
      ∀ byte, text.find? unknown = some byte → 0 ≤ sign.value byte := by
  induction text generalizing t y i g with
  | nil => simp [decodeLoop]
  | cons byte rest ih =>
    have notNul : byte ≠ 0 := fun zero => noNul (by simp [zero])
    have restText : 0 ∉ rest := fun member => noNul (by simp [member])
    rw [decodeLoop, if_neg notNul, suffixAt_eq]
    cases strange : unknown byte with
    | true =>
      have code := (suffixCode_eq_unknown byte).mpr strange
      rw [List.find?_cons_of_pos (by exact strange)]
      split <;> simp_all
    | false =>
      have code := mt (suffixCode_eq_unknown byte).mp (by simp [strange])
      rw [if_pos (known_nonneg sign strange), List.find?_cons_of_neg (by simp [strange]),
        Option.bind_eq_bind, Option.bind_some, if_neg code]
      split
      · exact ih restText ..
      · dsimp only
        split
        · rw [← ih restText 0 0 (i + (decodeGroup _ i _).length) _]
          cases decodeLoop sign rest 0 0 _ _ <;> rfl
        · exact ih restText ..

/-- Both tables are left through a negative `char` only: the one that begins a group of the
encoder, and the first one in the decoder's text that the table does not know. -/
theorem tableAccess_iff (sign : CharSign) (indata : Memory) (n : Nat) (text : CString) (inlen : Int) :
    ((base64Encode sign (some indata) n).isSome = true ↔
      sign = .unsigned ∨ ∀ k < n, k % 3 = 0 → indata k < 128) ∧
    ((base64Decode sign (some text.bytes) inlen).isSome = true ↔
      inlen ≤ 0 ∨ inlen % 4 ≠ 0 ∨ sign = .unsigned ∨
        ∀ byte, text.bytes.find? unknown = some byte → byte < 128) := by
  constructor
  · simp only [base64Encode_isSome_iff, value_nonneg_iff]
    cases sign <;> simp
  · by_cases nothing : inlen ≤ 0
    · simp [base64Decode, nothing]
    have remainder : inlen.tmod 4 = inlen % 4 := Int.tmod_eq_emod_of_nonneg (by omega)
    rw [base64Decode, if_neg nothing, remainder]
    by_cases whole : inlen % 4 = 0
    · simp only [whole, ne_eq, not_true, ↓reduceIte, nothing, false_or,
        decodeLoop_isSome_iff text.noNul, value_nonneg_iff]
      cases sign <;> simp
    · simp [nothing, whole]

/-- A byte of a binary stream leads out of either table where `char` is signed. -/
theorem tableAccess_binary :
    (base64Encode .signed (some (.ofBytes [0x80])) 1).isSome = false ∧
      (base64Decode .signed (some (CString.ofBytes [0x80, 65, 65, 65]).bytes) 4).isSome = false := by
  decide

end IotstackDriver.Edge
