import IotstackDriver.Edge.Base64RoundTrip

/-! Which texts `base64_decode` accepts, and what it makes of the characters it skips. -/

namespace IotstackDriver.Edge

open Libc Support

/-- CR, LF and space, which the table marks as skipped. -/
def skippable (byte : UInt8) : Bool := byte == 13 || byte == 10 || byte == 32

/-- What is left of a text without the skipped characters. -/
def significant (text : Bytes) : Bytes := text.filter fun byte => !skippable byte

/-- A byte that is no digit, no padding and not skipped. -/
def unknown (byte : UInt8) : Bool :=
  !skippable byte && byte != Rfc4648.pad && (Rfc4648.digit? byte).isNone

/-- The table by what it says of a byte. -/
def suffixCode (byte : UInt8) : Nat :=
  if skippable byte then 253 else if byte = Rfc4648.pad then 254 else (Rfc4648.digit? byte).getD 255

private theorem suffixMap_get (byte : UInt8) : base64SuffixMap[byte.toNat]? = some (suffixCode byte) := by
  have table : base64SuffixMap = (List.range 256).map fun value => suffixCode (UInt8.ofNat value) := by
    decide +kernel
  rw [table, List.getElem?_map, List.getElem?_range byte.toNat_lt, Option.map_some, UInt8.ofNat_toNat]

theorem suffixAt_eq (sign : CharSign) (byte : UInt8) :
    suffixAt sign byte = if 0 ≤ sign.value byte then some (suffixCode byte) else none := by
  rw [suffixAt]
  split
  · rename_i nonneg
    rw [value_eq nonneg, Int.toNat_natCast, suffixMap_get]
  · rfl

/-- The code of a byte that is neither skipped nor padding: a digit's value, or 255. -/
private theorem getD_digit (byte : UInt8) :
    ((Rfc4648.digit? byte).getD 255 = 255 ↔ (Rfc4648.digit? byte).isNone = true) ∧
      (Rfc4648.digit? byte).getD 255 ≠ 253 ∧ (Rfc4648.digit? byte).getD 255 ≠ 254 := by
  cases found : Rfc4648.digit? byte with
  | none => simp
  | some value =>
    have small := (Rfc4648.digit_of_digit? found).1
    simp only [Option.getD_some, Option.isNone_some, Bool.false_eq_true, iff_false]
    omega

theorem suffixCode_eq_unknown (byte : UInt8) : suffixCode byte = 255 ↔ unknown byte = true := by
  rw [suffixCode, unknown]
  split
  · simp [*]
  · split
    · simp [*]
    · simpa [*] using (getD_digit byte).1

theorem suffixCode_eq_skipped (byte : UInt8) : suffixCode byte = 253 ↔ skippable byte = true := by
  rw [suffixCode]
  split
  · simp [*]
  · rename_i kept
    split
    · exact iff_of_false (by decide) kept
    · exact iff_of_false (getD_digit byte).2.1 kept

theorem suffixCode_eq_padding (byte : UInt8) : suffixCode byte = 254 ↔ byte = Rfc4648.pad := by
  rw [suffixCode]
  split
  · rename_i skipped
    refine iff_of_false (by decide) ?_
    rintro rfl
    exact absurd skipped (by decide)
  · split
    · simp [*]
    · rename_i other
      exact iff_of_false (getD_digit byte).2.2 other

/-- What the table knows is ASCII. -/
theorem known_nonneg (sign : CharSign) {byte : UInt8} (known : unknown byte = false) :
    0 ≤ sign.value byte := by
  have ascii : byte < 128 := by
    cases found : Rfc4648.digit? byte with
    | none =>
      simp only [unknown, found, skippable, Option.isNone_none, Bool.and_true, Bool.and_eq_false_iff,
        Bool.not_eq_false', Bool.or_eq_true, beq_iff_eq, bne_eq_false_iff_eq] at known
      rcases known with ((rfl | rfl) | rfl) | rfl <;> decide
    | some value =>
      have table : Rfc4648.alphabet.all (· < 128) = true := by decide
      obtain ⟨inside, same, -⟩ := List.findIdx?_eq_some_iff_getElem.mp found
      rw [← beq_iff_eq.mp same]
      simpa using List.all_eq_true.mp table _ (List.getElem_mem inside)
  exact (value_nonneg_iff sign byte).mpr (.inr ascii)

private theorem skippable_nonneg (sign : CharSign) {byte : UInt8} (skipped : skippable byte = true) :
    0 ≤ sign.value byte := by
  simp only [skippable, Bool.or_eq_true, beq_iff_eq] at skipped
  rcases skipped with (rfl | rfl) | rfl <;> cases sign <;> decide

variable {sign : CharSign} {t y i : Nat} {g : Int}

theorem decodeLoop_skip {byte : UInt8} (skipped : skippable byte = true) (rest : Bytes) :
    decodeLoop sign (byte :: rest) t y i g = decodeLoop sign rest t y i g := by
  have notNul : byte ≠ 0 := by
    rintro rfl
    cases skipped
  have code := (suffixCode_eq_skipped byte).mpr skipped
  rw [decodeLoop, if_neg notNul, suffixAt_eq, if_pos (skippable_nonneg sign skipped), code]
  rfl

/-- The loop sees the significant characters only. -/
theorem decodeLoop_significant (text : Bytes) :
    decodeLoop sign (significant text) t y i g = decodeLoop sign text t y i g := by
  induction text generalizing t y i g with
  | nil => rfl
  | cons byte rest ih =>
    cases skipped : skippable byte with
    | true =>
      have dropped : significant (byte :: rest) = significant rest :=
        List.filter_cons_of_neg (by simp [skipped])
      rw [decodeLoop_skip skipped, dropped, ih]
    | false =>
      have kept : significant (byte :: rest) = byte :: significant rest :=
        List.filter_cons_of_pos (by simp [skipped])
      rw [kept, decodeLoop, decodeLoop]
      simp only [ih]

/-- Where every byte is in the table, the result is an error exactly for an unknown byte. -/
theorem decodeLoop_refuses_iff {text : Bytes} (noNul : 0 ∉ text)
    (inTable : ∀ byte ∈ text, 0 ≤ sign.value byte) :
    ∃ coded, decodeLoop sign text t y i g = some coded ∧
      (coded.ret < 0 ↔ text.any unknown = true) := by
  induction text generalizing t y i g with
  | nil =>
    refine ⟨⟨i, []⟩, rfl, ?_⟩
    simp
  | cons byte rest ih =>
    have notNul : byte ≠ 0 := fun zero => noNul (by simp [zero])
    have restText : 0 ∉ rest := fun member => noNul (by simp [member])
    have restInTable : ∀ other ∈ rest, 0 ≤ sign.value other :=
      fun other member => inTable other (by simp [member])
    have code := suffixAt_eq sign byte
    rw [if_pos (inTable byte (by simp))] at code
    rw [decodeLoop, if_neg notNul, code, Option.bind_eq_bind, Option.bind_some]
    by_cases strange : unknown byte = true
    · refine ⟨⟨-1, []⟩, ?_, by simp [strange]⟩
      rw [if_pos ((suffixCode_eq_unknown byte).mpr strange)]
      rfl
    · rw [if_neg (mt (suffixCode_eq_unknown byte).mp strange)]
      have known : (byte :: rest).any unknown = rest.any unknown := by simp [strange]
      rw [known]
      split
      · exact ih restText restInTable
      · dsimp only
        split
        · obtain ⟨later, stored, refused⟩ := ih restText restInTable
          rw [stored]
          exact ⟨_, rfl, refused⟩
        · exact ih restText restInTable

/-- A result that is no error comes from a well-formed text and is its RFC 4648 decoding. -/
def DecodesWellFormed (sign : CharSign) (text : CString) : Prop :=
  ∃ coded, base64Decode sign (some text.bytes) text.strlen = some coded ∧
    (0 ≤ coded.ret → Rfc4648.WellFormed (significant text.bytes) ∧
      ∃ bytes, Rfc4648.decode (significant text.bytes) = some bytes ∧
        coded = ⟨bytes.length, consecutive 0 bytes⟩)

section Guards

variable (sign : CharSign) (text : Bytes) {length : Nat}

theorem base64Decode_empty : base64Decode sign (some text) (0 : Nat) = some ⟨-1, []⟩ := rfl

theorem base64Decode_uneven (rest : length % 4 ≠ 0) :
    base64Decode sign (some text) length = some ⟨-2, []⟩ := by
  have positive : ¬ (length : Int) ≤ 0 := by omega
  have remainder : ((length : Int).tmod 4 = 0) ↔ length % 4 = 0 := Int.natCast_inj (n := 0)
  rw [base64Decode, if_neg positive, if_pos (mt remainder.mp rest)]

theorem base64Decode_whole (nonempty : length ≠ 0) (whole : length % 4 = 0) :
    base64Decode sign (some text) length = decodeLoop sign text 0 0 0 3 := by
  have positive : ¬ (length : Int) ≤ 0 := by omega
  have remainder : (length : Int).tmod 4 = 0 := congrArg Int.ofNat whole
  rw [base64Decode, if_neg positive, if_neg (not_not.mpr remainder)]

end Guards

/-- The decoder lets through any text of known characters whose length is a multiple of
four, so the well-formed ones are the only ones of them it decodes properly. -/
theorem decodesWellFormed_iff (sign : CharSign) (text : CString)
    (ascii : IsAscii text.bytes) :
    DecodesWellFormed sign text ↔
      text.strlen = 0 ∨ text.strlen % 4 ≠ 0 ∨ text.bytes.any unknown = true ∨
        Rfc4648.WellFormed (significant text.bytes) := by
  rw [DecodesWellFormed]
  by_cases empty : text.strlen = 0
  · rw [empty, base64Decode_empty]
    exact iff_of_true ⟨_, rfl, fun accepted => by cases accepted⟩ (.inl rfl)
  by_cases whole : text.strlen % 4 = 0
  · obtain ⟨coded, decoded, refused⟩ := decodeLoop_refuses_iff text.noNul
      (fun byte member => (value_nonneg_iff sign byte).mpr (.inr (ascii byte member)))
    rw [base64Decode_whole sign text.bytes empty whole]
    constructor
    · rintro ⟨result, same, proper⟩
      cases decoded.symm.trans same
      by_cases strange : text.bytes.any unknown = true
      · exact .inr (.inr (.inl strange))
      · exact .inr (.inr (.inr (proper (Int.not_lt.mp (mt refused.mp strange))).1))
    · rintro (none | part | strange | wellFormed)
      · exact absurd none empty
      · exact absurd whole part
      · exact ⟨coded, decoded, fun accepted => absurd (refused.mpr strange) (Int.not_lt.mpr accepted)⟩
      · obtain ⟨bytes, found⟩ :=
          Option.isSome_iff_exists.mp ((Rfc4648.decode_isSome_iff _).mpr wellFormed)
        refine ⟨⟨bytes.length, consecutive 0 bytes⟩, ?_, fun _ => ⟨wellFormed, bytes, found, rfl⟩⟩
        rw [← decodeLoop_significant, decodeLoop_decode found, Nat.zero_add]
  · rw [base64Decode_uneven sign text.bytes whole]
    exact iff_of_true ⟨_, rfl, fun accepted => by cases accepted⟩ (.inr (.inl whole))

/-- A group cut off by a space. -/
theorem not_decodesWellFormed_space : ¬ DecodesWellFormed .unsigned (.literal "QQ= ") :=
  mt (decodesWellFormed_iff .unsigned (.literal "QQ= ") (by decide)).mp (by decide)

/-- A group after padding. -/
theorem not_decodesWellFormed_padding : ¬ DecodesWellFormed .signed (.literal "AA==AAAA") := by
  rintro ⟨coded, decoded, proper⟩
  have stored : base64Decode .signed (some (CString.literal "AA==AAAA").bytes)
      (CString.literal "AA==AAAA").strlen = some ⟨2, [(0, 0), (1, 0)]⟩ := by decide
  cases stored.symm.trans decoded
  exact absurd (proper (by decide)).1 (by decide)

/-- Skipped characters change nothing once the decoder has taken the length of the text
for whole groups, which it does before it skips them. -/
theorem base64Decode_inserted_iff (sign : CharSign) {text broken : Bytes}
    (wellFormed : Rfc4648.WellFormed text) (inserted : significant broken = text) :
    base64Decode sign (some broken) broken.length = base64Decode sign (some text) text.length ↔
      (broken.length - text.length) % 4 = 0 ∧ (text = [] → broken = []) := by
  have longer : text.length ≤ broken.length := inserted ▸ List.length_filter_le _ broken
  have groups : text.length % 4 = 0 := wellFormed.1
  obtain ⟨bytes, found⟩ :=
    Option.isSome_iff_exists.mp ((Rfc4648.decode_isSome_iff _).mpr wellFormed)
  have restored : decodeLoop sign text 0 0 0 3 = some ⟨bytes.length, consecutive 0 bytes⟩ := by
    rw [decodeLoop_decode found, Nat.zero_add]
  have skips : decodeLoop sign broken 0 0 0 3 = some ⟨bytes.length, consecutive 0 bytes⟩ := by
    rw [← decodeLoop_significant, inserted, restored]
  by_cases unbroken : broken = []
  · subst unbroken
    subst inserted
    simp [significant]
  have nonempty : broken.length ≠ 0 := by simpa using unbroken
  by_cases whole : broken.length % 4 = 0
  · rw [base64Decode_whole sign broken nonempty whole, skips]
    by_cases empty : text = []
    · subst empty
      rw [List.length_nil, base64Decode_empty]
      simp [unbroken]
    · rw [base64Decode_whole sign text (by simpa using empty) groups, restored]
      refine iff_of_true rfl ⟨by omega, fun erased => absurd erased empty⟩
  · rw [base64Decode_uneven sign broken whole]
    refine iff_of_false ?_ fun aligned => whole (by omega)
    by_cases empty : text = []
    · subst empty
      rw [List.length_nil, base64Decode_empty]
      simp
    · rw [base64Decode_whole sign text (by simpa using empty) groups, restored]
      simp

/-- Four skipped characters go unnoticed. -/
theorem base64Decode_inserted_four :
    base64Decode .signed (some (ascii "Q Q= =\r\n")) 8 = base64Decode .signed (some (ascii "QQ==")) 4 :=
  (base64Decode_inserted_iff .signed (by decide) rfl).mpr (by decide)

/-- A line end after the text is refused. -/
theorem base64Decode_newline :
    Rfc4648.WellFormed (ascii "QQ==") ∧ significant (ascii "QQ==\n") = ascii "QQ==" ∧
      base64Decode .signed (some (ascii "QQ==\n")) 5 ≠
        base64Decode .signed (some (ascii "QQ==")) 4 := by decide

end IotstackDriver.Edge
