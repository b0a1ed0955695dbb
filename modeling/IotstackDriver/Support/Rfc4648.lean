import Mathlib.Algebra.Group.Nat.Defs
import Mathlib.Data.List.Basic
import Mathlib.Tactic.Common

/-! The base64 encoding of RFC 4648, section 4. A 24-bit group of three bytes is
four 6-bit digits; a final group of one or two bytes is padded. -/

namespace IotstackDriver.Support.Rfc4648

def alphabet : List UInt8 :=
  "ABCDEFGHIJKLMNOPQRSTUVWXYZabcdefghijklmnopqrstuvwxyz0123456789+/".toList.map
    fun char => UInt8.ofNat char.toNat

def pad : UInt8 := 61

def digit (value : Nat) : UInt8 := alphabet.getD value 0

def digit? (char : UInt8) : Option Nat := alphabet.findIdx? (· == char)

/-- The four digits of a 24-bit group. -/
def quantum (group : Nat) : List UInt8 :=
  [digit (group / 2 ^ 18), digit (group / 2 ^ 12 % 64), digit (group / 2 ^ 6 % 64), digit (group % 64)]

def encode : List UInt8 → List UInt8
  | [] => []
  | [a] => (quantum (a.toNat * 2 ^ 16)).take 2 ++ [pad, pad]
  | [a, b] => (quantum (a.toNat * 2 ^ 16 + b.toNat * 2 ^ 8)).take 3 ++ [pad]
  | a :: b :: c :: rest =>
    quantum (a.toNat * 2 ^ 16 + b.toNat * 2 ^ 8 + c.toNat) ++ encode rest

/-- The bytes of a 24-bit group, most significant first. -/
def groupBytes (group : Nat) : List UInt8 :=
  [UInt8.ofNat (group / 2 ^ 16), UInt8.ofNat (group / 2 ^ 8), UInt8.ofNat group]

/-- Padding is accepted in the last group only. -/
def decode : List UInt8 → Option (List UInt8)
  | [] => some []
  | a :: b :: c :: d :: rest => do
    let first ← digit? a
    let second ← digit? b
    let high := first * 2 ^ 18 + second * 2 ^ 12
    if d = pad ∧ rest = [] then
      if c = pad then return (groupBytes high).take 1
      let third ← digit? c
      return (groupBytes (high + third * 2 ^ 6)).take 2
    let third ← digit? c
    let fourth ← digit? d
    let remaining ← decode rest
    return groupBytes (high + third * 2 ^ 6 + fourth) ++ remaining
  | _ => none

/-- Groups of four digits, with padding in place of the last one or two digits only. -/
def WellFormed (text : List UInt8) : Prop :=
  text.length % 4 = 0 ∧ ∃ digits padding, padding ≤ 2 ∧
    text = digits ++ List.replicate padding pad ∧ ∀ char ∈ digits, (digit? char).isSome = true

theorem digit_table : ∀ value < 64,
    digit? (digit value) = some value ∧ digit value ≠ pad ∧ digit value ≠ 0 := by decide

theorem digit?_digit (small : value < 64) : digit? (digit value) = some value :=
  (digit_table value small).1

theorem digit_ne_pad (small : value < 64) : digit value ≠ pad := (digit_table value small).2.1

theorem digit_ne_zero (small : value < 64) : digit value ≠ 0 := (digit_table value small).2.2

theorem digit_of_digit? (found : digit? char = some value) : value < 64 ∧ digit value = char := by
  obtain ⟨inside, same, -⟩ := List.findIdx?_eq_some_iff_getElem.mp found
  have size : alphabet.length = 64 := by decide
  refine ⟨size ▸ inside, ?_⟩
  simpa [digit, inside] using same

theorem encode_length (bytes : List UInt8) : (encode bytes).length = 4 * ((bytes.length + 2) / 3) := by
  induction bytes using encode.induct with
  | case1 => rfl
  | case2 a => simp [encode, quantum]
  | case3 a b => simp [encode, quantum]
  | case4 a b c rest ih =>
    simp only [encode, quantum, List.length_append, List.length_cons, List.length_nil, ih]
    omega

/-- Encoded text consists of digits and padding. -/
theorem mem_encode (bytes : List UInt8) (member : char ∈ encode bytes) :
    char = pad ∨ ∃ value < 64, char = digit value := by
  induction bytes using encode.induct with
  | case1 => simp [encode] at member
  | case2 a =>
    have bound := a.toNat_lt
    simp only [encode, quantum, List.take_succ_cons, List.take_zero, List.cons_append,
      List.nil_append, List.mem_cons, List.not_mem_nil, or_false] at member
    rcases member with same | same | same | same
    · exact .inr ⟨_, by omega, same⟩
    · exact .inr ⟨_, by omega, same⟩
    · exact .inl same
    · exact .inl same
  | case3 a b =>
    have first := a.toNat_lt
    have second := b.toNat_lt
    simp only [encode, quantum, List.take_succ_cons, List.take_zero, List.cons_append,
      List.nil_append, List.mem_cons, List.not_mem_nil, or_false] at member
    rcases member with same | same | same | same
    · exact .inr ⟨_, by omega, same⟩
    · exact .inr ⟨_, by omega, same⟩
    · exact .inr ⟨_, by omega, same⟩
    · exact .inl same
  | case4 a b c rest ih =>
    have first := a.toNat_lt
    have second := b.toNat_lt
    have third := c.toNat_lt
    simp only [encode, quantum, List.cons_append, List.nil_append, List.mem_cons] at member
    rcases member with same | same | same | same | later
    · exact .inr ⟨_, by omega, same⟩
    · exact .inr ⟨_, by omega, same⟩
    · exact .inr ⟨_, by omega, same⟩
    · exact .inr ⟨_, by omega, same⟩
    · exact ih later

theorem encode_noNul (bytes : List UInt8) : 0 ∉ encode bytes := by
  intro member
  rcases mem_encode bytes member with same | ⟨value, small, same⟩
  · exact absurd same (by decide)
  · exact digit_ne_zero small same.symm

private theorem group_digits (group : Nat) :
    group / 2 ^ 18 * 2 ^ 18 + group / 2 ^ 12 % 64 * 2 ^ 12 + group / 2 ^ 6 % 64 * 2 ^ 6 +
      group % 64 = group := by
  omega

private theorem ofNat_eq (byte : UInt8) {value : Nat} (same : value % 256 = byte.toNat) :
    UInt8.ofNat value = byte := by
  apply UInt8.toNat_inj.mp
  simpa using same

theorem groupBytes_bytes (a b c : UInt8) :
    groupBytes (a.toNat * 2 ^ 16 + b.toNat * 2 ^ 8 + c.toNat) = [a, b, c] := by
  have first := a.toNat_lt
  have second := b.toNat_lt
  have third := c.toNat_lt
  rw [groupBytes, ofNat_eq a (by omega), ofNat_eq b (by omega),
    ofNat_eq c (by omega)]

private theorem decode_quantum (group : Nat) (bound : group < 2 ^ 24) (rest : List UInt8) :
    decode (quantum group ++ rest) = (decode rest).map (groupBytes group ++ ·) := by
  have notPad : digit (group % 64) ≠ pad := digit_ne_pad (Nat.mod_lt _ (by decide))
  have first := digit?_digit (show group / 2 ^ 18 < 64 by omega)
  have second := digit?_digit (show group / 2 ^ 12 % 64 < 64 by omega)
  have third := digit?_digit (show group / 2 ^ 6 % 64 < 64 by omega)
  have fourth := digit?_digit (show group % 64 < 64 by omega)
  simp only [quantum, List.cons_append, List.nil_append, decode, first, second, third, fourth,
    notPad, false_and, ↓reduceIte, Option.bind_eq_bind, Option.bind_some, group_digits group]
  cases decode rest <;> rfl

theorem decode_encode (bytes : List UInt8) : decode (encode bytes) = some bytes := by
  induction bytes using encode.induct with
  | case1 => rfl
  | case2 a =>
    have bound := a.toNat_lt
    have bytes := groupBytes_bytes a 0 0
    simp only [UInt8.toNat_zero, Nat.zero_mul, Nat.add_zero] at bytes
    have first := digit?_digit (show a.toNat * 2 ^ 16 / 2 ^ 18 < 64 by omega)
    have second := digit?_digit (show a.toNat * 2 ^ 16 / 2 ^ 12 % 64 < 64 by omega)
    have whole : a.toNat * 2 ^ 16 / 2 ^ 18 * 2 ^ 18 + a.toNat * 2 ^ 16 / 2 ^ 12 % 64 * 2 ^ 12 =
      a.toNat * 2 ^ 16 := by omega
    simp only [encode, quantum, List.take_succ_cons, List.take_zero, List.cons_append,
      List.nil_append, decode, first, second, and_self, ↓reduceIte, Option.bind_eq_bind,
      Option.bind_some, whole, bytes, pure]
  | case3 a b =>
    have low := a.toNat_lt
    have high := b.toNat_lt
    have bytes := groupBytes_bytes a b 0
    simp only [UInt8.toNat_zero, Nat.add_zero] at bytes
    generalize sum : a.toNat * 2 ^ 16 + b.toNat * 2 ^ 8 = group at bytes
    have first := digit?_digit (show group / 2 ^ 18 < 64 by omega)
    have second := digit?_digit (show group / 2 ^ 12 % 64 < 64 by omega)
    have third := digit?_digit (show group / 2 ^ 6 % 64 < 64 by omega)
    have notPad : digit (group / 2 ^ 6 % 64) ≠ pad := digit_ne_pad (by omega)
    have aligned : group % 64 = 0 := by omega
    have whole := group_digits group
    rw [aligned, Nat.add_zero] at whole
    simp only [encode, sum, quantum, List.take_succ_cons, List.take_zero, List.cons_append,
      List.nil_append, decode, first, second, third, notPad, and_self, ↓reduceIte,
      Option.bind_eq_bind, Option.bind_some, whole, bytes, pure]
  | case4 a b c rest ih =>
    have first := a.toNat_lt
    have second := b.toNat_lt
    have third := c.toNat_lt
    rw [encode, decode_quantum _ (by omega), ih, groupBytes_bytes]
    rfl

@[simp] theorem digit?_pad : digit? pad = none := by decide

@[simp] theorem wellFormed_nil : WellFormed [] := ⟨rfl, [], 0, by decide, rfl, by simp⟩

/-- A padded group is the last one. -/
theorem wellFormed_group (a b c d : UInt8) (rest : List UInt8) :
    WellFormed (a :: b :: c :: d :: rest) ↔
      (digit? a).isSome = true ∧ (digit? b).isSome = true ∧
        if d = pad ∧ rest = [] then c = pad ∨ (digit? c).isSome = true
        else (digit? c).isSome = true ∧ (digit? d).isSome = true ∧ WellFormed rest := by
  constructor
  · rintro ⟨whole, digits, padding, few, same, known⟩
    have length := congrArg List.length same
    simp only [List.length_cons, List.length_append, List.length_replicate] at length whole
    match digits, padding with
    | [x, y], 2 =>
      cases same
      exact ⟨known a (by simp), known b (by simp), by simp⟩
    | [x, y, z], 1 =>
      cases same
      exact ⟨known a (by simp), known b (by simp), by simp [known c (by simp)]⟩
    | x :: y :: z :: w :: more, padding =>
      simp only [List.cons_append, List.cons.injEq] at same
      obtain ⟨rfl, rfl, rfl, rfl, rfl⟩ := same
      have notPad : d ≠ pad := by
        rintro rfl
        simpa using known pad (by simp)
      have later : WellFormed (more ++ List.replicate padding pad) := by
        refine ⟨?_, more, padding, few, rfl, fun char member => known char (by simp [member])⟩
        simp only [List.length_append, List.length_replicate] at whole ⊢
        omega
      exact ⟨known a (by simp), known b (by simp),
        by simp [notPad, known c (by simp), known d (by simp), later]⟩
    | [], padding => simp at length; omega
    | [x], padding => simp at length; omega
    | [x, y], 0 | [x, y], 1 => simp at length
    | [x, y], padding + 3 => omega
    | [x, y, z], 0 => simp at length
    | [x, y, z], padding + 2 => simp at length; omega
  · rintro ⟨first, second, others⟩
    split at others
    · rename_i last
      obtain ⟨rfl, rfl⟩ := last
      rcases others with rfl | third
      · exact ⟨by simp, [a, b], 2, by decide, rfl, by simp [first, second]⟩
      · exact ⟨by simp, [a, b, c], 1, by decide, rfl, by simp [first, second, third]⟩
    · obtain ⟨third, fourth, whole, digits, padding, few, rfl, known⟩ := others
      refine ⟨?_, a :: b :: c :: d :: digits, padding, few, rfl, ?_⟩
      · simp only [List.length_cons, List.length_append, List.length_replicate] at whole ⊢
        omega
      · simpa [first, second, third, fourth] using known

/-- The texts that can be decoded are the well-formed ones. -/
theorem decode_isSome_iff (text : List UInt8) : (decode text).isSome = true ↔ WellFormed text := by
  induction text using decode.induct with
  | case1 => simp [decode]
  | case2 a b c d rest ih =>
    rw [wellFormed_group, decode, ← ih]
    cases digit? a with
    | none => simp
    | some first =>
      cases digit? b with
      | none => simp
      | some second =>
        by_cases last : d = pad ∧ rest = []
        · simp only [last, and_self, ↓reduceIte]
          by_cases padded : c = pad
          · simp [padded]
          · cases digit? c <;> simp [padded]
        · simp only [last, ↓reduceIte]
          cases digit? c <;> cases digit? d <;> cases decode rest <;> simp
  | case3 text nonempty short =>
    rw [decode.eq_3 text nonempty short]
    simp only [Option.isSome_none, Bool.false_eq_true, false_iff]
    rintro ⟨whole, -⟩
    match text with
    | [] => exact nonempty rfl
    | [a] | [a, b] | [a, b, c] => simp at whole
    | a :: b :: c :: d :: rest => exact short a b c d rest rfl

/-- A group that is decoded, by its padding. -/
theorem decode_group {a b c d : UInt8} {rest bytes : List UInt8}
    (decoded : decode (a :: b :: c :: d :: rest) = some bytes) :
    ∃ first second, first < 64 ∧ second < 64 ∧ a = digit first ∧ b = digit second ∧
      let high := first * 2 ^ 18 + second * 2 ^ 12
      (c = pad ∧ d = pad ∧ rest = [] ∧ bytes = (groupBytes high).take 1) ∨
      ∃ third, third < 64 ∧ c = digit third ∧
        ((d = pad ∧ rest = [] ∧ bytes = (groupBytes (high + third * 2 ^ 6)).take 2) ∨
        ∃ fourth remaining, fourth < 64 ∧ d = digit fourth ∧ decode rest = some remaining ∧
          bytes = groupBytes (high + third * 2 ^ 6 + fourth) ++ remaining) := by
  rw [decode] at decoded
  obtain ⟨first, foundFirst, fromSecond⟩ := Option.bind_eq_some_iff.mp decoded
  obtain ⟨second, foundSecond, fromThird⟩ := Option.bind_eq_some_iff.mp fromSecond
  obtain ⟨firstSmall, firstSame⟩ := digit_of_digit? foundFirst
  obtain ⟨secondSmall, secondSame⟩ := digit_of_digit? foundSecond
  refine ⟨first, second, firstSmall, secondSmall, firstSame.symm, secondSame.symm, ?_⟩
  by_cases last : d = pad ∧ rest = []
  · rw [if_pos last] at fromThird
    by_cases padded : c = pad
    · rw [if_pos padded] at fromThird
      exact .inl ⟨padded, last.1, last.2, (Option.some.inj fromThird).symm⟩
    · rw [if_neg padded] at fromThird
      obtain ⟨third, foundThird, stored⟩ := Option.bind_eq_some_iff.mp fromThird
      obtain ⟨thirdSmall, thirdSame⟩ := digit_of_digit? foundThird
      exact .inr ⟨third, thirdSmall, thirdSame.symm,
        .inl ⟨last.1, last.2, (Option.some.inj stored).symm⟩⟩
  · rw [if_neg last] at fromThird
    obtain ⟨third, foundThird, fromFourth⟩ := Option.bind_eq_some_iff.mp fromThird
    obtain ⟨fourth, foundFourth, fromRest⟩ := Option.bind_eq_some_iff.mp fromFourth
    obtain ⟨remaining, foundRest, stored⟩ := Option.bind_eq_some_iff.mp fromRest
    obtain ⟨thirdSmall, thirdSame⟩ := digit_of_digit? foundThird
    obtain ⟨fourthSmall, fourthSame⟩ := digit_of_digit? foundFourth
    exact .inr ⟨third, thirdSmall, thirdSame.symm, .inr ⟨fourth, remaining, fourthSmall,
      fourthSame.symm, foundRest, (Option.some.inj stored).symm⟩⟩

instance (text : List UInt8) : Decidable (WellFormed text) :=
  decidable_of_iff _ (decode_isSome_iff text)

example : decode (encode [0, 255, 16, 131]) = some [0, 255, 16, 131] := by decide

end IotstackDriver.Support.Rfc4648
