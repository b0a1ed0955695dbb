import Mathlib.Algebra.Group.Int.Defs
import Mathlib.Algebra.Group.Nat.Defs
import Mathlib.Data.List.Infix
import Mathlib.Data.List.TakeWhile
import Mathlib.Tactic.Common

/-! The C strings, the memory and the `<string.h>`, `<stdlib.h>` and `<stdio.h>`
functions the driver calls. -/

namespace IotstackDriver.Libc

abbrev Bytes := List UInt8

/-- The bytes of a C string literal. -/
def ascii (literal : String) : Bytes := literal.toList.map fun char => UInt8.ofNat char.toNat

/-- The bytes before the terminator of a NUL-terminated string. -/
structure CString where
  bytes : Bytes
  noNul : 0 ∉ bytes
  deriving DecidableEq

def CString.ofBytes (bytes : Bytes) : CString where
  bytes := bytes.takeWhile (· != 0)
  noNul member := by simpa using List.mem_takeWhile_imp member

def CString.literal (text : String) : CString := .ofBytes (ascii text)

def IsAscii (text : Bytes) : Prop := ∀ byte ∈ text, byte < 128

instance (text : Bytes) : Decidable (IsAscii text) := List.decidableBAll (fun byte => byte < 128) text

theorem IsAscii.append {left right : Bytes} (first : IsAscii left) (second : IsAscii right) :
    IsAscii (left ++ right) :=
  List.forall_mem_append.mpr ⟨first, second⟩

theorem takeWhile_of_noNul {bytes : Bytes} (noNul : 0 ∉ bytes) :
    bytes.takeWhile (· != 0) = bytes := by
  apply List.takeWhile_eq_self_iff.mpr
  intro byte member
  simpa using fun zero : byte = 0 => noNul (zero ▸ member)

@[simp] theorem CString.ofBytes_bytes (text : CString) : CString.ofBytes text.bytes = text := by
  cases text with
  | mk bytes noNul => simp [CString.ofBytes, takeWhile_of_noNul noNul]

/-- At most `count` positions are compared, and none after a common terminator. -/
def compareBytes : Bytes → Bytes → Nat → Int
  | _, _, 0 => 0
  | left, right, count + 1 =>
    if left.headD 0 ≠ right.headD 0 then (left.headD 0).toNat - (right.headD 0).toNat
    else if left.headD 0 = 0 then 0
    else compareBytes left.tail right.tail count

def strncmp (left right : CString) (count : Nat) : Int :=
  compareBytes left.bytes right.bytes count

def CString.strlen (text : CString) : Nat := text.bytes.length

private theorem toNat_sub_ne_zero {left right : UInt8} (different : left ≠ right) :
    ((left.toNat : Int) - right.toNat) ≠ 0 := by
  intro zero
  exact different (UInt8.toNat_inj.mp (by omega))

private theorem compareBytes_eq_zero_iff {left right : Bytes} (leftText : 0 ∉ left)
    (rightText : 0 ∉ right) : compareBytes left right left.length = 0 ↔ left <+: right := by
  induction left generalizing right with
  | nil => simp [compareBytes]
  | cons head rest ih =>
    have headText : head ≠ 0 := fun zero => leftText (by simp [zero])
    cases right with
    | nil =>
      simp only [List.length_cons, compareBytes, List.headD_cons, List.headD_nil, ne_eq, headText,
        not_false_eq_true, ↓reduceIte, List.prefix_nil, reduceCtorEq, iff_false]
      exact toNat_sub_ne_zero headText
    | cons other tail =>
      by_cases same : head = other
      · subst other
        have restText : 0 ∉ rest := fun member => leftText (by simp [member])
        have tailText : 0 ∉ tail := fun member => rightText (by simp [member])
        simpa [compareBytes, headText, List.cons_prefix_cons] using ih restText tailText
      · simp only [List.length_cons, compareBytes, List.headD_cons, ne_eq, same,
          not_false_eq_true, ↓reduceIte, List.cons_prefix_cons, false_and, iff_false]
        exact toNat_sub_ne_zero same

/-- A comparison limited by the left length asks whether the left string is a
prefix of the right one. -/
theorem strncmp_strlen_eq_zero_iff (left right : CString) :
    strncmp left right left.strlen = 0 ↔ left.bytes <+: right.bytes :=
  compareBytes_eq_zero_iff left.noNul right.noNul

/-- The rest of the text from the first occurrence on. -/
def strstr : Bytes → Bytes → Option Bytes
  | [], needle => if needle.isPrefixOf [] then some [] else none
  | head :: rest, needle =>
    if needle.isPrefixOf (head :: rest) then some (head :: rest) else strstr rest needle

theorem strstr_isSome_iff (text needle : Bytes) : (strstr text needle).isSome ↔ needle <:+: text := by
  induction text with
  | nil => by_cases empty : needle = [] <;> simp [strstr, empty]
  | cons head rest ih =>
    rw [strstr, List.infix_cons_iff]
    by_cases found : needle <+: head :: rest <;> simp [found, ih]

def isSpace (byte : UInt8) : Bool := byte == 32 || (9 ≤ byte && byte ≤ 13)

def isDigit (byte : UInt8) : Bool := 48 ≤ byte && byte ≤ 57

/-- Decimal digits up to the first other byte. -/
def readDigits (text : Bytes) : Nat :=
  (text.takeWhile isDigit).foldl (fun total digit => total * 10 + (digit.toNat - 48)) 0

/-- `atol` for a `long` of the given width, saturating as `strtol` does. -/
def atol (longBits : Nat) (text : Bytes) : Int :=
  let rest := text.dropWhile isSpace
  let value : Int :=
    if rest.head? = some 45 then -(readDigits rest.tail : Int)
    else if rest.head? = some 43 then readDigits rest.tail
    else readDigits rest
  max (-(2 ^ (longBits - 1))) (min (2 ^ (longBits - 1) - 1) value)

def decimal (value : Nat) : Bytes := (Nat.toDigits 10 value).map fun char => UInt8.ofNat char.toNat

theorem decimal_length_le (value : UInt32) : (decimal value.toNat).length ≤ 10 := by
  rw [decimal, List.length_map]
  refine (Nat.length_toDigits_le_iff (by decide) (by decide)).mpr ?_
  exact Nat.lt_of_lt_of_le value.toNat_lt (by decide)

def signedDecimal (value : Int) : Bytes :=
  if value < 0 then 45 :: decimal value.natAbs else decimal value.natAbs

/-- One argument of a format string, `null` for a `NULL` string. -/
inductive Arg where
  | str (text : Bytes)
  | null
  | uint (value : UInt32)
  | int (value : Int)
  deriving DecidableEq

/-- The directives the driver's format strings use: `%s`, `%u`, `%d`, `%ld` and `%.*s`. -/
def formatChars : List Char → List Arg → Bytes
  | '%' :: 's' :: rest, .str text :: args => text ++ formatChars rest args
  | '%' :: 's' :: rest, .null :: args => ascii "(null)" ++ formatChars rest args
  | '%' :: 'u' :: rest, .uint value :: args => decimal value.toNat ++ formatChars rest args
  | '%' :: 'd' :: rest, .int value :: args => signedDecimal value ++ formatChars rest args
  | '%' :: 'l' :: 'd' :: rest, .int value :: args => signedDecimal value ++ formatChars rest args
  | '%' :: '.' :: '*' :: 's' :: rest, .int precision :: .str text :: args =>
    text.take precision.toNat ++ formatChars rest args
  | char :: rest, args => UInt8.ofNat char.toNat :: formatChars rest args
  | [], _ => []

def format (text : String) (args : List Arg) : Bytes := formatChars text.toList args

/-- The text `snprintf` leaves in a buffer of `size` bytes. -/
def snprintf (size : Nat) (text : String) (args : List Arg) : Bytes :=
  (format text args).take (size - 1)

abbrev Memory := Nat → UInt8

namespace Memory

/-- A `memset` to zero. -/
def zero : Memory := fun _ => 0

def ofBytes (bytes : Bytes) : Memory := fun index => bytes.getD index 0

def store (memory : Memory) (index : Nat) (byte : UInt8) : Memory :=
  Function.update memory index byte

def storeAll (memory : Memory) (stores : List (Nat × UInt8)) : Memory :=
  stores.foldl (fun memory (index, byte) => memory.store index byte) memory

/-- The string at the start of the memory, reading at most `limit` bytes. -/
def cString (memory : Memory) (limit : Nat) : Bytes :=
  ((List.range limit).map memory).takeWhile (· != 0)

end Memory

/-- Stores that fill the positions from `start` on in order. -/
def consecutive : Nat → Bytes → List (Nat × UInt8)
  | _, [] => []
  | start, byte :: rest => (start, byte) :: consecutive (start + 1) rest

@[simp] theorem consecutive_length (start : Nat) (bytes : Bytes) :
    (consecutive start bytes).length = bytes.length := by
  induction bytes generalizing start with
  | nil => rfl
  | cons head rest ih => simp [consecutive, ih]

theorem consecutive_append (start : Nat) (left right : Bytes) :
    consecutive start (left ++ right) =
      consecutive start left ++ consecutive (start + left.length) right := by
  induction left generalizing start with
  | nil => rfl
  | cons head rest ih => simp [consecutive, ih, Nat.add_assoc, Nat.add_comm 1]

theorem mem_consecutive {store : Nat × UInt8} {start : Nat} {bytes : Bytes}
    (member : store ∈ consecutive start bytes) : store.1 < start + bytes.length := by
  induction bytes generalizing start with
  | nil => cases member
  | cons byte rest ih =>
    rcases List.mem_cons.mp member with rfl | later
    · simp
    · have bound := ih later
      simp only [List.length_cons]
      omega

theorem le_of_mem_consecutive {store : Nat × UInt8} {start : Nat} {bytes : Bytes}
    (member : store ∈ consecutive start bytes) : start ≤ store.1 := by
  induction bytes generalizing start with
  | nil => cases member
  | cons byte rest ih =>
    rcases List.mem_cons.mp member with rfl | later
    · exact Nat.le_refl _
    · exact Nat.le_of_succ_le (ih later)

/-- Stores from the first position on stay below a limit when there are no more of them. -/
theorem consecutive_inside_iff (bytes : Bytes) (limit : Nat) :
    (∀ store ∈ consecutive 0 bytes, store.1 < limit) ↔ bytes.length ≤ limit := by
  constructor
  · intro inside
    induction bytes using List.reverseRecOn with
    | nil => exact Nat.zero_le _
    | append_singleton front last =>
      have final : front.length < limit :=
        inside (front.length, last) (by simp [consecutive_append, consecutive])
      rw [List.length_append]
      exact final
  · intro fits store member
    have bound := mem_consecutive member
    omega

theorem storeAll_append (memory : Memory) (left right : List (Nat × UInt8)) :
    memory.storeAll (left ++ right) = (memory.storeAll left).storeAll right := List.foldl_append

theorem storeAll_consecutive (memory : Memory) (start : Nat) (bytes : Bytes) (index : Nat) :
    memory.storeAll (consecutive start bytes) index =
      if start ≤ index ∧ index < start + bytes.length then bytes.getD (index - start) 0
      else memory index := by
  induction bytes generalizing memory start with
  | nil =>
    have outside : ¬ (start ≤ index ∧ index < start + ([] : Bytes).length) := by
      simp only [List.length_nil]
      omega
    rw [if_neg outside]
    rfl
  | cons head rest ih =>
    change (memory.store start head).storeAll (consecutive (start + 1) rest) index = _
    rw [ih]
    rcases Nat.lt_trichotomy index start with before | same | later
    · have outside : ¬ start + 1 ≤ index := by omega
      simp [outside, Memory.store, Nat.not_le.mpr before, Nat.ne_of_lt before]
    · subst index
      have outside : ¬ (start + 1 ≤ start ∧ start < start + 1 + rest.length) := by omega
      rw [if_neg outside]
      simp [Memory.store]
    · have shift : index - start = index - (start + 1) + 1 := by omega
      have inside : (start + 1 ≤ index ∧ index < start + 1 + rest.length) ↔
          (start ≤ index ∧ index < start + (head :: rest).length) := by
        simp only [List.length_cons]
        omega
      simp only [inside, shift, List.getD_cons_succ, Memory.store,
        Function.update_of_ne (Nat.ne_of_gt later)]

theorem storeAll_zero_consecutive (bytes : Bytes) :
    Memory.zero.storeAll (consecutive 0 bytes) = Memory.ofBytes bytes := by
  funext index
  rw [storeAll_consecutive]
  split
  · rfl
  · rename_i outside
    have beyond : bytes.length ≤ index := by omega
    simp [Memory.zero, Memory.ofBytes, List.getElem?_eq_none beyond]

/-- A position that no store goes to keeps its byte. -/
theorem storeAll_of_notMem (memory : Memory) {stores : List (Nat × UInt8)} {index : Nat}
    (other : index ∉ stores.map Prod.fst) : memory.storeAll stores index = memory index := by
  induction stores generalizing memory with
  | nil => rfl
  | cons head rest ih =>
    rw [List.map_cons, List.mem_cons, not_or] at other
    change (memory.store head.1 head.2).storeAll rest index = _
    rw [ih _ other.2]
    exact Function.update_of_ne other.1 _ _

/-- A text that a memory begins with, terminator included, is the string read from it. -/
theorem cString_of_terminated {memory : Memory} {bytes : Bytes}
    (content : ∀ k (inside : k < bytes.length), memory k = bytes[k])
    (terminated : memory bytes.length = 0) (noNul : 0 ∉ bytes) (inside : bytes.length < limit) :
    memory.cString limit = bytes := by
  obtain ⟨extra, rfl⟩ := Nat.exists_eq_add_of_lt inside
  have split : (List.range (bytes.length + extra + 1)).map memory =
      bytes ++ 0 :: (List.range extra).map fun k => memory (bytes.length + 1 + k) := by
    apply List.ext_getElem (by simp; omega)
    intro index _ _
    rcases Nat.lt_trichotomy index bytes.length with before | same | later
    · simp [before, content index before]
    · subst same
      simp [terminated]
    · obtain ⟨offset, rfl⟩ := Nat.exists_eq_add_of_lt later
      have shift : bytes.length + offset + 1 - bytes.length = offset + 1 := by omega
      rw [List.getElem_append_right (Nat.le_of_lt later)]
      simp [shift, Nat.add_right_comm]
  rw [Memory.cString, split,
    List.takeWhile_append_of_pos (List.takeWhile_eq_self_iff.mp (takeWhile_of_noNul noNul))]
  simp

/-- A terminated text is read back whole when its terminator is within reach. -/
theorem cString_ofBytes {bytes : Bytes} (noNul : 0 ∉ bytes) (inside : bytes.length < limit) :
    (Memory.ofBytes bytes).cString limit = bytes := by
  refine cString_of_terminated (fun k inside => ?_) ?_ noNul inside
  · simp [Memory.ofBytes, inside]
  · simp [Memory.ofBytes]

theorem cString_noNul (memory : Memory) (limit : Nat) : 0 ∉ memory.cString limit := by
  intro member
  simpa using List.mem_takeWhile_imp member

theorem cString_length_le {memory : Memory} {size : Nat} (ended : memory size = 0) (limit : Nat) :
    (memory.cString limit).length ≤ size := by
  by_contra longer
  have inside : size < (memory.cString limit).length := by omega
  have begins : memory.cString limit <+: (List.range limit).map memory := List.takeWhile_prefix _
  have same : (memory.cString limit)[size] = 0 := by
    rw [begins.getElem inside, List.getElem_map, List.getElem_range, ended]
  exact cString_noNul memory limit (same ▸ List.getElem_mem inside)

end IotstackDriver.Libc
