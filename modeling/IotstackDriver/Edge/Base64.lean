import IotstackDriver.Libc.Strings
import IotstackDriver.Support.Rfc4648

/-! The base64 codec of `common.c`. Stores into the output buffer are kept as the
sequence of index and byte pairs the loops make. -/

namespace IotstackDriver.Edge

open Libc Support

/-- Whether plain `char` is signed (x86-64) or unsigned (ARM). -/
inductive CharSign where
  | signed
  | unsigned
  deriving DecidableEq

/-- The value of a plain `char` after the integer promotions. -/
def CharSign.value : CharSign → UInt8 → Int
  | .signed, byte => if byte < 128 then byte.toNat else byte.toNat - 256
  | .unsigned, byte => byte.toNat

/-- The return value of a codec call and the stores it makes. -/
structure Coded where
  ret : Int
  stores : List (Nat × UInt8)
  deriving DecidableEq

def base64Alphabet : Bytes :=
  ascii "ABCDEFGHIJKLMNOPQRSTUVWXYZabcdefghijklmnopqrstuvwxyz0123456789+/"

/-- `none` is an access outside the table. -/
def alphabetAt (index : Int) : Option UInt8 :=
  if 0 ≤ index then base64Alphabet[index.toNat]? else none

def base64SuffixMap : List Nat := [
  255, 255, 255, 255, 255, 255, 255, 255, 255, 255, 253, 255,
  255, 253, 255, 255, 255, 255, 255, 255, 255, 255, 255, 255,
  255, 255, 255, 255, 255, 255, 255, 255, 253, 255, 255, 255,
  255, 255, 255, 255, 255, 255, 255,  62, 255, 255, 255,  63,
  52,  53,  54,  55,  56,  57,  58,  59,  60,  61, 255, 255,
  255, 254, 255, 255, 255,   0,   1,   2,   3,   4,   5,   6,
  7,   8,   9,  10,  11,  12,  13,  14,  15,  16,  17,  18,
  19,  20,  21,  22,  23,  24,  25, 255, 255, 255, 255, 255,
  255,  26,  27,  28,  29,  30,  31,  32,  33,  34,  35,  36,
  37,  38,  39,  40,  41,  42,  43,  44,  45,  46,  47,  48,
  49,  50,  51, 255, 255, 255, 255, 255, 255, 255, 255, 255,
  255, 255, 255, 255, 255, 255, 255, 255, 255, 255, 255, 255,
  255, 255, 255, 255, 255, 255, 255, 255, 255, 255, 255, 255,
  255, 255, 255, 255, 255, 255, 255, 255, 255, 255, 255, 255,
  255, 255, 255, 255, 255, 255, 255, 255, 255, 255, 255, 255,
  255, 255, 255, 255, 255, 255, 255, 255, 255, 255, 255, 255,
  255, 255, 255, 255, 255, 255, 255, 255, 255, 255, 255, 255,
  255, 255, 255, 255, 255, 255, 255, 255, 255, 255, 255, 255,
  255, 255, 255, 255, 255, 255, 255, 255, 255, 255, 255, 255,
  255, 255, 255, 255, 255, 255, 255, 255, 255, 255, 255, 255,
  255, 255, 255, 255, 255, 255, 255, 255, 255, 255, 255, 255,
  255, 255, 255, 255]

/-- The table entry for `(unsigned int)indata[x]`: a negative `char` becomes an
index past the table. -/
def suffixAt (sign : CharSign) (byte : UInt8) : Option Nat :=
  if 0 ≤ sign.value byte then base64SuffixMap[(sign.value byte).toNat]? else none

def cmoveBits (sign : CharSign) (src : UInt8) (lnum rnum : Nat) : Int :=
  sign.value (src <<< UInt8.ofNat lnum >>> UInt8.ofNat rnum)

/-- One round of the encoding loop: the characters stored from `p` on for the
bytes read from `source` on. -/
def encodeRound (sign : CharSign) (indata : Memory) (inlen padNum i : Int) (source p : Nat) :
    Option (List (Nat × UInt8)) := do
  let first := indata source
  let second := indata (source + 1)
  let third := indata (source + 2)
  let c ← alphabetAt (sign.value first >>> (2 : Nat))
  if i = inlen + padNum - 3 ∧ padNum ≠ 0 then
    if padNum = 1 then
      let c1 ← alphabetAt (cmoveBits sign first 6 2 + cmoveBits sign second 0 4)
      let c2 ← alphabetAt (cmoveBits sign second 4 2)
      return [(p, c), (p + 1, c1), (p + 2, c2), (p + 3, 61)]
    else if padNum = 2 then
      let c1 ← alphabetAt (cmoveBits sign first 6 2)
      return [(p, c), (p + 1, c1), (p + 2, 61), (p + 3, 61)]
    else return [(p, c)]
  else
    let c1 ← alphabetAt (cmoveBits sign first 6 2 + cmoveBits sign second 0 4)
    let c2 ← alphabetAt (cmoveBits sign second 4 2 + cmoveBits sign third 0 6)
    let c3 ← alphabetAt (third &&& 0x3f).toNat
    return [(p, c), (p + 1, c1), (p + 2, c2), (p + 3, c3)]

/-- `for (i = 0; i < in_len; i += 3)`; `in_len` rounds are more than the loop makes. -/
def encodeLoop (sign : CharSign) (indata : Memory) (inlen padNum : Int) :
    Nat → Int → Nat → Nat → Option (List (Nat × UInt8))
  | 0, _, _, _ => some []
  | rounds + 1, i, source, p => do
    if i < inlen + padNum then
      let here ← encodeRound sign indata inlen padNum i source p
      let rest ← encodeLoop sign indata inlen padNum rounds (i + 3) (source + 3) (p + 4)
      return here ++ rest
    else return []

/-- `none` is an access outside `base64_alphabet`. -/
def base64Encode (sign : CharSign) (indata : Option Memory) (inlen : Int) : Option Coded :=
  match indata with
  | none => some ⟨-1, []⟩
  | some indata =>
    if inlen = 0 then some ⟨-1, []⟩
    else
      let padNum := if inlen.tmod 3 ≠ 0 then 3 - inlen.tmod 3 else 0
      (encodeLoop sign indata inlen padNum (inlen + padNum).toNat 0 0 0).map fun stores => ⟨0, stores⟩

/-- The bytes a completed group stores from `i` on, after `3 - g` padding characters. -/
def decodeGroup (t i : Nat) (g : Int) : List (Nat × UInt8) :=
  [(i, UInt8.ofNat (t >>> 16 &&& 0xff))] ++
    (if g > 1 then [(i + 1, UInt8.ofNat (t >>> 8 &&& 0xff))] else []) ++
    (if g > 2 then [(i + 2, UInt8.ofNat (t &&& 0xff))] else [])

def decodeLoop (sign : CharSign) : Bytes → Nat → Nat → Nat → Int → Option Coded
  | [], _, _, i, _ => some ⟨i, []⟩
  | byte :: rest, t, y, i, g => do
    if byte = 0 then return ⟨i, []⟩
    let c ← suffixAt sign byte
    if c = 255 then return ⟨-1, []⟩
    if c = 253 then decodeLoop sign rest t y i g
    else
      let g := if c = 254 then g - 1 else g
      let t := t <<< 6 ||| (if c = 254 then 0 else c)
      if y + 1 = 4 then
        let group := decodeGroup t i g
        let later ← decodeLoop sign rest 0 0 (i + group.length) g
        return ⟨later.ret, group ++ later.stores⟩
      else decodeLoop sign rest t (y + 1) i g

/-- `none` is an access outside `base64_suffix_map`. -/
def base64Decode (sign : CharSign) (indata : Option Bytes) (inlen : Int) : Option Coded :=
  match indata with
  | none => some ⟨-1, []⟩
  | some indata =>
    if inlen ≤ 0 then some ⟨-1, []⟩
    else if inlen.tmod 4 ≠ 0 then some ⟨-2, []⟩
    else decodeLoop sign indata 0 0 0 3

example : base64Encode .unsigned (some (.ofBytes [255, 0])) 2 =
    some ⟨0, consecutive 0 (ascii "/wA=")⟩ := by decide

example : base64Encode .signed (some (.ofBytes [128])) 1 = none := by decide

end IotstackDriver.Edge
