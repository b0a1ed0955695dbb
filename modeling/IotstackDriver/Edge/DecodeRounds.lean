import IotstackDriver.Edge.DecodedText
import IotstackDriver.Edge.Decoder
import IotstackDriver.Support.Loop

/-! The loop of `base64_decode`, round by round: what its variables hold and how far it
reads. -/

namespace IotstackDriver.Edge

open Libc Support

/-- The variables of the loop, and the stores it has made. -/
structure Decoding where
  x : Nat
  t : Nat
  y : Nat
  i : Nat
  g : Int
  stores : List (Nat × UInt8)

namespace Decoding

def start : Decoding := ⟨0, 0, 0, 0, 3, []⟩

/-- `t` with the code of one more character, where `'='` counts as zero. -/
def gathered (state : Decoding) (c : Nat) : Nat := state.t <<< 6 ||| (if c = 254 then 0 else c)

end Decoding

/-- One round, which reads `indata[x]` and no other position. The result is `none` for an
access outside the table. -/
def decodeRound (sign : CharSign) (indata : Memory) (state : Decoding) : Round Decoding (Option Coded) :=
  if indata state.x = 0 then .done (some ⟨state.i, state.stores⟩)
  else
    match suffixAt sign (indata state.x) with
    | none => .done none
    | some c =>
      let x := state.x + 1
      if c = 255 then .done (some ⟨-1, state.stores⟩)
      else if c = 253 then .next { state with x }
      else
        let g := if c = 254 then state.g - 1 else state.g
        let t := state.gathered c
        if state.y + 1 = 4 then
          let group := decodeGroup t state.i g
          .next ⟨x, 0, 0, state.i + group.length, g, state.stores ++ group⟩
        else .next ⟨x, t, state.y + 1, state.i, g, state.stores⟩

/-- What holds before each round. The characters taken into groups are the significant
ones among those read. -/
structure Decoding.Bounded (sign : CharSign) (indata : Memory) (text : CString) (state : Decoding) :
    Prop where
  position : state.x ≤ text.strlen
  accumulator : state.t < 2 ^ 24
  gathered : ∀ c, suffixAt sign (indata state.x) = some c → c ≠ 255 → c ≠ 253 →
    state.gathered c < 2 ^ 24
  group : state.y < 4
  output : state.i ≤ 3 * ((significant (text.bytes.take state.x)).length / 4)
  stores : state.stores.map Prod.fst = List.range state.i

variable {sign : CharSign} {indata : Memory} {text : CString} {state after : Decoding}

/-- The loop takes six bits into `t` for each character of the group. -/
structure Decoding.Invariant (text : CString) (state : Decoding) : Prop where
  position : state.x ≤ text.strlen
  bits : state.t < 2 ^ (6 * state.y)
  group : state.y = (significant (text.bytes.take state.x)).length % 4
  output : state.i ≤ 3 * ((significant (text.bytes.take state.x)).length / 4)
  stores : state.stores.map Prod.fst = List.range state.i

private theorem suffixCode_lt {byte : UInt8} (known : suffixCode byte ≠ 255)
    (kept : suffixCode byte ≠ 253) (digit : suffixCode byte ≠ 254) : suffixCode byte < 64 := by
  rw [suffixCode] at *
  split_ifs at * with skipped padded
  · exact absurd rfl kept
  · exact absurd rfl digit
  · cases found : Rfc4648.digit? byte with
    | none => simp [found] at known
    | some value => exact (Rfc4648.digit_of_digit? found).1

private theorem code_lt {byte : UInt8} {c : Nat} (looked : suffixAt sign byte = some c)
    (known : c ≠ 255) (kept : c ≠ 253) : (if c = 254 then 0 else c) < 2 ^ 6 := by
  rw [suffixAt_eq] at looked
  split at looked
  · cases looked
    split
    · exact Nat.zero_lt_succ _
    · rename_i digit
      exact suffixCode_lt known kept digit
  · cases looked

private theorem gathered_lt {byte : UInt8} {c : Nat} (looked : suffixAt sign byte = some c)
    (known : c ≠ 255) (kept : c ≠ 253) (bits : state.t < 2 ^ (6 * state.y)) :
    state.gathered c < 2 ^ (6 * (state.y + 1)) := by
  have wider : 2 ^ (6 * (state.y + 1)) = 2 ^ (6 * state.y) * 2 ^ 6 := by
    rw [← Nat.pow_add]
    rfl
  have shifted : state.t <<< 6 < 2 ^ (6 * (state.y + 1)) := by
    rw [Nat.shiftLeft_eq, wider]
    exact Nat.mul_lt_mul_of_pos_right bits (Nat.two_pow_pos 6)
  have code : (if c = 254 then 0 else c) < 2 ^ (6 * (state.y + 1)) := by
    rw [wider]
    exact Nat.lt_of_lt_of_le (code_lt looked known kept)
      (Nat.le_mul_of_pos_left _ (Nat.two_pow_pos _))
  exact Nat.or_lt_two_pow shifted code

private theorem Decoding.Invariant.bounded (holds : state.Invariant text) :
    state.Bounded sign indata text := by
  have unfinished : state.y < 4 := holds.group ▸ Nat.mod_lt _ (by decide)
  have widest {rounds : Nat} (few : rounds ≤ 4) : 2 ^ (6 * rounds) ≤ 2 ^ 24 :=
    Nat.pow_le_pow_right (by decide) (by omega)
  exact {
    position := holds.position
    accumulator := Nat.lt_of_lt_of_le holds.bits (widest (by omega))
    gathered := fun c looked known kept =>
      Nat.lt_of_lt_of_le (gathered_lt looked known kept holds.bits) (widest (by omega))
    group := unfinished
    output := holds.output
    stores := holds.stores }

private theorem consecutive_positions (start : Nat) (bytes : Bytes) :
    (consecutive start bytes).map Prod.fst = List.range' start bytes.length := by
  induction bytes generalizing start with
  | nil => rfl
  | cons byte rest ih => rw [consecutive, List.map_cons, ih, List.length_cons, List.range'_succ]

private theorem decodeGroup_positions (t i : Nat) (g : Int) :
    (decodeGroup t i g).map Prod.fst = List.range' i (decodeGroup t i g).length := by
  have positions := consecutive_positions i ((decodeGroup t i g).map Prod.snd)
  rwa [← decodeGroup_consecutive, List.length_map] at positions

private theorem range_append (first more : Nat) :
    List.range first ++ List.range' first more = List.range (first + more) := by
  rw [List.range_eq_range', List.range_eq_range', ← List.range'_append_1, Nat.zero_add]

/-- The memory agrees with the string up to its terminator. -/
def Stored (indata : Memory) (text : CString) : Prop :=
  ∀ position ≤ text.strlen, indata position = Memory.ofBytes text.bytes position

private theorem Stored.inside {position : Nat} (holds : Stored indata text)
    (within : position ≤ text.strlen) (notNul : indata position ≠ 0) :
    ∃ inside : position < text.bytes.length, text.bytes[position] = indata position := by
  rw [holds position within, Memory.ofBytes] at notNul ⊢
  by_cases inside : position < text.bytes.length
  · exact ⟨inside, by simp [inside]⟩
  · exact absurd (by simp [Nat.not_lt.mp inside]) notNul

/-- The significant characters after one more character. -/
private theorem significant_succ {position : Nat} (inside : position < text.bytes.length) :
    (significant (text.bytes.take (position + 1))).length =
      (significant (text.bytes.take position)).length +
        if skippable text.bytes[position] then 0 else 1 := by
  rw [List.take_succ_eq_append_getElem inside, significant, List.filter_append, List.length_append]
  split <;> simp [*, significant]

/-- A round that goes on has read a character that is skipped, that completes a group, or that
is gathered into one. -/
private theorem decodeRound_next (goes : decodeRound sign indata state = .next after) :
    indata state.x ≠ 0 ∧ ∃ c, suffixAt sign (indata state.x) = some c ∧ c ≠ 255 ∧
      (c = 253 ∧ after = { state with x := state.x + 1 } ∨ c ≠ 253 ∧ ∃ g,
        (state.y + 1 = 4 ∧ after = ⟨state.x + 1, 0, 0,
            state.i + (decodeGroup (state.gathered c) state.i g).length, g,
            state.stores ++ decodeGroup (state.gathered c) state.i g⟩ ∨
          state.y + 1 ≠ 4 ∧ after = ⟨state.x + 1, state.gathered c, state.y + 1, state.i, g,
            state.stores⟩)) := by
  unfold decodeRound at goes
  split at goes
  · cases goes
  · rename_i notNul
    split at goes
    · cases goes
    · rename_i c looked
      dsimp only at goes
      split at goes
      · cases goes
      · rename_i known
        refine ⟨notNul, c, looked, known, ?_⟩
        split at goes
        · rename_i skipped
          cases goes
          exact .inl ⟨skipped, rfl⟩
        · rename_i kept
          split at goes
          · rename_i complete
            cases goes
            exact .inr ⟨kept, _, .inl ⟨complete, rfl⟩⟩
          · rename_i unfinished
            cases goes
            exact .inr ⟨kept, _, .inr ⟨unfinished, rfl⟩⟩

private theorem code_skipped {byte : UInt8} {c : Nat} (looked : suffixAt sign byte = some c) :
    c = 253 ↔ skippable byte = true := by
  rw [suffixAt_eq] at looked
  split at looked
  · cases looked
    exact suffixCode_eq_skipped _
  · cases looked

private theorem Decoding.Invariant.kept (holds : Stored indata text) (invariant : state.Invariant text)
    (goes : decodeRound sign indata state = .next after) : after.Invariant text := by
  obtain ⟨notNul, c, looked, known, step⟩ := decodeRound_next goes
  obtain ⟨inside, same⟩ := holds.inside invariant.position notNul
  have counted := significant_succ inside
  rw [same] at counted
  have group := invariant.group
  have output := invariant.output
  rcases step with ⟨skipped, rfl⟩ | ⟨kept, g, ⟨complete, rfl⟩ | ⟨unfinished, rfl⟩⟩
  · rw [if_pos ((code_skipped looked).mp skipped), Nat.add_zero] at counted
    exact ⟨inside, invariant.bits, counted ▸ group, counted ▸ output, invariant.stores⟩
  · rw [if_neg (mt (code_skipped looked).mpr kept)] at counted
    have few := decodeGroup_length_le (state.gathered c) state.i g
    refine ⟨inside, Nat.one_pos, ?_, ?_, ?_⟩
    · rw [counted]
      dsimp only
      omega
    · rw [counted]
      dsimp only
      omega
    · rw [List.map_append, invariant.stores, decodeGroup_positions, range_append]
  · rw [if_neg (mt (code_skipped looked).mpr kept)] at counted
    refine ⟨inside, gathered_lt looked known kept invariant.bits, ?_, ?_, invariant.stores⟩
    · rw [counted]
      dsimp only
      omega
    · rw [counted]
      dsimp only
      omega

private theorem start_invariant (text : CString) : Decoding.Invariant text .start where
  position := Nat.zero_le _
  bits := Nat.one_pos
  group := rfl
  output := Nat.zero_le _
  stores := rfl

/-- One round does what the recursion does with one character. -/
private theorem decodeRound_cons {byte : UInt8} (read : indata state.x = byte) (notNul : byte ≠ 0)
    (inTable : 0 ≤ sign.value byte) (rest : Bytes) :
    (∃ coded, decodeRound sign indata state = .done (some ⟨coded.ret, state.stores ++ coded.stores⟩) ∧
        decodeLoop sign (byte :: rest) state.t state.y state.i state.g = some coded) ∨
      ∃ after added, decodeRound sign indata state = .next after ∧ after.x = state.x + 1 ∧
        after.stores = state.stores ++ added ∧
        decodeLoop sign (byte :: rest) state.t state.y state.i state.g =
          (decodeLoop sign rest after.t after.y after.i after.g).map fun later =>
            ⟨later.ret, added ++ later.stores⟩ := by
  have looked := suffixAt_eq sign byte
  rw [if_pos inTable] at looked
  have round := decodeRound.eq_1 sign indata state
  rw [read, if_neg notNul, looked] at round
  dsimp only at round
  rw [decodeLoop, if_neg notNul, looked, Option.bind_eq_bind, Option.bind_some]
  split
  · rename_i strange
    rw [if_pos strange] at round
    exact .inl ⟨⟨-1, []⟩, by rw [round, List.append_nil], rfl⟩
  · rename_i known
    rw [if_neg known] at round
    split
    · rename_i skipped
      rw [if_pos skipped] at round
      exact .inr ⟨_, [], round, rfl, (List.append_nil _).symm, by simp⟩
    · rename_i kept
      rw [if_neg kept] at round
      dsimp only
      split
      · rename_i complete
        rw [if_pos complete] at round
        refine .inr ⟨_, _, round, rfl, rfl, ?_⟩
        exact (Option.map_eq_bind ..).symm
      · rename_i unfinished
        rw [if_neg unfinished] at round
        exact .inr ⟨_, [], round, rfl, (List.append_nil _).symm, by simp [Decoding.gathered]⟩

/-- The rounds from a position on do what the recursion does with the rest of the text. -/
private theorem decodeRound_ends (holds : Stored indata text) (inTable : ∀ byte ∈ text.bytes,
    0 ≤ sign.value byte) {rest : Bytes} {state : Decoding} (within : state.x ≤ text.strlen)
    (here : text.bytes.drop state.x = rest) :
    ∃ count final coded, Loop.Ends (decodeRound sign indata) state count final
        (some ⟨coded.ret, state.stores ++ coded.stores⟩) ∧ count ≤ rest.length ∧
      decodeLoop sign rest state.t state.y state.i state.g = some coded := by
  induction rest generalizing state with
  | nil =>
    have beyond : text.bytes.length ≤ state.x := List.drop_eq_nil_iff.mp here
    have ended : indata state.x = 0 := by
      rw [holds _ within]
      simp [Memory.ofBytes, beyond]
    exact ⟨0, state, ⟨state.i, []⟩, .at_once (by simp [decodeRound, ended]), Nat.le_refl 0, rfl⟩
  | cons byte rest ih =>
    have inside : state.x < text.bytes.length := by
      by_contra outside
      rw [List.drop_eq_nil_of_le (Nat.not_lt.mp outside)] at here
      cases here
    rw [List.drop_eq_getElem_cons inside, List.cons.injEq] at here
    obtain ⟨rfl, later⟩ := here
    have read : indata state.x = text.bytes[state.x] := by
      rw [holds _ within]
      simp [Memory.ofBytes, inside]
    have member : text.bytes[state.x] ∈ text.bytes := List.getElem_mem inside
    have notNul : text.bytes[state.x] ≠ 0 := fun zero => text.noNul (zero ▸ member)
    rcases decodeRound_cons read notNul (inTable _ member) rest with
      ⟨coded, ended, decoded⟩ | ⟨after, added, goes, moved, stored, decoded⟩
    · exact ⟨0, state, coded, .at_once ended, Nat.zero_le _, decoded⟩
    · obtain ⟨count, final, coded, ends, few, remaining⟩ :=
        @ih after (moved ▸ inside) (moved ▸ later)
      rw [stored, List.append_assoc] at ends
      refine ⟨count + 1, final, ⟨coded.ret, added ++ coded.stores⟩, ends.before goes,
        Nat.succ_le_succ few, ?_⟩
      rw [decoded, remaining, Option.map_some]

/-- Every string of ASCII characters is decoded inside these bounds: no round reads past
the terminator, the call returns, and a result that is no error is at most three quarters
of the length. -/
structure DecodesBounded (sign : CharSign) (indata : Memory) (text : CString) : Prop where
  bounded : ∀ count state, Loop.Reaches (decodeRound sign indata) .start count state →
    state.Bounded sign indata text
  ends : ∃ count final coded, count ≤ text.strlen ∧
    Loop.Ends (decodeRound sign indata) .start count final (some coded) ∧
    base64Decode sign (some text.bytes) text.strlen =
      if text.strlen = 0 then some ⟨-1, []⟩ else if text.strlen % 4 ≠ 0 then some ⟨-2, []⟩
      else some coded
  returned : ∃ coded, base64Decode sign (some text.bytes) text.strlen = some coded ∧
    coded.stores.map Prod.fst = List.range coded.stores.length ∧
    (0 ≤ coded.ret → coded.ret ≤ 3 * text.strlen / 4)

private theorem decodeRound_done {coded : Coded}
    (ended : decodeRound sign indata state = .done (some coded)) :
    coded.stores = state.stores ∧ (0 ≤ coded.ret → coded.ret = state.i) := by
  unfold decodeRound at ended
  split at ended
  · cases ended
    exact ⟨rfl, fun _ => rfl⟩
  · split at ended
    · cases ended
    · dsimp only at ended
      split at ended
      · cases ended
        exact ⟨rfl, fun accepted => by cases accepted⟩
      · split at ended
        · cases ended
        · split at ended <;> cases ended

private theorem Decoding.Invariant.returned {coded : Coded} (last : state.Invariant text)
    (ended : decodeRound sign indata state = .done (some coded)) :
    coded.stores.map Prod.fst = List.range coded.stores.length ∧
      (0 ≤ coded.ret → coded.ret ≤ 3 * text.strlen / 4) := by
  obtain ⟨stored, accepted⟩ := decodeRound_done ended
  constructor
  · have positions := last.stores
    have length := congrArg List.length positions
    rw [List.length_map, List.length_range] at length
    rw [stored, length, positions]
  · intro nonneg
    have counted : (significant (text.bytes.take state.x)).length ≤ text.strlen := by
      have kept := List.length_filter_le (fun byte => !skippable byte) (text.bytes.take state.x)
      rw [List.length_take] at kept
      exact Nat.le_trans kept (Nat.min_le_right _ _)
    have output := last.output
    rw [accepted nonneg]
    omega

/-- The two tests in front of the loop. -/
private theorem base64Decode_call (sign : CharSign) (text : CString) :
    base64Decode sign (some text.bytes) text.strlen =
      if text.strlen = 0 then some ⟨-1, []⟩ else if text.strlen % 4 ≠ 0 then some ⟨-2, []⟩
      else decodeLoop sign text.bytes 0 0 0 3 := by
  split
  · rename_i empty
    rw [empty, base64Decode_empty]
  · rename_i nonempty
    split
    · rename_i uneven
      exact base64Decode_uneven sign text.bytes uneven
    · rename_i even
      exact base64Decode_whole sign text.bytes nonempty (not_not.mp even)

theorem base64Decode_bounded (sign : CharSign) (holds : Stored indata text)
    (isAscii : IsAscii text.bytes) : DecodesBounded sign indata text := by
  have invariant {count : Nat} {state : Decoding}
      (reached : Loop.Reaches (decodeRound sign indata) .start count state) : state.Invariant text :=
    reached.invariant (start_invariant text) fun _ _ before goes => before.kept holds goes
  have inTable : ∀ byte ∈ text.bytes, 0 ≤ sign.value byte := fun byte member =>
    (value_nonneg_iff sign byte).mpr (.inr (isAscii byte member))
  obtain ⟨count, final, coded, ends, few, decoded⟩ :=
    @decodeRound_ends sign indata text holds inTable text.bytes .start (Nat.zero_le _) rfl
  have ends : Loop.Ends (decodeRound sign indata) .start count final (some coded) := ends
  have decoded : decodeLoop sign text.bytes 0 0 0 3 = some coded := decoded
  have called := base64Decode_call sign text
  rw [decoded] at called
  refine ⟨fun count state reached => (invariant reached).bounded,
    ⟨count, final, coded, few, ends, called⟩, ?_⟩
  rw [called]
  split
  · exact ⟨_, rfl, rfl, fun refused => by cases refused⟩
  · split
    · exact ⟨_, rfl, rfl, fun refused => by cases refused⟩
    · exact ⟨coded, rfl, (invariant ends.reached).returned ends.ended⟩

/-- A text with padding in front, a skipped character and an unknown one. -/
theorem base64Decode_bounded_malformed :
    DecodesBounded .signed (.ofBytes (ascii "==QUJD\r*")) (.literal "==QUJD\r*") :=
  base64Decode_bounded .signed (fun _ _ => rfl) (by decide)

end IotstackDriver.Edge
