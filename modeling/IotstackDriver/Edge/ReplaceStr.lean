import IotstackDriver.Libc.Strings
import IotstackDriver.Support.Replace
import Mathlib.Data.List.GetD

/-! `_count_string` and `_replace_str` of `client.c`. -/

namespace IotstackDriver.Edge

open Libc Support

/-- The rounds of the counting loop from `posStart` on. A round passes over a key, so
with a key that is not empty there are fewer of them than characters. -/
def countStringLoop (key : Bytes) : Nat → Bytes → Nat
  | 0, _ => 0
  | rounds + 1, posStart =>
    match strstr posStart key with
    | none => 0
    | some posEnd => countStringLoop key rounds (posEnd.drop key.length) + 1

def countString (data key : Bytes) : Nat := countStringLoop key (data.length + 1) data

/-- The stores of a `strcpy`. -/
def strcpy (start : Nat) (text : Bytes) : List (Nat × UInt8) := consecutive start (text ++ [0])

/-- The copying loop from `posStart` on, with `pbuf` the position it writes to, and the
copy of the rest after it. -/
def replaceLoop (rep new : Bytes) : Nat → Bytes → Nat → List (Nat × UInt8)
  | 0, posStart, pbuf => strcpy pbuf posStart
  | rounds + 1, posStart, pbuf =>
    match strstr posStart rep with
    | none => strcpy pbuf posStart
    | some posEnd =>
      let copyLen := posStart.length - posEnd.length
      consecutive pbuf (posStart.take copyLen) ++ strcpy (pbuf + copyLen) new ++
        replaceLoop rep new rounds (posEnd.drop rep.length) (pbuf + copyLen + new.length)

/-- The stores of `_replace_str` into `new_buf`. -/
def replaceStr (data rep new : Bytes) : List (Nat × UInt8) :=
  if countString data rep = 0 then strcpy 0 data
  else replaceLoop rep new (data.length + 1) data 0

/-- The buffer of that size after `_replace_str`; `none` is a store outside. -/
def replaceInto (size : Nat) (newBuf : Memory) (data rep new : Bytes) : Option Memory :=
  let stores := replaceStr data rep new
  if stores.all fun store => store.1 < size then some (newBuf.storeAll stores) else none

/-- The stores leave a text and its NUL from `start` on and touch nothing else. -/
structure LeavesText (start : Nat) (text : Bytes) (stores : List (Nat × UInt8)) : Prop where
  content : ∀ (memory : Memory) offset, offset ≤ text.length →
    memory.storeAll stores (start + offset) = text.getD offset 0
  inside : ∀ store ∈ stores, start ≤ store.1 ∧ store.1 ≤ start + text.length
  ended : (start + text.length, 0) ∈ stores

theorem strcpy_leaves (start : Nat) (text : Bytes) : LeavesText start text (strcpy start text) := by
  have length : (text ++ [0]).length = text.length + 1 := List.length_append
  constructor
  · intro memory offset within
    have inside : start ≤ start + offset ∧ start + offset < start + (text ++ [0]).length := by
      omega
    rw [strcpy, storeAll_consecutive, if_pos inside, Nat.add_sub_cancel_left]
    rcases Nat.lt_or_eq_of_le within with before | same
    · simp [before, List.getElem?_append_left before]
    · simp [same]
  · intro store member
    have bound := mem_consecutive member
    have from_start := le_of_mem_consecutive member
    omega
  · simp [strcpy, consecutive_append, consecutive]

/-- A round of the loop, in front of what is stored after it. -/
theorem LeavesText.round {start : Nat} {before new rest : Bytes} {stores : List (Nat × UInt8)}
    (later : LeavesText (start + before.length + new.length) rest stores) :
    LeavesText start (before ++ new ++ rest)
      (consecutive start before ++ strcpy (start + before.length) new ++ stores) := by
  have copied := strcpy_leaves (start + before.length) new
  constructor
  · intro memory offset within
    simp only [List.length_append] at within
    rw [storeAll_append]
    rcases Nat.lt_or_ge offset (before.length + new.length) with early | late
    · have untouched : start + offset ∉ stores.map Prod.fst := by
        intro member
        obtain ⟨store, stored, same⟩ := List.mem_map.mp member
        have bounds := later.inside store stored
        omega
      rw [storeAll_of_notMem _ untouched, storeAll_append,
        List.getD_append _ _ _ _ (by rw [List.length_append]; exact early)]
      rcases Nat.lt_or_ge offset before.length with first | second
      · have notCopied : start + offset ∉ (strcpy (start + before.length) new).map Prod.fst := by
          intro member
          obtain ⟨store, stored, same⟩ := List.mem_map.mp member
          have bounds := copied.inside store stored
          omega
        rw [storeAll_of_notMem _ notCopied, storeAll_consecutive, if_pos (by omega),
          Nat.add_sub_cancel_left, List.getD_append _ _ _ _ first]
      · obtain ⟨past, rfl⟩ := Nat.exists_eq_add_of_le second
        have stored := copied.content (memory.storeAll (consecutive start before)) past (by omega)
        rw [← Nat.add_assoc, stored, List.getD_append_right _ _ _ _ second, Nat.add_sub_cancel_left]
    · obtain ⟨past, rfl⟩ := Nat.exists_eq_add_of_le late
      have stored := later.content (memory.storeAll
        (consecutive start before ++ strcpy (start + before.length) new)) past (by omega)
      have position : start + (before.length + new.length + past) =
          start + before.length + new.length + past := by omega
      rw [position, stored, List.getD_append_right _ _ _ _ (by rw [List.length_append]; exact late),
        List.length_append, Nat.add_sub_cancel_left]
  · intro store member
    simp only [List.length_append]
    rcases List.mem_append.mp member with early | late
    · rcases List.mem_append.mp early with first | second
      · have bound := mem_consecutive first
        have from_start := le_of_mem_consecutive first
        omega
      · have bounds := copied.inside store second
        omega
    · have bounds := later.inside store late
      omega
  · have ended := List.mem_append_right (consecutive start before ++ strcpy (start + before.length) new)
      later.ended
    simpa [Nat.add_assoc] using ended

/-- What a search finds is the first occurrence, which is replaced first. -/
theorem strstr_some {text key posEnd : Bytes} (nonempty : key ≠ [])
    (found : strstr text key = some posEnd) :
    ∃ before rest, text = before ++ posEnd ∧ posEnd = key ++ rest ∧
      (∀ new, Replace.replaceAll key new text = before ++ new ++ Replace.replaceAll key new rest) ∧
      Replace.occurrences key text = Replace.occurrences key rest + 1 := by
  induction text with
  | nil => simp [strstr, nonempty] at found
  | cons head rest ih =>
    rw [strstr] at found
    split at found
    · rename_i begins
      cases found
      obtain ⟨after, same⟩ := List.isPrefixOf_iff_prefix.mp begins
      refine ⟨[], after, rfl, same.symm, fun new => ?_, ?_⟩
      · rw [← same, Replace.replaceAll_found nonempty, List.nil_append]
      · rw [← same, Replace.occurrences_found nonempty]
    · rename_i other
      have absent := mt List.isPrefixOf_iff_prefix.mpr other
      obtain ⟨before, after, rfl, same, replaced, counted⟩ := ih found
      refine ⟨head :: before, after, rfl, same, fun new => ?_, ?_⟩
      · rw [Replace.replaceAll_other absent, replaced new]
        rfl
      · rw [Replace.occurrences_other absent, counted]

theorem strstr_none {text key : Bytes} (missing : strstr text key = none) : ¬ key <:+: text := by
  rw [← strstr_isSome_iff, missing]
  exact Bool.false_ne_true

/-- The count is the number of replacements. -/
theorem countString_eq (data : Bytes) {key : Bytes} (nonempty : key ≠ []) :
    countString data key = Replace.occurrences key data := by
  have loop : ∀ rounds posStart, posStart.length < rounds →
      countStringLoop key rounds posStart = Replace.occurrences key posStart := by
    intro rounds
    induction rounds with
    | zero => intro posStart few; omega
    | succ rounds ih =>
      intro posStart few
      rw [countStringLoop]
      cases found : strstr posStart key with
      | none => exact ((Replace.occurrences_eq_zero_iff nonempty _).mpr (strstr_none found)).symm
      | some posEnd =>
        obtain ⟨before, rest, rfl, rfl, -, counted⟩ := strstr_some nonempty found
        have positive := List.length_pos_iff.mpr nonempty
        simp only [List.length_append] at few
        dsimp only
        rw [List.drop_left, counted, ih rest (by omega)]
  exact loop _ data (Nat.lt_succ_self _)

/-- `_replace_str` leaves the text with every occurrence replaced. -/
theorem replaceStr_leaves (data new : Bytes) {rep : Bytes} (nonempty : rep ≠ []) :
    LeavesText 0 (Replace.replaceAll rep new data) (replaceStr data rep new) := by
  have loop : ∀ rounds posStart pbuf, posStart.length < rounds →
      LeavesText pbuf (Replace.replaceAll rep new posStart) (replaceLoop rep new rounds posStart pbuf) := by
    intro rounds
    induction rounds with
    | zero => intro posStart pbuf few; omega
    | succ rounds ih =>
      intro posStart pbuf few
      rw [replaceLoop]
      cases found : strstr posStart rep with
      | none =>
        rw [Replace.replaceAll_of_absent (strstr_none found)]
        exact strcpy_leaves pbuf posStart
      | some posEnd =>
        obtain ⟨before, rest, rfl, rfl, replaced, -⟩ := strstr_some nonempty found
        have positive := List.length_pos_iff.mpr nonempty
        have copyLen : (before ++ (rep ++ rest)).length - (rep ++ rest).length = before.length := by
          simp
        simp only [List.length_append] at few
        dsimp only
        rw [copyLen, List.take_left, List.drop_left, replaced]
        exact (ih rest _ (by omega)).round
  rw [replaceStr, countString_eq data nonempty]
  split
  · rename_i none
    rw [Replace.replaceAll_of_absent ((Replace.occurrences_eq_zero_iff nonempty data).mp none)]
    exact strcpy_leaves 0 data
  · exact loop _ data 0 (Nat.lt_succ_self _)

theorem LeavesText.below_iff {text : Bytes} {stores : List (Nat × UInt8)} (leaves : LeavesText 0 text stores)
    (limit : Nat) : (∀ store ∈ stores, store.1 < limit) ↔ text.length < limit := by
  constructor
  · intro below
    simpa using below _ leaves.ended
  · intro fits store member
    have bounds := leaves.inside store member
    omega

theorem LeavesText.cString {text : Bytes} {stores : List (Nat × UInt8)} (leaves : LeavesText 0 text stores)
    (noNul : 0 ∉ text) {limit : Nat} (fits : text.length < limit) (memory : Memory) :
    (memory.storeAll stores).cString limit = text := by
  refine cString_of_terminated (fun k inside => ?_) ?_ noNul fits
  · have stored := leaves.content memory k (by omega)
    rw [Nat.zero_add] at stored
    simp [stored, inside]
  · have stored := leaves.content memory text.length (Nat.le_refl _)
    rw [Nat.zero_add] at stored
    simp [stored]

/-- The text that is left is a C string. -/
theorem replaceAll_noNul (data new : CString) {rep : Bytes} (nonempty : rep ≠ []) :
    0 ∉ Replace.replaceAll rep new.bytes data.bytes := by
  intro member
  rcases Replace.mem_replaceAll nonempty member with given | written
  · exact data.noNul given
  · exact new.noNul written

section Sites

variable {data rep new : Bytes} {size : Nat} (newBuf : Memory)

theorem replaceInto_fits (nonempty : rep ≠ [])
    (fits : (Replace.replaceAll rep new data).length < size) :
    replaceInto size newBuf data rep new = some (newBuf.storeAll (replaceStr data rep new)) := by
  have inside := ((replaceStr_leaves data new nonempty).below_iff size).mpr fits
  rw [replaceInto, if_pos (by simpa using inside)]

theorem replaceInto_overruns (nonempty : rep ≠ [])
    (long : ¬ (Replace.replaceAll rep new data).length < size) :
    replaceInto size newBuf data rep new = none := by
  have outside := mt ((replaceStr_leaves data new nonempty).below_iff size).mp long
  rw [replaceInto, if_neg (by simpa using outside)]

/-- Where the new word is longer by one, each occurrence takes one more byte. -/
theorem replaceStr_inside_iff (nonempty : rep ≠ []) (longer : new.length = rep.length + 1) :
    (∀ store ∈ replaceStr data rep new, store.1 < size) ↔
      data.length + Replace.occurrences rep data < size := by
  have length := Replace.replaceAll_length nonempty new data
  rw [longer, Nat.mul_succ] at length
  rw [(replaceStr_leaves data new nonempty).below_iff]
  omega

end Sites

end IotstackDriver.Edge
