import IotstackDriver.Edge.ReplaceStr
import IotstackDriver.Support.Loop

/-! The loops of `_count_string` and `_replace_str`, round by round. -/

namespace IotstackDriver.Edge

open Libc Support

/-- `pos_start` and `count`, with the result at the end. -/
def countRound (key : Bytes) (state : Bytes × Nat) : Round (Bytes × Nat) Nat :=
  match strstr state.1 key with
  | none => .done state.2
  | some posEnd => .next (posEnd.drop key.length, state.2 + 1)

/-- What the copying loop holds, and the stores it has made. -/
structure Copying where
  posStart : Bytes
  pbuf : Nat
  stores : List (Nat × UInt8)

/-- The copy of the rest is made after the loop. -/
def copyRound (rep new : Bytes) (state : Copying) : Round Copying (List (Nat × UInt8)) :=
  match strstr state.posStart rep with
  | none => .done (state.stores ++ strcpy state.pbuf state.posStart)
  | some posEnd =>
    let copyLen := state.posStart.length - posEnd.length
    let copied := consecutive state.pbuf (state.posStart.take copyLen)
    let pbuf := state.pbuf + copyLen
    .next ⟨posEnd.drop rep.length, pbuf + new.length, state.stores ++ copied ++ strcpy pbuf new⟩

variable {key rep : Bytes}

/-- A text goes on to an occurrence, or holds none. -/
private theorem strstr_induction {motive : Bytes → Prop} (nonempty : key ≠ [])
    (last : ∀ text, strstr text key = none → motive text)
    (found : ∀ before rest, strstr (before ++ (key ++ rest)) key = some (key ++ rest) →
      motive rest → motive (before ++ (key ++ rest)))
    (text : Bytes) : motive text := by
  induction size : text.length using Nat.strong_induction_on generalizing text with
  | _ size' ih =>
    subst size
    cases search : strstr text key with
    | none => exact last text search
    | some posEnd =>
      obtain ⟨before, rest, rfl, rfl, -, -⟩ := strstr_some nonempty search
      have positive := List.length_pos_iff.mpr nonempty
      have shorter : rest.length < (before ++ (key ++ rest)).length := by
        simp only [List.length_append]
        omega
      exact found before rest search (ih rest.length shorter rest rfl)

private theorem occurrences_of_found (nonempty : key ≠ []) {before rest : Bytes}
    (search : strstr (before ++ (key ++ rest)) key = some (key ++ rest)) :
    Replace.occurrences key (before ++ (key ++ rest)) = Replace.occurrences key rest + 1 := by
  obtain ⟨before', rest', whole, same, -, counted⟩ := strstr_some nonempty search
  rw [counted, List.append_cancel_left same]

/-- The counting loop is over after as many rounds as there are occurrences. -/
theorem countRound_ends (nonempty : key ≠ []) (data : Bytes) (count : Nat) : ∃ final,
    Loop.Ends (countRound key) (data, count) (Replace.occurrences key data) final
      (count + Replace.occurrences key data) := by
  induction data using strstr_induction nonempty generalizing count with
  | last text missing =>
    have none := (Replace.occurrences_eq_zero_iff nonempty text).mpr (strstr_none missing)
    rw [none]
    exact ⟨_, .at_once (by simp [countRound, missing])⟩
  | found before rest search ih =>
    obtain ⟨final, ends⟩ := ih (count + 1)
    rw [occurrences_of_found nonempty search]
    refine ⟨final, .before (by rw [countRound, search]) ?_⟩
    rw [Nat.add_assoc, Nat.add_comm 1] at ends
    simpa only [List.drop_left] using ends

/-- So is the copying loop, and it makes the stores of `replaceLoop`. -/
theorem copyRound_ends (nonempty : rep ≠ []) (new data : Bytes) (pbuf : Nat)
    (stores : List (Nat × UInt8)) {rounds : Nat} (enough : Replace.occurrences rep data < rounds) :
    ∃ final, Loop.Ends (copyRound rep new) ⟨data, pbuf, stores⟩ (Replace.occurrences rep data) final
      (stores ++ replaceLoop rep new rounds data pbuf) := by
  induction data using strstr_induction nonempty generalizing pbuf stores rounds with
  | last text missing =>
    have none := (Replace.occurrences_eq_zero_iff nonempty text).mpr (strstr_none missing)
    obtain ⟨rounds, rfl⟩ := Nat.exists_eq_succ_of_ne_zero (Nat.ne_zero_of_lt enough)
    rw [none]
    exact ⟨_, .at_once (by simp [copyRound, replaceLoop, missing])⟩
  | found before rest search ih =>
    rw [occurrences_of_found nonempty search] at enough ⊢
    obtain ⟨rounds, rfl⟩ := Nat.exists_eq_succ_of_ne_zero (Nat.ne_zero_of_lt enough)
    have copyLen : (before ++ (rep ++ rest)).length - (rep ++ rest).length = before.length := by simp
    obtain ⟨final, ends⟩ := ih (pbuf + before.length + new.length)
      (stores ++ consecutive pbuf before ++ strcpy (pbuf + before.length) new)
      (Nat.lt_of_succ_lt_succ enough)
    refine ⟨final, .before (by rw [copyRound, search]) ?_⟩
    rw [replaceLoop, search]
    simp only [copyLen, List.take_left, List.drop_left]
    simpa only [List.append_assoc] using ends

/-- The count is in the range of `int` wherever the length of the string is. -/
theorem countString_le (data : Bytes) (nonempty : key ≠ []) : countString data key ≤ data.length := by
  rw [countString_eq data nonempty]
  have positive := List.length_pos_iff.mpr nonempty
  induction data using Replace.occurrence_induction nonempty with
  | nil => exact Nat.le_refl 0
  | other head rest other ih =>
    rw [Replace.occurrences_other other]
    exact Nat.le_succ_of_le ih
  | found rest ih =>
    rw [Replace.occurrences_found nonempty, List.length_append]
    omega

/-- Both loops are over after as many rounds as `_count_string` counts, where nothing is
counted the copying loop is not entered, and a buffer that is large enough holds the text. -/
structure Replaced (data rep new : CString) : Prop where
  counted : ∃ final, Loop.Ends (countRound rep.bytes) (data.bytes, 0)
    (countString data.bytes rep.bytes) final (countString data.bytes rep.bytes)
  copied : countString data.bytes rep.bytes ≠ 0 → ∃ final,
    Loop.Ends (copyRound rep.bytes new.bytes) ⟨data.bytes, 0, []⟩ (countString data.bytes rep.bytes)
      final (replaceStr data.bytes rep.bytes new.bytes)
  text : ∀ size newBuf, (Replace.replaceAll rep.bytes new.bytes data.bytes).length < size →
    ∃ memory, replaceInto size newBuf data.bytes rep.bytes new.bytes = some memory ∧
      memory.cString size = Replace.replaceAll rep.bytes new.bytes data.bytes ∧
      memory (Replace.replaceAll rep.bytes new.bytes data.bytes).length = 0
  length : ((Replace.replaceAll rep.bytes new.bytes data.bytes).length : Int) =
    data.strlen + countString data.bytes rep.bytes * ((new.strlen : Int) - rep.strlen)

theorem replaceStr_replaced (data rep new : CString) (nonempty : rep.bytes ≠ []) :
    Replaced data rep new := by
  have counts := countString_eq data.bytes nonempty
  constructor
  · obtain ⟨final, ends⟩ := countRound_ends nonempty data.bytes 0
    rw [counts]
    exact ⟨final, by simpa using ends⟩
  · intro some
    have enough : Replace.occurrences rep.bytes data.bytes < data.bytes.length + 1 := by
      have few := countString_le data.bytes nonempty
      omega
    obtain ⟨final, ends⟩ := copyRound_ends nonempty new.bytes data.bytes 0 [] enough
    rw [replaceStr, if_neg some, counts]
    exact ⟨final, ends⟩
  · intro size newBuf fits
    have leaves := replaceStr_leaves data.bytes new.bytes nonempty
    have ended := leaves.content newBuf _ (Nat.le_refl _)
    refine ⟨_, replaceInto_fits newBuf nonempty fits,
      leaves.cString (replaceAll_noNul data new nonempty) fits newBuf, ?_⟩
    simpa using ended
  · have length := Replace.replaceAll_length nonempty new.bytes data.bytes
    rw [counts, CString.strlen, CString.strlen, CString.strlen, Int.mul_sub]
    omega

/-- Overlapping occurrences, and a new text that holds the old one. -/
theorem replaceStr_replaced_overlap : Replaced (.literal "aaab") (.literal "aa") (.literal "baab") :=
  replaceStr_replaced _ _ _ (by decide)

end IotstackDriver.Edge
