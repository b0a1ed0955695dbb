import IotstackDriver.Edge.Client

/-! What `base64_decode` stores and returns, whatever the text is. -/

namespace IotstackDriver.Edge

open Libc Support

/-- The stores fill the positions from `start` on in order, and a result that is no
error is the position after them. -/
structure Coded.Ordered (start : Nat) (coded : Coded) : Prop where
  stores : coded.stores = consecutive start (coded.stores.map Prod.snd)
  ret : 0 ≤ coded.ret → coded.ret = (start + coded.stores.length : Nat)

theorem decodeGroup_consecutive (t i : Nat) (g : Int) :
    decodeGroup t i g = consecutive i ((decodeGroup t i g).map Prod.snd) := by
  unfold decodeGroup
  by_cases third : g > 2
  · have second : g > 1 := by omega
    simp [second, third, consecutive]
  · by_cases second : g > 1 <;> simp [second, third, consecutive]

theorem decodeGroup_length_le (t i : Nat) (g : Int) : (decodeGroup t i g).length ≤ 3 := by
  unfold decodeGroup
  split <;> split <;> simp

private theorem refused_ordered (start : Nat) : Coded.Ordered start ⟨-1, []⟩ :=
  ⟨rfl, fun accepted => by cases accepted⟩

private theorem ended_ordered (start : Nat) : Coded.Ordered start ⟨start, []⟩ := ⟨rfl, fun _ => rfl⟩

/-- A group in front of what is stored after it. -/
private theorem Coded.Ordered.group {start : Nat} {group : List (Nat × UInt8)} {later : Coded}
    (first : group = consecutive start (group.map Prod.snd))
    (ordered : later.Ordered (start + group.length)) :
    Coded.Ordered start ⟨later.ret, group ++ later.stores⟩ := by
  constructor
  · rw [List.map_append, consecutive_append, ← first, List.length_map, ← ordered.stores]
  · intro accepted
    rw [ordered.ret accepted, List.length_append, Nat.add_assoc]

theorem decodeLoop_ordered {sign : CharSign} {text : Bytes} {t y i : Nat} {g : Int} {coded : Coded}
    (decoded : decodeLoop sign text t y i g = some coded) : coded.Ordered i := by
  induction text generalizing t y i g coded with
  | nil =>
    cases decoded
    exact ended_ordered i
  | cons byte rest ih =>
    rw [decodeLoop] at decoded
    split at decoded
    · cases decoded
      exact ended_ordered i
    · obtain ⟨c, looked, decoded⟩ := Option.bind_eq_some_iff.mp decoded
      split at decoded
      · cases decoded
        exact refused_ordered i
      · split at decoded
        · exact ih decoded
        · dsimp only at decoded
          split at decoded
          · obtain ⟨later, stored, decoded⟩ := Option.bind_eq_some_iff.mp decoded
            cases decoded
            exact .group (decodeGroup_consecutive ..) (ih stored)
          · exact ih decoded

theorem base64Decode_ordered {sign : CharSign} {indata : Option Bytes} {inlen : Int} {coded : Coded}
    (decoded : base64Decode sign indata inlen = some coded) : coded.Ordered 0 := by
  cases indata with
  | none =>
    cases decoded
    exact refused_ordered 0
  | some indata =>
    rw [base64Decode] at decoded
    split at decoded
    · cases decoded
      exact refused_ordered 0
    · split at decoded
      · cases decoded
        exact ⟨rfl, fun accepted => by cases accepted⟩
      · exact decodeLoop_ordered decoded

/-- The string in the buffer is no longer than what was stored. -/
theorem Coded.Ordered.text_length {coded : Coded} (ordered : coded.Ordered 0) :
    coded.text.length ≤ coded.stores.length := by
  rw [Coded.text, ordered.stores, storeAll_zero_consecutive, ← ordered.stores]
  refine cString_length_le ?_ _
  simp [Memory.ofBytes]

end IotstackDriver.Edge
