import IotstackDriver.Edge.CallProtocol
import IotstackDriver.Edge.BroadcastReply

/-! The entries of `requestid_list`, by how far the calls are that created them. -/

namespace IotstackDriver.Edge

open Libc Support

/-- The registry lost this entry, which was listed once, and nothing else changed. -/
structure RemovesOnly (node : Ref) (before after : Registry MsgParse) : Prop where
  once : before.entries.count node = 1
  entries : after.entries = before.entries.erase node
  released : after.live node = false
  others : ∀ other, other ≠ node →
    after.value? other = before.value? other ∧ after.live other = before.live other

/-- A removal takes exactly the entry its test finds, when that is listed once. -/
theorem removesOnly_of_find? {requests : Registry MsgParse} {test : MsgParse → Bool} {node : Ref}
    (once : requests.entries.count node = 1) (first : requests.find? test = some node) :
    RemovesOnly node requests (requests.remove test) := by
  refine ⟨once, ?_, ?_, ?_⟩
  · obtain ⟨hit, before, after, same, unmatched⟩ := Registry.find?_eq_some_iff.mp first
    have absent : node ∉ before := fun member => by simp [unmatched node member] at hit
    rw [Registry.remove_entries, same, List.eraseP_append_right _ (by simpa using unmatched),
      List.eraseP_cons_of_pos hit, List.erase_append_right _ absent, List.erase_cons_head]
  · simp [Registry.remove_live, first]
  · intro other different
    simp [Registry.remove_live, first, different.symm]

/-- A phase that a call's step did not bring about is the phase of another call. -/
theorem phase_of_update [DecidableEq ι] {phases : ι → CallPhase} {i j : ι} {now phase : CallPhase}
    (found : Function.update phases i now j = phase) (differ : now ≠ phase) :
    j ≠ i ∧ phases j = phase := by
  have other : j ≠ i := by
    rintro rfl
    rw [Function.update_self] at found
    exact differ found
  rw [Function.update_of_ne other] at found
  exact ⟨other, found⟩

/-- Every entry with the id of a call is the call's own, and what it holds was sent to it. -/
structure EntriesHold (ids : ι → UInt32) (replied : UInt32 → Bytes → Prop) (phases : ι → CallPhase)
    (requests : Registry MsgParse) : Prop where
  own : ∀ node ∈ requests.entries, ∀ entry, requests.value? node = some entry →
    ∀ i, entry.requestId = ids i → phases i = .listed node
  created : ∀ i node, phases i = .created node →
    node ∉ requests.entries ∧ requests.value? node = some ⟨ids i, .zero⟩
  listed : ∀ i node, phases i = .listed node → requests.entries.count node = 1 ∧
    ∃ entry, requests.value? node = some entry ∧ entry.requestId = ids i ∧
      (entry.payload.cString natsMsgMaxLen = [] ∨
        replied (ids i) (entry.payload.cString natsMsgMaxLen))

namespace EntriesHold

variable {ids : ι → UInt32} {replied : UInt32 → Bytes → Prop} {phases : ι → CallPhase}
  {requests after : Registry MsgParse} {i : ι} {node : Ref}

theorem sameContent (holds : EntriesHold ids replied phases requests)
    (same : SameContent requests after) : EntriesHold ids replied phases after := by
  have value : after.value? = requests.value? := by
    funext ref
    rw [Registry.value?, Registry.value?, same.cells]
  constructor
  · rw [same.entries, value]
    exact holds.own
  · rw [same.entries, value]
    exact holds.created
  · rw [same.entries, value]
    exact holds.listed

theorem mono {more : UInt32 → Bytes → Prop} (holds : EntriesHold ids replied phases requests)
    (implied : ∀ id text, replied id text → more id text) :
    EntriesHold ids more phases requests where
  own := holds.own
  created := holds.created
  listed i node listed := by
    obtain ⟨once, entry, found, same, content⟩ := holds.listed i node listed
    exact ⟨once, entry, found, same, content.imp_right (implied _ _)⟩

/-- A call's own entry is the one a search for its id finds. -/
theorem find?_own (holds : EntriesHold ids replied phases requests)
    (listed : phases i = .listed node) : requests.find? (msgParseMatch (ids i)) = some node := by
  obtain ⟨once, entry, found, same, -⟩ := holds.listed i node listed
  have member : node ∈ requests.entries := List.count_pos_iff.mp (by omega)
  have hit : requests.matching (msgParseMatch (ids i)) node = true := by
    simp [Registry.matching, found, msgParseMatch, same]
  have some : (requests.find? (msgParseMatch (ids i))).isSome = true :=
    List.find?_isSome.mpr ⟨node, member, hit⟩
  obtain ⟨first, first?⟩ := Option.isSome_iff_exists.mp some
  obtain ⟨other, present, passed⟩ :=
    (Option.any_eq_true ..).mp (Registry.find?_matching first?)
  have theirs : other.requestId = ids i := by
    simpa [msgParseMatch] using (beq_iff_eq.mp passed).symm
  have phase := holds.own first (Registry.find?_mem first?) other present i theirs
  cases listed.symm.trans phase
  exact first?

/-- The removal of a call's own entry takes exactly that entry. -/
theorem removesOnly (holds : EntriesHold ids replied phases requests)
    (listed : phases i = .listed node) :
    RemovesOnly node requests (requests.remove (msgParseMatch (ids i))) :=
  removesOnly_of_find? (holds.listed i node listed).1 (holds.find?_own listed)

section Steps

variable [DecidableEq ι]

theorem alloc (holds : EntriesHold ids replied phases requests) (free : phases i = .unregistered) :
    EntriesHold ids replied (Function.update phases i (.created requests.size))
      (requests.alloc ⟨ids i, .zero⟩) := by
  constructor
  · intro node member entry found j same
    have old : node ≠ requests.size := Nat.ne_of_lt (requests.entriesAllocated node member)
    rw [Registry.alloc_value?, if_neg old] at found
    have phase := holds.own node member entry found j same
    have other : j ≠ i := by
      rintro rfl
      cases free.symm.trans phase
    rwa [Function.update_of_ne other]
  · intro j node created
    by_cases same : j = i
    · subst same
      rw [Function.update_self] at created
      cases created
      refine ⟨fun member => Nat.lt_irrefl _ (requests.entriesAllocated _ member), ?_⟩
      rw [Registry.alloc_value?, if_pos rfl]
    · rw [Function.update_of_ne same] at created
      obtain ⟨unlisted, found⟩ := holds.created j node created
      have old : node ≠ requests.size := by
        rintro rfl
        cases Registry.value?_fresh.symm.trans found
      exact ⟨unlisted, by rw [Registry.alloc_value?, if_neg old, found]⟩
  · intro j node listed
    obtain ⟨-, listed⟩ := phase_of_update listed nofun
    obtain ⟨once, entry, found, same, content⟩ := holds.listed j node listed
    have old : node ≠ requests.size := by
      rintro rfl
      cases Registry.value?_fresh.symm.trans found
    exact ⟨once, entry, by rw [Registry.alloc_value?, if_neg old, found], same, content⟩

/-- Two calls hold different entries when their ids differ. -/
private theorem node_ne {other : Ref} {entry own : MsgParse} (differ : entry.requestId ≠ own.requestId)
    (found : requests.value? other = some entry) (mine : requests.value? node = some own) :
    other ≠ node := by
  rintro rfl
  cases found.symm.trans mine
  exact differ rfl

theorem push (holds : EntriesHold ids replied phases requests)
    (distinct : ∀ i j, ids i = ids j → i = j) (created : phases i = .created node) :
    EntriesHold ids replied (Function.update phases i (.listed node)) (requests.push node) := by
  obtain ⟨unlisted, mine⟩ := holds.created i node created
  have inside : node < requests.size := Registry.value?_isSome.mp (by simp [mine])
  constructor
  · intro entryNode member entry found j same
    rw [Registry.push_entries inside] at member
    rw [Registry.push_value?] at found
    rcases List.mem_append.mp member with old | new
    · have phase := holds.own entryNode old entry found j same
      have other : j ≠ i := by
        rintro rfl
        cases created.symm.trans phase
      rwa [Function.update_of_ne other]
    · cases List.mem_singleton.mp new
      cases mine.symm.trans found
      cases distinct i j same
      exact Function.update_self ..
  · intro j other phase
    obtain ⟨different, phase⟩ := phase_of_update phase nofun
    obtain ⟨missing, found⟩ := holds.created j other phase
    have apart : other ≠ node := node_ne (fun same => different (distinct j i same)) found mine
    refine ⟨?_, by rwa [Registry.push_value?]⟩
    rw [Registry.push_entries inside]
    simp [missing, apart]
  · intro j other phase
    rw [Registry.push_entries inside, Registry.push_value?]
    by_cases same : j = i
    · subst same
      rw [Function.update_self] at phase
      cases phase
      refine ⟨?_, _, mine, rfl, .inl (zero_cString _)⟩
      rw [List.count_append, List.count_eq_zero.mpr unlisted, List.count_singleton_self]
    · rw [Function.update_of_ne same] at phase
      obtain ⟨once, entry, found, theirs, content⟩ := holds.listed j other phase
      have apart : other ≠ node :=
        node_ne (fun equal => same (distinct j i (theirs.symm.trans equal))) found mine
      refine ⟨?_, entry, found, theirs, content⟩
      simp [List.count_append, once, apart.symm]

theorem remove (holds : EntriesHold ids replied phases requests)
    (distinct : ∀ i j, ids i = ids j → i = j) (listed : phases i = .listed node) :
    EntriesHold ids replied (Function.update phases i (.removed node))
      (requests.remove (msgParseMatch (ids i))) := by
  obtain ⟨once, own, mine, ours, -⟩ := holds.listed i node listed
  have removal := holds.removesOnly listed
  constructor
  · intro entryNode member entry found j same
    rw [removal.entries] at member
    rw [Registry.remove_value?] at found
    have phase := holds.own entryNode (List.mem_of_mem_erase member) entry found j same
    have other : j ≠ i := by
      rintro rfl
      cases listed.symm.trans phase
      exact absurd (List.count_pos_iff.mpr member) (by rw [List.count_erase_self]; omega)
    rwa [Function.update_of_ne other]
  · intro j other phase
    obtain ⟨different, phase⟩ := phase_of_update phase nofun
    obtain ⟨missing, found⟩ := holds.created j other phase
    refine ⟨fun member => missing ?_, by rwa [Registry.remove_value?]⟩
    exact List.mem_of_mem_erase (removal.entries ▸ member)
  · intro j other phase
    obtain ⟨different, phase⟩ := phase_of_update phase nofun
    obtain ⟨single, entry, found, theirs, content⟩ := holds.listed j other phase
    have apart : other ≠ node := node_ne
      (fun equal => different (distinct j i (theirs.symm.trans (equal.trans ours)))) found mine
    refine ⟨?_, entry, by rwa [Registry.remove_value?], theirs, content⟩
    rw [removal.entries, List.count_erase_of_ne apart, single]

end Steps

/-- A reply stored where its id is found leaves every entry with its call. -/
theorem store {id : UInt32} {text : Bytes} (holds : EntriesHold ids replied phases requests)
    (found : requests.find? (msgParseMatch id) = some node) (noNul : 0 ∉ text)
    (stored : StoredIn node text requests after) (sent : replied id text) :
    EntriesHold ids replied phases after := by
  have keepsId : ∀ ref entry, after.value? ref = some entry → ∃ old,
      requests.value? ref = some old ∧ old.requestId = entry.requestId := by
    intro ref entry present
    rw [stored.value?] at present
    split at present
    · obtain ⟨old, was, rfl⟩ := Option.map_eq_some_iff.mp present
      exact ⟨old, was, rfl⟩
    · exact ⟨entry, present, rfl⟩
  constructor
  · intro ref member entry present i same
    rw [stored.entries] at member
    obtain ⟨old, was, kept⟩ := keepsId ref entry present
    exact holds.own ref member old was i (kept.trans same)
  · intro i ref phase
    obtain ⟨missing, present⟩ := holds.created i ref phase
    have apart : ref ≠ node := fun same => missing (same ▸ Registry.find?_mem found)
    rw [stored.entries, stored.value?, if_neg apart]
    exact ⟨missing, present⟩
  · intro i ref phase
    obtain ⟨once, entry, present, same, content⟩ := holds.listed i ref phase
    rw [stored.entries, stored.value?]
    refine ⟨once, ?_⟩
    split
    · rename_i here
      subst here
      have theirs : id = entry.requestId := by
        have matched := Registry.find?_matching found
        rw [Registry.matching_of_value? present] at matched
        exact beq_iff_eq.mp matched
      refine ⟨entry.storeReply text, by rw [present, Option.map_some], same, .inr ?_⟩
      rw [storeReply_payload entry noNul stored.fits, ← same, ← theirs]
      exact sent
    · exact ⟨entry, present, same, content⟩

end EntriesHold

end IotstackDriver.Edge
