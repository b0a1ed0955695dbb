import Mathlib.Logic.Function.Basic
import Mathlib.Data.List.Basic
import Mathlib.Tactic.Common

/-! Heap objects together with a list of references to them. Lookup goes by the
content of the referenced object, removal releases the object it finds, and
every access to a released object is recorded. -/

namespace IotstackDriver.Support

structure Cell (α : Type) where
  value : α
  live : Bool

/-- Exactly the references below `size` were ever allocated, and the list holds
no other. A released object keeps its last content. -/
structure Registry (α : Type) where
  cells : Nat → Option (Cell α)
  size : Nat
  entries : List Nat
  misuse : List Nat
  allocated : ∀ ref, (cells ref).isSome = true ↔ ref < size
  entriesAllocated : ∀ ref ∈ entries, ref < size

namespace Registry

variable {α : Type} {registry : Registry α} {test : α → Bool} {ref other : Nat}

def empty : Registry α where
  cells _ := none
  size := 0
  entries := []
  misuse := []
  allocated := by simp
  entriesAllocated := by simp

def value? (registry : Registry α) (ref : Nat) : Option α :=
  (registry.cells ref).map Cell.value

def live (registry : Registry α) (ref : Nat) : Bool :=
  (registry.cells ref).any Cell.live

def matching (registry : Registry α) (test : α → Bool) (ref : Nat) : Bool :=
  (registry.value? ref).any test

theorem value?_isSome : (registry.value? ref).isSome = true ↔ ref < registry.size := by
  simp [value?, registry.allocated ref]

theorem value?_fresh : registry.value? registry.size = none := by
  rw [← Option.not_isSome_iff_eq_none, value?_isSome]
  exact Nat.lt_irrefl _

theorem lt_of_live (live : registry.live ref = true) : ref < registry.size := by
  obtain ⟨cell, found, _⟩ := (Option.any_eq_true ..).mp live
  exact (registry.allocated ref).mp (by simp [found])

theorem matching_of_value? (found : registry.value? ref = some value) :
    registry.matching test ref = test value := by
  simp [matching, found]

private def setCell (registry : Registry α) (ref : Nat) (change : Cell α → Cell α) : Registry α :=
  { registry with
    cells := Function.update registry.cells ref ((registry.cells ref).map change)
    allocated := by
      intro target
      by_cases same : target = ref
      · subst target
        simpa using registry.allocated ref
      · simpa [same] using registry.allocated target }

/-- Allocate an object; its reference is the old size. -/
def alloc (registry : Registry α) (value : α) : Registry α where
  cells := Function.update registry.cells registry.size (some ⟨value, true⟩)
  size := registry.size + 1
  entries := registry.entries
  misuse := registry.misuse
  allocated := by
    intro target
    by_cases same : target = registry.size
    · simp [same]
    · simp only [ne_eq, same, not_false_eq_true, Function.update_of_ne, registry.allocated]
      omega
  entriesAllocated ref member := Nat.lt_succ_of_lt (registry.entriesAllocated ref member)

/-- One access to an object. -/
def touch (registry : Registry α) (ref : Nat) : Registry α :=
  if registry.live ref then registry else { registry with misuse := registry.misuse ++ [ref] }

def touchAll (registry : Registry α) (refs : List Nat) : Registry α := refs.foldl touch registry

def modify (registry : Registry α) (ref : Nat) (change : α → α) : Registry α :=
  registry.setCell ref fun cell => { cell with value := change cell.value }

def release (registry : Registry α) (ref : Nat) : Registry α :=
  registry.setCell ref fun cell => { cell with live := false }

/-- Append an entry. A reference never allocated is not appended. -/
def push (registry : Registry α) (ref : Nat) : Registry α :=
  if valid : ref < registry.size then
    { registry with
      entries := registry.entries ++ [ref]
      entriesAllocated := by
        intro target member
        rcases List.mem_append.mp member with old | new
        · exact registry.entriesAllocated target old
        · simp_all }
  else registry

/-- The first entry whose object passes the test. -/
def find? (registry : Registry α) (test : α → Bool) : Option Nat :=
  registry.entries.find? (registry.matching test)

/-- The entries a search reads: those before the first match, and the match. -/
def visited (registry : Registry α) (test : α → Bool) : List Nat :=
  registry.entries.takeWhile (fun ref => !registry.matching test ref) ++ (registry.find? test).toList

def eraseFirst (registry : Registry α) (test : α → Bool) : Registry α :=
  { registry with
    entries := registry.entries.eraseP (registry.matching test)
    entriesAllocated := fun ref member =>
      registry.entriesAllocated ref (List.mem_of_mem_eraseP member) }

/-- Drop the first matching entry and release its object. -/
def remove (registry : Registry α) (test : α → Bool) : Registry α :=
  match registry.find? test with
  | none => registry
  | some ref => (registry.eraseFirst test).release ref

@[simp] theorem alloc_entries (value : α) : (registry.alloc value).entries = registry.entries := rfl
@[simp] theorem alloc_size (value : α) : (registry.alloc value).size = registry.size + 1 := rfl
@[simp] theorem modify_entries (change : α → α) :
    (registry.modify ref change).entries = registry.entries := rfl
@[simp] theorem modify_misuse (change : α → α) :
    (registry.modify ref change).misuse = registry.misuse := rfl
@[simp] theorem modify_size (change : α → α) :
    (registry.modify ref change).size = registry.size := rfl
theorem push_entries (valid : ref < registry.size) :
    (registry.push ref).entries = registry.entries ++ [ref] := by simp [push, valid]
@[simp] theorem push_cells : (registry.push ref).cells = registry.cells := by
  unfold push; split <;> rfl
@[simp] theorem push_misuse : (registry.push ref).misuse = registry.misuse := by
  unfold push; split <;> rfl
@[simp] theorem push_size : (registry.push ref).size = registry.size := by
  unfold push; split <;> rfl
@[simp] theorem push_live : (registry.push ref).live other = registry.live other := by simp [live]
@[simp] theorem push_value? : (registry.push ref).value? other = registry.value? other := by
  simp [value?]

@[simp] theorem touch_entries : (registry.touch ref).entries = registry.entries := by
  unfold touch; split <;> rfl
@[simp] theorem touch_size : (registry.touch ref).size = registry.size := by
  unfold touch; split <;> rfl
@[simp] theorem touch_cells : (registry.touch ref).cells = registry.cells := by
  unfold touch; split <;> rfl
@[simp] theorem touch_live : (registry.touch ref).live other = registry.live other := by
  simp [live]
@[simp] theorem touch_value? : (registry.touch ref).value? other = registry.value? other := by
  simp [value?]

theorem touch_misuse : (registry.touch ref).misuse =
    registry.misuse ++ (if registry.live ref then [] else [ref]) := by
  unfold touch; split <;> simp

theorem touch_misuse_eq_iff :
    (registry.touch ref).misuse = registry.misuse ↔ registry.live ref = true := by
  rw [touch_misuse]
  cases registry.live ref <;> simp

theorem touch_of_live (live : registry.live ref = true) : registry.touch ref = registry := by
  simp [touch, live]

theorem alloc_live (value : α) : (registry.alloc value).live ref =
    if ref = registry.size then true else registry.live ref := by
  by_cases same : ref = registry.size <;> simp [live, alloc, same]

theorem alloc_value? (value : α) : (registry.alloc value).value? ref =
    if ref = registry.size then some value else registry.value? ref := by
  by_cases same : ref = registry.size <;> simp [value?, alloc, same]

@[simp] theorem modify_live (change : α → α) :
    (registry.modify ref change).live other = registry.live other := by
  by_cases same : other = ref
  · subst other
    simp only [live, modify, setCell, Function.update_self]
    cases registry.cells ref <;> rfl
  · simp [live, modify, setCell, same]

theorem modify_value? (change : α → α) : (registry.modify ref change).value? other =
    if other = ref then (registry.value? other).map change else registry.value? other := by
  by_cases same : other = ref
  · subst other
    simp only [value?, modify, setCell, Function.update_self, ↓reduceIte]
    cases registry.cells ref <;> rfl
  · simp [value?, modify, setCell, same]

@[simp] theorem release_value? : (registry.release ref).value? other = registry.value? other := by
  by_cases same : other = ref
  · subst other
    simp only [value?, release, setCell, Function.update_self]
    cases registry.cells ref <;> rfl
  · simp [value?, release, setCell, same]

theorem release_live : (registry.release ref).live other =
    (registry.live other && !decide (other = ref)) := by
  by_cases same : other = ref
  · subst other
    simp only [live, release, setCell, Function.update_self]
    cases registry.cells ref <;> simp
  · simp [live, release, setCell, same]

/-- Allocate an object and append it. -/
def enlist (registry : Registry α) (value : α) : Registry α :=
  (registry.alloc value).push registry.size

/-- The objects the list refers to, in order. -/
def values (registry : Registry α) : List α := registry.entries.filterMap registry.value?

theorem enlist_values (registry : Registry α) (value : α) :
    (registry.enlist value).values = registry.values ++ [value] := by
  have old : ∀ ref ∈ registry.entries, (registry.alloc value).value? ref = registry.value? ref := by
    intro ref member
    rw [alloc_value?, if_neg (Nat.ne_of_lt (registry.entriesAllocated ref member))]
  have new : (registry.alloc value).value? registry.size = some value := by
    rw [alloc_value?, if_pos rfl]
  have entries : (registry.enlist value).entries = registry.entries ++ [registry.size] :=
    push_entries (Nat.lt_succ_self _)
  have kept : (registry.enlist value).value? = (registry.alloc value).value? :=
    funext fun _ => push_value?
  rw [values, entries, kept, List.filterMap_append, List.filterMap_congr old]
  simp [values, new]

theorem touchAll_of_live (alive : ∀ ref ∈ refs, registry.live ref = true) :
    registry.touchAll refs = registry := by
  induction refs with
  | nil => rfl
  | cons head rest ih =>
    rw [touchAll, List.foldl_cons, touch_of_live (alive head (by simp))]
    exact ih fun ref member => alive ref (List.mem_cons_of_mem head member)

@[simp] theorem touchAll_entries (refs : List Nat) :
    (registry.touchAll refs).entries = registry.entries := by
  induction refs generalizing registry with
  | nil => rfl
  | cons head rest ih =>
    rw [touchAll, List.foldl_cons]
    exact ih.trans touch_entries

@[simp] theorem touchAll_cells (refs : List Nat) :
    (registry.touchAll refs).cells = registry.cells := by
  induction refs generalizing registry with
  | nil => rfl
  | cons head rest ih =>
    rw [touchAll, List.foldl_cons]
    exact ih.trans touch_cells

@[simp] theorem touchAll_size (refs : List Nat) :
    (registry.touchAll refs).size = registry.size := by
  induction refs generalizing registry with
  | nil => rfl
  | cons head rest ih =>
    rw [touchAll, List.foldl_cons]
    exact ih.trans touch_size

@[simp] theorem touchAll_live (refs : List Nat) :
    (registry.touchAll refs).live ref = registry.live ref := by simp [live]

@[simp] theorem touchAll_value? (refs : List Nat) :
    (registry.touchAll refs).value? ref = registry.value? ref := by simp [value?]

@[simp] theorem touchAll_matching (refs : List Nat) (test : α → Bool) :
    (registry.touchAll refs).matching test = registry.matching test := by
  funext ref
  simp [matching]

@[simp] theorem touchAll_find? (refs : List Nat) (test : α → Bool) :
    (registry.touchAll refs).find? test = registry.find? test := by simp [find?]

theorem find?_mem (found : registry.find? test = some ref) : ref ∈ registry.entries :=
  List.mem_of_find?_eq_some found

theorem find?_matching (found : registry.find? test = some ref) :
    registry.matching test ref = true := List.find?_some found

theorem visited_subset (member : ref ∈ registry.visited test) : ref ∈ registry.entries := by
  rcases List.mem_append.mp member with before | found
  · exact (List.takeWhile_sublist _).subset before
  · exact find?_mem (by simpa using found)

@[simp] theorem remove_value? : (registry.remove test).value? ref = registry.value? ref := by
  unfold remove
  split <;> [rfl; exact release_value?]

@[simp] theorem remove_size : (registry.remove test).size = registry.size := by
  unfold remove; split <;> rfl

@[simp] theorem remove_misuse : (registry.remove test).misuse = registry.misuse := by
  unfold remove; split <;> rfl

theorem remove_entries :
    (registry.remove test).entries = registry.entries.eraseP (registry.matching test) := by
  unfold remove
  split
  · rename_i missing
    exact (List.eraseP_of_forall_not (by simpa using List.find?_eq_none.mp missing)).symm
  · rfl

theorem remove_live : (registry.remove test).live ref =
    (registry.live ref && !decide (registry.find? test = some ref)) := by
  unfold remove
  split
  · rename_i missing
    simp [missing]
  · rename_i found hit
    rw [release_live, hit]
    simp only [Option.some.injEq, eq_comm]
    rfl

/-- The two lists around the first match. -/
theorem find?_eq_some_iff : registry.find? test = some ref ↔
    registry.matching test ref = true ∧ ∃ before after,
      registry.entries = before ++ ref :: after ∧
        ∀ earlier ∈ before, registry.matching test earlier = false := by
  simp [find?, List.find?_eq_some_iff_append]

/-- A search finds an entry that passes the test and has none before it that does. -/
theorem find?_eq_some_iff_before : registry.find? test = some ref ↔
    ref ∈ registry.entries ∧ registry.matching test ref = true ∧
      ∀ earlier ∈ registry.entries.takeWhile (· != ref), registry.matching test earlier = false := by
  constructor
  · intro found
    obtain ⟨hit, before, after, same, unmatched⟩ := find?_eq_some_iff.mp found
    have passed : ∀ other ∈ before, (other != ref) = true := by
      intro other member
      simp only [bne_iff_ne, ne_eq]
      rintro rfl
      simp [unmatched other member] at hit
    refine ⟨find?_mem found, hit, fun earlier member => unmatched earlier ?_⟩
    rw [same, List.takeWhile_append_of_pos passed] at member
    simpa using member
  · rintro ⟨member, hit, unmatched⟩
    obtain ⟨before, after, same, absent⟩ := List.eq_append_cons_of_mem member
    have passed : ∀ other ∈ before, (other != ref) = true := by
      intro other inside
      simpa using fun equal : other = ref => absent (equal ▸ inside)
    have prior : registry.entries.takeWhile (· != ref) = before := by
      rw [same, List.takeWhile_append_of_pos passed]
      simp
    exact find?_eq_some_iff.mpr ⟨hit, before, after, same, prior ▸ unmatched⟩

/-- A removal that finds another entry, or none, leaves an entry listed. -/
theorem mem_remove_of_missed (missed : registry.find? test ≠ some ref) :
    ref ∈ (registry.remove test).entries ↔ ref ∈ registry.entries := by
  rw [remove_entries]
  cases found : registry.find? test with
  | none =>
    rw [List.eraseP_of_forall_not (by simpa using List.find?_eq_none.mp found)]
  | some other =>
    obtain ⟨hit, before, after, same, unmatched⟩ := find?_eq_some_iff.mp found
    have different : ref ≠ other := fun equal => missed (by rw [found, equal])
    rw [same, List.eraseP_append_right _ (by simpa using unmatched), List.eraseP_cons_of_pos hit]
    simp [different]

/-- An entry listed once, seen from the entries before it. -/
theorem split_once (once : registry.entries.count ref = 1) : ∃ before after,
    registry.entries = before ++ ref :: after ∧ ref ∉ before ∧ ref ∉ after ∧
      registry.entries.takeWhile (· != ref) = before := by
  have member : ref ∈ registry.entries := List.count_pos_iff.mp (by omega)
  obtain ⟨before, after, same, absent⟩ := List.eq_append_cons_of_mem member
  have later : ref ∉ after := by
    rw [same, List.count_append, List.count_cons_self, List.count_eq_zero.mpr absent] at once
    exact List.count_eq_zero.mp (by omega)
  refine ⟨before, after, same, absent, later, ?_⟩
  have passed : ∀ other ∈ before, (other != ref) = true := by
    intro other member
    simpa using fun equal : other = ref => absent (equal ▸ member)
  rw [same, List.takeWhile_append_of_pos passed]
  simp

/-- Removal by a test deletes a given entry exactly when no earlier entry passes the test. -/
theorem remove_entries_erase_iff (once : registry.entries.count ref = 1)
    (hit : registry.matching test ref = true) :
    (registry.remove test).entries = registry.entries.erase ref ↔
      ∀ earlier ∈ registry.entries.takeWhile (· != ref), registry.matching test earlier = false := by
  obtain ⟨before, after, same, absent, later, prior⟩ := registry.split_once once
  have erased : registry.entries.erase ref = before ++ after := by
    rw [same, List.erase_append_right _ absent, List.erase_cons_head]
  rw [remove_entries, erased, prior, same]
  constructor
  · intro removed earlier member
    by_contra matched
    have cut := List.eraseP_append_left (by simpa using matched) (ref :: after) member
    rw [cut] at removed
    have kept : ref ∈ before ++ after := removed ▸ (by simp)
    rcases List.mem_append.mp kept with inBefore | inAfter
    · exact absent inBefore
    · exact later inAfter
  · intro unmatched
    rw [List.eraseP_append_right _ (by simpa using unmatched), List.eraseP_cons_of_pos hit]

theorem find?_of_unmatched (once : registry.entries.count ref = 1)
    (hit : registry.matching test ref = true)
    (unmatched : ∀ earlier ∈ registry.entries.takeWhile (· != ref),
      registry.matching test earlier = false) : registry.find? test = some ref :=
  find?_eq_some_iff_before.mpr ⟨List.count_pos_iff.mp (by omega), hit, unmatched⟩

/-- An entry listed once is gone after the removal that takes it. -/
theorem not_mem_remove (found : registry.find? test = some ref)
    (once : registry.entries.count ref = 1) : ref ∉ (registry.remove test).entries := by
  obtain ⟨hit, before, after, same, unmatched⟩ := find?_eq_some_iff.mp found
  have absent : ref ∉ before := fun member => by simp [unmatched ref member] at hit
  have later : ref ∉ after := by
    rw [same, List.count_append, List.count_cons_self, List.count_eq_zero.mpr absent] at once
    exact List.count_eq_zero.mp (by omega)
  rw [remove_entries, same, List.eraseP_append_right _ (by simpa using unmatched),
    List.eraseP_cons_of_pos hit]
  simp [absent, later]

end Registry

/-- Nothing changed but the record of accesses. -/
structure SameContent (before after : Registry α) : Prop where
  entries : after.entries = before.entries
  size : after.size = before.size
  cells : after.cells = before.cells

namespace SameContent

variable {registry before after : Registry α}

theorem refl (registry : Registry α) : SameContent registry registry := ⟨rfl, rfl, rfl⟩

theorem touch (ref : Nat) : SameContent registry (registry.touch ref) :=
  ⟨Registry.touch_entries, Registry.touch_size, Registry.touch_cells⟩

theorem touchAll (refs : List Nat) : SameContent registry (registry.touchAll refs) := by
  constructor <;> simp

theorem live (same : SameContent before after) : after.live = before.live := by
  funext ref
  rw [Registry.live, same.cells, Registry.live]

end SameContent

end IotstackDriver.Support
