import IotstackDriver.Support.Segments
import Mathlib.Data.List.Basic

/-! Replacing the occurrences of a word in a text, from the left and without overlaps. -/

namespace IotstackDriver.Support.Replace

variable {α : Type u} [DecidableEq α]

/-- What is left to pass over of an occurrence, and the text from there on. -/
def replaceFrom (key new : List α) : Nat → List α → List α
  | _, [] => []
  | skip + 1, _ :: rest => replaceFrom key new skip rest
  | 0, head :: rest =>
    if key.isPrefixOf (head :: rest) then new ++ replaceFrom key new (key.length - 1) rest
    else head :: replaceFrom key new 0 rest

def replaceAll (key new text : List α) : List α := replaceFrom key new 0 text

def countFrom (key : List α) : Nat → List α → Nat
  | _, [] => 0
  | skip + 1, _ :: rest => countFrom key skip rest
  | 0, head :: rest =>
    if key.isPrefixOf (head :: rest) then countFrom key (key.length - 1) rest + 1
    else countFrom key 0 rest

/-- How often the word is replaced. -/
def occurrences (key text : List α) : Nat := countFrom key 0 text

example : replaceAll [1, 1] [2, 0] [1, 1, 1, 3, 1, 1] = [2, 0, 1, 3, 2, 0] := by decide

variable {key new : List α}

private theorem replaceFrom_append (passed text : List α) :
    replaceFrom key new passed.length (passed ++ text) = replaceAll key new text := by
  induction passed with
  | nil => rfl
  | cons head rest ih => exact ih

private theorem countFrom_append (passed text : List α) :
    countFrom key passed.length (passed ++ text) = occurrences key text := by
  induction passed with
  | nil => rfl
  | cons head rest ih => exact ih

@[simp] theorem replaceAll_nil : replaceAll key new [] = [] := rfl

@[simp] theorem occurrences_nil : occurrences key [] = 0 := rfl

section Steps

variable {head : α} {rest : List α}

theorem replaceAll_other (other : ¬ key <+: head :: rest) :
    replaceAll key new (head :: rest) = head :: replaceAll key new rest := by
  rw [replaceAll, replaceFrom, if_neg (mt List.isPrefixOf_iff_prefix.mp other)]
  rfl

theorem occurrences_other (other : ¬ key <+: head :: rest) :
    occurrences key (head :: rest) = occurrences key rest := by
  rw [occurrences, countFrom, if_neg (mt List.isPrefixOf_iff_prefix.mp other)]
  rfl

theorem replaceAll_found (nonempty : key ≠ []) :
    replaceAll key new (key ++ rest) = new ++ replaceAll key new rest := by
  obtain ⟨first, others, rfl⟩ := List.exists_cons_of_ne_nil nonempty
  have found : (first :: others).isPrefixOf (first :: (others ++ rest)) = true :=
    List.isPrefixOf_iff_prefix.mpr (List.prefix_append (first :: others) rest)
  rw [replaceAll, List.cons_append, replaceFrom, if_pos found]
  exact congrArg (new ++ ·) (replaceFrom_append others rest)

theorem occurrences_found (nonempty : key ≠ []) :
    occurrences key (key ++ rest) = occurrences key rest + 1 := by
  obtain ⟨first, others, rfl⟩ := List.exists_cons_of_ne_nil nonempty
  have found : (first :: others).isPrefixOf (first :: (others ++ rest)) = true :=
    List.isPrefixOf_iff_prefix.mpr (List.prefix_append (first :: others) rest)
  rw [occurrences, List.cons_append, countFrom, if_pos found]
  exact congrArg (· + 1) (countFrom_append others rest)

end Steps

/-- A text ends, goes on with another character, or goes on with the word. -/
theorem occurrence_induction {motive : List α → Prop} (nonempty : key ≠ []) (nil : motive [])
    (other : ∀ head rest, ¬ key <+: head :: rest → motive rest → motive (head :: rest))
    (found : ∀ rest, motive rest → motive (key ++ rest)) (text : List α) : motive text := by
  induction size : text.length using Nat.strong_induction_on generalizing text with
  | _ size' ih =>
    subst size
    cases text with
    | nil => exact nil
    | cons head rest =>
      by_cases begins : key <+: head :: rest
      · obtain ⟨after, same⟩ := begins
        have positive := List.length_pos_iff.mpr nonempty
        have shorter : after.length < (head :: rest).length := by
          rw [← same, List.length_append]
          omega
        rw [← same]
        exact found after (ih after.length shorter after rfl)
      · exact other head rest begins (ih rest.length (Nat.lt_succ_self _) rest rfl)

theorem replaceAll_length (nonempty : key ≠ []) (new text : List α) :
    (replaceAll key new text).length + occurrences key text * key.length =
      text.length + occurrences key text * new.length := by
  induction text using occurrence_induction nonempty with
  | nil => simp
  | other head rest other ih =>
    rw [replaceAll_other other, occurrences_other other, List.length_cons, List.length_cons]
    omega
  | found rest ih =>
    rw [replaceAll_found nonempty, occurrences_found nonempty, List.length_append,
      List.length_append, Nat.succ_mul, Nat.succ_mul]
    omega

theorem occurrences_eq_zero_iff (nonempty : key ≠ []) (text : List α) :
    occurrences key text = 0 ↔ ¬ key <:+: text := by
  induction text using occurrence_induction nonempty with
  | nil => simp [nonempty]
  | other head rest other ih => rw [occurrences_other other, List.infix_cons_iff, ih]; simp [other]
  | found rest ih =>
    have inside : key <:+: key ++ rest := (List.prefix_append key rest).isInfix
    simp [occurrences_found nonempty, inside]

/-- A text without the word stays as it is. -/
theorem replaceAll_of_absent {text : List α} (absent : ¬ key <:+: text) :
    replaceAll key new text = text := by
  induction text with
  | nil => rfl
  | cons head rest ih =>
    rw [List.infix_cons_iff, not_or] at absent
    rw [replaceAll_other absent.1, ih absent.2]

theorem mem_replaceAll (nonempty : key ≠ []) {char : α} {text : List α}
    (member : char ∈ replaceAll key new text) : char ∈ text ∨ char ∈ new := by
  induction text using occurrence_induction nonempty with
  | nil => cases member
  | other head rest other ih =>
    rw [replaceAll_other other] at member
    rcases List.mem_cons.mp member with rfl | later
    · exact .inl List.mem_cons_self
    · exact (ih later).imp_left (List.mem_cons_of_mem head)
  | found rest ih =>
    rw [replaceAll_found nonempty] at member
    rcases List.mem_append.mp member with here | later
    · exact .inr here
    · exact (ih later).imp_left (List.mem_append_right key)

/-- A word that is one character is replaced wherever the character stands. -/
theorem occurrences_singleton (char : α) (text : List α) : occurrences [char] text = text.count char := by
  induction text with
  | nil => rfl
  | cons head rest ih =>
    by_cases same : head = char
    · subst same
      rw [List.count_cons_self, ← ih]
      exact occurrences_found (List.cons_ne_nil head [])
    · have other : ¬ [char] <+: head :: rest := by
        rw [List.singleton_prefix_cons_iff]
        exact fun first => same first.symm
      rw [occurrences_other other, ih, List.count_cons_of_ne same]

section Separated

variable {separator : α}

omit [DecidableEq α] in
private theorem other_separator (nonempty : key ≠ []) (absent : separator ∉ key) (right : List α) :
    ¬ key <+: separator :: right := by
  intro begins
  have none : key <+: [] := (Segments.prefix_iff absent [] right).mp begins
  exact nonempty (List.prefix_nil.mp none)

/-- No occurrence goes over a character that is not in the word. -/
theorem replaceAll_separated (nonempty : key ≠ []) (absent : separator ∉ key) (left right : List α) :
    replaceAll key new (left ++ separator :: right) =
      replaceAll key new left ++ separator :: replaceAll key new right := by
  induction left using occurrence_induction nonempty with
  | nil => exact replaceAll_other (other_separator nonempty absent right)
  | other head rest other ih =>
    have still : ¬ key <+: head :: (rest ++ separator :: right) :=
      mt (Segments.prefix_iff absent (head :: rest) right).mp other
    rw [replaceAll_other other, List.cons_append, replaceAll_other still, ih]
    rfl
  | found rest ih =>
    rw [replaceAll_found nonempty, List.append_assoc, replaceAll_found nonempty, ih,
      List.append_assoc]

theorem occurrences_separated (nonempty : key ≠ []) (absent : separator ∉ key)
    (left right : List α) : occurrences key (left ++ separator :: right) =
      occurrences key left + occurrences key right := by
  induction left using occurrence_induction nonempty with
  | nil =>
    rw [occurrences_nil, Nat.zero_add]
    exact occurrences_other (other_separator nonempty absent right)
  | other head rest other ih =>
    have still : ¬ key <+: head :: (rest ++ separator :: right) :=
      mt (Segments.prefix_iff absent (head :: rest) right).mp other
    rw [occurrences_other other, List.cons_append, occurrences_other still]
    exact ih
  | found rest ih =>
    rw [occurrences_found nonempty, List.append_assoc, occurrences_found nonempty, ih]
    omega

end Separated

end IotstackDriver.Support.Replace
