import IotstackDriver.Support.JsonText

/-! Texts put into JSON strings with their quotes escaped and nothing else: what such a
string spells, and where the lexer can end it. -/

namespace IotstackDriver.Support.Json

/-- Each quote with a backslash before it. -/
def escapeQuotes : List UInt8 → List UInt8
  | [] => []
  | byte :: rest =>
    if byte = quote then backslash :: quote :: escapeQuotes rest else byte :: escapeQuotes rest

/-- Text that has no character to escape but quotes. -/
def QuotesOnly (text : List UInt8) : Prop := ∀ byte ∈ text, byte ≠ backslash ∧ 32 ≤ byte

instance (text : List UInt8) : Decidable (QuotesOnly text) :=
  List.decidableBAll (fun byte => byte ≠ backslash ∧ 32 ≤ byte) text

theorem escapeQuotes_quote (rest : List UInt8) :
    escapeQuotes (quote :: rest) = backslash :: quote :: escapeQuotes rest := by
  rw [escapeQuotes, if_pos rfl]

theorem escapeQuotes_other {byte : UInt8} (other : byte ≠ quote) (rest : List UInt8) :
    escapeQuotes (byte :: rest) = byte :: escapeQuotes rest := by
  rw [escapeQuotes, if_neg other]

theorem length_le_escapeQuotes (text : List UInt8) : text.length ≤ (escapeQuotes text).length := by
  induction text with
  | nil => exact Nat.le_refl 0
  | cons byte rest ih =>
    by_cases isQuote : byte = quote
    · rw [isQuote, escapeQuotes_quote]
      exact Nat.succ_le_succ (Nat.le_succ_of_le ih)
    · rw [escapeQuotes_other isQuote]
      exact Nat.succ_le_succ ih

theorem QuotesOnly.tail {byte : UInt8} {rest : List UInt8} (quiet : QuotesOnly (byte :: rest)) :
    QuotesOnly rest :=
  fun other member => quiet other (List.mem_cons_of_mem byte member)

theorem QuotesOnly.cons {byte : UInt8} {rest : List UInt8} (first : byte ≠ backslash ∧ 32 ≤ byte)
    (quiet : QuotesOnly rest) : QuotesOnly (byte :: rest) := by
  intro other member
  rcases List.mem_cons.mp member with rfl | later
  · exact first
  · exact quiet other later

theorem QuotesOnly.spells {text : List UInt8} (quiet : QuotesOnly text) :
    Spells (escapeQuotes text) text := by
  induction text with
  | nil => exact .done
  | cons byte rest ih =>
    by_cases isQuote : byte = quote
    · rw [isQuote, escapeQuotes_quote]
      exact .escape rfl (ih quiet.tail)
    · rw [escapeQuotes_other isQuote]
      exact .byte ⟨isQuote, quiet byte List.mem_cons_self⟩ (ih quiet.tail)

/-- The lexer stays in the string over such a text. -/
theorem QuotesOnly.foldlM {text : List UInt8} (quiet : QuotesOnly text) (tokens : List JsonToken)
    (read : List UInt8) : (escapeQuotes text).foldlM Lexer.step ⟨.string read, tokens⟩ =
      some ⟨.string (read ++ escapeQuotes text), tokens⟩ := by
  induction text generalizing read with
  | nil => simp [escapeQuotes]
  | cons byte rest ih =>
    obtain ⟨noBackslash, printable⟩ := quiet byte List.mem_cons_self
    by_cases isQuote : byte = quote
    · have marked : Lexer.step ⟨.string read, tokens⟩ backslash =
          some ⟨.escape (read ++ [backslash]), tokens⟩ := rfl
      have quoted : Lexer.step ⟨.escape (read ++ [backslash]), tokens⟩ quote =
          some ⟨.string (read ++ [backslash] ++ [quote]), tokens⟩ := rfl
      rw [isQuote, escapeQuotes_quote, List.foldlM_cons, marked, Option.bind_eq_bind, Option.bind_some,
        List.foldlM_cons, quoted, Option.bind_eq_bind, Option.bind_some, ih quiet.tail]
      simp only [List.append_assoc, List.cons_append, List.nil_append]
    · have kept : Lexer.step ⟨.string read, tokens⟩ byte = some ⟨.string (read ++ [byte]), tokens⟩ := by
        simp only [Lexer.step, if_neg isQuote, if_neg noBackslash, if_neg (UInt8.not_lt.mpr printable)]
      rw [escapeQuotes_other isQuote, List.foldlM_cons, kept, Option.bind_eq_bind, Option.bind_some,
        ih quiet.tail, List.append_assoc]
      rfl

/-- A quote in an escaped text is one of the text, after its backslash. -/
theorem quote_in_escaped {text before after : List UInt8}
    (same : escapeQuotes text = before ++ quote :: after) :
    ∃ left right, text = left ++ quote :: right ∧ before = escapeQuotes left ++ [backslash] := by
  induction text generalizing before with
  | nil => simp [escapeQuotes] at same
  | cons byte rest ih =>
    by_cases isQuote : byte = quote
    · subst isQuote
      rw [escapeQuotes_quote] at same
      cases before with
      | nil => cases (List.cons.inj same).1
      | cons first before =>
        rw [List.cons_append, List.cons.injEq] at same
        obtain ⟨rfl, same⟩ := same
        cases before with
        | nil => exact ⟨[], rest, rfl, rfl⟩
        | cons second before =>
          rw [List.cons_append, List.cons.injEq] at same
          obtain ⟨rfl, same⟩ := same
          obtain ⟨left, right, split, leads⟩ := ih same
          refine ⟨quote :: left, right, by rw [split]; rfl, ?_⟩
          rw [leads, escapeQuotes_quote]
          rfl
    · rw [escapeQuotes_other isQuote] at same
      cases before with
      | nil => exact absurd (List.cons.inj same).1 isQuote
      | cons first before =>
        rw [List.cons_append, List.cons.injEq] at same
        obtain ⟨rfl, same⟩ := same
        obtain ⟨left, right, split, leads⟩ := ih same
        refine ⟨byte :: left, right, by rw [split]; rfl, ?_⟩
        rw [leads, escapeQuotes_other isQuote]
        rfl

/-! ## What an escaped text spells -/

/-- A part of an escaped text without quotes and backslashes is as it was in the text. -/
private theorem plain_part {text part raw tail : List UInt8} (ends : tail = [] ∨ tail = [backslash])
    (plain : ∀ byte ∈ part, byte ≠ quote ∧ byte ≠ backslash)
    (same : escapeQuotes text ++ tail = part ++ raw) :
    ∃ rest, text = part ++ rest ∧ raw = escapeQuotes rest ++ tail := by
  induction part generalizing text with
  | nil => exact ⟨text, rfl, same.symm⟩
  | cons byte part ih =>
    obtain ⟨noQuote, noBackslash⟩ := plain byte List.mem_cons_self
    cases text with
    | nil =>
      rcases ends with rfl | rfl
      · cases same
      · exact absurd (List.cons.inj same).1.symm noBackslash
    | cons first rest =>
      by_cases isQuote : first = quote
      · rw [isQuote, escapeQuotes_quote] at same
        exact absurd (List.cons.inj same).1.symm noBackslash
      · rw [escapeQuotes_other isQuote] at same
        rw [List.cons_append, List.cons_append, List.cons.injEq] at same
        obtain ⟨rfl, same⟩ := same
        obtain ⟨left, split, followed⟩ :=
          ih (fun other member => plain other (List.mem_cons_of_mem _ member)) same
        exact ⟨left, by rw [split]; rfl, followed⟩

/-- A `\u` escape of the string is written so in the text. -/
private theorem unicode_part {text digits raw tail : List UInt8} {unit : Nat}
    (ends : tail = [] ∨ tail = [backslash]) (code : CodeUnit digits unit)
    (same : escapeQuotes text ++ tail = backslash :: 117 :: (digits ++ raw)) :
    ∃ rest, text = backslash :: 117 :: (digits ++ rest) ∧ raw = escapeQuotes rest ++ tail := by
  have plain : ∀ byte ∈ (117 :: digits : List UInt8), byte ≠ quote ∧ byte ≠ backslash := by
    intro byte member
    rcases List.mem_cons.mp member with rfl | later
    · decide
    · have hex := code.hex byte later
      constructor <;> (rintro rfl; cases hex)
  cases text with
  | nil => rcases ends with rfl | rfl <;> cases same
  | cons first rest =>
    by_cases isQuote : first = quote
    · rw [isQuote, escapeQuotes_quote] at same
      cases same
    · rw [escapeQuotes_other isQuote, List.cons_append, List.cons.injEq] at same
      obtain ⟨rfl, same⟩ := same
      obtain ⟨later, rfl, followed⟩ := plain_part ends plain same
      exact ⟨later, rfl, followed⟩

/-- A text with its quotes escaped, and perhaps the backslash of one more, spells nothing
longer than the text, and nothing so long if the text needs another escape. -/
theorem Spells.quotes_length {whole spelled : List UInt8} (spells : Spells whole spelled)
    {text tail : List UInt8} (ends : tail = [] ∨ tail = [backslash])
    (same : escapeQuotes text ++ tail = whole) : spelled.length ≤ text.length ∧
      (tail = [] → spelled.length = text.length → QuotesOnly text) := by
  induction spells generalizing text with
  | done =>
    refine ⟨Nat.zero_le _, fun _ empty => ?_⟩
    rw [List.eq_nil_of_length_eq_zero empty.symm]
    exact fun byte member => nomatch member
  | @byte byte raw spelled plain rest ih =>
    have part : ∀ other ∈ [byte], other ≠ quote ∧ other ≠ backslash := by
      intro other member
      cases List.mem_singleton.mp member
      exact ⟨plain.1, plain.2.1⟩
    obtain ⟨later, rfl, followed⟩ := plain_part ends part same
    obtain ⟨bound, quiet⟩ := ih followed.symm
    refine ⟨Nat.succ_le_succ bound, fun none equal => ?_⟩
    exact (quiet none (Nat.succ.inj equal)).cons plain.2
  | @escape mark byte raw spelled escaped rest ih =>
    cases text with
    | nil => rcases ends with rfl | rfl <;> cases same
    | cons first later =>
      by_cases isQuote : first = quote
      · rw [isQuote, escapeQuotes_quote, List.cons_append, List.cons_append, List.cons.injEq,
          List.cons.injEq] at same
        obtain ⟨bound, quiet⟩ := ih same.2.2
        refine ⟨Nat.succ_le_succ bound, fun none equal => ?_⟩
        exact isQuote ▸ (quiet none (Nat.succ.inj equal)).cons (by decide)
      · rw [escapeQuotes_other isQuote, List.cons_append, List.cons.injEq] at same
        cases later with
        | nil =>
          rcases ends with rfl | rfl
          · cases same.2
          · cases same.2
            have nothing := rest.length_le
            exact ⟨Nat.succ_le_succ nothing, fun none => nomatch none⟩
        | cons second later =>
          by_cases quoted : second = quote
          · -- the backslash of the text escapes that of the quote, which then ends the string
            rw [quoted, escapeQuotes_quote, List.cons_append, List.cons_append, List.cons.injEq] at same
            obtain ⟨-, -, same⟩ := same
            rw [← same] at rest
            cases rest with
            | byte plain rest => exact absurd rfl plain.1
          · rw [escapeQuotes_other quoted, List.cons_append, List.cons.injEq] at same
            have bound := (ih same.2.2).1
            simp only [List.length_cons]
            exact ⟨by omega, fun _ equal => by omega⟩
  | @unicode digits raw spelled char unit rest ih =>
    obtain ⟨later, rfl, followed⟩ := unicode_part ends unit same
    have bound := (ih followed.symm).1
    have size := char.utf8Size_le_four
    simp only [List.length_append, List.length_cons, String.length_utf8EncodeChar, unit.four]
    exact ⟨by omega, fun _ equal => by omega⟩
  | @surrogates offset first second raw spelled char code high low rest ih =>
    obtain ⟨middle, rfl, between⟩ := unicode_part ends high same
    obtain ⟨later, rfl, followed⟩ := unicode_part ends low between.symm
    have bound := (ih followed.symm).1
    have size := char.utf8Size_le_four
    simp only [List.length_append, List.length_cons, String.length_utf8EncodeChar, high.four, low.four]
    exact ⟨by omega, fun _ equal => by omega⟩

end IotstackDriver.Support.Json
