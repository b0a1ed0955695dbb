import IotstackDriver.Support.Json
import Mathlib.Data.List.Infix

/-! Strings in JSON texts: what a string spells and where the lexer ends it. And what
is left of a text that is cut while an object is open. -/

namespace IotstackDriver.Support.Json

/-! ## What a string spells -/

/-- The byte that is written as a backslash and this one. -/
def escape? (mark : UInt8) : Option UInt8 :=
  if mark ∈ wordBytes "\"\\/" then some mark
  else if mark = 98 then some 8
  else if mark = 102 then some 12
  else if mark = 110 then some 10
  else if mark = 114 then some 13
  else if mark = 116 then some 9
  else none

def hexValue (byte : UInt8) : Nat :=
  if isDigit byte then byte.toNat - 48
  else if byte < 97 then byte.toNat - 55
  else byte.toNat - 87

def hexNumber (digits : List UInt8) : Nat :=
  digits.foldl (fun total digit => total * 16 + hexValue digit) 0

/-- The four digits of a `\u` escape, and their number. -/
structure CodeUnit (digits : List UInt8) (unit : Nat) : Prop where
  four : digits.length = 4
  hex : ∀ digit ∈ digits, isHexDigit digit = true
  number : hexNumber digits = unit

/-- The text that is written so between two quotes. Half a surrogate pair spells nothing. -/
inductive Spells : List UInt8 → List UInt8 → Prop where
  | done : Spells [] []
  | byte (plain : byte ≠ quote ∧ byte ≠ backslash ∧ 32 ≤ byte) (rest : Spells raw text) :
      Spells (byte :: raw) (byte :: text)
  | escape (escaped : escape? mark = some byte) (rest : Spells raw text) :
      Spells (backslash :: mark :: raw) (byte :: text)
  | unicode {char : Char} (unit : CodeUnit digits char.toNat) (rest : Spells raw text) :
      Spells (backslash :: 117 :: (digits ++ raw)) (String.utf8EncodeChar char ++ text)
  | surrogates {char : Char} (code : char.toNat = 0x10000 + offset)
      (high : CodeUnit first (0xD800 + offset / 0x400))
      (low : CodeUnit second (0xDC00 + offset % 0x400)) (rest : Spells raw text) :
      Spells (backslash :: 117 :: (first ++ backslash :: 117 :: (second ++ raw)))
        (String.utf8EncodeChar char ++ text)

theorem Plain.append {left right : List UInt8} (first : Plain left) (second : Plain right) :
    Plain (left ++ right) := by
  intro byte member
  rcases List.mem_append.mp member with inside | later
  · exact first byte inside
  · exact second byte later

theorem Plain.spells {text : List UInt8} (plain : Plain text) : Spells text text := by
  induction text with
  | nil => exact .done
  | cons byte rest ih =>
    exact .byte (plain byte List.mem_cons_self)
      (ih fun other member => plain other (List.mem_cons_of_mem byte member))

theorem Spells.length_le (spells : Spells raw text) : text.length ≤ raw.length := by
  induction spells with
  | done => exact Nat.le_refl 0
  | byte plain rest ih => exact Nat.succ_le_succ ih
  | escape escaped rest ih => exact Nat.succ_le_succ (Nat.le_succ_of_le ih)
  | @unicode digits raw text char unit rest ih =>
    have size := char.utf8Size_le_four
    simp only [List.length_append, List.length_cons, String.length_utf8EncodeChar, unit.four]
    omega
  | @surrogates offset first second raw text char code high low rest ih =>
    have size := char.utf8Size_le_four
    simp only [List.length_append, List.length_cons, String.length_utf8EncodeChar, high.four, low.four]
    omega

/-- An escape is longer than what it stands for. -/
theorem Spells.plain (spells : Spells raw text) (same : raw.length = text.length) : Plain raw := by
  induction spells with
  | done => exact fun byte member => nomatch member
  | byte plain rest ih =>
    intro byte member
    rcases List.mem_cons.mp member with rfl | later
    · exact plain
    · exact ih (Nat.succ.inj same) byte later
  | escape escaped rest ih =>
    have shorter := rest.length_le
    simp only [List.length_cons] at same
    omega
  | @unicode digits raw text char unit rest ih =>
    have shorter := rest.length_le
    have size := char.utf8Size_le_four
    simp only [List.length_append, List.length_cons, String.length_utf8EncodeChar, unit.four] at same
    omega
  | @surrogates offset first second raw text char code high low rest ih =>
    have shorter := rest.length_le
    have size := char.utf8Size_le_four
    simp only [List.length_append, List.length_cons, String.length_utf8EncodeChar, high.four,
      low.four] at same
    omega

/-- The member of this name, as it is written, is a string that spells the text. -/
def TextMember (members : List (List UInt8 × Json)) (name text : List UInt8) : Prop :=
  ∃ raw, members.lookup name = some (.scalar (.string raw)) ∧ Spells raw text

/-! ## Words -/

/-- The bytes of a word are read into it. -/
theorem foldlM_word {word : List UInt8} (letters : ∀ byte ∈ word, isWordByte byte = true)
    (tokens : List JsonToken) (read : List UInt8) :
    word.foldlM Lexer.step ⟨.word read, tokens⟩ = some ⟨.word (read ++ word), tokens⟩ := by
  induction word generalizing read with
  | nil => simp
  | cons byte rest ih =>
    have kept : Lexer.step ⟨.word read, tokens⟩ byte = some ⟨.word (read ++ [byte]), tokens⟩ :=
      if_pos (letters byte List.mem_cons_self)
    rw [List.foldlM_cons, kept, Option.bind_eq_bind, Option.bind_some,
      ih fun other member => letters other (List.mem_cons_of_mem byte member), List.append_assoc]
    rfl

/-- A word begins with its first byte. -/
theorem foldlM_newWord {first : UInt8} {rest : List UInt8}
    (letters : ∀ byte ∈ first :: rest, isWordByte byte = true) (tokens : List JsonToken) :
    (first :: rest).foldlM Lexer.step ⟨.between, tokens⟩ = some ⟨.word (first :: rest), tokens⟩ := by
  have letter := letters first List.mem_cons_self
  have noQuote : first ≠ quote := by
    rintro rfl
    cases letter
  have noBlank : isWhitespace first = false := by
    rw [Bool.eq_false_iff]
    intro blank
    simp only [isWhitespace, Bool.or_eq_true, beq_iff_eq] at blank
    rcases blank with ((rfl | rfl) | rfl) | rfl <;> cases letter
  have begun : Lexer.step ⟨.between, tokens⟩ first = some ⟨.word [first], tokens⟩ := by
    simp only [Lexer.step, Lexer.start, if_neg noQuote, noBlank, letter, Bool.false_eq_true, if_false,
      if_true]
  rw [List.foldlM_cons, begun, Option.bind_eq_bind, Option.bind_some]
  exact foldlM_word (fun other member => letters other (List.mem_cons_of_mem first member)) tokens [first]

/-- A number is no literal name. -/
theorem word?_number {text : List UInt8} (number : isNumber text = true) :
    word? text = some (.number text) := by
  have other (name : List UInt8) (noNumber : isNumber name = false) : text ≠ name := by
    rintro rfl
    rw [number] at noNumber
    cases noNumber
  rw [word?, if_neg (other _ (by decide)), if_neg (other _ (by decide)), if_neg (other _ (by decide)),
    if_pos number]

/-! ## Where a string ends -/

/-- What was read of the string the lexer is in. -/
def Mode.held? : Mode → Option (List UInt8)
  | between | word _ => none
  | string text | escape text | unicode text _ => some text

private theorem held_step {mode : Mode} {tokens : List JsonToken} {byte : UInt8} {next : Lexer}
    (inside : mode.held? = some held) (stepped : Lexer.step ⟨mode, tokens⟩ byte = some next) :
    (byte = quote ∧ next = ⟨.between, tokens ++ [.scalar (.string held)]⟩) ∨
      (next.mode.held? = some (held ++ [byte]) ∧ next.tokens = tokens) := by
  cases mode with
  | between => cases inside
  | word text => cases inside
  | string text =>
    cases inside
    simp only [Lexer.step] at stepped
    split at stepped
    · rename_i isQuote
      cases stepped
      exact .inl ⟨isQuote, rfl⟩
    · split at stepped
      · cases stepped
        exact .inr ⟨rfl, rfl⟩
      · split at stepped
        · cases stepped
        · cases stepped
          exact .inr ⟨rfl, rfl⟩
  | escape text =>
    cases inside
    simp only [Lexer.step] at stepped
    split at stepped
    · cases stepped
      exact .inr ⟨rfl, rfl⟩
    · split at stepped
      · cases stepped
        exact .inr ⟨rfl, rfl⟩
      · cases stepped
  | unicode text remaining =>
    cases inside
    simp only [Lexer.step] at stepped
    split at stepped
    · split at stepped
      · cases stepped
        exact .inr ⟨rfl, rfl⟩
      · cases stepped
        exact .inr ⟨rfl, rfl⟩
    · cases stepped

/-- A text that begins in a string ends it at one of its quotes, or is all inside it. -/
theorem held_foldlM {text : List UInt8} {lexer final : Lexer} (inside : lexer.mode.held? = some held)
    (scanned : text.foldlM Lexer.step lexer = some final) :
    (∃ before after, text = before ++ quote :: after ∧ after.foldlM Lexer.step
        ⟨.between, lexer.tokens ++ [.scalar (.string (held ++ before))]⟩ = some final) ∨
      (final.mode.held? = some (held ++ text) ∧ final.tokens = lexer.tokens) := by
  induction text generalizing lexer held with
  | nil =>
    cases scanned
    exact .inr ⟨by rw [inside, List.append_nil], rfl⟩
  | cons byte rest ih =>
    rw [List.foldlM_cons] at scanned
    obtain ⟨next, stepped, continued⟩ := Option.bind_eq_some_iff.mp scanned
    rcases held_step inside stepped with ⟨rfl, rfl⟩ | ⟨stays, same⟩
    · exact .inl ⟨[], rest, rfl, by rwa [List.append_nil]⟩
    · rcases ih stays continued with ⟨before, after, rfl, ended⟩ | ⟨whole, kept⟩
      · refine .inl ⟨byte :: before, after, rfl, ?_⟩
        rwa [same, List.append_assoc] at ended
      · exact .inr ⟨by rw [whole, List.append_assoc]; rfl, kept.trans same⟩

private theorem tokens_step {lexer next : Lexer} {byte : UInt8} (stepped : lexer.step byte = some next) :
    lexer.tokens <+: next.tokens := by
  have start {tokens : List JsonToken} {next : Lexer} (started : Lexer.start tokens byte = some next) :
      tokens <+: next.tokens := by
    unfold Lexer.start at started
    split at started
    · cases started
      exact List.prefix_refl _
    · split at started
      · cases started
        exact List.prefix_refl _
      · split at started
        · cases started
          exact List.prefix_refl _
        · obtain ⟨token, -, rfl⟩ := Option.map_eq_some_iff.mp started
          exact List.prefix_append ..
  obtain ⟨mode, tokens⟩ := lexer
  cases inside : mode.held? with
  | some held =>
    rcases held_step inside stepped with ⟨-, rfl⟩ | ⟨-, same⟩
    · exact List.prefix_append ..
    · exact same ▸ List.prefix_refl _
  | none =>
    cases mode with
    | between => exact start stepped
    | word text =>
      simp only [Lexer.step] at stepped
      split at stepped
      · cases stepped
        exact List.prefix_refl _
      · obtain ⟨value, -, started⟩ := Option.bind_eq_some_iff.mp stepped
        exact (List.prefix_append ..).trans (start started)
    | string text => cases inside
    | escape text => cases inside
    | unicode text remaining => cases inside

theorem tokens_foldlM {text : List UInt8} {lexer final : Lexer}
    (scanned : text.foldlM Lexer.step lexer = some final) : lexer.tokens <+: final.tokens := by
  induction text generalizing lexer with
  | nil =>
    cases scanned
    exact List.prefix_refl _
  | cons byte rest ih =>
    rw [List.foldlM_cons] at scanned
    obtain ⟨next, stepped, continued⟩ := Option.bind_eq_some_iff.mp scanned
    exact (tokens_step stepped).trans (ih continued)

/-- The tokens read of a text so far begin those of its value. -/
theorem Denotes.begins {front rest : List UInt8} {value : Json} {lexer : Lexer}
    (denotes : Denotes (front ++ rest) value)
    (scanned : front.foldlM Lexer.step ⟨.between, []⟩ = some lexer) : lexer.tokens <+: value.tokens := by
  obtain ⟨final, read, finished⟩ := Option.bind_eq_some_iff.mp denotes
  rw [List.foldlM_append, scanned] at read
  have grown : lexer.tokens <+: final.tokens := tokens_foldlM read
  obtain ⟨mode, tokens⟩ := final
  cases mode with
  | between =>
    cases finished
    exact grown
  | word text =>
    obtain ⟨last, -, same⟩ := Option.map_eq_some_iff.mp finished
    rw [← same]
    exact grown.trans (List.prefix_append ..)
  | string text => cases finished
  | escape text => cases finished
  | unicode text remaining => cases finished

/-- Members whose tokens begin so have this first one, and others after a comma. -/
theorem next_member {members : List (List UInt8 × Json)} {name text : List UInt8}
    {more : List JsonToken} (begins : .scalar (.string name) :: .colon :: .scalar (.string text) :: more <+:
      memberTokens members ++ [.closeObject]) :
    ∃ rest, members = (name, .scalar (.string text)) :: rest ∧
      ∀ after, more = .comma :: after → after <+: memberTokens rest ++ [.closeObject] := by
  have value (first : List UInt8) (member : Json) (rest : List JsonToken)
      (same : .scalar (.string name) :: .colon :: .scalar (.string text) :: more <+:
        .scalar (.string first) :: .colon :: (member.tokens ++ rest)) :
      first = name ∧ member = .scalar (.string text) ∧ more <+: rest := by
    simp only [List.cons_prefix_cons] at same
    obtain ⟨named, -, leads⟩ := same
    cases named
    cases member with
    | scalar own =>
      simp only [tokens, List.cons_append, List.cons_prefix_cons] at leads
      cases leads.1
      exact ⟨rfl, rfl, leads.2⟩
    | array elements =>
      simp only [tokens, List.cons_append, List.cons_prefix_cons] at leads
      cases leads.1
    | object members =>
      simp only [tokens, List.cons_append, List.cons_prefix_cons] at leads
      cases leads.1
  cases members with
  | nil =>
    simp only [memberTokens, List.nil_append, List.cons_prefix_cons] at begins
    cases begins.1
  | cons first rest =>
    obtain ⟨key, member⟩ := first
    cases rest with
    | nil =>
      obtain ⟨rfl, rfl, leads⟩ := value key member [.closeObject] begins
      refine ⟨[], rfl, fun after same => ?_⟩
      rw [same, List.cons_prefix_cons] at leads
      cases leads.1
    | cons second rest =>
      obtain ⟨rfl, rfl, leads⟩ := value key member (.comma :: memberTokens (second :: rest) ++ [.closeObject])
        (by simpa [memberTokens] using begins)
      refine ⟨_, rfl, fun after same => ?_⟩
      rw [same, List.cons_append, List.cons_prefix_cons] at leads
      exact leads.2

/-- An object whose text begins so has this first member. -/
theorem first_member {members : List (List UInt8 × Json)} {name text : List UInt8}
    (begins : [.openObject, .scalar (.string name), .colon, .scalar (.string text)] <+:
      (Json.object members).tokens) :
    ∃ rest, members = (name, .scalar (.string text)) :: rest := by
  rw [tokens, List.cons_append, List.cons_prefix_cons] at begins
  obtain ⟨rest, same, -⟩ := next_member begins.2
  exact ⟨rest, same⟩

/-! ## A cut text -/

def Scan.raise (scan : Scan) (levels : Int) : Scan := ⟨scan.place, scan.depth + levels⟩

/-- A scan goes the same way at every depth. -/
theorem foldl_raise (text : List UInt8) (scan : Scan) (levels : Int) :
    text.foldl Scan.step (scan.raise levels) = (text.foldl Scan.step scan).raise levels := by
  induction text generalizing scan with
  | nil => rfl
  | cons byte rest ih =>
    have raised : (scan.raise levels).step byte = (scan.step byte).raise levels := by
      obtain ⟨place, depth⟩ := scan
      cases place with
      | outside =>
        simp only [Scan.step, Scan.raise]
        split
        · rfl
        · simp only [Scan.mk.injEq, true_and]
          omega
      | quoted =>
        simp only [Scan.step, Scan.raise]
        split
        · rfl
        · split <;> rfl
      | escaped => rfl
    rw [List.foldl_cons, List.foldl_cons, raised, ih]

/-- From string to string, the text neither opens nor closes anything. -/
structure Level (text : List UInt8) : Prop where
  quoted : text.foldl Scan.step ⟨.quoted, 0⟩ = ⟨.quoted, 0⟩
  flat : ∀ part ∈ text.inits, (part.foldl Scan.step ⟨.quoted, 0⟩).depth = 0

/-- From a string on, the text closes nothing before its last byte. -/
def Closing (text : List UInt8) : Prop :=
  ∀ part ∈ text.inits, part ≠ text → (part.foldl Scan.step ⟨.quoted, 0⟩).depth = 0

theorem Plain.level {text : List UInt8} (plain : Plain text) : Level text where
  quoted := foldl_plain 0 plain
  flat part cut := by
    have inside := (List.mem_inits part text).mp cut
    rw [foldl_plain 0 fun byte member => plain byte (inside.subset member)]

private theorem prefix_append_cases {part left right : List UInt8} (cut : part <+: left ++ right) :
    part <+: left ∨ ∃ more, part = left ++ more ∧ more <+: right := by
  rcases List.prefix_or_prefix_of_prefix cut (List.prefix_append left right) with inside | ⟨more, rfl⟩
  · exact .inl inside
  · exact .inr ⟨more, rfl, (List.prefix_append_right_inj left).mp cut⟩

theorem Level.append {left right : List UInt8} (first : Level left) (second : Level right) :
    Level (left ++ right) where
  quoted := by rw [List.foldl_append, first.quoted, second.quoted]
  flat part cut := by
    rcases prefix_append_cases ((List.mem_inits part _).mp cut) with inside | ⟨more, rfl, later⟩
    · exact first.flat part ((List.mem_inits part left).mpr inside)
    · rw [List.foldl_append, first.quoted]
      exact second.flat more ((List.mem_inits more right).mpr later)

theorem Level.closing {left right : List UInt8} (first : Level left) (second : Closing right) :
    Closing (left ++ right) := by
  intro part cut short
  rcases prefix_append_cases ((List.mem_inits part _).mp cut) with inside | ⟨more, rfl, later⟩
  · exact first.flat part ((List.mem_inits part left).mpr inside)
  · rw [List.foldl_append, first.quoted]
    exact second more ((List.mem_inits more right).mpr later) fun whole => short (by rw [whole])

/-- An object cut after its opening is left open. -/
theorem depth_take {opening rest : List UInt8} {limit : Nat}
    (opens : opening.foldl Scan.step ⟨.outside, 0⟩ = ⟨.quoted, 1⟩) (closing : Closing rest)
    (begun : opening.length ≤ limit) (short : limit < (opening ++ rest).length) (depth : Int) :
    (((opening ++ rest).take limit).foldl Scan.step ⟨.outside, depth⟩).depth = depth + 1 := by
  have start : (⟨.outside, depth⟩ : Scan) = Scan.raise ⟨.outside, 0⟩ depth := by simp [Scan.raise]
  have quoted : (⟨.quoted, 1⟩ : Scan) = Scan.raise ⟨.quoted, 0⟩ 1 := rfl
  have cut : rest.take (limit - opening.length) ≠ rest := by
    intro whole
    have length := congrArg List.length whole
    rw [List.length_append] at short
    rw [List.length_take] at length
    omega
  have flat := closing _ ((List.mem_inits _ rest).mpr (List.take_prefix ..)) cut
  rw [start, foldl_raise, List.take_append, List.take_of_length_le begun, List.foldl_append, opens,
    quoted, foldl_raise]
  simp only [Scan.raise, flat]
  omega

end IotstackDriver.Support.Json
