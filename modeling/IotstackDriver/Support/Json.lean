import Mathlib.Data.List.Basic
import Mathlib.Tactic.Common

/-! JSON texts (RFC 8259) as bytes. A text falls into tokens, and it denotes the
value that is written with these tokens: the grammar has no optional tokens, so
a value's tokens are fixed. Numbers and strings are kept as they are written,
escapes included, and the encoding of characters is not checked. -/

namespace IotstackDriver.Support

inductive JsonScalar where
  | null
  | bool (value : Bool)
  | number (text : List UInt8)
  | string (text : List UInt8)
  deriving DecidableEq

inductive JsonToken where
  | scalar (value : JsonScalar)
  | openArray
  | closeArray
  | openObject
  | closeObject
  | comma
  | colon
  deriving DecidableEq

inductive Json where
  | scalar (value : JsonScalar)
  | array (elements : List Json)
  | object (members : List (List UInt8 × Json))

namespace Json

mutual

def tokens : Json → List JsonToken
  | scalar value => [.scalar value]
  | array elements => .openArray :: elementTokens elements ++ [.closeArray]
  | object members => .openObject :: memberTokens members ++ [.closeObject]

def elementTokens : List Json → List JsonToken
  | [] => []
  | [element] => element.tokens
  | element :: rest => element.tokens ++ .comma :: elementTokens rest

def memberTokens : List (List UInt8 × Json) → List JsonToken
  | [] => []
  | [(name, value)] => .scalar (.string name) :: .colon :: value.tokens
  | (name, value) :: rest =>
    .scalar (.string name) :: .colon :: value.tokens ++ .comma :: memberTokens rest

end

/-! ## Words: numbers and literal names -/

def isDigit (byte : UInt8) : Bool := 48 ≤ byte && byte ≤ 57

/-- What follows one or more digits. -/
def digits? : List UInt8 → Option (List UInt8)
  | [] => none
  | byte :: rest => if isDigit byte then some (rest.dropWhile isDigit) else none

/-- What follows `0` or digits that do not begin with it. -/
def integer? : List UInt8 → Option (List UInt8)
  | 48 :: rest => some rest
  | text => digits? text

def fraction? : List UInt8 → Option (List UInt8)
  | 46 :: rest => digits? rest
  | text => some text

def exponent? : List UInt8 → Option (List UInt8)
  | [] => some []
  | mark :: rest =>
    if mark = 101 ∨ mark = 69 then
      match rest with
      | 43 :: unsigned => digits? unsigned
      | 45 :: unsigned => digits? unsigned
      | unsigned => digits? unsigned
    else some (mark :: rest)

def isNumber (text : List UInt8) : Bool :=
  let unsigned := if text.head? = some 45 then text.tail else text
  (integer? unsigned >>= fraction? >>= exponent?) == some []

def wordBytes (text : String) : List UInt8 := text.toList.map fun char => UInt8.ofNat char.toNat

def word? (text : List UInt8) : Option JsonScalar :=
  if text = wordBytes "null" then some .null
  else if text = wordBytes "true" then some (.bool true)
  else if text = wordBytes "false" then some (.bool false)
  else if isNumber text then some (.number text)
  else none

/-! ## Tokens -/

/-- Where in a text the lexer is: in a string, it holds what was read of it. -/
inductive Mode where
  | between
  | word (text : List UInt8)
  | string (text : List UInt8)
  | escape (text : List UInt8)
  | unicode (text : List UInt8) (remaining : Nat)
  deriving DecidableEq

structure Lexer where
  mode : Mode
  tokens : List JsonToken
  deriving DecidableEq

def quote : UInt8 := 34
def backslash : UInt8 := 92

def isWhitespace (byte : UInt8) : Bool := byte == 32 || byte == 9 || byte == 10 || byte == 13

def isHexDigit (byte : UInt8) : Bool :=
  isDigit byte || (65 ≤ byte && byte ≤ 70) || (97 ≤ byte && byte ≤ 102)

/-- Letters, digits and the signs of a number. -/
def isWordByte (byte : UInt8) : Bool :=
  isDigit byte || (97 ≤ byte && byte ≤ 122) || byte == 43 || byte == 45 || byte == 46 || byte == 69

def punctuation? (byte : UInt8) : Option JsonToken :=
  if byte = 91 then some .openArray
  else if byte = 93 then some .closeArray
  else if byte = 123 then some .openObject
  else if byte = 125 then some .closeObject
  else if byte = 44 then some .comma
  else if byte = 58 then some .colon
  else none

/-- A byte outside strings and words. -/
def Lexer.start (tokens : List JsonToken) (byte : UInt8) : Option Lexer :=
  if byte = quote then some ⟨.string [], tokens⟩
  else if isWhitespace byte then some ⟨.between, tokens⟩
  else if isWordByte byte then some ⟨.word [byte], tokens⟩
  else (punctuation? byte).map fun token => ⟨.between, tokens ++ [token]⟩

def Lexer.step (lexer : Lexer) (byte : UInt8) : Option Lexer :=
  match lexer.mode with
  | .between => start lexer.tokens byte
  | .word text =>
    if isWordByte byte then some ⟨.word (text ++ [byte]), lexer.tokens⟩
    else (word? text).bind fun value => start (lexer.tokens ++ [.scalar value]) byte
  | .string text =>
    if byte = quote then some ⟨.between, lexer.tokens ++ [.scalar (.string text)]⟩
    else if byte = backslash then some ⟨.escape (text ++ [byte]), lexer.tokens⟩
    else if byte < 32 then none
    else some ⟨.string (text ++ [byte]), lexer.tokens⟩
  | .escape text =>
    if byte = 117 then some ⟨.unicode (text ++ [byte]) 4, lexer.tokens⟩
    else if byte ∈ wordBytes "\"\\/bfnrt" then some ⟨.string (text ++ [byte]), lexer.tokens⟩
    else none
  | .unicode text remaining =>
    if isHexDigit byte then
      if remaining ≤ 1 then some ⟨.string (text ++ [byte]), lexer.tokens⟩
      else some ⟨.unicode (text ++ [byte]) (remaining - 1), lexer.tokens⟩
    else none

def Lexer.finish (lexer : Lexer) : Option (List JsonToken) :=
  match lexer.mode with
  | .between => some lexer.tokens
  | .word text => (word? text).map fun value => lexer.tokens ++ [.scalar value]
  | _ => none

def tokenize (text : List UInt8) : Option (List JsonToken) :=
  (text.foldlM Lexer.step ⟨.between, []⟩).bind Lexer.finish

/-- The text is a complete JSON text with this value. -/
def Denotes (text : List UInt8) (value : Json) : Prop := tokenize text = some value.tokens

instance (text : List UInt8) (value : Json) : Decidable (Denotes text value) :=
  inferInstanceAs (Decidable (tokenize text = some value.tokens))

example : Denotes (wordBytes " [-0.5e+7, \x7b\"a\\\"\": null\x7d]")
    (.array [.scalar (.number (wordBytes "-0.5e+7")),
      .object [(wordBytes "a\\\"", .scalar .null)]]) := by decide

example : tokenize (wordBytes "[01]") = none := by decide

/-- Text that stands for itself between quotes. -/
def Plain (text : List UInt8) : Prop := ∀ byte ∈ text, byte ≠ quote ∧ byte ≠ backslash ∧ 32 ≤ byte

instance (text : List UInt8) : Decidable (Plain text) :=
  List.decidableBAll (fun byte => byte ≠ quote ∧ byte ≠ backslash ∧ 32 ≤ byte) text

/-- Plain text is read into the string it stands in. -/
theorem foldlM_plain (tokens : List JsonToken) (read : List UInt8) {text : List UInt8}
    (plain : Plain text) :
    text.foldlM Lexer.step ⟨.string read, tokens⟩ = some ⟨.string (read ++ text), tokens⟩ := by
  induction text generalizing read with
  | nil => simp
  | cons byte rest ih =>
    obtain ⟨noQuote, noBackslash, printable⟩ := plain byte List.mem_cons_self
    have kept : Lexer.step ⟨.string read, tokens⟩ byte = some ⟨.string (read ++ [byte]), tokens⟩ := by
      simp only [Lexer.step, if_neg noQuote, if_neg noBackslash, if_neg (UInt8.not_lt.mpr printable)]
    rw [List.foldlM_cons, kept, Option.bind_eq_bind, Option.bind_some,
      ih _ fun other member => plain other (List.mem_cons_of_mem byte member), List.append_assoc]
    rfl

/-! ## Nesting -/

/-- How many more brackets and braces are opened than closed. -/
def nesting : List JsonToken → Int
  | [] => 0
  | .openArray :: rest | .openObject :: rest => nesting rest + 1
  | .closeArray :: rest | .closeObject :: rest => nesting rest - 1
  | _ :: rest => nesting rest

@[simp] theorem nesting_append (left right : List JsonToken) :
    nesting (left ++ right) = nesting left + nesting right := by
  induction left with
  | nil => simp [nesting]
  | cons token rest ih =>
    rw [List.cons_append]
    cases token <;> simp only [nesting, ih] <;> omega

mutual

/-- A value closes what it opens. -/
theorem nesting_tokens : ∀ value : Json, nesting value.tokens = 0
  | scalar value => by simp [tokens, nesting]
  | array elements => by simp [tokens, nesting, nesting_elements elements]
  | object members => by simp [tokens, nesting, nesting_members members]

private theorem nesting_elements : ∀ elements : List Json, nesting (elementTokens elements) = 0
  | [] => rfl
  | [element] => by rw [elementTokens, nesting_tokens element]
  | element :: next :: rest => by
    simp [elementTokens, nesting, nesting_tokens element, nesting_elements (next :: rest)]

private theorem nesting_members : ∀ members : List (List UInt8 × Json),
    nesting (memberTokens members) = 0
  | [] => rfl
  | [(name, value)] => by simp [memberTokens, nesting, nesting_tokens value]
  | (name, value) :: next :: rest => by
    simp [memberTokens, nesting, nesting_tokens value, nesting_members (next :: rest)]

end

/-- What is left of a position in a text without its tokens. -/
inductive Place where
  | outside
  | quoted
  | escaped
  deriving DecidableEq

structure Scan where
  place : Place
  depth : Int
  deriving DecidableEq

def Scan.step (scan : Scan) (byte : UInt8) : Scan :=
  match scan.place with
  | .outside =>
    if byte = quote then { scan with place := .quoted }
    else ⟨.outside, scan.depth + nesting (punctuation? byte).toList⟩
  | .quoted =>
    if byte = quote then { scan with place := .outside }
    else if byte = backslash then { scan with place := .escaped }
    else scan
  | .escaped => { scan with place := .quoted }

def scan (text : List UInt8) : Scan := text.foldl Scan.step ⟨.outside, 0⟩

def Mode.place : Mode → Place
  | between | word _ => .outside
  | string _ | unicode _ _ => .quoted
  | escape _ => .escaped

def Lexer.scan (lexer : Lexer) : Scan := ⟨lexer.mode.place, nesting lexer.tokens⟩

private theorem punctuation?_none {byte : UInt8}
    (other : isWhitespace byte = true ∨ isWordByte byte = true) : punctuation? byte = none := by
  unfold punctuation?
  split_ifs
  case neg => rfl
  all_goals
    subst byte
    rcases other with other | other <;> cases other

private theorem hexDigit_plain {byte : UInt8} (hex : isHexDigit byte = true) :
    byte ≠ quote ∧ byte ≠ backslash := by
  constructor <;> (rintro rfl; cases hex)

@[simp] private theorem nesting_scalar (tokens : List JsonToken) (value : JsonScalar) :
    nesting (tokens ++ [.scalar value]) = nesting tokens := by
  simp [nesting]

private theorem scan_start {tokens : List JsonToken} {byte : UInt8} {next : Lexer}
    (started : Lexer.start tokens byte = some next) :
    next.scan = Scan.step ⟨.outside, nesting tokens⟩ byte := by
  unfold Lexer.start at started
  simp only [Scan.step]
  split at started
  · rename_i isQuote
    cases started
    rw [if_pos isQuote]
    rfl
  · rename_i noQuote
    rw [if_neg noQuote]
    split at started
    · rename_i blank
      cases started
      simp [Lexer.scan, Mode.place, punctuation?_none (.inl blank), nesting]
    · split at started
      · rename_i letter
        cases started
        simp [Lexer.scan, Mode.place, punctuation?_none (.inr letter), nesting]
      · obtain ⟨token, found, rfl⟩ := Option.map_eq_some_iff.mp started
        simp [Lexer.scan, Mode.place, found]

/-- The lexer keeps to the scan. -/
private theorem scan_step {lexer next : Lexer} {byte : UInt8}
    (stepped : lexer.step byte = some next) : next.scan = lexer.scan.step byte := by
  obtain ⟨mode, tokens⟩ := lexer
  cases mode with
  | between => exact scan_start stepped
  | word text =>
    simp only [Lexer.step] at stepped
    split at stepped
    · rename_i letter
      have noQuote : byte ≠ quote := by
        rintro rfl
        cases letter
      cases stepped
      simp [Lexer.scan, Mode.place, Scan.step, noQuote, punctuation?_none (.inr letter), nesting]
    · obtain ⟨value, -, started⟩ := Option.bind_eq_some_iff.mp stepped
      rw [scan_start started, nesting_scalar]
      rfl
  | string text =>
    simp only [Lexer.step] at stepped
    split at stepped
    · rename_i isQuote
      cases stepped
      simp [Lexer.scan, Mode.place, Scan.step, isQuote, nesting]
    · rename_i noQuote
      split at stepped
      · rename_i isBackslash
        cases stepped
        subst isBackslash
        rfl
      · rename_i noBackslash
        split at stepped
        · cases stepped
        · cases stepped
          simp [Lexer.scan, Mode.place, Scan.step, noQuote, noBackslash]
  | escape text =>
    simp only [Lexer.step] at stepped
    split at stepped
    · cases stepped
      rfl
    · split at stepped
      · cases stepped
        rfl
      · cases stepped
  | unicode text remaining =>
    simp only [Lexer.step] at stepped
    split at stepped
    · rename_i hex
      obtain ⟨noQuote, noBackslash⟩ := hexDigit_plain hex
      split at stepped
      all_goals
        cases stepped
        simp [Lexer.scan, Mode.place, Scan.step, noQuote, noBackslash]
    · cases stepped

theorem scan_foldlM {text : List UInt8} {lexer final : Lexer}
    (read : text.foldlM Lexer.step lexer = some final) :
    final.scan = text.foldl Scan.step lexer.scan := by
  induction text generalizing lexer with
  | nil =>
    cases read
    rfl
  | cons byte rest ih =>
    rw [List.foldlM_cons] at read
    obtain ⟨next, stepped, continued⟩ := Option.bind_eq_some_iff.mp read
    rw [ih continued, scan_step stepped, List.foldl_cons]

/-- A complete text ends outside every string, array and object. -/
theorem Denotes.scan_eq {text : List UInt8} {value : Json} (denotes : Denotes text value) :
    scan text = ⟨.outside, 0⟩ := by
  obtain ⟨lexer, read, finished⟩ := Option.bind_eq_some_iff.mp denotes
  have ended : lexer.scan = scan text := scan_foldlM read
  obtain ⟨mode, tokens⟩ := lexer
  rw [← ended, ← nesting_tokens value]
  cases mode with
  | between =>
    cases finished
    rfl
  | word text =>
    obtain ⟨last, -, same⟩ := Option.map_eq_some_iff.mp finished
    rw [← same, nesting_scalar]
    rfl
  | string text => cases finished
  | escape text => cases finished
  | unicode text remaining => cases finished

/-- A scan stays in a string over plain text. -/
theorem foldl_plain (depth : Int) {text : List UInt8} (plain : Plain text) :
    text.foldl Scan.step ⟨.quoted, depth⟩ = ⟨.quoted, depth⟩ := by
  induction text with
  | nil => rfl
  | cons byte rest ih =>
    obtain ⟨noQuote, noBackslash, -⟩ := plain byte List.mem_cons_self
    have kept : Scan.step ⟨.quoted, depth⟩ byte = ⟨.quoted, depth⟩ := by
      simp only [Scan.step, if_neg noQuote, if_neg noBackslash]
    rw [List.foldl_cons, kept, ih fun other member => plain other (List.mem_cons_of_mem byte member)]

end Json

end IotstackDriver.Support
