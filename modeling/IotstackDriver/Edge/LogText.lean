import IotstackDriver.Edge.LogUpload
import IotstackDriver.Libc.Numerals
import IotstackDriver.Support.QuoteEscape

/-! What `log_write` publishes: a JSON object with the message of the log. -/

namespace IotstackDriver.Edge.LogUpload

open Libc Support Program

/-- The outcomes of one call. -/
structure LogEnv where
  malloc : LogBuffer → Bool
  seconds : Int

def handleLog (env : LogEnv) : Handler logging Unit
  | .malloc buffer, _ => some (env.malloc buffer, ())
  | .gettimeofday, _ => some (env.seconds, ())
  | .publishString _ _, _ | .flush, _ | .free _, _ => some ((), ())
  | .fault, _ => none

def uploaded : LogRequest → Option (Bytes × Bytes)
  | .publishString subject text => some (subject, text)
  | _ => none

/-- What a log publishes. -/
def uploads (env : LogEnv) (log : Program logging Unit) : List (Bytes × Bytes) :=
  log.observed (handleLog env) uploaded ()

def LogEnv.allocated (env : LogEnv) : Bool :=
  env.malloc .msgStrRep && env.malloc .msgStr && env.malloc .logMsg

/-- The message as it is put between quotes. -/
def escapedMsg (text : String) (args : List Arg) : Bytes :=
  Replace.replaceAll quoteMark escapedQuote (msgStr text args).bytes

private theorem escapedMsg_noNul (text : String) (args : List Arg) : 0 ∉ escapedMsg text args :=
  replaceAll_noNul (msgStr text args) ⟨escapedQuote, by decide⟩ (by decide)

theorem escapedMsg_length (text : String) (args : List Arg) :
    (escapedMsg text args).length = (msgStr text args).bytes.length + (msgStr text args).bytes.count 34 := by
  have nonempty : quoteMark ≠ [] := by decide
  have length := Replace.replaceAll_length nonempty escapedQuote (msgStr text args).bytes
  have quotes : Replace.occurrences quoteMark (msgStr text args).bytes =
    (msgStr text args).bytes.count 34 := Replace.occurrences_singleton 34 _
  have sizes : quoteMark.length = 1 ∧ escapedQuote.length = 2 := by decide
  rw [quotes, sizes.1, sizes.2] at length
  rw [escapedMsg]
  omega

/-- A log that gets its buffers publishes one text or, where the escaped message does not
fit, stores past its buffer. -/
theorem logWrite_spec (env : LogEnv) (driverName : Bytes) (level : LogLevel) (text : String)
    (args : List Arg) :
    ((logWrite driverName level text args).run (handleLog env) () =
      if env.allocated = true → (escapedMsg text args).length < natsMsgMaxLen then some ((), ())
      else none) ∧
    uploads env (logWrite driverName level text args) =
      if env.allocated = true ∧ (escapedMsg text args).length < natsMsgMaxLen then
        [(edgeLogUploadSubject, snprintf natsMsgMaxLen logUploadFormat [.str driverName,
          .str (levelName level), .str (escapedMsg text args), .int env.seconds])]
      else [] := by
  have nonempty : quoteMark ≠ [] := by decide
  unfold uploads
  rw [logWrite]
  cases first : env.malloc .msgStrRep with
  | false => simp [LogEnv.allocated, first, malloc, run, observed, handleLog, uploaded]
  | true =>
    cases second : env.malloc .msgStr with
    | false =>
      simp [LogEnv.allocated, first, second, malloc, gettimeofday, free, run, observed, handleLog,
        uploaded]
    | true =>
      cases third : env.malloc .logMsg with
      | false =>
        simp [LogEnv.allocated, first, second, third, malloc, gettimeofday, free, run, observed,
          handleLog, uploaded]
      | true =>
        by_cases fits : (escapedMsg text args).length < natsMsgMaxLen
        · have stored := replaceInto_fits .zero nonempty fits
          have held : ∀ memory : Memory, (memory.storeAll (replaceStr (msgStr text args).bytes quoteMark
              escapedQuote)).cString natsMsgMaxLen = escapedMsg text args :=
            (replaceStr_leaves (msgStr text args).bytes escapedQuote nonempty).cString
              (escapedMsg_noNul text args) fits
          simp [LogEnv.allocated, first, second, third, malloc, gettimeofday, free, run, observed,
            handleLog, uploaded, stored, fits, publishString, flush, held]
        · have stored := replaceInto_overruns .zero nonempty fits
          simp [LogEnv.allocated, first, second, third, malloc, gettimeofday, fault, run, observed,
            handleLog, uploaded, stored, fits]

/-- A log ends exactly when it gets no buffers or its message stays inside them. -/
theorem logWrite_ends (env : LogEnv) (driverName : Bytes) (level : LogLevel) (text : String)
    (args : List Arg) :
    ((logWrite driverName level text args).run (handleLog env) ()).isSome =
      (!env.allocated || logInside text args) := by
  have size : logInside text args = decide ((escapedMsg text args).length < natsMsgMaxLen) := by
    rw [logInside, escapedMsg_length, CString.strlen]
  rw [(logWrite_spec env driverName level text args).1, size]
  cases env.allocated <;> by_cases fits : (escapedMsg text args).length < natsMsgMaxLen <;> simp [fits]

/-- A log that is a single request ends when the program of `log_write` does. -/
theorem handle_logWrite_ends {env : Env} {log : LogEnv} {text : String} {args : List Arg}
    (same : env.malloc (.log text args) = log.allocated) (driverName : Bytes) (level : LogLevel)
    (world : World) : (handle env (.logWrite level text args) world).isSome =
      ((logWrite driverName level text args).run (handleLog log) ()).isSome := by
  rw [logWrite_ends, ← same]
  cases fits : env.fits (.logWrite level text args) with
  | true =>
    rw [handle, Handler.guarded_of_passes fits]
    exact fits.symm
  | false =>
    rw [handle, Handler.guarded_of_fails fits]
    exact fits.symm

/-- The whole text of a log, in a buffer without bounds. -/
def logText (driverName : Bytes) (level : LogLevel) (message : Bytes) (seconds : Int) : Bytes :=
  format logUploadFormat [.str driverName, .str (levelName level),
    .str (Replace.replaceAll quoteMark escapedQuote message), .int seconds]

/-- The text is a complete JSON object whose member `message` is this message. -/
def CarriesMessage (sent message : Bytes) : Prop :=
  ∃ members, Json.Denotes sent (.object members) ∧ Json.TextMember members (ascii "message") message

private def opening : Bytes := ascii "\x7b\"module\": \"drv_"
private def levelJoint : Bytes := ascii "\",\"level\": \""
private def messageJoint : Bytes := ascii "\",\"message\": \""
private def timestampJoint : Bytes := ascii "\",\"timestamp\": "
private def closing : Bytes := ascii "\x7d"

theorem replaceAll_quotes (text : Bytes) :
    Replace.replaceAll quoteMark escapedQuote text = Json.escapeQuotes text := by
  have nonempty : quoteMark ≠ [] := by decide
  induction text with
  | nil => rfl
  | cons byte rest ih =>
    by_cases isQuote : byte = Json.quote
    · rw [isQuote, Json.escapeQuotes_quote, ← ih]
      exact Replace.replaceAll_found nonempty
    · have other : ¬ quoteMark <+: byte :: rest :=
        fun begins => isQuote (List.cons_prefix_cons.mp begins).1.symm
      rw [Json.escapeQuotes_other isQuote, ← ih]
      exact Replace.replaceAll_other other

private theorem logText_eq (driverName : Bytes) (level : LogLevel) (message : Bytes) (seconds : Int) :
    logText driverName level message seconds = opening ++ (driverName ++ (levelJoint ++
      (levelName level ++ (messageJoint ++ (Json.escapeQuotes message ++ (timestampJoint ++
        (signedDecimal seconds ++ closing))))))) := by
  rw [logText, replaceAll_quotes]
  rfl

/-- A log that gets its buffers and fits them publishes its whole text. -/
theorem logWrite_uploads {env : LogEnv} (allocated : env.allocated = true) {driverName : Bytes}
    {level : LogLevel} {text : String} {args : List Arg} {message : CString}
    (formatted : format text args = message.bytes)
    (fits : (logText driverName level message.bytes env.seconds).length < natsMsgMaxLen) :
    uploads env (logWrite driverName level text args) =
      [(edgeLogUploadSubject, logText driverName level message.bytes env.seconds)] := by
  have escaped : (Json.escapeQuotes message.bytes).length < natsMsgMaxLen := by
    rw [logText_eq] at fits
    simp only [List.length_append] at fits
    omega
  have short : message.bytes.length ≤ natsMsgMaxLen - 1 :=
    Nat.le_sub_one_of_lt (Nat.lt_of_le_of_lt (Json.length_le_escapeQuotes message.bytes) escaped)
  have whole : msgStr text args = message := by
    rw [msgStr, snprintf, formatted, List.take_of_length_le short, CString.ofBytes_bytes]
  have same : escapedMsg text args = Json.escapeQuotes message.bytes := by
    rw [escapedMsg, whole, replaceAll_quotes]
  rw [(logWrite_spec env driverName level text args).2, if_pos ⟨allocated, same ▸ escaped⟩, snprintf,
    same, ← replaceAll_quotes, ← logText, List.take_of_length_le (Nat.le_sub_one_of_lt fits)]

/-! ## Reading it -/

section Reading

variable {driverName : Bytes} {level : LogLevel}

/-- What stands before the message. -/
private def front (driverName : Bytes) (level : LogLevel) : Bytes :=
  opening ++ (driverName ++ (levelJoint ++ (levelName level ++ messageJoint)))

private def frontTokens (driverName : Bytes) (level : LogLevel) : List JsonToken :=
  [.openObject, .scalar (.string (ascii "module")), .colon,
    .scalar (.string (ascii "drv_" ++ driverName)), .comma, .scalar (.string (ascii "level")), .colon,
    .scalar (.string (levelName level)), .comma, .scalar (.string (ascii "message")), .colon]

private theorem levelName_plain (level : LogLevel) : Json.Plain (levelName level) := by
  cases level <;> decide

private theorem read_front (plain : Json.Plain driverName) (level : LogLevel) :
    (front driverName level).foldlM Json.Lexer.step ⟨.between, []⟩ =
      some ⟨.string [], frontTokens driverName level⟩ := by
  have opened : opening.foldlM Json.Lexer.step ⟨.between, []⟩ = some ⟨.string (ascii "drv_"),
      [.openObject, .scalar (.string (ascii "module")), .colon]⟩ := rfl
  have levelJoined (tokens : List JsonToken) (held : Bytes) :
      levelJoint.foldlM Json.Lexer.step ⟨.string held, tokens⟩ = some ⟨.string [],
        tokens ++ [.scalar (.string held)] ++ [.comma] ++ [.scalar (.string (ascii "level"))] ++
          [.colon]⟩ := rfl
  have messageJoined (tokens : List JsonToken) (held : Bytes) :
      messageJoint.foldlM Json.Lexer.step ⟨.string held, tokens⟩ = some ⟨.string [],
        tokens ++ [.scalar (.string held)] ++ [.comma] ++ [.scalar (.string (ascii "message"))] ++
          [.colon]⟩ := rfl
  rw [front, List.foldlM_append, opened, Option.bind_eq_bind, Option.bind_some, List.foldlM_append,
    Json.foldlM_plain _ _ plain, Option.bind_eq_bind, Option.bind_some, List.foldlM_append, levelJoined,
    Option.bind_eq_bind, Option.bind_some, List.foldlM_append,
    Json.foldlM_plain _ _ (levelName_plain level), Option.bind_eq_bind, Option.bind_some, messageJoined]
  rfl

/-- The string that the front leads up to is the member `message`. -/
private theorem message_of_front {members : List (Bytes × Json)} {text : Bytes}
    (begins : frontTokens driverName level ++ [.scalar (.string text)] <+:
      (Json.object members).tokens) :
    members.lookup (ascii "message") = some (.scalar (.string text)) := by
  simp only [frontTokens, Json.tokens, List.cons_append, List.nil_append, List.cons_prefix_cons,
    true_and] at begins
  obtain ⟨afterModule, moduleFirst, levelNext⟩ := Json.next_member begins
  obtain ⟨afterLevel, levelFirst, messageNext⟩ := Json.next_member (levelNext _ rfl)
  obtain ⟨afterMessage, messageFirst, -⟩ := Json.next_member (messageNext _ rfl)
  rw [moduleFirst, levelFirst, messageFirst]
  rfl

/-- Once the string of the message is at its end, the next quote closes it. Where its last
backslash is not, the string goes on to the next member, whose name is then no JSON. -/
private theorem read_end {lexer final : Json.Lexer} {held rest : Bytes}
    (inside : lexer.mode.held? = some held)
    (read : (timestampJoint ++ rest).foldlM Json.Lexer.step lexer = some final) :
    (Json.Lexer.mk .between (lexer.tokens ++ [.scalar (.string held)])).tokens <+: final.tokens := by
  obtain ⟨mode, tokens⟩ := lexer
  cases mode with
  | between => cases inside
  | word text => cases inside
  | string text =>
    cases inside
    have quoted : Json.Lexer.step ⟨.string held, tokens⟩ 34 =
        some ⟨.between, tokens ++ [.scalar (.string held)]⟩ := rfl
    have begins : timestampJoint ++ rest = 34 :: (ascii ",\"timestamp\": " ++ rest) := rfl
    rw [begins, List.foldlM_cons, quoted] at read
    exact Json.tokens_foldlM read
  | escape text =>
    have stuck : timestampJoint.foldlM Json.Lexer.step ⟨.escape text, tokens⟩ = none := rfl
    rw [List.foldlM_append, stuck] at read
    cases read
  | unicode text remaining =>
    have stuck : timestampJoint.foldlM Json.Lexer.step ⟨.unicode text remaining, tokens⟩ = none := rfl
    rw [List.foldlM_append, stuck] at read
    cases read

/-- A message that is read back has nothing to escape but quotes. -/
private theorem quotesOnly_of_carried {message : Bytes} {seconds : Int} (plain : Json.Plain driverName)
    (carries : CarriesMessage (logText driverName level message seconds) message) :
    Json.QuotesOnly message := by
  obtain ⟨members, denotes, raw, found, spells⟩ := carries
  have first (text : Bytes) (begins : frontTokens driverName level ++ [.scalar (.string text)] <+:
      (Json.object members).tokens) : raw = text := by
    cases found.symm.trans (message_of_front begins)
    rfl
  have split : logText driverName level message seconds = (front driverName level ++
      Json.escapeQuotes message) ++ (timestampJoint ++ (signedDecimal seconds ++ closing)) := by
    rw [logText_eq, front]
    simp only [List.append_assoc]
  rw [split] at denotes
  obtain ⟨final, read, -⟩ := Option.bind_eq_some_iff.mp denotes
  have whole : final.tokens <+: (Json.object members).tokens := by
    rw [← List.append_nil (_ ++ _)] at denotes
    exact denotes.begins read
  rw [List.foldlM_append] at read
  obtain ⟨lexer, scanned, rest⟩ := Option.bind_eq_some_iff.mp read
  have inMessage := scanned
  rw [List.foldlM_append, read_front plain, Option.bind_eq_bind, Option.bind_some] at inMessage
  rcases Json.held_foldlM rfl inMessage with ⟨before, after, same, ended⟩ | ⟨held, kept⟩
  · -- a quote of the message ends the string, and what is before it is shorter
    obtain ⟨left, right, message_eq, before_eq⟩ := Json.quote_in_escaped same
    rw [first _ ((Json.tokens_foldlM ended).trans (denotes.begins scanned)), List.nil_append,
      before_eq] at spells
    have short := (spells.quotes_length (.inr rfl) rfl).1
    rw [message_eq, List.length_append, List.length_cons] at short
    omega
  · rw [List.nil_append] at held
    have closed := read_end held rest
    rw [kept] at closed
    rw [first _ (closed.trans whole)] at spells
    exact (spells.quotes_length (.inl rfl) (List.append_nil _)).2 rfl rfl

private theorem integer_decimal (value : Nat) : Json.integer? (decimal value) = some [] := by
  rcases Nat.eq_zero_or_pos value with rfl | positive
  · rfl
  · obtain ⟨first, rest, same, nonzero⟩ := decimal_first positive
    have digits : ∀ byte ∈ first :: rest, Json.isDigit byte = true :=
      fun byte member => decimal_isDigit (same ▸ member)
    have all : rest.dropWhile Json.isDigit = [] :=
      List.dropWhile_eq_nil_iff.mpr fun byte member => digits byte (List.mem_cons_of_mem first member)
    rw [same, Json.integer?.eq_def]
    split
    · rename_i zero
      exact absurd (List.cons.inj zero).1 nonzero
    · rw [Json.digits?, if_pos (digits first List.mem_cons_self), all]

/-- A number in decimal is a JSON number. -/
private theorem isNumber_signedDecimal (value : Int) : Json.isNumber (signedDecimal value) = true := by
  have unsigned : (Json.integer? (decimal value.natAbs) >>= Json.fraction? >>= Json.exponent?) = some [] := by
    rw [integer_decimal]
    rfl
  have notSigned : (decimal value.natAbs).head? ≠ some 45 := by
    intro minus
    exact absurd (decimal_isDigit (List.mem_of_head? minus)) (by decide)
  rw [Json.isNumber, signedDecimal]
  by_cases negative : value < 0
  · rw [if_pos negative, List.head?_cons, if_pos rfl, List.tail_cons, unsigned]
    rfl
  · rw [if_neg negative, if_neg notSigned, unsigned]
    rfl

private theorem read_seconds (tokens : List JsonToken) (seconds : Int) :
    (signedDecimal seconds ++ closing).foldlM Json.Lexer.step ⟨.between, tokens⟩ =
      some ⟨.between, tokens ++ [.scalar (.number (signedDecimal seconds))] ++ [.closeObject]⟩ := by
  have letters : ∀ byte ∈ signedDecimal seconds, Json.isWordByte byte = true := by
    intro byte member
    have word : byte = 45 ∨ isDigit byte = true := by
      rw [signedDecimal] at member
      split at member
      · exact (List.mem_cons.mp member).imp_right decimal_isDigit
      · exact .inr (decimal_isDigit member)
    rcases word with rfl | digit
    · rfl
    · have same : Json.isDigit byte = true := digit
      simp only [Json.isWordByte, same, Bool.true_or]
  have closed (word : Bytes) (value : JsonScalar) (known : Json.word? word = some value) :
      Json.Lexer.step ⟨.word word, tokens⟩ 125 =
        some ⟨.between, tokens ++ [.scalar value] ++ [.closeObject]⟩ := by
    have noLetter : Json.isWordByte 125 = false := by decide
    simp only [Json.Lexer.step, noLetter, Bool.false_eq_true, if_false, known, Option.bind_some]
    rfl
  cases text : signedDecimal seconds with
  | nil =>
    rw [signedDecimal] at text
    split at text
    · cases text
    · exact absurd (List.map_eq_nil_iff.mp text) Nat.toDigits_ne_nil
  | cons first rest =>
    have number := Json.word?_number (isNumber_signedDecimal seconds)
    rw [text] at letters number
    have last : closing = [125] := rfl
    rw [List.foldlM_append, Json.foldlM_newWord letters, Option.bind_eq_bind, Option.bind_some, last,
      List.foldlM_cons, closed _ _ number]
    rfl

/-- A message with nothing to escape but quotes is read back. -/
private theorem carried_of_quotesOnly {message : Bytes} {seconds : Int} (plain : Json.Plain driverName)
    (quotesOnly : Json.QuotesOnly message) :
    CarriesMessage (logText driverName level message seconds) message := by
  have joined (tokens : List JsonToken) (held : Bytes) :
      timestampJoint.foldlM Json.Lexer.step ⟨.string held, tokens⟩ = some ⟨.between,
        tokens ++ [.scalar (.string held)] ++ [.comma] ++ [.scalar (.string (ascii "timestamp"))] ++
          [.colon]⟩ := rfl
  have split : logText driverName level message seconds = front driverName level ++
      (Json.escapeQuotes message ++ (timestampJoint ++ (signedDecimal seconds ++ closing))) := by
    rw [logText_eq, front]
    simp only [List.append_assoc]
  refine ⟨[(ascii "module", .scalar (.string (ascii "drv_" ++ driverName))),
    (ascii "level", .scalar (.string (levelName level))),
    (ascii "message", .scalar (.string (Json.escapeQuotes message))),
    (ascii "timestamp", .scalar (.number (signedDecimal seconds)))], ?_, _, rfl, quotesOnly.spells⟩
  rw [split, Json.Denotes, Json.tokenize, List.foldlM_append, read_front plain, Option.bind_eq_bind,
    Option.bind_some, List.foldlM_append, quotesOnly.foldlM, Option.bind_eq_bind, Option.bind_some,
    List.foldlM_append, joined, Option.bind_eq_bind, Option.bind_some, read_seconds, Option.bind_some,
    List.nil_append]
  rfl

end Reading

/-- What a log publishes says its message exactly where the message has nothing to escape
but quotes: no backslash, no line break and no other control character. -/
theorem logWrite_carries_iff (env : LogEnv) (allocated : env.allocated = true) {driverName : Bytes}
    (plain : Json.Plain driverName) (level : LogLevel) {text : String} {args : List Arg}
    {message : CString} (formatted : format text args = message.bytes)
    (fits : (logText driverName level message.bytes env.seconds).length < natsMsgMaxLen) :
    (∃ sent, uploads env (logWrite driverName level text args) = [(edgeLogUploadSubject, sent)] ∧
      CarriesMessage sent message.bytes) ↔ Json.QuotesOnly message.bytes := by
  rw [logWrite_uploads allocated formatted fits]
  constructor
  · rintro ⟨sent, same, carries⟩
    cases same
    exact quotesOnly_of_carried plain carries
  · exact fun quotesOnly => ⟨_, rfl, carried_of_quotesOnly plain quotesOnly⟩

/-- A call that gets its buffers. -/
private def calmLog : LogEnv := ⟨fun _ => true, 1700000000⟩

theorem logWrite_carries_quotes :
    ∃ sent, uploads calmLog (logWrite (ascii "modbus") .warn "cannot find conn device[%s]"
        [.str (ascii "\"d1\"")]) = [(edgeLogUploadSubject, sent)] ∧
      CarriesMessage sent (ascii "cannot find conn device[\"d1\"]") := by
  have formatted : format "cannot find conn device[%s]" [.str (ascii "\"d1\"")] =
      (CString.literal "cannot find conn device[\"d1\"]").bytes := by
    decide
  have fits : (logText (ascii "modbus") .warn (CString.literal "cannot find conn device[\"d1\"]").bytes
      calmLog.seconds).length < natsMsgMaxLen := by
    decide +kernel
  exact (logWrite_carries_iff calmLog rfl (by decide) .warn formatted fits).mpr (by decide)

/-- A text that ends its line. -/
theorem lineBreak_garbles : ¬ ∀ (env : LogEnv) (driverName : Bytes) (level : LogLevel) (text : String)
    (args : List Arg) (message : CString), env.allocated = true → Json.Plain driverName →
    format text args = message.bytes →
    (logText driverName level message.bytes env.seconds).length < natsMsgMaxLen →
    ∃ sent, uploads env (logWrite driverName level text args) = [(edgeLogUploadSubject, sent)] ∧
      CarriesMessage sent message.bytes := by
  intro always
  have formatted : format "login_str_payload:%s\r\n" [.str (ascii "\x7b\x7d")] =
      (CString.literal "login_str_payload:\x7b\x7d\r\n").bytes := by
    decide
  have fits : (logText (ascii "modbus") .debug (CString.literal "login_str_payload:\x7b\x7d\r\n").bytes
      calmLog.seconds).length < natsMsgMaxLen := by
    decide +kernel
  have plain : Json.Plain (ascii "modbus") := by decide
  obtain ⟨sent, published, carries⟩ := always calmLog (ascii "modbus") .debug _ _ _ rfl plain formatted fits
  rw [logWrite_uploads rfl formatted fits] at published
  cases published
  exact absurd (quotesOnly_of_carried plain carries) (by decide)

end IotstackDriver.Edge.LogUpload
