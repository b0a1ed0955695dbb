import IotstackDriver.Support.JsonText
import IotstackDriver.Libc.Numerals
import IotstackDriver.Edge.EncodedLength
import IotstackDriver.Edge.Envelope
import IotstackDriver.Edge.Issued

/-! The texts of the requests a client makes: a JSON object, in base64, in a JSON object.
A login, a logout and a registration write the object in place, a topology operation
through a buffer of its own. -/

namespace IotstackDriver.Edge

open Libc Support Program

/-! ## The object of a request -/

/-- The value is an object with this id, in decimal, and an array of one object, which
has exactly these members. -/
def IsRequest (value : Json) (requestId : UInt32) (params : List (Bytes × Bytes)) : Prop :=
  ∃ members param, value = .object members ∧
    Json.TextMember members (ascii "RequestID") (decimal requestId.toNat) ∧
    members.lookup (ascii "Params") = some (.array [.object param]) ∧
    param.map Prod.fst = params.map Prod.fst ∧
    ∀ named ∈ params, Json.TextMember param named.1 named.2

/-- The members that name a client. -/
def SubdevClient.params (client : SubdevClient) : List (Bytes × Bytes) :=
  [(ascii "ProductSN", client.productSn.bytes), (ascii "DeviceSN", client.deviceSn.bytes)]

private def textMembers (params : List (Bytes × Bytes)) : List (Bytes × Json) :=
  params.map fun named => (named.1, .scalar (.string named.2))

private def requestObject (requestId : UInt32) (params : List (Bytes × Bytes)) : Json :=
  .object [(ascii "RequestID", .scalar (.string (decimal requestId.toNat))),
    (ascii "Params", .array [.object (textMembers params)])]

private theorem decimal_plain (value : Nat) : Json.Plain (decimal value) := by
  intro byte member
  have digit := decimal_bounds member
  refine ⟨?_, ?_, UInt8.le_iff_toNat_le.mpr (Nat.le_trans (by decide) digit.1)⟩
  · rintro rfl
    exact absurd digit.1 (by decide)
  · rintro rfl
    exact absurd digit.2 (by decide)

private theorem textMember_of_lookup {params : List (Bytes × Bytes)} {name text : Bytes}
    (found : params.lookup name = some text) (plain : Json.Plain text) :
    Json.TextMember (textMembers params) name text := by
  refine ⟨text, ?_, plain.spells⟩
  induction params with
  | nil => cases found
  | cons first rest ih =>
    obtain ⟨key, own⟩ := first
    simp only [textMembers, List.map_cons, List.lookup_cons] at found ih ⊢
    cases same : name == key with
    | true =>
      rw [same] at found
      cases found
      rfl
    | false =>
      rw [same] at found
      exact ih found

private theorem isRequest_requestObject (requestId : UInt32) {params : List (Bytes × Bytes)}
    (named : ∀ named ∈ params, params.lookup named.1 = some named.2 ∧ Json.Plain named.2) :
    IsRequest (requestObject requestId params) requestId params := by
  refine ⟨_, textMembers params, rfl, ⟨_, rfl, (decimal_plain requestId.toNat).spells⟩, rfl, ?_, ?_⟩
  · rw [textMembers, List.map_map]
    rfl
  · exact fun one member => textMember_of_lookup (named one member).1 (named one member).2

/-! ## How the texts are read -/

section Reading

variable (tokens : List JsonToken) (held : Bytes)

private theorem read_requestOpening : requestOpening.foldlM Json.Lexer.step ⟨.between, []⟩ =
    some ⟨.string [], [.openObject, .scalar (.string (ascii "RequestID")), .colon]⟩ := by decide

private theorem read_paramsOpening :
    paramsOpening.foldlM Json.Lexer.step ⟨.string held, tokens⟩ = some ⟨.between,
      tokens ++ [.scalar (.string held)] ++ [.comma] ++ [.scalar (.string (ascii "Params"))] ++
        [.colon] ++ [.openArray]⟩ := rfl

private theorem read_subdevOpening :
    subdevOpening.foldlM Json.Lexer.step ⟨.between, tokens⟩ = some ⟨.string [],
      tokens ++ [.openObject] ++ [.scalar (.string (ascii "ProductSN"))] ++ [.colon]⟩ := rfl

private theorem read_deviceJoint :
    deviceJoint.foldlM Json.Lexer.step ⟨.string held, tokens⟩ = some ⟨.string [],
      tokens ++ [.scalar (.string held)] ++ [.comma] ++ [.scalar (.string (ascii "DeviceSN"))] ++
        [.colon]⟩ := rfl

private theorem read_secretJoint :
    secretJoint.foldlM Json.Lexer.step ⟨.string held, tokens⟩ = some ⟨.string [],
      tokens ++ [.scalar (.string held)] ++ [.comma] ++
        [.scalar (.string (ascii "ProductSecret"))] ++ [.colon]⟩ := rfl

private theorem read_subdevClosing :
    subdevClosing.foldlM Json.Lexer.step ⟨.string held, tokens⟩ = some ⟨.between,
      tokens ++ [.scalar (.string held)] ++ [.closeObject]⟩ := rfl

private theorem read_paramsClosing :
    paramsClosing.foldlM Json.Lexer.step ⟨.between, tokens⟩ =
      some ⟨.between, tokens ++ [.closeArray] ++ [.closeObject]⟩ := rfl

end Reading

private theorem denotes_logInOutPayload {own : SubdevClient} (requestId : UInt32)
    (product : Json.Plain own.productSn.bytes) (device : Json.Plain own.deviceSn.bytes) :
    Json.Denotes (format logInOutFormatPayload
        [.uint requestId, .str own.productSn.bytes, .str own.deviceSn.bytes])
      (requestObject requestId own.params) := by
  rw [logInOutPayload_eq, Json.Denotes, Json.tokenize]
  simp only [List.foldlM_append, read_requestOpening, Json.foldlM_plain _ _ (decimal_plain _),
    read_paramsOpening, read_subdevOpening, Json.foldlM_plain _ _ product, read_deviceJoint,
    Json.foldlM_plain _ _ device, read_subdevClosing, read_paramsClosing, Option.bind_eq_bind,
    Option.bind_some, List.nil_append]
  simp [Json.Lexer.finish, requestObject, textMembers, SubdevClient.params, Json.tokens,
    Json.memberTokens, Json.elementTokens]

private theorem denotes_dynRegPayload {own : SubdevClient} {secret : Bytes} (requestId : UInt32)
    (product : Json.Plain own.productSn.bytes) (device : Json.Plain own.deviceSn.bytes)
    (plain : Json.Plain secret) :
    Json.Denotes (format dynRegFormatPayload
        [.uint requestId, .str own.productSn.bytes, .str own.deviceSn.bytes, .str secret])
      (requestObject requestId (own.params ++ [(ascii "ProductSecret", secret)])) := by
  rw [dynRegPayload_eq, Json.Denotes, Json.tokenize]
  simp only [List.foldlM_append, read_requestOpening, Json.foldlM_plain _ _ (decimal_plain _),
    read_paramsOpening, read_subdevOpening, Json.foldlM_plain _ _ product, read_deviceJoint,
    Json.foldlM_plain _ _ device, read_secretJoint, Json.foldlM_plain _ _ plain, read_subdevClosing,
    read_paramsClosing, Option.bind_eq_bind, Option.bind_some, List.nil_append]
  simp [Json.Lexer.finish, requestObject, textMembers, SubdevClient.params, Json.tokens,
    Json.memberTokens, Json.elementTokens]

/-! ## A request of a client -/

/-- A login or a logout under some id, or a registration, which draws its own. -/
inductive ClientRequest where
  | logInOut (logOp : SubdevLogInOut) (requestId : UInt32)
  | dynamicAuth (productSecret : CString) (timeOutMs : UInt32)

namespace ClientRequest

def requestId (env : Env) : ClientRequest → UInt32
  | logInOut _ requestId => requestId
  | dynamicAuth _ _ => env.requestId

def operation : ClientRequest → Bytes
  | logInOut .login _ => ascii "login"
  | logInOut .logout _ => ascii "logout"
  | dynamicAuth _ _ => ascii "register"

/-- What is registered besides the serial numbers. -/
def secret? : ClientRequest → Option CString
  | logInOut _ _ => none
  | dynamicAuth productSecret _ => some productSecret

def params (own : SubdevClient) (request : ClientRequest) : List (Bytes × Bytes) :=
  own.params ++ (request.secret?.map fun secret => (ascii "ProductSecret", secret.bytes)).toList

def topic (own : SubdevClient) (request : ClientRequest) : Bytes :=
  ascii "/$system/" ++ (own.productSn.bytes ++ (ascii "/" ++ (own.deviceSn.bytes ++
    (ascii "/subdev/" ++ request.operation))))

/-- The function that makes the request. -/
def program (config : DriverConfig) (client : Ref) : ClientRequest → Program edge EdgeStatus
  | logInOut logOp requestId => Edge.logInOut config client logOp requestId
  | dynamicAuth productSecret timeOutMs =>
    edgeSubdevDynamicAuth config (some client) (some productSecret) timeOutMs

/-- Its inner payload, in a buffer without bounds. -/
def payload (env : Env) (own : SubdevClient) : ClientRequest → Bytes
  | logInOut _ requestId => format logInOutFormatPayload
      [.uint requestId, .str own.productSn.bytes, .str own.deviceSn.bytes]
  | dynamicAuth productSecret _ => format dynRegFormatPayload [.uint env.requestId,
      .str own.productSn.bytes, .str own.deviceSn.bytes, .str productSecret.bytes]

/-- The text around an encoded payload, in a buffer without bounds. -/
def envelope (own : SubdevClient) (encoded : Bytes) : ClientRequest → Bytes
  | logInOut logOp _ => format logInOutFormat
      [.str own.productSn.bytes, .str own.deviceSn.bytes, .str logOp.topic, .str encoded]
  | dynamicAuth _ _ => format dynRegFormat
      [.str own.productSn.bytes, .str own.deviceSn.bytes, .str encoded]

/-- No text of the request is cut to its buffer. -/
structure Fits (env : Env) (own : SubdevClient) (request : ClientRequest) : Prop where
  inner : (request.payload env own).length ≤ natsMsgMaxLen - 1
  encoded : (Rfc4648.encode (request.payload env own)).length ≤ natsMsgMaxLen - 1
  outer : (request.envelope own (Rfc4648.encode (request.payload env own))).length ≤ natsMsgMaxLen - 1

/-- The text is an object with the topic of the request, and its payload decodes to the
object of the request. -/
def Carried (env : Env) (own : SubdevClient) (request : ClientRequest) (text : Bytes) : Prop :=
  ∃ inner value, CarriesWhole text (request.topic own) inner ∧ Json.Denotes inner value ∧
    IsRequest value (request.requestId env) (request.params own)

end ClientRequest

/-- ASCII characters that stand for themselves between quotes. -/
def PlainAscii (text : Bytes) : Prop := Json.Plain text ∧ IsAscii text

instance (text : Bytes) : Decidable (PlainAscii text) :=
  inferInstanceAs (Decidable (Json.Plain text ∧ IsAscii text))

/-- The serial numbers, and a secret, are of such characters. -/
structure ClientRequest.Ascii (own : SubdevClient) (request : ClientRequest) : Prop where
  product : PlainAscii own.productSn.bytes
  device : PlainAscii own.deviceSn.bytes
  secret : ∀ secret ∈ request.secret?, PlainAscii secret.bytes

section Payload

variable {env : Env} {own : SubdevClient} {request : ClientRequest}

private def encodedRequest : ClientRequest → EncodedRequest
  | .logInOut logOp _ => .logInOut logOp
  | .dynamicAuth productSecret _ => .dynamicAuth productSecret

private theorem decimal_ascii (value : Nat) : IsAscii (decimal value) := by
  intro byte member
  have digit := decimal_bounds member
  exact UInt8.lt_iff_toNat_lt.mpr (Nat.lt_of_le_of_lt digit.2 (by decide))

private theorem payload_ascii (plain : request.Ascii own) : IsAscii (request.payload env own) := by
  have fixed : IsAscii requestOpening ∧ IsAscii paramsOpening ∧ IsAscii subdevOpening ∧
      IsAscii deviceJoint ∧ IsAscii secretJoint ∧ IsAscii subdevClosing ∧ IsAscii paramsClosing := by
    decide
  obtain ⟨opening, params, subdev, device, secret, closing, last⟩ := fixed
  cases request with
  | logInOut logOp requestId =>
    have object := subdev.append (plain.product.2.append (device.append (plain.device.2.append closing)))
    rw [ClientRequest.payload, logInOutPayload_eq]
    exact opening.append ((decimal_ascii _).append (params.append (object.append last)))
  | dynamicAuth productSecret timeOutMs =>
    have registered := secret.append ((plain.secret productSecret rfl).2.append (closing.append last))
    have object := subdev.append (plain.product.2.append
      (device.append (plain.device.2.append registered)))
    rw [ClientRequest.payload, dynRegPayload_eq]
    exact opening.append ((decimal_ascii _).append (params.append object))

private theorem payload_denotes (env : Env) (plain : request.Ascii own) : ∃ value,
    Json.Denotes (request.payload env own) value ∧
      IsRequest value (request.requestId env) (request.params own) := by
  have product := plain.product.1
  have device := plain.device.1
  cases request with
  | logInOut logOp requestId =>
    refine ⟨_, denotes_logInOutPayload requestId product device, isRequest_requestObject requestId ?_⟩
    intro named member
    simp only [SubdevClient.params, List.mem_cons, List.not_mem_nil, or_false] at member
    rcases member with rfl | rfl
    · exact ⟨rfl, product⟩
    · exact ⟨rfl, device⟩
  | dynamicAuth productSecret timeOutMs =>
    have secret := (plain.secret productSecret rfl).1
    refine ⟨_, denotes_dynRegPayload env.requestId product device secret,
      isRequest_requestObject env.requestId ?_⟩
    intro named member
    simp only [SubdevClient.params, List.cons_append, List.nil_append, List.mem_cons, List.not_mem_nil,
      or_false] at member
    rcases member with rfl | rfl | rfl
    · exact ⟨rfl, product⟩
    · exact ⟨rfl, device⟩
    · exact ⟨rfl, secret⟩

private theorem payload_ne_nil : request.payload env own ≠ [] := by
  cases request with
  | logInOut logOp requestId =>
    rw [ClientRequest.payload, logInOutPayload_eq]
    exact List.cons_ne_nil _ _
  | dynamicAuth productSecret timeOutMs =>
    rw [ClientRequest.payload, dynRegPayload_eq]
    exact List.cons_ne_nil _ _

/-- The encoder writes the encoding of the payload, whatever the sign of `char`. -/
private theorem base64Encode_payload (sign : CharSign) (plain : request.Ascii own) :
    base64Encode sign (some (.ofBytes (request.payload env own))) (request.payload env own).length =
      some ⟨0, consecutive 0 (Rfc4648.encode (request.payload env own))⟩ := by
  have content : ∀ k (inside : k < (request.payload env own).length),
      Memory.ofBytes (request.payload env own) k = (request.payload env own)[k] := by
    intro k inside
    simp [Memory.ofBytes, inside]
  refine base64Encode_eq _ payload_ne_nil content fun k inside _ => ?_
  rw [content k inside]
  exact (value_nonneg_iff sign _).mpr (.inr (payload_ascii plain _ (List.getElem_mem inside)))

/-- Both envelopes are that of a message to the request's topic. -/
private theorem envelope_eq (encoded : Bytes) : request.envelope own encoded =
    format normalMsgFormat [.str (request.topic own), .str encoded] := by
  have normal (topic : Bytes) : format normalMsgFormat [.str topic, .str encoded] =
      ascii "\x7b\"src\": \"local\",\"topic\": \"" ++ (topic ++ (ascii "\",\"payload\": \"" ++
        (encoded ++ ascii "\"\x7d"))) := by rfl
  rw [normal, ClientRequest.topic]
  simp only [List.append_assoc]
  cases request with
  | logInOut logOp requestId => cases logOp <;> rfl
  | dynamicAuth productSecret timeOutMs => rfl

/-- Where the text around it fits, so does what it holds. -/
private theorem fits_of_outer (outer : envelopeLength + (request.topic own).length +
    4 * (((encodedRequest request).textLength own (request.requestId env) + 2) / 3) ≤
      natsMsgMaxLen - 1) : request.Fits env own := by
  have length : (request.payload env own).length =
      (encodedRequest request).textLength own (request.requestId env) := by
    cases request with
    | logInOut logOp requestId => exact EncodedRequest.length_text own requestId (.logInOut logOp)
    | dynamicAuth productSecret timeOutMs =>
      exact EncodedRequest.length_text own env.requestId (.dynamicAuth productSecret)
  have encoded : (Rfc4648.encode (request.payload env own)).length =
      4 * (((encodedRequest request).textLength own (request.requestId env) + 2) / 3) := by
    rw [Rfc4648.encode_length, length]
  constructor
  · omega
  · omega
  · rw [envelope_eq, length_normalMsg, encoded]
    exact outer

private theorem topic_plain (plain : request.Ascii own) : Json.Plain (request.topic own) := by
  have words : Json.Plain (ascii "login") ∧ Json.Plain (ascii "logout") ∧
      Json.Plain (ascii "register") := by decide
  have operation : Json.Plain request.operation := by
    cases request with
    | logInOut logOp requestId =>
      cases logOp with
      | login => exact words.1
      | logout => exact words.2.1
    | dynamicAuth productSecret timeOutMs => exact words.2.2
  have fixed : Json.Plain (ascii "/$system/") ∧ Json.Plain (ascii "/") ∧
      Json.Plain (ascii "/subdev/") := by decide
  exact fixed.1.append (plain.product.1.append (fixed.2.1.append (plain.device.1.append
    (fixed.2.2.append operation))))

private theorem envelope_carried (plain : request.Ascii own) : request.Carried env own
    (request.envelope own (Rfc4648.encode (request.payload env own))) := by
  obtain ⟨value, denotes, asked⟩ := payload_denotes env plain
  refine ⟨_, value, ?_, denotes, asked⟩
  rw [envelope_eq]
  exact carriesWhole_normalMsg (topic_plain plain) _

end Payload

/-! ## What is published -/

section Publication

variable {config : DriverConfig} {env : Env} {world : World} {client : Ref} {own : SubdevClient}

/-- The inner payload has eighteen quotes at most. -/
private theorem payload_quotes (env : Env) {request : ClientRequest} (plain : request.Ascii own) :
    (request.payload env own).count 34 ≤ 18 := by
  have fixed : requestOpening.count 34 = 3 ∧ paramsOpening.count 34 = 3 ∧ subdevOpening.count 34 = 3 ∧
      deviceJoint.count 34 = 4 ∧ secretJoint.count 34 = 4 ∧ subdevClosing.count 34 = 1 ∧
      paramsClosing.count 34 = 0 := by
    decide
  cases request with
  | logInOut logOp requestId =>
    simp only [ClientRequest.payload, logInOutPayload_eq, List.count_append, fixed,
      count_plain (decimal_plain _), count_plain plain.product.1, count_plain plain.device.1]
    decide
  | dynamicAuth productSecret timeOutMs =>
    simp only [ClientRequest.payload, dynRegPayload_eq, List.count_append, fixed,
      count_plain (decimal_plain _), count_plain plain.product.1, count_plain plain.device.1,
      count_plain (plain.secret productSecret rfl).1]
    decide

/-- The characters that the log of the envelope has besides it: its label, and a backslash for each
quote of the envelope. -/
def ClientRequest.logLength : ClientRequest → Nat
  | logInOut _ _ => 22
  | dynamicAuth _ _ => 24

private def logText : ClientRequest → String
  | .logInOut _ _ => "login_str:%s"
  | .dynamicAuth _ _ => "dyn_reg_msg:%s"

/-- The envelope of the encoded payload. -/
private def built (env : Env) (own : SubdevClient) (request : ClientRequest) : Bytes :=
  request.envelope own (Rfc4648.encode (request.payload env own))

variable {request : ClientRequest}

private theorem logFits_built (allocates : ∀ site, env.malloc site = true) (plain : request.Ascii own)
    (fits : request.Fits env own) :
    env.logFits (logText request) [.str (built env own request)] = true ↔
      request.logLength + (built env own request).length ≤ natsMsgMaxLen - 1 := by
  have outer := fits.outer
  rw [envelope_eq] at outer
  have length : (built env own request).length = envelopeLength + (request.topic own).length +
      (Rfc4648.encode (request.payload env own)).length := by
    rw [built, envelope_eq, length_normalMsg]
  have kept : built env own request = snprintf natsMsgMaxLen normalMsgFormat
      [.str (request.topic own), .str (Rfc4648.encode (request.payload env own))] := by
    rw [built, envelope_eq]
    exact (List.take_of_length_le outer).symm
  have topic := topic_plain plain
  rw [Env.logFits, allocates, Bool.not_true, Bool.false_or, length, kept]
  cases request with
  | logInOut logOp requestId =>
    exact @logInside_normalMsg "login_str:%s" _ _ (ascii "login_str:") (fun _ => rfl) (by decide) (by decide) topic
      (encode_plain _)
  | dynamicAuth productSecret timeOutMs =>
    exact @logInside_normalMsg "dyn_reg_msg:%s" _ _ (ascii "dyn_reg_msg:") (fun _ => rfl) (by decide) (by decide) topic
      (encode_plain _)

/-- Where the envelope fits, what it holds is short enough to be logged. -/
private theorem inner_short (fits : request.Fits env own) : (request.payload env own).length ≤ 1503 ∧
    (Rfc4648.encode (request.payload env own)).length ≤ 2005 := by
  have outer := fits.outer
  have size : natsMsgMaxLen = 2048 := rfl
  rw [envelope_eq, length_normalMsg, Rfc4648.encode_length, envelopeLength] at outer
  rw [Rfc4648.encode_length]
  omega

/-- A log of a text between two short ones. -/
private theorem logFits_between {text : String} {left line right : Bytes}
    (same : format text [.str line] = left ++ (line ++ right))
    (fixed : left.length + right.length + (left.count 34 + right.count 34) ≤ 42)
    (short : line.length + line.count 34 ≤ 2005) : env.logFits text [.str line] = true := by
  have size : natsMsgMaxLen = 2048 := rfl
  refine logFits_of_inside (logInside_of_short ?_)
  rw [same]
  simp only [List.length_append, List.count_append]
  omega

private theorem logFits_payload {text : String} (left right : Bytes) (plain : request.Ascii own)
    (fits : request.Fits env own)
    (same : format text [.str (request.payload env own)] = left ++ (request.payload env own ++ right))
    (fixed : left.length + right.length + (left.count 34 + right.count 34) ≤ 42) :
    env.logFits text [.str (request.payload env own)] = true := by
  refine logFits_between same fixed ?_
  have quotes := payload_quotes env plain
  have short := (inner_short fits).1
  omega

private theorem published_alloc {site : AllocSite} {next : Bool → Program edge α} :
    (malloc site >>= next).observed (handle env) publication world =
      (next (env.malloc site)).observed (handle env) publication world := observed_alloc rfl

private theorem published_log {level : LogLevel} {text : String} {args : List Arg}
    {next : Unit → Program edge α} :
    (logWrite level text args >>= next).observed (handle env) publication world =
      if env.logFits text args then (next ()).observed (handle env) publication world else [] :=
  observed_log rfl

private theorem published_read {next : SubdevClient → Program edge α}
    (found : world.devices.value? client = some own) :
    (readClient client >>= next).observed (handle env) publication world =
      (next own).observed (handle env) publication { world with devices := world.devices.touch client } :=
  observed_read rfl found

private theorem base64Text_payload (plain : request.Ascii own) (fits : request.Fits env own) :
    base64Text config (.ofBytes (request.payload env own)) (request.payload env own).length =
      .done (Rfc4648.encode (request.payload env own)) := by
  have short : (Rfc4648.encode (request.payload env own)).length < natsMsgMaxLen :=
    Nat.lt_of_le_of_lt (inner_short fits).2 (by decide)
  rw [base64Text, encodedMsg_eq_some.mpr ⟨base64Encode_payload config.charSign plain, by
    rwa [Coded.Fits, consecutive_length]⟩]
  exact congrArg Program.done (coded_text 0 _ (Rfc4648.encode_noNul _))

private theorem published_send {text : Bytes} {rest : EdgeStatus → Program edge α}
    (unseen : ∀ status, Issues (fun request => publication request = none) (rest status) fun _ => True) :
    (publishAndFlush config.edgeRouterSubject text >>= rest).observed (handle env) publication world =
      [(config.edgeRouterSubject, text)] :=
  observed_bind_unseen unseen world

private theorem handled_logInOut {logOp : SubdevLogInOut} {requestId : UInt32}
    (allocates : ∀ site, env.malloc site = true) (found : world.devices.value? client = some own)
    (plain : (ClientRequest.logInOut logOp requestId).Ascii own)
    (fits : (ClientRequest.logInOut logOp requestId).Fits env own) :
    (Edge.logInOut config client logOp requestId).observed (handle env) publication world =
      if env.logFits "login_str:%s" [.str (built env own (.logInOut logOp requestId))] then
        [(config.edgeRouterSubject, built env own (.logInOut logOp requestId))] else [] := by
  have whole : snprintf natsMsgMaxLen logInOutFormatPayload
      [.uint requestId, .str own.productSn.bytes, .str own.deviceSn.bytes] =
        (ClientRequest.logInOut logOp requestId).payload env own := List.take_of_length_le fits.inner
  have sent : snprintf natsMsgMaxLen logInOutFormat [.str own.productSn.bytes, .str own.deviceSn.bytes,
      .str logOp.topic, .str (Rfc4648.encode ((ClientRequest.logInOut logOp requestId).payload env own))] =
        built env own (.logInOut logOp requestId) := List.take_of_length_le fits.outer
  have inner : env.logFits "login_str_payload:%s\r\n"
      [.str ((ClientRequest.logInOut logOp requestId).payload env own)] = true :=
    logFits_payload (ascii "login_str_payload:") (ascii "\r\n") plain fits rfl (by decide)
  have second : { world with devices := world.devices.touch client }.devices.value? client = some own := by
    simpa using found
  simp only [Edge.logInOut, published_alloc, allocates, published_read found, whole, published_log, inner,
    base64Text_payload plain fits, done_bind, published_read second, sent, Bool.not_true, Bool.false_eq_true,
    ↓reduceIte]
  rw [published_send fun status => by simp [publication]]

private theorem handled_dynRegPublish {productSecret : CString} {timeOutMs : UInt32}
    (allocates : ∀ site, env.malloc site = true) (found : world.devices.value? client = some own)
    (plain : (ClientRequest.dynamicAuth productSecret timeOutMs).Ascii own)
    (fits : (ClientRequest.dynamicAuth productSecret timeOutMs).Fits env own) :
    (dynRegPublish config client productSecret env.requestId).observed (handle env) publication world =
      if env.logFits "dyn_reg_msg:%s" [.str (built env own (.dynamicAuth productSecret timeOutMs))] then
        [(config.edgeRouterSubject, built env own (.dynamicAuth productSecret timeOutMs))] else [] := by
  have whole : snprintf natsMsgMaxLen dynRegFormatPayload [.uint env.requestId, .str own.productSn.bytes,
      .str own.deviceSn.bytes, .str productSecret.bytes] =
        (ClientRequest.dynamicAuth productSecret timeOutMs).payload env own :=
    List.take_of_length_le fits.inner
  have sent : snprintf natsMsgMaxLen dynRegFormat [.str own.productSn.bytes, .str own.deviceSn.bytes,
      .str (Rfc4648.encode ((ClientRequest.dynamicAuth productSecret timeOutMs).payload env own))] =
        built env own (.dynamicAuth productSecret timeOutMs) := List.take_of_length_le fits.outer
  have inner : env.logFits "dyn_reg_payload:%s"
      [.str ((ClientRequest.dynamicAuth productSecret timeOutMs).payload env own)] = true :=
    logFits_payload (ascii "dyn_reg_payload:") [] plain fits rfl (by decide)
  have encoded : env.logFits "dyn_reg_payload_base64:%s"
      [.str (Rfc4648.encode ((ClientRequest.dynamicAuth productSecret timeOutMs).payload env own))] = true := by
    refine @logFits_between _ _ (ascii "dyn_reg_payload_base64:") _ [] rfl (by decide) ?_
    rw [count_plain (encode_plain _)]
    exact (inner_short fits).2
  have second : { world with devices := world.devices.touch client }.devices.value? client = some own := by
    simpa using found
  simp only [dynRegPublish, published_alloc, allocates, published_read found, whole, published_log, inner,
    base64Text_payload plain fits, done_bind, encoded, published_read second, sent, Bool.not_true,
    Bool.false_eq_true, ↓reduceIte]
  rw [published_send fun status => by simp]

/-- A registration publishes what its request does, with its entry listed. -/
private theorem handled_dynamicAuth (allocates : ∀ site, env.malloc site = true)
    (productSecret : CString) (timeOutMs : UInt32) : ∃ requests,
    (edgeSubdevDynamicAuth config (some client) (some productSecret) timeOutMs).observed (handle env)
        publication world =
      (dynRegPublish config client productSecret env.requestId).observed (handle env) publication
        ⟨requests, world.devices⟩ := by
  have created : (msgParseStrInit env.requestId).run (handle env) world =
      some (some world.requests.size,
        { world with requests := world.requests.alloc ⟨env.requestId, .zero⟩ }) := by
    simp [msgParseStrInit, Program.run_bind, allocates]
  have listed : (addToList .requestid world.requests.size).run (handle env)
      { world with requests := world.requests.alloc ⟨env.requestId, .zero⟩ } =
        some (.ok, ⟨(world.requests.alloc ⟨env.requestId, .zero⟩).push world.requests.size,
          world.devices⟩) := by
    have pushed (world : World) (node : Ref) : handle env (.push .requestid node) world =
        respond env (.push .requestid node) world := handle_other rfl
    simp [addToList, Program.run_bind, allocates, push, Program.run_call, pushed, respond]
  refine ⟨(world.requests.alloc ⟨env.requestId, .zero⟩).push world.requests.size, ?_⟩
  refine (observed_bind_finished (by simp [genRequestid, publication]) rfl).trans ?_
  refine (observed_bind_finished (by simp [msgParseStrInit, publication]) created).trans ?_
  refine (observed_bind_finished (by simp [addToList, publication]) listed).trans ?_
  refine observed_bind_unseen (fun sent => ?_) _
  cases sent with
  | none => simp
  | some status =>
    have waits (request : Request) (waits : Waits request) : publication request = none := by
      cases request <;> first | rfl | cases waits
    refine .bind ?_ fun _ => by simp [removeFromList, publication]
    rw [dynRegReply, issues_ite]
    split
    · simp [publication]
    · refine issues_awaitRetCode waits ?_ ?_ <;> simp [publication]

/-- Where nothing is cut, a request publishes its envelope if this can be logged. -/
private theorem published_envelope (allocates : ∀ site, env.malloc site = true)
    (found : world.devices.value? client = some own) (plain : request.Ascii own)
    (fits : request.Fits env own) :
    (request.program config client).observed (handle env) publication world =
      if env.logFits (logText request) [.str (built env own request)] then
        [(config.edgeRouterSubject, built env own request)] else [] := by
  cases request with
  | logInOut logOp requestId => exact handled_logInOut allocates found plain fits
  | dynamicAuth productSecret timeOutMs =>
    obtain ⟨requests, same⟩ := @handled_dynamicAuth config env world client allocates productSecret timeOutMs
    exact same.trans (handled_dynRegPublish allocates found plain fits)

/-- The request publishes one text, an object whose payload decodes to the object of the request. -/
def CarriesRequest (config : DriverConfig) (env : Env) (world : World) (client : Ref) (own : SubdevClient)
    (request : ClientRequest) : Prop :=
  ∃ text, (request.program config client).observed (handle env) publication world =
    [(config.edgeRouterSubject, text)] ∧ request.Carried env own text

/-- A request whose texts fit their buffers is carried exactly when its envelope fits the buffer
of the log too, with the label before it and its quotes escaped. -/
theorem clientRequest_carried_iff (config : DriverConfig) (env : Env) (world : World) (client : Ref)
    (own : SubdevClient) (request : ClientRequest) (allocates : ∀ site, env.malloc site = true)
    (found : world.devices.value? client = some own) (plain : request.Ascii own)
    (fits : request.Fits env own) :
    CarriesRequest config env world client own request ↔
      request.logLength + (request.envelope own (Rfc4648.encode (request.payload env own))).length ≤
        natsMsgMaxLen - 1 := by
  rw [CarriesRequest, published_envelope allocates found plain fits, ← built,
    ← logFits_built allocates plain fits]
  constructor
  · rintro ⟨text, same, -⟩
    by_contra unfit
    rw [if_neg unfit] at same
    cases same
  · intro fit
    rw [if_pos fit]
    exact ⟨_, rfl, envelope_carried plain⟩

private def probe : SubdevClient := .constructed (.literal "p1") (.literal "d1") 1 none

private def probeWorld : World := ⟨.empty, Registry.empty.alloc probe⟩

theorem clientRequest_carried_iff_register :
    CarriesRequest .plain .calm probeWorld 0 probe (.dynamicAuth (.literal "s1") 1000) ↔
      (ClientRequest.dynamicAuth (.literal "s1") 1000).logLength +
        ((ClientRequest.dynamicAuth (.literal "s1") 1000).envelope probe (Rfc4648.encode
          ((ClientRequest.dynamicAuth (.literal "s1") 1000).payload .calm probe))).length ≤
            natsMsgMaxLen - 1 :=
  clientRequest_carried_iff .plain .calm probeWorld 0 probe (.dynamicAuth (.literal "s1") 1000)
    (fun _ => rfl) rfl
    ⟨by decide, by decide, fun secret same => by
      cases same
      decide⟩
    (fits_of_outer (by decide))

private def longProduct : CString := ⟨List.replicate 806 112, fun member =>
  absurd (List.eq_of_mem_replicate member) (by decide)⟩

private def longOwner : SubdevClient := .constructed longProduct (.literal "d1") 1 none

/-- A login whose texts fit their buffers is stopped by the log of its envelope. -/
theorem longRequest_unpublished : ¬ ∀ (config : DriverConfig) (env : Env) (world : World) (client : Ref)
    (own : SubdevClient) (request : ClientRequest), (∀ site, env.malloc site = true) →
    world.devices.value? client = some own → request.Ascii own → request.Fits env own →
      CarriesRequest config env world client own request := by
  intro always
  have plain : (ClientRequest.logInOut .login 7).Ascii longOwner :=
    ⟨by decide +kernel, by decide, fun secret absent => by cases absent⟩
  have fits : (ClientRequest.logInOut .login 7).Fits .calm longOwner := fits_of_outer (by decide +kernel)
  have found : (Registry.empty.alloc longOwner).value? 0 = some longOwner := rfl
  have carries := always .plain .calm ⟨.empty, Registry.empty.alloc longOwner⟩ 0 longOwner
    (.logInOut .login 7) (fun _ => rfl) found plain fits
  obtain ⟨text, same, -⟩ := carries
  rw [published_envelope (fun _ => rfl) found plain fits, if_neg] at same
  · cases same
  · rw [logFits_built (fun _ => rfl) plain fits, built, envelope_eq, length_normalMsg, Rfc4648.encode_length]
    decide +kernel

end Publication






/-! ## The object through a buffer of its own -/

/-- The inner payload of a topology operation, as it is logged. -/
def topoPayload : Request → Option Bytes
  | .logWrite _ format [.str text] =>
    if format = "add payload_str:%s" ∨ format = "delete payload_str:%s" then some text else none
  | _ => none

/-- The inner payload of a login or a logout, as it is logged. -/
def loginPayload : Request → Option Bytes
  | .logWrite _ format [.str text] =>
    if format = "login_str_payload:%s\r\n" then some text else none
  | _ => none

/-- Both functions build one payload, and the two denote the same request for the client. -/
def SamePayload (config : DriverConfig) (env : Env) (world : World) (client : Ref) (own : SubdevClient)
    (op : TopoOperation) (logOp : SubdevLogInOut) (requestId : UInt32) : Prop :=
  ∃ built login value,
    (topoMsgCommon config (some client) requestId op).observed (respond env) topoPayload world = [built] ∧
    (logInOut config client logOp requestId).observed (respond env) loginPayload world = [login] ∧
    Json.Denotes built value ∧ Json.Denotes login value ∧ IsRequest value requestId own.params

/-- `subdev_str`, of a buffer without bounds. -/
private def wholeSubdev (own : SubdevClient) : Bytes :=
  format subdevStrFormat [.str own.productSn.bytes, .str own.deviceSn.bytes]

section Topo

variable {own : SubdevClient} (requestId : UInt32)

/-- In one piece, the two payloads are the same text. -/
private theorem topoPayload_whole :
    format topoOpFormatPayload [.uint requestId, .str (wholeSubdev own)] =
      format logInOutFormatPayload [.uint requestId, .str own.productSn.bytes, .str own.deviceSn.bytes] := by
  rw [topoOpPayload_eq, logInOutPayload_eq, wholeSubdev, subdevStr_eq]

/-- With the client's description cut, its object is left open. -/
private theorem not_denotes_cut_topo (product : Json.Plain own.productSn.bytes)
    (device : Json.Plain own.deviceSn.bytes) (cut : 99 < (wholeSubdev own).length) (value : Json) :
    ¬ Json.Denotes (format topoOpFormatPayload [.uint requestId, .str ((wholeSubdev own).take 99)])
      value := by
  intro denotes
  have opened : requestOpening.foldl Json.Scan.step ⟨.outside, 0⟩ = ⟨.quoted, 1⟩ := by decide
  have joined : paramsOpening.foldl Json.Scan.step ⟨.quoted, 1⟩ = ⟨.outside, 2⟩ := by decide
  have middle : Json.Level deviceJoint := ⟨by decide, by decide⟩
  have last : Json.Closing subdevClosing := by unfold Json.Closing; decide
  have left : (((wholeSubdev own).take 99).foldl Json.Scan.step ⟨.outside, 2⟩).depth = 3 := by
    rw [wholeSubdev, subdevStr_eq] at cut ⊢
    exact Json.depth_take (by decide)
      (product.level.closing (middle.closing (device.level.closing last))) (by decide) cut 2
  have ended := denotes.scan_eq
  rw [topoOpPayload_eq, Json.scan] at ended
  simp only [List.foldl_append, opened, Json.foldl_plain 1 (decimal_plain _), joined] at ended
  generalize ((wholeSubdev own).take 99).foldl Json.Scan.step ⟨.outside, 2⟩ = scan at left ended
  obtain ⟨place, depth⟩ := scan
  cases left
  cases place <;> exact absurd ended (by decide)

variable {config : DriverConfig} {env : Env} {world : World} {client : Ref}

private def builtTopo (own : SubdevClient) (requestId : UInt32) : Bytes :=
  snprintf natsMsgMaxLen topoOpFormatPayload [.uint requestId,
    .str (snprintf 100 subdevStrFormat [.str own.productSn.bytes, .str own.deviceSn.bytes])]

private def builtLogin (own : SubdevClient) (requestId : UInt32) : Bytes :=
  snprintf natsMsgMaxLen logInOutFormatPayload
    [.uint requestId, .str own.productSn.bytes, .str own.deviceSn.bytes]

private theorem observed_topoPayload (allocates : ∀ site, env.malloc site = true)
    (found : world.devices.value? client = some own) {op : TopoOperation} (changes : op ≠ .get) :
    (topoMsgCommon config (some client) requestId op).observed (respond env) topoPayload world =
      [builtTopo own requestId] := by
  have unseen (world : World) (data : Memory) (dataLen : Int) :
      (base64Text config data dataLen).observed (respond env) topoPayload world = [] :=
    observed_base64Text rfl data dataLen
  have first : (readClient client).run (respond env) world = some (own, _) := run_readClient found
  have second : (readClient client).run (respond env)
      { world with devices := world.devices.touch client } = some (own, _) :=
    run_readClient (by simpa using found)
  cases op with
  | get => exact absurd rfl changes
  | add | delete =>
    cases encoded : encodedMsg config (some (.ofBytes (builtTopo own requestId)))
        (builtTopo own requestId).length <;>
      simp only [builtTopo] at encoded <;>
      simp [topoMsgCommon, topoMsg, observed_bind, Program.run_bind, unseen, run_base64Text, topoPayload,
        allocates, encoded, first, second, builtTopo]

private theorem observed_loginPayload (allocates : ∀ site, env.malloc site = true)
    (found : world.devices.value? client = some own) (logOp : SubdevLogInOut) :
    (logInOut config client logOp requestId).observed (respond env) loginPayload world =
      [builtLogin own requestId] := by
  have unseen (world : World) (data : Memory) (dataLen : Int) :
      (base64Text config data dataLen).observed (respond env) loginPayload world = [] :=
    observed_base64Text rfl data dataLen
  have first : (readClient client).run (respond env) world = some (own, _) := run_readClient found
  cases encoded : encodedMsg config (some (.ofBytes (builtLogin own requestId)))
      (builtLogin own requestId).length <;>
    simp only [builtLogin] at encoded <;>
    simp [Edge.logInOut, observed_bind, unseen, run_base64Text, loginPayload, allocates, encoded, first,
      builtLogin]

/-- The topology payload is not longer than that of a login. -/
private theorem builtTopo_eq {logOp : SubdevLogInOut}
    (fits : (ClientRequest.logInOut logOp requestId).Fits env own) :
    builtTopo own requestId =
      format topoOpFormatPayload [.uint requestId, .str ((wholeSubdev own).take 99)] := by
  have inner : (format logInOutFormatPayload [.uint requestId, .str own.productSn.bytes,
      .str own.deviceSn.bytes]).length ≤ natsMsgMaxLen - 1 := fits.inner
  have login := EncodedRequest.length_text own requestId (.logInOut logOp)
  have topo := EncodedRequest.length_text own requestId (.topo .add)
  simp only [EncodedRequest.payloadFormat, EncodedRequest.payloadArgs, EncodedRequest.textLength]
    at login topo
  rw [login] at inner
  refine List.take_of_length_le ((Nat.le_of_eq topo).trans ?_)
  omega

/-- The two payloads denote one request exactly where the client's description is not cut. -/
private theorem built_same_iff {logOp : SubdevLogInOut}
    (plain : (ClientRequest.logInOut logOp requestId).Ascii own)
    (fits : (ClientRequest.logInOut logOp requestId).Fits env own) :
    (∃ value, Json.Denotes (builtTopo own requestId) value ∧
      Json.Denotes (builtLogin own requestId) value ∧ IsRequest value requestId own.params) ↔
      32 + own.productSn.strlen + own.deviceSn.strlen ≤ 99 := by
  have length : (wholeSubdev own).length = 32 + own.productSn.strlen + own.deviceSn.strlen :=
    length_subdevStr own.productSn.bytes own.deviceSn.bytes
  rw [builtTopo_eq requestId fits, ← length]
  constructor
  · rintro ⟨value, denotes, -⟩
    by_contra long
    exact not_denotes_cut_topo requestId plain.product.1 plain.device.1 (Nat.lt_of_not_le long) value
      denotes
  · intro short
    have whole : builtLogin own requestId = (ClientRequest.logInOut logOp requestId).payload env own :=
      List.take_of_length_le fits.inner
    obtain ⟨value, denotes, asked⟩ := payload_denotes env plain
    rw [List.take_of_length_le short, topoPayload_whole, whole]
    exact ⟨value, denotes, denotes, asked⟩

/-- A client that can log in can have its topology changed exactly where its description
fits `subdev_str`. -/
theorem samePayload_iff (config : DriverConfig) (env : Env) (world : World) (client : Ref)
    (own : SubdevClient) (op : TopoOperation) (logOp : SubdevLogInOut) (requestId : UInt32)
    (allocates : ∀ site, env.malloc site = true) (found : world.devices.value? client = some own)
    (changes : op ≠ .get) (plain : (ClientRequest.logInOut logOp requestId).Ascii own)
    (fits : (ClientRequest.logInOut logOp requestId).Fits env own) :
    SamePayload config env world client own op logOp requestId ↔
      32 + own.productSn.strlen + own.deviceSn.strlen ≤ 99 := by
  rw [← built_same_iff requestId plain fits, SamePayload,
    observed_topoPayload requestId allocates found changes, observed_loginPayload requestId allocates found]
  constructor
  · rintro ⟨built, login, value, sameTopo, sameLogin, holds⟩
    cases sameTopo
    cases sameLogin
    exact ⟨value, holds⟩
  · rintro ⟨value, holds⟩
    exact ⟨_, _, value, rfl, rfl, holds⟩

theorem samePayload_iff_probe :
    SamePayload .plain .calm probeWorld 0 probe .add .login 7 ↔
      32 + probe.productSn.strlen + probe.deviceSn.strlen ≤ 99 :=
  samePayload_iff .plain .calm probeWorld 0 probe .add .login 7 (fun _ => rfl) rfl (by decide)
    ⟨by decide, by decide, fun secret absent => by cases absent⟩
    (fits_of_outer (by decide))

private def longNumber : CString := .literal "0123456789012345678901234567890123"

private def longProbe : SubdevClient := .constructed longNumber longNumber 1 none

/-- Serial numbers of 34 characters: the login fits, and the description is cut. -/
theorem longProbe_differs : ¬ ∀ (config : DriverConfig) (env : Env) (world : World) (client : Ref)
    (own : SubdevClient) (op : TopoOperation) (logOp : SubdevLogInOut) (requestId : UInt32),
    (∀ site, env.malloc site = true) → world.devices.value? client = some own → op ≠ .get →
    (ClientRequest.logInOut logOp requestId).Ascii own →
    (ClientRequest.logInOut logOp requestId).Fits env own →
      SamePayload config env world client own op logOp requestId := by
  intro always
  have plain : (ClientRequest.logInOut .login 7).Ascii longProbe :=
    ⟨by decide, by decide, fun secret absent => by cases absent⟩
  have fits : (ClientRequest.logInOut .login 7).Fits .calm longProbe := fits_of_outer (by decide)
  have found : (Registry.empty.alloc longProbe).value? 0 = some longProbe := rfl
  obtain ⟨built, login, value, sameTopo, sameLogin, holds⟩ := always .plain .calm
    ⟨.empty, Registry.empty.alloc longProbe⟩ 0 longProbe .add .login 7 (fun _ => rfl) found (by decide)
    plain fits
  rw [observed_topoPayload 7 (fun _ => rfl) found (by decide)] at sameTopo
  rw [observed_loginPayload 7 (fun _ => rfl) found] at sameLogin
  cases sameTopo
  cases sameLogin
  exact absurd ((built_same_iff 7 plain fits).mp ⟨value, holds⟩) (by decide)

end Topo

end IotstackDriver.Edge
