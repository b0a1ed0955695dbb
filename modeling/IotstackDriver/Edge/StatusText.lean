import IotstackDriver.Support.JsonText
import IotstackDriver.Edge.StatusSync
import IotstackDriver.Edge.Calls
import Mathlib.Data.List.Forall2

/-! The text of the status message: how long it is, and what it says. -/

namespace IotstackDriver.Edge

open Libc Support Program

/-! ## Its length -/

/-- The characters of `DEVICE_LIST_INFO` besides its arguments. -/
def infoLength : Nat := 32

/-- The characters of `STATUS_SYNC_FORMAT` besides its arguments. -/
def statusLength : Nat := 28

/-- How much of the text of a client `tmp_msg` holds. -/
def SubdevClient.listedLength (client : SubdevClient) : Nat :=
  min (infoLength + client.productSn.strlen + client.deviceSn.strlen) (tmpMsgLen - 1)

/-- The length of the text that names these clients, with a comma between any two. -/
def devicesLength : List SubdevClient → Nat
  | [] => 0
  | [client] => client.listedLength
  | client :: rest => client.listedLength + 1 + devicesLength rest

/-- The function comes to its end, the gathered text stays inside `device_list_msg` all along,
and what is published is the whole of what was formatted. -/
structure StatusWhole (config : DriverConfig) (env : Env) (world : World) : Prop where
  finishes : ((handleStatusSync config).run (handle env) world).isSome = true
  gathered : ∀ text ∈ (handleStatusSync config).observed (handle env) accumulation world,
    text.length < natsMsgMaxLen
  published : ∀ sent ∈ (handleStatusSync config).observed (handle env) publication world,
    sent.2 = format statusSyncFormat [.str config.driverId.bytes,
      .str ((ascii ",").intercalate (world.listedClients.map SubdevClient.info))]

/-- What `DEVICE_LIST_INFO` makes of a client, before it is cut to `tmp_msg`. -/
def SubdevClient.wholeInfo (client : SubdevClient) : Bytes :=
  format deviceListInfo [.str client.productSn.bytes, .str client.deviceSn.bytes]

private def infoOpening : Bytes := ascii "\x7b\"productSN\": \""
private def infoJoint : Bytes := ascii "\",\"deviceSN\": \""
private def infoClosing : Bytes := ascii "\"\x7d"
private def idOpening : Bytes := ascii "\x7b\"driverID\":\""
private def idClosing : Bytes := ascii "\",\"devices\":["
private def devicesClosing : Bytes := ascii "]\x7d"

private theorem wholeInfo_eq (client : SubdevClient) : client.wholeInfo =
    infoOpening ++ (client.productSn.bytes ++ (infoJoint ++ (client.deviceSn.bytes ++ infoClosing))) :=
  rfl

private theorem format_status (driverId devices : Bytes) :
    format statusSyncFormat [.str driverId, .str devices] =
      idOpening ++ (driverId ++ (idClosing ++ (devices ++ devicesClosing))) := rfl

private theorem wholeInfo_length (client : SubdevClient) : client.wholeInfo.length =
    infoLength + client.productSn.strlen + client.deviceSn.strlen := by
  have fixed : infoOpening.length = 15 ∧ infoJoint.length = 15 ∧ infoClosing.length = 2 := by decide
  rw [wholeInfo_eq, infoLength]
  simp only [List.length_append, fixed, CString.strlen]
  omega

private theorem info_eq (client : SubdevClient) : client.info = client.wholeInfo.take (tmpMsgLen - 1) :=
  rfl

private theorem info_length (client : SubdevClient) : client.info.length = client.listedLength := by
  rw [info_eq, List.length_take, wholeInfo_length, SubdevClient.listedLength, Nat.min_comm]

private theorem devices_length (clients : List SubdevClient) :
    ((ascii ",").intercalate (clients.map SubdevClient.info)).length = devicesLength clients := by
  induction clients with
  | nil => rfl
  | cons client rest ih =>
    cases rest with
    | nil => simp [info_length, devicesLength]
    | cons next rest =>
      have comma : (ascii ",").length = 1 := rfl
      simp only [List.map_cons, List.intercalate_cons_cons, List.length_append, info_length, comma,
        devicesLength] at ih ⊢
      rw [ih, Nat.add_assoc]

private theorem status_length (driverId devices : Bytes) :
    (format statusSyncFormat [.str driverId, .str devices]).length =
      statusLength + driverId.length + devices.length := by
  have fixed : idOpening.length = 13 ∧ idClosing.length = 13 ∧ devicesClosing.length = 2 := by decide
  rw [format_status, statusLength]
  simp only [List.length_append, fixed]
  omega

private theorem StatusWhole.logsFit {config : DriverConfig} {env : Env} {world : World}
    (whole : StatusWhole config env world) : LogsFit env (handleStatusSync config) world := by
  obtain ⟨result, ran⟩ := Option.isSome_iff_exists.mp whole.finishes
  exact (run_handle_iff.mp ran).1

private theorem StatusWhole.listFits {config : DriverConfig} {env : Env} {world : World}
    (whole : StatusWhole config env world) (allocated : env.statusAllocated world) : world.listFits := by
  have finishes := whole.finishes
  rw [whole.logsFit.run] at finishes
  exact (handleStatusSync_finishes_iff config allocated).mp finishes

/-- A text that is whole leaves room for its terminator. -/
private theorem StatusWhole.room {config : DriverConfig} {env : Env} {world : World}
    (whole : StatusWhole config env world) (allocated : env.statusAllocated world) :
    statusLength + config.driverId.strlen + devicesLength world.listedClients < natsMsgMaxLen := by
  have length := status_length config.driverId.bytes
    ((ascii ",").intercalate (world.listedClients.map SubdevClient.info))
  have listed := whole.listFits allocated
  have fits := (handleStatusSync_logsFit config allocated listed).mp whole.logsFit
  have sent : statusText config world.listedClients = _ :=
    whole.published (edgeStateReqSubject, statusText config world.listedClients)
      (by simp [handleStatusSync_publishes config allocated listed, fits])
  have cut : (statusText config world.listedClients).length ≤ natsMsgMaxLen - 1 :=
    List.length_take_le ..
  have size : 0 < natsMsgMaxLen := by decide
  rw [sent, length, devices_length] at cut
  simp only [CString.strlen]
  omega

/-- Nothing is lost exactly where the logs fit and the sum over all listed clients leaves room
for a NUL. -/
theorem statusWhole_iff (config : DriverConfig) (env : Env) (world : World) :
    StatusWhole config env world ↔ (env.statusAllocated world →
      env.logsFit (statusLogs config world.listedClients) = true ∧
      statusLength + config.driverId.strlen + devicesLength world.listedClients < natsMsgMaxLen) := by
  have length := status_length config.driverId.bytes
    ((ascii ",").intercalate (world.listedClients.map SubdevClient.info))
  rw [devices_length] at length
  constructor
  · exact fun whole allocated => ⟨(handleStatusSync_logsFit config allocated (whole.listFits allocated)).mp
      whole.logsFit, whole.room allocated⟩
  · intro room
    by_cases allocated : env.statusAllocated world
    · obtain ⟨logged, fits⟩ := room allocated
      have listed : world.listFits := by
        rw [World.listFits, devices_length]
        omega
      have fit := (handleStatusSync_logsFit config allocated listed).mpr logged
      have runs := (handleStatusSync_finishes_iff config allocated).mpr listed
      refine ⟨by rwa [fit.run], ?_, ?_⟩
      · intro text seen
        rw [fit.observed] at seen
        have bound := handleStatusSync_accumulates config allocated listed text seen
        rw [devices_length] at bound
        omega
      · rw [handleStatusSync_publishes config allocated listed, if_pos logged]
        intro sent member
        rw [List.mem_singleton] at member
        rw [member, statusText, snprintf]
        exact List.take_of_length_le (by rw [length]; simp only [CString.strlen] at fits; omega)
    · obtain ⟨runs, fit, nothing, neither⟩ := handleStatusSync_unallocated config allocated
      exact ⟨by rwa [fit.run], by simp [fit.observed, neither], by simp [fit.observed, nothing]⟩

/-- A list of so many clients with these serial numbers. -/
private def crowd (productSn deviceSn : CString) : Nat → Registry SubdevClient
  | 0 => .empty
  | count + 1 => (crowd productSn deviceSn count).enlist (.constructed productSn deviceSn 1 none)

private theorem crowd_listed (requests : Registry MsgParse) (productSn deviceSn : CString) (count : Nat) :
    (World.mk requests (crowd productSn deviceSn count)).listedClients =
      List.replicate count (.constructed productSn deviceSn 1 none) := by
  have values : (crowd productSn deviceSn count).values =
      List.replicate count (.constructed productSn deviceSn 1 none) := by
    induction count with
    | zero => rfl
    | succ count ih => rw [crowd, Registry.enlist_values, ih, List.replicate_succ']
  rw [World.listedClients, List.filterMap_reverse]
  exact (congrArg List.reverse values).trans List.reverse_replicate

/-- Fifty-five clients with serial numbers of two characters, on a driver with such an id, where
no log gets its buffers. Their list fits, and the text around it does not. -/
theorem manyClients_cut : ¬ ∀ (config : DriverConfig) (env : Env) (world : World),
    LogsFit env (handleStatusSync config) world → StatusWhole config env world := by
  intro always
  have allocated : Env.unlogged.statusAllocated ⟨.empty, crowd (.literal "p1") (.literal "d1") 55⟩ :=
    ⟨rfl, rfl, rfl, .inr rfl⟩
  have listed : (World.mk .empty (crowd (.literal "p1") (.literal "d1") 55)).listFits := by
    rw [World.listFits, devices_length, crowd_listed]
    decide
  have fit := (handleStatusSync_logsFit .plain allocated listed).mpr
    (List.all_eq_true.mpr fun log _ => Env.unlogged_logFits log.1 log.2)
  have fits := (always .plain .unlogged _ fit).room allocated
  rw [crowd_listed] at fits
  revert fits
  decide

/-! ## What it says -/

/-- What the status text would be of buffers without bounds. -/
def wholeStatus (config : DriverConfig) (clients : List SubdevClient) : Bytes :=
  format statusSyncFormat [.str config.driverId.bytes,
    .str ((ascii ",").intercalate (clients.map SubdevClient.wholeInfo))]

/-- The value is an object with the two serial numbers of the client. -/
def DescribesClient (device : Json) (client : SubdevClient) : Prop :=
  ∃ members, device = .object members ∧
    Json.TextMember members (ascii "productSN") client.productSn.bytes ∧
    Json.TextMember members (ascii "deviceSN") client.deviceSn.bytes

/-- The text is a complete JSON object with the driver's id and an array that has one
object for each of these clients, in order. -/
def NamesClients (config : DriverConfig) (clients : List SubdevClient) (text : Bytes) : Prop :=
  ∃ members, Json.Denotes text (.object members) ∧
    Json.TextMember members (ascii "driverID") config.driverId.bytes ∧
    ∃ devices, members.lookup (ascii "devices") = some (.array devices) ∧
      List.Forall₂ DescribesClient devices clients

/-- Both serial numbers stand for themselves between quotes. -/
def SubdevClient.Plain (client : SubdevClient) : Prop :=
  Json.Plain client.productSn.bytes ∧ Json.Plain client.deviceSn.bytes

/-- The text of the client is not cut. -/
def SubdevClient.FitsTmpMsg (client : SubdevClient) : Prop :=
  infoLength + client.productSn.strlen + client.deviceSn.strlen ≤ tmpMsgLen - 1

private def deviceOf (client : SubdevClient) : Json :=
  .object [(ascii "productSN", .scalar (.string client.productSn.bytes)),
    (ascii "deviceSN", .scalar (.string client.deviceSn.bytes))]

private theorem read_info {client : SubdevClient} (plain : client.Plain) (tokens : List JsonToken) :
    client.wholeInfo.foldlM Json.Lexer.step ⟨.between, tokens⟩ =
      some ⟨.between, tokens ++ (deviceOf client).tokens⟩ := by
  have opened : infoOpening.foldlM Json.Lexer.step ⟨.between, tokens⟩ = some ⟨.string [],
      tokens ++ [.openObject] ++ [.scalar (.string (ascii "productSN"))] ++ [.colon]⟩ := rfl
  have joined (tokens : List JsonToken) (held : Bytes) :
      infoJoint.foldlM Json.Lexer.step ⟨.string held, tokens⟩ = some ⟨.string [],
        tokens ++ [.scalar (.string held)] ++ [.comma] ++
          [.scalar (.string (ascii "deviceSN"))] ++ [.colon]⟩ := rfl
  have closed (tokens : List JsonToken) (held : Bytes) :
      infoClosing.foldlM Json.Lexer.step ⟨.string held, tokens⟩ =
        some ⟨.between, tokens ++ [.scalar (.string held)] ++ [.closeObject]⟩ := rfl
  simp only [wholeInfo_eq, List.foldlM_append, opened, Json.foldlM_plain _ _ plain.1, joined,
    Json.foldlM_plain _ _ plain.2, closed, Option.bind_eq_bind, Option.bind_some, List.nil_append]
  simp [deviceOf, Json.tokens, Json.memberTokens]

private theorem read_infos {clients : List SubdevClient} (plain : ∀ client ∈ clients, client.Plain)
    (tokens : List JsonToken) :
    ((ascii ",").intercalate (clients.map SubdevClient.wholeInfo)).foldlM Json.Lexer.step
      ⟨.between, tokens⟩ = some ⟨.between, tokens ++ Json.elementTokens (clients.map deviceOf)⟩ := by
  induction clients generalizing tokens with
  | nil => simp [Json.elementTokens]
  | cons client rest ih =>
    have first := plain client List.mem_cons_self
    have others := fun other member => plain other (List.mem_cons_of_mem client member)
    cases rest with
    | nil => simpa [Json.elementTokens] using read_info first tokens
    | cons next rest =>
      have comma (tokens : List JsonToken) : (ascii ",").foldlM Json.Lexer.step ⟨.between, tokens⟩ =
          some ⟨.between, tokens ++ [.comma]⟩ := rfl
      simp only [List.map_cons, List.intercalate_cons_cons, List.foldlM_append, read_info first, comma,
        Option.bind_eq_bind, Option.bind_some]
      rw [← List.map_cons, ih others]
      simp [Json.elementTokens]

private theorem read_idOpening : idOpening.foldlM Json.Lexer.step ⟨.between, []⟩ =
    some ⟨.string [], [.openObject, .scalar (.string (ascii "driverID")), .colon]⟩ := by decide

private theorem read_idClosing (tokens : List JsonToken) (held : Bytes) :
    idClosing.foldlM Json.Lexer.step ⟨.string held, tokens⟩ = some ⟨.between,
      tokens ++ [.scalar (.string held)] ++ [.comma] ++ [.scalar (.string (ascii "devices"))] ++
        [.colon] ++ [.openArray]⟩ := rfl

private theorem names_wholeStatus {config : DriverConfig} {clients : List SubdevClient}
    (plainId : Json.Plain config.driverId.bytes) (plain : ∀ client ∈ clients, client.Plain) :
    NamesClients config clients (wholeStatus config clients) := by
  have closed (tokens : List JsonToken) : devicesClosing.foldlM Json.Lexer.step ⟨.between, tokens⟩ =
      some ⟨.between, tokens ++ [.closeArray] ++ [.closeObject]⟩ := rfl
  refine ⟨[(ascii "driverID", .scalar (.string config.driverId.bytes)),
    (ascii "devices", .array (clients.map deviceOf))], ?_, ⟨_, rfl, plainId.spells⟩, _, rfl, ?_⟩
  · rw [wholeStatus, format_status, Json.Denotes, Json.tokenize]
    simp only [List.foldlM_append, read_idOpening, Json.foldlM_plain _ _ plainId, read_idClosing,
      read_infos plain, closed, Option.bind_eq_bind, Option.bind_some, List.nil_append]
    simp [Json.Lexer.finish, Json.tokens, Json.memberTokens]
  · refine List.forall₂_map_left_iff.mpr (List.forall₂_same.mpr fun client member => ?_)
    exact ⟨_, rfl, ⟨_, rfl, (plain client member).1.spells⟩, _, rfl, (plain client member).2.spells⟩

/-! ### A client whose text is cut -/

private theorem scan_wholeInfo {client : SubdevClient} (plain : client.Plain) (depth : Int) :
    client.wholeInfo.foldl Json.Scan.step ⟨.outside, depth⟩ = ⟨.outside, depth⟩ := by
  have denotes : Json.Denotes client.wholeInfo (deviceOf client) := by
    rw [Json.Denotes, Json.tokenize, read_info plain]
    rfl
  have start : (⟨.outside, depth⟩ : Json.Scan) = Json.Scan.raise ⟨.outside, 0⟩ depth := by
    simp [Json.Scan.raise]
  have ended : client.wholeInfo.foldl Json.Scan.step ⟨.outside, 0⟩ = ⟨.outside, 0⟩ := denotes.scan_eq
  rw [start, Json.foldl_raise, ended]

private theorem fitsTmpMsg_iff (client : SubdevClient) :
    client.FitsTmpMsg ↔ client.wholeInfo.length ≤ tmpMsgLen - 1 := by
  rw [wholeInfo_length, SubdevClient.FitsTmpMsg]

/-- The text of a client that is not cut closes what it opens, and a cut one leaves its
object open. -/
private theorem scan_info {client : SubdevClient} (plain : client.Plain) (depth : Int) :
    (client.FitsTmpMsg ∧ client.info.foldl Json.Scan.step ⟨.outside, depth⟩ = ⟨.outside, depth⟩) ∨
      (¬ client.FitsTmpMsg ∧
        (client.info.foldl Json.Scan.step ⟨.outside, depth⟩).depth = depth + 1) := by
  rw [info_eq]
  by_cases fits : client.FitsTmpMsg
  · rw [List.take_of_length_le ((fitsTmpMsg_iff client).mp fits)]
    exact .inl ⟨fits, scan_wholeInfo plain depth⟩
  · have short := Nat.lt_of_not_le (mt (fitsTmpMsg_iff client).mpr fits)
    have middle : Json.Level infoJoint := ⟨by decide, by decide⟩
    have last : Json.Closing infoClosing := by unfold Json.Closing; decide
    rw [wholeInfo_eq] at short ⊢
    refine .inr ⟨fits, Json.depth_take (by decide) ?_ (by decide) short depth⟩
    exact plain.1.level.closing (middle.closing (plain.2.level.closing last))

/-- In a string, the next client's text ends it before a word that is none of JSON's. -/
private theorem stuck_inside {lexer : Json.Lexer} (inside : lexer.mode.place ≠ .outside) :
    (ascii ",\x7b\"productS").foldlM Json.Lexer.step lexer = none := by
  obtain ⟨mode, tokens⟩ := lexer
  cases mode with
  | between => exact absurd rfl inside
  | word text => exact absurd rfl inside
  | string text => rfl
  | escape text => rfl
  | unicode text remaining => rfl

private theorem info_begins (client : SubdevClient) :
    ∃ rest, ascii "," ++ client.info = ascii ",\x7b\"productS" ++ rest := by
  have opening : infoOpening = ascii "\x7b\"productS" ++ ascii "N\": \"" := rfl
  refine ⟨ascii "N\": \"" ++ (client.productSn.bytes ++ (infoJoint ++
    (client.deviceSn.bytes ++ infoClosing))).take 84, ?_⟩
  have begun : infoOpening.length ≤ tmpMsgLen - 1 := by decide
  rw [info_eq, wholeInfo_eq, List.take_append, List.take_of_length_le begun, opening]
  rfl

/-- One more client, before others whose texts close what the scan is in. -/
private theorem uncut_cons {client : SubdevClient} {rest : List SubdevClient} {depth : Int}
    {after : Json.Scan} (plain : client.Plain) (deep : 2 ≤ depth)
    (scanned : after = client.info.foldl Json.Scan.step ⟨.outside, depth⟩)
    (later : 2 ≤ after.depth → after.depth = 2 ∧ ∀ other ∈ rest, other.FitsTmpMsg) :
    depth = 2 ∧ ∀ other ∈ client :: rest, other.FitsTmpMsg := by
  rcases scan_info plain depth with ⟨fits, same⟩ | ⟨-, leftOpen⟩
  · rw [scanned, same] at later
    obtain ⟨two, others⟩ := later deep
    refine ⟨two, fun other member => ?_⟩
    rcases List.mem_cons.mp member with rfl | among
    · exact fits
    · exact others other among
  · rw [scanned, leftOpen] at later
    obtain ⟨two, -⟩ := later (by omega)
    omega

/-- Where the rest of a status text brings a scan back to the start, no client is cut. -/
private theorem uncut_of_rest {clients : List SubdevClient} (plain : ∀ client ∈ clients, client.Plain)
    {lexer final : Json.Lexer} (deep : 2 ≤ lexer.scan.depth)
    (read : ((clients.map SubdevClient.info).flatMap (ascii "," ++ ·) ++ devicesClosing).foldlM
      Json.Lexer.step lexer = some final) (ended : final.scan = ⟨.outside, 0⟩) :
    lexer.scan.depth = 2 ∧ ∀ client ∈ clients, client.FitsTmpMsg := by
  induction clients generalizing lexer with
  | nil =>
    have scanned : final.scan = devicesClosing.foldl Json.Scan.step lexer.scan := Json.scan_foldlM read
    refine ⟨?_, fun client member => nomatch member⟩
    generalize lexer.scan = scan at scanned
    rw [ended] at scanned
    obtain ⟨place, depth⟩ := scan
    cases place with
    | outside =>
      have balanced : (0 : Int) = depth + -1 + -1 := congrArg Json.Scan.depth scanned
      change depth = 2
      omega
    | quoted => cases scanned
    | escaped => cases scanned
  | cons client rest ih =>
    have first := plain client List.mem_cons_self
    have outside : lexer.mode.place = .outside := by
      by_contra inside
      obtain ⟨more, begins⟩ := info_begins client
      rw [List.map_cons, List.flatMap_cons, List.append_assoc, begins, List.append_assoc,
        List.foldlM_append, stuck_inside inside] at read
      cases read
    have start : lexer.scan = ⟨.outside, lexer.scan.depth⟩ := by rw [← outside]; rfl
    rw [List.map_cons, List.flatMap_cons, List.append_assoc, List.foldlM_append] at read
    obtain ⟨next, stepped, continued⟩ := Option.bind_eq_some_iff.mp read
    have comma (depth : Int) : (ascii ",").foldl Json.Scan.step ⟨.outside, depth⟩ = ⟨.outside, depth⟩ := by
      change (⟨.outside, depth + 0⟩ : Json.Scan) = ⟨.outside, depth⟩
      rw [Int.add_zero]
    have scanned : next.scan = client.info.foldl Json.Scan.step ⟨.outside, lexer.scan.depth⟩ := by
      rw [Json.scan_foldlM stepped, List.foldl_append, start, comma]
    exact uncut_cons first deep scanned fun deeper =>
      ih (fun other member => plain other (List.mem_cons_of_mem client member)) deeper continued

private theorem uncut_of_denotes {config : DriverConfig} {clients : List SubdevClient} {value : Json}
    (plainId : Json.Plain config.driverId.bytes) (plain : ∀ client ∈ clients, client.Plain)
    (denotes : Json.Denotes (format statusSyncFormat [.str config.driverId.bytes,
      .str ((ascii ",").intercalate (clients.map SubdevClient.info))]) value) :
    ∀ client ∈ clients, client.FitsTmpMsg := by
  cases clients with
  | nil => exact fun client member => nomatch member
  | cons client rest =>
    obtain ⟨final, read, finished⟩ := Option.bind_eq_some_iff.mp denotes
    have ended : final.scan = ⟨.outside, 0⟩ := (Json.scan_foldlM read).trans denotes.scan_eq
    have first := plain client List.mem_cons_self
    -- the text splits after the first client, where the lexer stands two levels deep or three
    have split : format statusSyncFormat [.str config.driverId.bytes,
        .str ((ascii ",").intercalate ((client :: rest).map SubdevClient.info))] =
          (idOpening ++ (config.driverId.bytes ++ (idClosing ++ client.info))) ++
            ((rest.map SubdevClient.info).flatMap (ascii "," ++ ·) ++ devicesClosing) := by
      rw [format_status, List.map_cons, intercalate_cons]
      simp only [List.append_assoc]
    rw [split, List.foldlM_append] at read
    obtain ⟨next, stepped, continued⟩ := Option.bind_eq_some_iff.mp read
    have opened : idOpening.foldl Json.Scan.step ⟨.outside, 0⟩ = ⟨.quoted, 1⟩ := by decide
    have joined : idClosing.foldl Json.Scan.step ⟨.quoted, 1⟩ = ⟨.outside, 2⟩ := by decide
    have scanned : next.scan = client.info.foldl Json.Scan.step ⟨.outside, 2⟩ := by
      have start : (Json.Lexer.mk .between []).scan = ⟨.outside, 0⟩ := rfl
      rw [Json.scan_foldlM stepped, start]
      simp only [List.foldl_append, opened, Json.foldl_plain 1 plainId, joined]
    exact (uncut_cons first (by decide) scanned fun deeper => uncut_of_rest
      (fun other member => plain other (List.mem_cons_of_mem client member)) deeper continued ended).2

/-! ### The driver's id -/

/-- An id that is not plain is ended early by one of its quotes, or is spelled otherwise. -/
private theorem plain_driverId {config : DriverConfig} {devices : Bytes}
    {members : List (Bytes × Json)}
    (denotes : Json.Denotes (format statusSyncFormat [.str config.driverId.bytes, .str devices])
      (.object members))
    (named : Json.TextMember members (ascii "driverID") config.driverId.bytes) :
    Json.Plain config.driverId.bytes := by
  obtain ⟨raw, found, spells⟩ := named
  have first (text : Bytes) (begins : [.openObject, .scalar (.string (ascii "driverID")), .colon,
      .scalar (.string text)] <+: (Json.object members).tokens) : raw = text := by
    obtain ⟨rest, rfl⟩ := Json.first_member begins
    cases found
    rfl
  rw [format_status, ← List.append_assoc] at denotes
  obtain ⟨final, read, -⟩ := Option.bind_eq_some_iff.mp denotes
  rw [List.foldlM_append] at read
  obtain ⟨lexer, scanned, rest⟩ := Option.bind_eq_some_iff.mp read
  have inId := scanned
  rw [List.foldlM_append, read_idOpening, Option.bind_eq_bind, Option.bind_some] at inId
  rcases Json.held_foldlM rfl inId with ⟨before, after, same, ended⟩ | ⟨held, kept⟩
  · have short := spells.length_le
    rw [first before ((Json.tokens_foldlM ended).trans (denotes.begins scanned)), same] at short
    simp only [List.length_append, List.length_cons] at short
    omega
  · rw [List.nil_append] at held
    obtain ⟨mode, tokens⟩ := lexer
    cases kept
    rw [List.foldlM_append] at rest
    cases mode with
    | between => cases held
    | word text => cases held
    | string text =>
      cases held
      obtain ⟨next, closed, -⟩ := Option.bind_eq_some_iff.mp rest
      have more : (idOpening ++ config.driverId.bytes ++ idClosing).foldlM Json.Lexer.step ⟨.between, []⟩ =
          some next := by
        rw [List.foldlM_append, scanned]
        exact closed
      cases (read_idClosing _ _).symm.trans closed
      rw [← List.append_assoc] at denotes
      have whole := first config.driverId.bytes (List.IsPrefix.trans ⟨_, rfl⟩ (denotes.begins more))
      exact (whole ▸ spells).plain rfl
    | escape text => cases rest
    | unicode text remaining => cases rest

/-! ### The text -/

private theorem wholeInfos_length (clients : List SubdevClient) :
    ((ascii ",").intercalate (clients.map SubdevClient.info)).length ≤
      ((ascii ",").intercalate (clients.map SubdevClient.wholeInfo)).length := by
  induction clients with
  | nil => exact Nat.le_refl _
  | cons client rest ih =>
    have first : client.info.length ≤ client.wholeInfo.length := List.length_take_le' ..
    cases rest with
    | nil => simpa using first
    | cons next rest =>
      simp only [List.map_cons, List.intercalate_cons_cons, List.length_append] at ih ⊢
      omega

private theorem wholeStatus_length (config : DriverConfig) (clients : List SubdevClient) :
    (format statusSyncFormat [.str config.driverId.bytes,
      .str ((ascii ",").intercalate (clients.map SubdevClient.info))]).length ≤
        (wholeStatus config clients).length := by
  rw [wholeStatus, status_length, status_length]
  exact Nat.add_le_add_left (wholeInfos_length clients) _

private theorem names_statusText_iff {config : DriverConfig} {clients : List SubdevClient}
    (plain : ∀ client ∈ clients, client.Plain)
    (fits : (wholeStatus config clients).length ≤ natsMsgMaxLen - 1) :
    NamesClients config clients (statusText config clients) ↔
      Json.Plain config.driverId.bytes ∧ ∀ client ∈ clients, client.FitsTmpMsg := by
  rw [statusText, snprintf, List.take_of_length_le (Nat.le_trans (wholeStatus_length config clients) fits)]
  constructor
  · rintro ⟨members, denotes, named, -⟩
    have plainId := plain_driverId denotes named
    exact ⟨plainId, uncut_of_denotes plainId plain denotes⟩
  · rintro ⟨plainId, uncut⟩
    have same : clients.map SubdevClient.info = clients.map SubdevClient.wholeInfo :=
      List.map_congr_left fun client member =>
        List.take_of_length_le ((fitsTmpMsg_iff client).mp (uncut client member))
    rw [same]
    exact names_wholeStatus plainId plain

private theorem listFits_of_whole {config : DriverConfig} {world : World}
    (fits : (wholeStatus config world.listedClients).length ≤ natsMsgMaxLen - 1) : world.listFits :=
  listFits_of_status (Nat.lt_of_le_of_lt
    (Nat.le_trans (wholeStatus_length config world.listedClients) fits) (by decide))

/-- The message names every client in full exactly where the logs fit, the id stands for itself
between quotes and no client's text is cut. -/
theorem handleStatusSync_names_iff (config : DriverConfig) (env : Env) (world : World)
    (allocated : env.statusAllocated world) (plain : ∀ client ∈ world.listedClients, client.Plain)
    (fits : (wholeStatus config world.listedClients).length ≤ natsMsgMaxLen - 1) :
    (∃ text, (handleStatusSync config).observed (handle env) publication world =
        [(edgeStateReqSubject, text)] ∧ NamesClients config world.listedClients text) ↔
      env.logsFit (statusLogs config world.listedClients) = true ∧
        Json.Plain config.driverId.bytes ∧ ∀ client ∈ world.listedClients, client.FitsTmpMsg := by
  rw [handleStatusSync_publishes config allocated (listFits_of_whole fits), ← names_statusText_iff plain fits]
  constructor
  · rintro ⟨text, same, names⟩
    split at same
    · rename_i logged
      cases same
      exact ⟨logged, names⟩
    · cases same
  · rintro ⟨logged, names⟩
    exact ⟨_, if_pos logged, names⟩

private def single (productSn deviceSn : CString) : World := ⟨.empty, crowd productSn deviceSn 1⟩

private theorem single_listed (productSn deviceSn : CString) :
    (single productSn deviceSn).listedClients = [.constructed productSn deviceSn 1 none] :=
  crowd_listed .empty productSn deviceSn 1

theorem handleStatusSync_names_single :
    (∃ text, (handleStatusSync .plain).observed (handle .calm) publication
        (single (.literal "p1") (.literal "d1")) = [(edgeStateReqSubject, text)] ∧
      NamesClients .plain (single (.literal "p1") (.literal "d1")).listedClients text) ↔
    Env.calm.logsFit (statusLogs .plain (single (.literal "p1") (.literal "d1")).listedClients) = true ∧
      Json.Plain DriverConfig.plain.driverId.bytes ∧
      ∀ client ∈ (single (.literal "p1") (.literal "d1")).listedClients, client.FitsTmpMsg :=
  handleStatusSync_names_iff .plain .calm (single (.literal "p1") (.literal "d1"))
    ⟨rfl, rfl, rfl, .inr rfl⟩
    (by
      rw [single_listed]
      intro client member
      cases List.mem_singleton.mp member
      exact ⟨by decide, by decide⟩)
    (by
      rw [single_listed]
      decide)

private def longSn : CString := .literal "0123456789012345678901234567890123"

/-- One client with serial numbers of 34 characters. -/
theorem longClient_garbled : ¬ ∀ (config : DriverConfig) (env : Env) (world : World),
    env.statusAllocated world → (∀ client ∈ world.listedClients, client.Plain) →
    (wholeStatus config world.listedClients).length ≤ natsMsgMaxLen - 1 →
    ∀ text, (handleStatusSync config).observed (handle env) publication world =
      [(edgeStateReqSubject, text)] → NamesClients config world.listedClients text := by
  intro always
  have allocated : Env.calm.statusAllocated (single longSn longSn) := ⟨rfl, rfl, rfl, .inr rfl⟩
  have plain : ∀ client ∈ (single longSn longSn).listedClients, client.Plain := by
    rw [single_listed]
    intro client member
    cases List.mem_singleton.mp member
    exact ⟨by decide, by decide⟩
  have fits : (wholeStatus .plain (single longSn longSn).listedClients).length ≤ natsMsgMaxLen - 1 := by
    rw [single_listed]
    decide +kernel
  have logged : Env.calm.logsFit (statusLogs .plain (single longSn longSn).listedClients) = true := by
    rw [single_listed]
    decide +kernel
  have names := always .plain .calm _ allocated plain fits _
    ((handleStatusSync_publishes _ allocated (listFits_of_whole fits)).trans (if_pos logged))
  have uncut := ((names_statusText_iff plain fits).mp names).2
  rw [single_listed] at uncut
  exact absurd (uncut _ List.mem_cons_self) (by unfold SubdevClient.FitsTmpMsg; decide)

end IotstackDriver.Edge
