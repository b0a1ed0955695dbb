import IotstackDriver.Edge.Observed
import IotstackDriver.Edge.Issued
import IotstackDriver.Edge.Traces

/-! `_handle_status_sync`: the periodic message that names the connected clients. -/

namespace IotstackDriver.Edge

open Libc Support Program

def deviceListInfo : String := "\x7b\"productSN\": \"%s\",\"deviceSN\": \"%s\"\x7d"

def statusSyncFormat : String := "\x7b\"driverID\":\"%s\",\"devices\":[%s]\x7d"

def edgeStateReqSubject : Bytes := ascii "edge.state.req"

/-- The size of `tmp_msg`. -/
def tmpMsgLen : Nat := 100

/-- What the loop makes `tmp_msg` of a client. -/
def SubdevClient.info (client : SubdevClient) : Bytes :=
  snprintf tmpMsgLen deviceListInfo [.str client.productSn.bytes, .str client.deviceSn.bytes]

/-- The loop over the entries that are left, with the text in `device_list_msg`. Nothing limits
`strncat` to this buffer, and nothing that follows an overrun is defined. -/
def listDevices (deviceListMsg : Bytes) : List Ref → Program edge Bytes
  | [] => return deviceListMsg
  | node :: rest => do
    let natsHandle ← readClient node
    let tmpMsg := natsHandle.info
    logWrite .debug "tmp_msg:%s" [.str tmpMsg]
    let deviceListMsg :=
      if deviceListMsg.length = 0 then deviceListMsg ++ tmpMsg
      else deviceListMsg ++ ascii "," ++ tmpMsg
    if natsMsgMaxLen ≤ deviceListMsg.length then fault
    else
      logWrite .debug "device_list_msg:%s" [.str deviceListMsg]
      listDevices deviceListMsg rest

/-- The clients are read with the list's lock held, and where no iterator can be had the
function returns with it held. -/
def handleStatusSync (config : DriverConfig) : Program edge Unit := do
  if !(← malloc (.buffer .deviceListMsg)) then
    logWrite .error "device_list_msg malloc fail!" []
    return
  if !(← malloc (.buffer .tmpMsg)) then
    logWrite .error "tmp_msg malloc fail!" []
    free (.buffer .deviceListMsg)
    return
  if !(← malloc (.buffer .syncMsg)) then
    logWrite .error "sync_msg malloc fail!" []
    free (.buffer .deviceListMsg)
    free (.buffer .tmpMsg)
    return
  match ← iterate .connDevice with
  | none => return
  | some nodes =>
    let deviceListMsg ← listDevices [] nodes
    let syncMsg :=
      snprintf natsMsgMaxLen statusSyncFormat [.str config.driverId.bytes, .str deviceListMsg]
    logWrite .debug "sync_msg:%s" [.str syncMsg]
    let status ← publishAndFlush edgeStateReqSubject syncMsg
    if status ≠ .ok then
      logWrite .error "publish sync msg fail!" []

/-- The status text that names these clients, in order. -/
def statusText (config : DriverConfig) (clients : List SubdevClient) : Bytes :=
  snprintf natsMsgMaxLen statusSyncFormat [.str config.driverId.bytes,
    .str ((ascii ",").intercalate (clients.map SubdevClient.info))]

/-- The clients listed, from the last to the first. -/
def World.listedClients (world : World) : List SubdevClient :=
  world.devices.entries.reverse.filterMap world.devices.value?

/-- The buffers can be had, and an iterator where clients are listed. -/
def Env.statusAllocated (env : Env) (world : World) : Prop :=
  env.malloc (.buffer .deviceListMsg) = true ∧ env.malloc (.buffer .tmpMsg) = true ∧
    env.malloc (.buffer .syncMsg) = true ∧
    (world.devices.entries = [] ∨ env.malloc (.listIterator .connDevice) = true)

/-- The texts of the clients fit `device_list_msg`. -/
def World.listFits (world : World) : Prop :=
  ((ascii ",").intercalate (world.listedClients.map SubdevClient.info)).length < natsMsgMaxLen

instance (world : World) : Decidable world.listFits := Nat.decLt ..

/-- A text accumulated in `device_list_msg`, as it is logged. -/
def accumulation : Request → Option Bytes
  | .logWrite _ format [.str text] => if format = "device_list_msg:%s" then some text else none
  | _ => none

/-- The text after one more client. -/
def appended (deviceListMsg : Bytes) (client : SubdevClient) : Bytes :=
  if deviceListMsg.length = 0 then deviceListMsg ++ client.info
  else deviceListMsg ++ ascii "," ++ client.info

/-- The logs of the loop. -/
def listLogs (deviceListMsg : Bytes) : List SubdevClient → List (String × List Arg)
  | [] => []
  | client :: rest => ("tmp_msg:%s", [.str client.info]) ::
    ("device_list_msg:%s", [.str (appended deviceListMsg client)]) ::
      listLogs (appended deviceListMsg client) rest

/-- The logs of `_handle_status_sync` before it publishes. -/
def statusLogs (config : DriverConfig) (clients : List SubdevClient) : List (String × List Arg) :=
  listLogs [] clients ++ [("sync_msg:%s", [.str (statusText config clients)])]

variable {config : DriverConfig} {env : Env} {world : World}

private theorem info_length_ne_zero (client : SubdevClient) : client.info.length ≠ 0 := by
  simp [SubdevClient.info, snprintf, format, deviceListInfo, formatChars, tmpMsgLen]

theorem intercalate_cons (first : Bytes) (rest : List Bytes) :
    (ascii ",").intercalate (first :: rest) = first ++ rest.flatMap (ascii "," ++ ·) := by
  induction rest generalizing first with
  | nil => simp
  | cons next rest ih => rw [List.intercalate_cons_cons, ih, List.flatMap_cons]; simp

private theorem foldl_appended (clients : List SubdevClient) (text : Bytes) (begun : text.length ≠ 0) :
    clients.foldl appended text =
      (ascii ",").intercalate (text :: clients.map SubdevClient.info) := by
  induction clients generalizing text with
  | nil => simp
  | cons client rest ih =>
    rw [List.foldl_cons, appended, if_neg begun, ih _ (by simp [begun]), List.map_cons,
      intercalate_cons, intercalate_cons, List.flatMap_cons]
    simp only [List.append_assoc]

private theorem foldl_appended_nil (clients : List SubdevClient) :
    clients.foldl appended [] = (ascii ",").intercalate (clients.map SubdevClient.info) := by
  cases clients with
  | nil => rfl
  | cons client rest => exact foldl_appended rest client.info (info_length_ne_zero client)

/-- The text only grows over the loop. -/
private theorem foldl_appended_length_le (clients : List SubdevClient) (text : Bytes) :
    text.length ≤ (clients.foldl appended text).length := by
  induction clients generalizing text with
  | nil => exact Nat.le_refl _
  | cons client rest ih =>
    have grown : text.length ≤ (appended text client).length := by
      rw [appended]
      split <;> simp only [List.length_append] <;> omega
    exact Nat.le_trans grown (ih _)

theorem listDevices_cons (deviceListMsg : Bytes) (node : Ref) (rest : List Ref) :
    listDevices deviceListMsg (node :: rest) = (do
      let natsHandle ← readClient node
      logWrite .debug "tmp_msg:%s" [.str natsHandle.info]
      if natsMsgMaxLen ≤ (appended deviceListMsg natsHandle).length then fault
      else
        logWrite .debug "device_list_msg:%s" [.str (appended deviceListMsg natsHandle)]
        listDevices (appended deviceListMsg natsHandle) rest) := rfl

/-- The loop comes to its end exactly when the whole text fits. -/
private theorem listDevices_run (nodes : List Ref) (known : ∀ node ∈ nodes, node < world.devices.size)
    {deviceListMsg : Bytes} (begun : deviceListMsg.length < natsMsgMaxLen) :
    ((listDevices deviceListMsg nodes).run (respond env) world).map Prod.fst =
      if ((nodes.filterMap world.devices.value?).foldl appended deviceListMsg).length < natsMsgMaxLen then
        some ((nodes.filterMap world.devices.value?).foldl appended deviceListMsg)
      else none := by
  induction nodes generalizing world deviceListMsg with
  | nil => exact (if_pos begun).symm
  | cons node rest ih =>
    obtain ⟨own, found⟩ := Option.isSome_iff_exists.mp (Registry.value?_isSome.mpr (known node (by simp)))
    have step : (listDevices deviceListMsg (node :: rest)).run (respond env) world =
        if natsMsgMaxLen ≤ (appended deviceListMsg own).length then none
        else (listDevices (appended deviceListMsg own) rest).run (respond env)
          { world with devices := world.devices.touch node } := by
      rw [listDevices_cons, Program.run_bind, run_readClient found, Option.bind_some, Program.run_bind,
        run_logWrite, Option.bind_some]
      split <;> simp
    rw [step, List.filterMap_cons_some found, List.foldl_cons]
    by_cases inside : (appended deviceListMsg own).length < natsMsgMaxLen
    · rw [if_neg (Nat.not_le.mpr inside), ih (fun other member => by simpa using known other (by simp [member]))
        inside]
      simp
    · have grown := foldl_appended_length_le (rest.filterMap world.devices.value?) (appended deviceListMsg own)
      rw [if_pos (Nat.not_lt.mp inside), if_neg (by omega)]
      rfl

private theorem listDevices_logsFit (nodes : List Ref)
    (known : ∀ node ∈ nodes, node < world.devices.size) (deviceListMsg : Bytes)
    (short : ((nodes.filterMap world.devices.value?).foldl appended deviceListMsg).length < natsMsgMaxLen) :
    LogsFit env (listDevices deviceListMsg nodes) world ↔
      env.logsFit (listLogs deviceListMsg (nodes.filterMap world.devices.value?)) = true := by
  induction nodes generalizing world deviceListMsg with
  | nil => exact iff_of_true rfl rfl
  | cons node rest ih =>
    obtain ⟨own, found⟩ := Option.isSome_iff_exists.mp (Registry.value?_isSome.mpr (known node (by simp)))
    rw [List.filterMap_cons_some found, List.foldl_cons] at short
    have later := @ih { world with devices := world.devices.touch node }
      (fun other member => by simpa using known other (by simp [member])) (appended deviceListMsg own)
      (by simpa using short)
    have inside : (appended deviceListMsg own).length < natsMsgMaxLen :=
      Nat.lt_of_le_of_lt (foldl_appended_length_le _ _) short
    rw [List.filterMap_cons_some found]
    have read : LogsFit env (listDevices deviceListMsg (node :: rest)) world ↔
        env.logFits "tmp_msg:%s" [.str own.info] = true ∧
          env.logFits "device_list_msg:%s" [.str (appended deviceListMsg own)] = true ∧
            LogsFit env (listDevices (appended deviceListMsg own) rest)
              { world with devices := world.devices.touch node } := by
      simp [listDevices_cons, run_readClient found, inside]
    rw [read, later]
    simp [listLogs, Env.logsFit]

/-- The loop reads clients and logs, and may stop. -/
theorem issues_listDevices {allowed : Request → Prop} (reads : ∀ node, allowed (.readClient node))
    (logs : ∀ level text args, allowed (.logWrite level text args)) (faults : allowed .fault)
    (deviceListMsg : Bytes) (nodes : List Ref) :
    Issues (I := edge) allowed (listDevices deviceListMsg nodes) fun _ => True := by
  induction nodes generalizing deviceListMsg with
  | nil => trivial
  | cons node rest ih =>
    rw [listDevices_cons]
    refine ⟨reads node, fun own => ⟨logs _ _ _, fun _ => issues_ite.mpr ?_⟩⟩
    split
    · exact issues_fault.mpr faults
    · exact ⟨logs _ _ _, fun _ => ih _⟩

private theorem listDevices_unobserved (deviceListMsg : Bytes) (nodes : List Ref) :
    Issues (I := edge) (fun request => publication request = none) (listDevices deviceListMsg nodes)
      fun _ => True := by
  refine issues_listDevices (fun _ => ?_) (fun _ _ _ => ?_) ?_ deviceListMsg nodes <;> rfl

/-- No text in the loop is longer than the whole one. -/
private theorem listDevices_accumulates (nodes : List Ref)
    (known : ∀ node ∈ nodes, node < world.devices.size) (deviceListMsg : Bytes) :
    ∀ text ∈ (listDevices deviceListMsg nodes).observed (respond env) accumulation world,
      text.length ≤
        ((nodes.filterMap world.devices.value?).foldl appended deviceListMsg).length := by
  induction nodes generalizing world deviceListMsg with
  | nil => simp [listDevices]
  | cons node rest ih =>
    obtain ⟨own, found⟩ := Option.isSome_iff_exists.mp (Registry.value?_isSome.mpr (known node (by simp)))
    have later := @ih { world with devices := world.devices.touch node }
      (fun other member => by simpa using known other (by simp [member])) (appended deviceListMsg own)
    intro text seen
    have here : text = appended deviceListMsg own ∨
        text ∈ (listDevices (appended deviceListMsg own) rest).observed (respond env) accumulation
          { world with devices := world.devices.touch node } := by
      rw [listDevices_cons] at seen
      rcases Nat.lt_or_ge (appended deviceListMsg own).length natsMsgMaxLen with inside | long
      · simpa [observed_bind, run_readClient found, accumulation, inside] using seen
      · simp [observed_bind, run_readClient found, accumulation, long] at seen
    rw [List.filterMap_cons_some found, List.foldl_cons]
    rcases here with rfl | after
    · exact foldl_appended_length_le _ _
    · simpa using later text after

private theorem listed_known (world : World) :
    ∀ node ∈ world.devices.entries.reverse, node < world.devices.size :=
  fun node member => world.devices.entriesAllocated node (List.mem_reverse.mp member)

private theorem iterate_allocated (allocated : env.statusAllocated world) :
    iterateTail (world.entries .connDevice) (env.malloc (.listIterator .connDevice)) =
      some world.devices.entries.reverse :=
  if_pos allocated.2.2.2

/-- What the loop makes of the listed clients. -/
private theorem listDevices_listed (env : Env) (world : World) :
    ((listDevices [] world.devices.entries.reverse).run (respond env) world).map Prod.fst =
      if world.listFits then some ((ascii ",").intercalate (world.listedClients.map SubdevClient.info))
      else none := by
  rw [listDevices_run _ (listed_known world) (by decide), foldl_appended_nil]
  rfl

private theorem listDevices_gathers (env : Env) (fits : world.listFits) :
    ∃ final, (listDevices [] world.devices.entries.reverse).run (respond env) world =
      some ((ascii ",").intercalate (world.listedClients.map SubdevClient.info), final) := by
  have gathered := (listDevices_listed env world).trans (if_pos fits)
  obtain ⟨⟨text, final⟩, ran, same⟩ := Option.map_eq_some_iff.mp gathered
  cases same
  exact ⟨final, ran⟩

/-- A list that has room in the status text has room in its own buffer. -/
theorem listFits_of_status {driverId : Bytes} (fits : (format statusSyncFormat [.str driverId,
    .str ((ascii ",").intercalate (world.listedClients.map SubdevClient.info))]).length < natsMsgMaxLen) :
    world.listFits := by
  have parts (devices : Bytes) : format statusSyncFormat [.str driverId, .str devices] =
      ascii "\x7b\"driverID\":\"" ++ (driverId ++ (ascii "\",\"devices\":[" ++ (devices ++ ascii "]\x7d"))) :=
    rfl
  rw [World.listFits]
  simp only [parts, List.length_append] at fits
  omega

/-- The logs of the function fit where the ones before it publishes do. -/
theorem handleStatusSync_logsFit (config : DriverConfig) (allocated : env.statusAllocated world)
    (fits : world.listFits) : LogsFit env (handleStatusSync config) world ↔
      env.logsFit (statusLogs config world.listedClients) = true := by
  obtain ⟨final, ran⟩ := listDevices_gathers env fits
  have entries := iterate_allocated allocated
  have fit : LogsFit env (listDevices [] world.devices.entries.reverse) world ↔
      env.logsFit (listLogs [] world.listedClients) = true :=
    listDevices_logsFit _ (listed_known world) [] (by rwa [foldl_appended_nil])
  have last : env.logFits "publish sync msg fail!" [] = true := logFits_of_inside (by decide +kernel)
  obtain ⟨first, second, third, -⟩ := allocated
  rw [statusLogs, Env.logsFit, List.all_append, Bool.and_eq_true]
  rw [Env.logsFit] at fit
  simp [handleStatusSync, first, second, third, entries, ran, fit, last, statusText]

/-- Without its logs, the function comes to its end exactly when the list fits its buffer. -/
theorem handleStatusSync_finishes_iff (config : DriverConfig) (allocated : env.statusAllocated world) :
    ((handleStatusSync config).run (respond env) world).isSome = true ↔ world.listFits := by
  have entries := iterate_allocated allocated
  have listed := listDevices_listed env world
  obtain ⟨first, second, third, -⟩ := allocated
  constructor
  · intro finishes
    by_contra long
    rw [if_neg long, Option.map_eq_none_iff] at listed
    simp [handleStatusSync, first, second, third, entries, listed] at finishes
  · intro fits
    obtain ⟨final, ran⟩ := listDevices_gathers env fits
    by_cases sent : env.publishStatus.or env.flushStatus = .ok <;>
      simp [handleStatusSync, first, second, third, entries, ran, sent]

/-- Once the text is handed to NATS, the function comes to its end. -/
private theorem handleStatusSync_clears (config : DriverConfig) :
    (handleStatusSync config).Clears env.fits fun request => publication request ≠ none := by
  have last : env.logFits "publish sync msg fail!" [] = true := logFits_of_inside (by decide +kernel)
  refine clears_bind (by simp [publication]) fun deviceList => ?_
  split
  · exact clears_of_unmarked (by simp [publication])
  · refine clears_bind (by simp [publication]) fun tmp => ?_
    split
    · exact clears_of_unmarked (by simp [publication])
    · refine clears_bind (by simp [publication]) fun sync => ?_
      split
      · exact clears_of_unmarked (by simp [publication])
      · refine clears_bind ⟨by simp [publication], fun _ => trivial⟩ fun nodes => ?_
        split
        · trivial
        · refine clears_bind ((listDevices_unobserved _ _).weaken (fun _ unseen => ?_) fun _ _ => trivial)
            fun deviceListMsg => ?_
          · rw [unseen]
            exact fun other => other rfl
          · refine clears_bind (by simp [publication]) fun _ => clears_of_issues ?_
            refine .bind ⟨rfl, fun _ => ⟨rfl, fun _ => trivial⟩⟩ fun status => ?_
            rw [issues_ite]
            split
            · exact issues_logWrite.mpr ⟨last, trivial⟩
            · trivial

/-- With its allocations made, the function publishes one text, which names the entries
from the last to the first, unless a log stops it. -/
theorem handleStatusSync_publishes (config : DriverConfig) (allocated : env.statusAllocated world)
    (listed : world.listFits) :
    (handleStatusSync config).observed (handle env) publication world =
      if env.logsFit (statusLogs config world.listedClients) then
        [(edgeStateReqSubject, statusText config world.listedClients)]
      else [] := by
  have fit := handleStatusSync_logsFit config allocated listed
  split
  · rename_i fits
    rw [(fit.mpr fits).observed]
    obtain ⟨final, ran⟩ := listDevices_gathers env listed
    have entries := iterate_allocated allocated
    obtain ⟨first, second, third, -⟩ := allocated
    simp [handleStatusSync, observed_bind, publication, first, second, third, entries, ran,
      (listDevices_unobserved _ _).observed, statusText, World.listedClients]
  · rename_i stops
    refine List.eq_nil_iff_forall_not_mem.mpr fun sent seen => stops (fit.mp ?_)
    exact (handleStatusSync_clears config).passes (fun request same => by simp [same]) seen

/-- No accumulated text is longer than the last one. -/
theorem handleStatusSync_accumulates (config : DriverConfig) (allocated : env.statusAllocated world)
    (fits : world.listFits) : ∀ text ∈ (handleStatusSync config).observed (respond env) accumulation world,
      text.length ≤
        ((ascii ",").intercalate (world.listedClients.map SubdevClient.info)).length := by
  obtain ⟨final, ran⟩ := listDevices_gathers env fits
  have grows := @listDevices_accumulates env world _ (listed_known world) []
  rw [foldl_appended_nil] at grows
  have entries := iterate_allocated allocated
  obtain ⟨first, second, third, -⟩ := allocated
  intro text seen
  apply grows
  by_cases sent : env.publishStatus.or env.flushStatus = .ok <;>
    simpa [handleStatusSync, observed_bind, accumulation, first, second, third, entries, ran,
      sent] using seen

/-- Without its allocations the function returns, sends nothing and gathers nothing. -/
theorem handleStatusSync_unallocated (config : DriverConfig) (refused : ¬ env.statusAllocated world) :
    ((handleStatusSync config).run (respond env) world).isSome = true ∧ LogsFit env (handleStatusSync config) world ∧
      (handleStatusSync config).observed (respond env) publication world = [] ∧
      (handleStatusSync config).observed (respond env) accumulation world = [] := by
  have deviceList : env.logFits "device_list_msg malloc fail!" [] = true :=
    logFits_of_inside (by decide +kernel)
  have tmp : env.logFits "tmp_msg malloc fail!" [] = true := logFits_of_inside (by decide +kernel)
  have sync : env.logFits "sync_msg malloc fail!" [] = true := logFits_of_inside (by decide +kernel)
  cases first : env.malloc (.buffer .deviceListMsg) with
  | false => simp [handleStatusSync, observed_bind, publication, accumulation, first, deviceList]
  | true =>
    cases second : env.malloc (.buffer .tmpMsg) with
    | false => simp [handleStatusSync, observed_bind, publication, accumulation, first, second, tmp]
    | true =>
      cases third : env.malloc (.buffer .syncMsg) with
      | false =>
        simp [handleStatusSync, observed_bind, publication, accumulation, first, second, third, sync]
      | true =>
        have nothing : iterateTail (world.entries .connDevice)
            (env.malloc (.listIterator .connDevice)) = none :=
          if_neg fun had => refused ⟨first, second, third, had⟩
        simp [handleStatusSync, observed_bind, publication, accumulation, first, second, third, nothing]

end IotstackDriver.Edge
