import IotstackDriver.Edge.Callbacks
import IotstackDriver.Edge.Calls
import IotstackDriver.Edge.Observed
import IotstackDriver.Support.Segments

/-! By which branch `_on_broadcast_message` handles a topic. -/

namespace IotstackDriver.Edge

open Libc Support Program

inductive BroadcastBranch where
  | topoAdd
  | topoDelete
  | enable
  | disable
  | reply
  deriving DecidableEq

/-- The order of the tests in the source. -/
def broadcastBranch (topic : Bytes) : BroadcastBranch :=
  if (strstr topic (ascii "/subdev/topo/notify/add")).isSome then .topoAdd
  else if (strstr topic (ascii "/subdev/topo/notify/delete")).isSome then .topoDelete
  else if (strstr topic (ascii "/subdev/enable")).isSome then .enable
  else if (strstr topic (ascii "/subdev/disable")).isSome then .disable
  else .reply

/-- The branch a request is made in: each logs a line of its own, and once the topic and
the payload are read only the reply branch goes through a `NULL` pointer. -/
def branchMark : Request → Option BroadcastBranch
  | .logWrite _ text _ =>
    if text = "add topo" then some .topoAdd
    else if text = "delete topo" then some .topoDelete
    else if text = "enable subdev" then some .enable
    else if text = "disable subdev" then some .disable
    else if text = "on broadcast message json parse msg_base64 error: [%s]\n" then some .reply
    else if text = "request_id_str:%s" then some .reply
    else none
  | .fault => some .reply
  | _ => none

/-- The message has this topic and a payload that is decoded, and what is logged of it and the
decoded text fit their buffers. -/
def Arrives (config : DriverConfig) (env : Env) (msg : NatsMsg) (topic : CString) : Prop :=
  ∃ msgJson topicItem payload coded, config.cJsonParse msg.text = some msgJson ∧
    msgJson.getObjectItem "topic" = some topicItem ∧ topicItem.valuestring = some topic ∧
    msgJson.getObjectItem "payload" = some payload ∧ fittingItem config payload = some coded ∧
    env.malloc (.buffer .msgBase64decode) = true ∧
    env.logsFit (broadcastLogs msg (some topic) payload.valuestring coded) = true

variable {config : DriverConfig} {env : Env} {world : World} {msg : NatsMsg} {topic : CString}

/-- The branch a message is handled by. -/
def takenBranch (config : DriverConfig) (env : Env) (world : World) (msg : NatsMsg) :
    Option BroadcastBranch :=
  ((onBroadcastMessage config msg).observed (handle env) branchMark world).head?

private theorem storeReply_mark (decoded : Bytes) :
    ((storeReply config decoded).observed (handle env) branchMark world).head? = some .reply := by
  rw [storeReply.eq_def]
  cases config.cJsonParse decoded with
  | none => simp [branchMark]
  | some reply =>
    cases requestId : (reply.getObjectItem "RequestID").map CJson.valuestring with
    | none => simp [requestId, branchMark]
    | some requestId => simp [requestId, observed_bind, branchMark]

theorem takenBranch_eq (arrives : Arrives config env msg topic) :
    takenBranch config env world msg = some (broadcastBranch topic.bytes) := by
  obtain ⟨msgJson, topicItem, payload, coded, parsed, named, text, carried, decoded, allocated,
    logged⟩ := arrives
  have decodes : base64DecodeString config payload.valuestring = pure coded := by
    rw [base64DecodeString_item, decoded]
  simp only [broadcastLogs, Env.logsFit, List.all_cons, List.all_nil, Bool.and_true, Bool.and_eq_true]
    at logged
  obtain ⟨received, topicLogged, codeLogged, textLogged⟩ := logged
  have unmarked {level : LogLevel} {args : List Arg} :
      branchMark (.logWrite level "Received broadcast msg: %s - %.*s" args) = none ∧
      branchMark (.logWrite level "_on_broadcast_message topic:%s" args) = none ∧
      branchMark (.logWrite level "_on_broadcast_message msg_base64code:%s" args) = none ∧
      branchMark (.logWrite level "_on_broadcast_message msg_base64decode:%s" args) = none := by
    simp [branchMark]
  unfold takenBranch onBroadcastMessage broadcastBranch
  simp only [observed_log unmarked.1, received, parsed, named, observed_log unmarked.2.1, text,
    topicLogged, carried, observed_log unmarked.2.2.1, codeLogged, ↓reduceIte,
    observed_alloc (show branchMark (.malloc _) = none from rfl), allocated, decodes, Bool.not_true,
    Bool.false_eq_true]
  rw [show ∀ next : Coded → Program edge Unit, (pure coded >>= next) = next coded from fun _ => rfl,
    observed_log unmarked.2.2.2, if_pos textLogged]
  by_cases add : (strstr topic.bytes (ascii "/subdev/topo/notify/add")).isSome = true
  · simp [add, observed_bind, branchMark]
  by_cases delete : (strstr topic.bytes (ascii "/subdev/topo/notify/delete")).isSome = true
  · simp [add, delete, observed_bind, branchMark]
  by_cases enable : (strstr topic.bytes (ascii "/subdev/enable")).isSome = true
  · simp [add, delete, enable, observed_bind, branchMark]
  by_cases disable : (strstr topic.bytes (ascii "/subdev/disable")).isSome = true
  · simp [add, delete, enable, disable, observed_bind, branchMark]
  · simp [add, delete, enable, disable, observed_bind, branchMark, storeReply_mark]

section Topics

/-- The form of a broadcast topic. -/
def broadcastTopic (product device path : Bytes) : Bytes :=
  ascii "/$system/" ++ product ++ ascii "/" ++ device ++ ascii "/subdev/" ++ path

/-- The operation paths of the notices. -/
def noticePaths : List Bytes :=
  [ascii "topo/notify/add", ascii "topo/notify/delete", ascii "enable", ascii "disable"]

/-- The branch an operation path is for. -/
def operationBranch (path : Bytes) : BroadcastBranch :=
  if path = ascii "topo/notify/add" then .topoAdd
  else if path = ascii "topo/notify/delete" then .topoDelete
  else if path = ascii "enable" then .enable
  else if path = ascii "disable" then .disable
  else .reply

/-- A notice path begins a part of the topic: the serial number of a product `subdev`, the
operation path, or what follows a later `/subdev/` in it. -/
def Mentions (product device path notice : Bytes) : Prop :=
  (product = ascii "subdev" ∧ notice <+: device) ∨ notice <+: path ∨
    ascii "/subdev/" ++ notice <:+: ascii "/" ++ path

instance (product device path notice : Bytes) : Decidable (Mentions product device path notice) :=
  inferInstanceAs (Decidable (_ ∨ _ ∨ _))

/-- No notice is read into the topic of another operation. -/
def OperationPlain (product device path : Bytes) : Prop :=
  if path ∈ noticePaths then
    path = ascii "disable" → ¬ (product = ascii "subdev" ∧ ascii "enable" <+: device)
  else ∀ notice ∈ noticePaths, ¬ Mentions product device path notice

instance (product device path : Bytes) : Decidable (OperationPlain product device path) :=
  inferInstanceAs (Decidable (if path ∈ noticePaths then
    path = ascii "disable" → ¬ (product = ascii "subdev" ∧ ascii "enable" <+: device)
    else ∀ notice ∈ noticePaths, ¬ Mentions product device path notice))

variable {product device path : Bytes}

private theorem notice_inDevice (devicePlain : 47 ∉ device) {notice : Bytes}
    (given : notice ∈ noticePaths) (path : Bytes) :
    notice <+: device ++ 47 :: (ascii "subdev" ++ 47 :: path) ↔ notice <+: device := by
  -- a notice that has a `/` goes on into the next part of the topic, which is `subdev`
  have through (first : Bytes) {more : Bytes} (plain : 47 ∉ first)
      (other : ¬ more <+: ascii "subdev" ++ 47 :: path) :
      first ++ 47 :: more <+: device ++ 47 :: (ascii "subdev" ++ 47 :: path) ↔
        first ++ 47 :: more <+: device := by
    rw [Segments.prefix_cons_iff plain devicePlain]
    constructor
    · rintro ⟨-, begins⟩
      exact absurd begins other
    · intro begins
      exact absurd (begins.subset (by simp)) devicePlain
  have notify (operation : Bytes) :
      ¬ ascii "notify/" ++ operation <+: ascii "subdev" ++ 47 :: path :=
    fun begins => absurd (List.cons_prefix_cons.mp begins).1 (by decide)
  simp only [noticePaths, List.mem_cons, List.not_mem_nil, or_false] at given
  obtain rfl | rfl | rfl | rfl := given
  · exact through (ascii "topo") (by decide) (notify (ascii "add"))
  · exact through (ascii "topo") (by decide) (notify (ascii "delete"))
  · exact Segments.prefix_iff (by decide) _ _
  · exact Segments.prefix_iff (by decide) _ _

/-- Where the pattern of a notice can be in a topic of the form. -/
theorem contains_iff (productPlain : 47 ∉ product) (devicePlain : 47 ∉ device) {notice : Bytes}
    (given : notice ∈ noticePaths) :
    (strstr (broadcastTopic product device path) (ascii "/subdev/" ++ notice)).isSome = true ↔
      Mentions product device path notice := by
  have word : (47 : UInt8) ∉ ascii "subdev" := by decide
  have system : (47 : UInt8) ∉ ascii "$system" := by decide
  have different : ascii "subdev" ≠ ascii "$system" := by decide
  have other : ¬ notice <+: ascii "subdev" ++ 47 :: path := by
    simp only [noticePaths, List.mem_cons, List.not_mem_nil, or_false] at given
    obtain rfl | rfl | rfl | rfl := given
    all_goals exact fun begins => absurd (List.cons_prefix_cons.mp begins).1 (by decide)
  have parts : broadcastTopic product device path =
      47 :: (ascii "$system" ++ 47 :: (product ++ 47 :: (device ++ 47 ::
        (ascii "subdev" ++ 47 :: path)))) := by
    simp [broadcastTopic, ascii]
  have pattern : ascii "/subdev/" ++ notice = 47 :: (ascii "subdev" ++ 47 :: notice) := rfl
  rw [strstr_isSome_iff, Mentions, pattern, parts]
  rw [List.infix_cons_iff, List.cons_prefix_cons, Segments.prefix_cons_iff word system,
    Segments.infix_iff system]
  rw [List.infix_cons_iff, List.cons_prefix_cons, Segments.prefix_cons_iff word productPlain,
    Segments.infix_iff productPlain, notice_inDevice devicePlain given]
  rw [List.infix_cons_iff, List.cons_prefix_cons, Segments.prefix_cons_iff word devicePlain,
    Segments.infix_iff devicePlain]
  rw [List.infix_cons_iff, List.cons_prefix_cons, Segments.prefix_cons_iff word word,
    Segments.infix_iff word]
  simp only [different, other, true_and, false_and, and_false, false_or, eq_comm]
  rfl

/-- A serial number has no notice of the topology in it. -/
private theorem not_begins_device (devicePlain : 47 ∉ device) {notice : Bytes} (slash : 47 ∈ notice) :
    ¬ notice <+: device :=
  fun begins => devicePlain (begins.subset slash)

/-- The pattern of one notice is in the topic of another only through the serial number. -/
private theorem mentions_notice {notice : Bytes} (given : notice ∈ noticePaths)
    (named : path ∈ noticePaths) : Mentions product device path notice ↔
      (product = ascii "subdev" ∧ notice <+: device) ∨ notice = path := by
  have alone : ∀ notice ∈ noticePaths, ∀ path ∈ noticePaths, (notice <+: path ↔ notice = path) := by
    decide
  have outside : ∀ notice ∈ noticePaths, ∀ path ∈ noticePaths,
      ¬ ascii "/subdev/" ++ notice <:+: ascii "/" ++ path := by
    decide
  rw [Mentions, alone notice given path named]
  simp only [outside notice given path named, or_false]

/-- The tests of the source, for a topic of the form. -/
private theorem broadcastBranch_topic (productPlain : 47 ∉ product) (devicePlain : 47 ∉ device) :
    broadcastBranch (broadcastTopic product device path) =
      if Mentions product device path (ascii "topo/notify/add") then .topoAdd
      else if Mentions product device path (ascii "topo/notify/delete") then .topoDelete
      else if Mentions product device path (ascii "enable") then .enable
      else if Mentions product device path (ascii "disable") then .disable
      else .reply := by
  have add : (strstr (broadcastTopic product device path) (ascii "/subdev/topo/notify/add")).isSome =
      true ↔ Mentions product device path (ascii "topo/notify/add") :=
    contains_iff productPlain devicePlain (by decide)
  have delete : (strstr (broadcastTopic product device path)
      (ascii "/subdev/topo/notify/delete")).isSome = true ↔
        Mentions product device path (ascii "topo/notify/delete") :=
    contains_iff productPlain devicePlain (by decide)
  have enable : (strstr (broadcastTopic product device path) (ascii "/subdev/enable")).isSome =
      true ↔ Mentions product device path (ascii "enable") :=
    contains_iff productPlain devicePlain (by decide)
  have disable : (strstr (broadcastTopic product device path) (ascii "/subdev/disable")).isSome =
      true ↔ Mentions product device path (ascii "disable") :=
    contains_iff productPlain devicePlain (by decide)
  simp only [broadcastBranch, add, delete, enable, disable]

/-- A notice goes to its branch, but for one of disabling that enables first. -/
private theorem noticeBranch_iff (productPlain : 47 ∉ product) (devicePlain : 47 ∉ device)
    (named : path ∈ noticePaths) :
    broadcastBranch (broadcastTopic product device path) = operationBranch path ↔
      (path = ascii "disable" → ¬ (product = ascii "subdev" ∧ ascii "enable" <+: device)) := by
  have noAdd : ¬ ascii "topo/notify/add" <+: device := not_begins_device devicePlain (by decide)
  have noDelete : ¬ ascii "topo/notify/delete" <+: device := not_begins_device devicePlain (by decide)
  have mentions (notice : Bytes) (given : notice ∈ noticePaths) :=
    @mentions_notice product device path notice given named
  have notAdd (absent : ascii "topo/notify/add" ≠ path) :
      ¬ Mentions product device path (ascii "topo/notify/add") := by
    simp [mentions (ascii "topo/notify/add") (by decide), noAdd, absent]
  have notDelete (absent : ascii "topo/notify/delete" ≠ path) :
      ¬ Mentions product device path (ascii "topo/notify/delete") := by
    simp [mentions (ascii "topo/notify/delete") (by decide), noDelete, absent]
  have itself : Mentions product device path path := (mentions path named).mpr (.inr rfl)
  rw [broadcastBranch_topic productPlain devicePlain]
  simp only [noticePaths, List.mem_cons, List.not_mem_nil, or_false] at named
  obtain rfl | rfl | rfl | rfl := named
  · rw [if_pos itself]
    exact iff_of_true rfl fun other => absurd other (by decide)
  · rw [if_neg (notAdd (by decide)), if_pos itself]
    exact iff_of_true (by decide) fun other => absurd other (by decide)
  · rw [if_neg (notAdd (by decide)), if_neg (notDelete (by decide)), if_pos itself]
    exact iff_of_true (by decide) fun other => absurd other (by decide)
  · have different : ascii "enable" ≠ ascii "disable" := by decide
    rw [if_neg (notAdd (by decide)), if_neg (notDelete (by decide)), if_pos itself]
    simp only [mentions (ascii "enable") (by decide), different, or_false, forall_true_left]
    split
    · rename_i inDevice
      exact iff_of_false (by decide) fun apart => apart inDevice
    · rename_i apart
      exact iff_of_true (by decide) apart

/-- Any other operation goes to the reply branch if none of the tests is met. -/
private theorem otherBranch_iff (productPlain : 47 ∉ product) (devicePlain : 47 ∉ device)
    (unnamed : path ∉ noticePaths) :
    broadcastBranch (broadcastTopic product device path) = operationBranch path ↔
      ∀ notice ∈ noticePaths, ¬ Mentions product device path notice := by
  have reply : operationBranch path = .reply := by
    simp only [noticePaths, List.mem_cons, List.not_mem_nil, or_false, not_or] at unnamed
    simp [operationBranch, unnamed]
  rw [reply, broadcastBranch_topic productPlain devicePlain]
  simp only [noticePaths, List.forall_mem_cons, List.not_mem_nil, false_implies, implies_true, and_true]
  constructor
  · intro taken
    revert taken
    split_ifs with add delete enable disable
    all_goals intro taken
    case neg => exact ⟨add, delete, enable, disable⟩
    all_goals cases taken
  · rintro ⟨add, delete, enable, disable⟩
    rw [if_neg add, if_neg delete, if_neg enable, if_neg disable]

theorem broadcastBranch_iff (productPlain : 47 ∉ product) (devicePlain : 47 ∉ device) :
    broadcastBranch (broadcastTopic product device path) = operationBranch path ↔
      OperationPlain product device path := by
  rw [OperationPlain]
  split
  · rename_i named
    exact noticeBranch_iff productPlain devicePlain named
  · rename_i unnamed
    exact otherBranch_iff productPlain devicePlain unnamed

end Topics

/-- A broadcast is handled by the branch its operation path is for exactly when no notice is
read into its topic: as the beginning of a longer operation path, in a later part of it, or
across the serial number of a product `subdev`. -/
theorem takenBranch_operation (config : DriverConfig) (env : Env) (world : World) {msg : NatsMsg}
    {topic : CString} (arrives : Arrives config env msg topic) {product device path : Bytes}
    (productPlain : 47 ∉ product) (devicePlain : 47 ∉ device)
    (named : topic.bytes = broadcastTopic product device path) :
    takenBranch config env world msg = some (operationBranch path) ↔
      OperationPlain product device path := by
  rw [takenBranch_eq arrives, named, Option.some_inj]
  exact broadcastBranch_iff productPlain devicePlain

/-- A notice for a product and a device, and the answer to one. -/
private def enableText : Bytes :=
  ascii "\x7b\"topic\":\"/$system/p1/d1/subdev/enable\",\"payload\":\"e30=\"\x7d"
private def enableReplyText : Bytes :=
  ascii "\x7b\"topic\":\"/$system/p1/d1/subdev/enable_reply\",\"payload\":\"e30=\"\x7d"

private def enableDocument (topic : CString) : CJson :=
  .object [(.literal "topic", .string topic), (.literal "payload", .string (.literal "e30="))]

private def noticedConfig : DriverConfig :=
  { DriverConfig.plain with
    cJsonParse := fun text =>
      if text = enableText then some (enableDocument (.literal "/$system/p1/d1/subdev/enable"))
      else if text = enableReplyText then
        some (enableDocument (.literal "/$system/p1/d1/subdev/enable_reply"))
      else if text = ascii "\x7b\x7d" then some (.object [])
      else none }

theorem takenBranch_operation_enable :
    takenBranch noticedConfig .calm .initial ⟨.literal "edge.local.broadcast", enableText⟩ =
      some (operationBranch (ascii "enable")) := by
  have arrives : Arrives noticedConfig .calm ⟨.literal "edge.local.broadcast", enableText⟩
      (.literal "/$system/p1/d1/subdev/enable") :=
    ⟨_, _, _, ⟨2, consecutive 0 (ascii "\x7b\x7d")⟩, rfl, rfl, rfl, rfl, by decide +kernel, rfl, by decide +kernel⟩
  have named : (CString.literal "/$system/p1/d1/subdev/enable").bytes =
      broadcastTopic (ascii "p1") (ascii "d1") (ascii "enable") := by
    decide
  apply (takenBranch_operation noticedConfig .calm .initial arrives ?_ ?_ named).mpr
  · decide
  · decide
  · decide

/-- The answer to an enable notice is taken for the notice. -/
theorem enableReply_enables : ¬ ∀ config env world msg topic product device path,
    Arrives config env msg topic → 47 ∉ product → 47 ∉ device →
    topic.bytes = broadcastTopic product device path →
    takenBranch config env world msg = some (operationBranch path) := by
  intro always
  have taken := always noticedConfig .calm .initial
    ⟨.literal "edge.local.broadcast", enableReplyText⟩
    (.literal "/$system/p1/d1/subdev/enable_reply") (ascii "p1") (ascii "d1") (ascii "enable_reply")
    ⟨_, _, _, ⟨2, consecutive 0 (ascii "\x7b\x7d")⟩, rfl, rfl, rfl, rfl, by decide +kernel, rfl, by decide +kernel⟩ (by decide) (by decide) (by decide)
  have enables : takenBranch noticedConfig .calm .initial
      ⟨.literal "edge.local.broadcast", enableReplyText⟩ = some .enable := by
    decide +kernel
  rw [enables] at taken
  exact absurd taken (by decide)

end IotstackDriver.Edge
