import IotstackDriver.Support.Mutex
import IotstackDriver.Edge.LockedPrograms

/-! Any number of threads that lock the lists' mutexes and search the lists step by step,
against the same threads taking each locked section as a single request. -/

namespace IotstackDriver.Edge.Locking

open Libc Support Program

variable {env : Env} {world after : World} {list : RegistryList}

/-! ## Removals of objects that exist -/

/-- A thread removes what it knows to exist: what was there when it began, and what it
created or read itself. -/
def allocProtocol : Protocol edge (RegistryList → Nat) where
  allowed known
    | .remove list node => node < known list
    | _ => True
  step known
    | .readClient client, _, next =>
      next = Function.update known .connDevice (max (known .connDevice) (client + 1))
    | .newMsgParse _, node, next =>
      next = Function.update known .requestid (max (known .requestid) (node + 1))
    | .newSubdevClient _, node, next =>
      next = Function.update known .connDevice (max (known .connDevice) (node + 1))
    | _, _, next => next = known

/-- The removals of the program are of objects that exist. -/
def Sound (known : RegistryList → Nat) (program : Program edge α) : Prop :=
  Meets allocProtocol program (fun _ _ => True) known

theorem Sound.later {known more : RegistryList → Nat} {program : Program edge α}
    (sound : Sound known program) (grown : ∀ list, known list ≤ more list) : Sound more program := by
  induction program generalizing known more with
  | done value => trivial
  | call request rest ih =>
    refine ⟨?_, fun reply next stepped => ?_⟩
    · cases request
      case remove list node => exact Nat.lt_of_lt_of_le sound.1 (grown list)
      all_goals trivial
    · cases request
      case newMsgParse requestId =>
        cases stepped
        refine ih reply (sound.2 reply _ rfl) fun list => ?_
        have bound := grown .requestid
        cases list
        · simp only [Function.update_self]
          omega
        · exact grown _
      case readClient client | newSubdevClient client =>
        cases stepped
        refine ih reply (sound.2 reply _ rfl) fun list => ?_
        have bound := grown .connDevice
        cases list
        · exact grown _
        · simp only [Function.update_self]
          omega
      all_goals
        cases stepped
        exact ih reply (sound.2 reply _ rfl) grown

/-- The objects that exist after a request are those the thread knows of. -/
theorem Sound.step {request : Request} {rest : request.Reply → Program edge α} {reply : request.Reply}
    (sound : Sound (sizes world) (.call request rest))
    (answered : respond env request world = some (reply, after)) : Sound (sizes after) (rest reply) := by
  have grown := (handle_keeps answered).sizes
  cases request
  case newMsgParse requestId =>
    cases answered
    refine Sound.later (sound.2 _ _ rfl) fun list => ?_
    cases list
    · simp [sizes]
    · exact Nat.le_refl _
  case newSubdevClient client =>
    cases answered
    refine Sound.later (sound.2 _ _ rfl) fun list => ?_
    cases list
    · exact Nat.le_refl _
    · simp [sizes]
  case readClient client =>
    obtain ⟨own, found, same⟩ := Option.bind_eq_some_iff.mp answered
    have present := Registry.value?_isSome.mp (Option.isSome_of_eq_some found)
    refine Sound.later (sound.2 _ _ rfl) fun list => ?_
    cases list
    · exact grown .requestid
    · have bound := grown .connDevice
      simp only [sizes] at bound ⊢
      simp only [Function.update_self]
      omega
  all_goals exact Sound.later (sound.2 reply _ rfl) grown

/-! ## The stages of a thread -/

def Quiet (program : Program edge α) : Prop :=
  Issues (fun request : Request => request.keepsLists = true) program fun _ => True

/-- A thread that runs the driver's programs, or one that the timer starts. -/
inductive Kind where
  | driver
  | timer
  deriving DecidableEq

/-- How a thread stands to the same thread at the level above, by the list whose mutex it
holds. The request above is answered at the step of the section that decides it. -/
inductive Stage (env : Env) (world : World) :
    Kind → Option RegistryList → Program locked Unit → Program edge Unit → Prop
  | outside (program : Program edge Unit) : Stage env world .driver none (withLocks program) program
  | pushing (list : RegistryList) (node : Ref) (rest : Unit → Program edge Unit) :
      Stage env world .driver (some list)
        (issued (push list node) >>= fun _ => mutexUnlock list >>= fun _ => withLocks (rest ()))
        (.call (.push list node) rest)
  | leaving {kind : Kind} {list : RegistryList} {fine : Program locked Unit} {above : Program edge Unit}
      (after : Stage env world kind none fine above) :
      Stage env world kind (some list) (mutexUnlock list >>= fun _ => fine) above
  | opening {list : RegistryList} (sought : Sought list)
      (rest : (asked sought).Reply → Program edge Unit) : Stage env world .driver (some list)
        ((listFind list sought >>= conclude list sought) >>= fun reply => withLocks (rest reply))
        (.call (asked sought) rest)
  | opened {list : RegistryList} (sought : Sought list)
      (rest : (asked sought).Reply → Program edge Unit)
      (iterates : env.malloc (.listIterator list) = true) : Stage env world .driver (some list)
        (((content list >>= searchFrom list sought 0) >>= conclude list sought) >>= fun reply =>
          withLocks (rest reply))
        (.call (asked sought) rest)
  | searching {list : RegistryList} (sought : Sought list)
      (rest : (asked sought).Reply → Program edge Unit)
      (iterates : env.malloc (.listIterator list) = true) {done todo : List Ref}
      (entries : world.entries list = done ++ todo)
      (passed : ∀ entry ∈ done, answer world sought entry = some false) :
      Stage env world .driver (some list)
        ((searchFrom list sought done.length (todo.map some) >>= conclude list sought) >>= fun reply =>
          withLocks (rest reply))
        (.call (asked sought) rest)
  | ending {list : RegistryList} (sought : Sought list)
      (rest : (asked sought).Reply → Program edge Unit) {found : Option ListNode}
      (settled : Settled env world sought found) : Stage env world .driver (some list)
        (((listIteratorDestroy list >>= fun _ => pure found) >>= conclude list sought) >>= fun reply =>
          withLocks (rest reply))
        (.call (asked sought) rest)
  | concluding {list : RegistryList} (sought : Sought list)
      (rest : (asked sought).Reply → Program edge Unit) {found : Option ListNode}
      (settled : Settled env world sought found) : Stage env world .driver (some list)
        (conclude list sought found >>= fun reply => withLocks (rest reply))
        (.call (asked sought) rest)
  | preparing (config : DriverConfig) (program : Program edge Bool) (quiet : Quiet program) :
      Stage env world .timer none
        (issued program >>= fun ready => if ready then statusSection config else pure ())
        (program >>= fun ready => if ready then statusCollect config else pure ())
  | counting (config : DriverConfig) : Stage env world .timer (some .connDevice)
      (content .connDevice >>= statusNodes config) (statusCollect config)
  | iterating (config : DriverConfig) {nodes : List Ref} (entries : world.entries .connDevice = nodes)
      (listed : nodes ≠ []) : Stage env world .timer (some .connDevice)
        (statusNodes config (nodes.map some)) (statusCollect config)
  | listing (config : DriverConfig) (program : Program edge Bytes) (quiet : Quiet program) :
      Stage env world .timer (some .connDevice)
        (issued program >>= fun deviceListMsg => listIteratorDestroy .connDevice >>= fun _ =>
          mutexUnlock .connDevice >>= fun _ => issued (sendStatus config deviceListMsg))
        (program >>= sendStatus config)
  | sending (program : Program edge Unit) (quiet : Quiet program) :
      Stage env world .timer none (issued program) program
  | stranded (refused : env.malloc (.listIterator .connDevice) = false) :
      Stage env world .timer (some .connDevice) (pure ()) (pure ())

/-- What others do while the mutex is held changes nothing for the thread. -/
theorem Stage.later {kind : Kind} {held : Option RegistryList} {fine : Program locked Unit}
    {above : Program edge Unit} (stage : Stage env world kind held fine above) (keeps : Keeps world after)
    (same : ∀ list, held = some list → after.entries list = world.entries list) :
    Stage env after kind held fine above := by
  induction stage with
  | outside program => exact .outside program
  | pushing list node rest => exact .pushing list node rest
  | leaving _ ih => exact .leaving (ih nofun)
  | opening sought rest => exact .opening sought rest
  | opened sought rest iterates => exact .opened sought rest iterates
  | searching sought rest iterates entries passed =>
    exact .searching sought rest iterates ((same _ rfl).trans entries)
      fun entry member => keeps.answer (passed entry member)
  | ending sought rest settled => exact .ending sought rest (settled.later keeps (same _ rfl))
  | concluding sought rest settled => exact .concluding sought rest (settled.later keeps (same _ rfl))
  | preparing config program quiet => exact .preparing config program quiet
  | counting config => exact .counting config
  | iterating config entries listed => exact .iterating config ((same _ rfl).trans entries) listed
  | listing config program quiet => exact .listing config program quiet
  | sending program quiet => exact .sending program quiet
  | stranded refused => exact .stranded refused

/-- What is seen of a request. The levels search and remove in different steps, and nothing
is seen of these. -/
def visible (request : Request) (reply : request.Reply) : Option ((request : Request) × request.Reply) :=
  if request.sectional then none else some ⟨request, reply⟩

def shown : (request : LockedRequest) → request.Reply → Option ((request : Request) × request.Reply)
  | .issue request, reply => visible request reply
  | _, _ => none

/-- A step as the level above sees it: nothing, or a request. -/
inductive Matched (env : Env) (world after : World) (kind : Kind) (held : Option RegistryList)
    (fine : Program locked Unit) (above : Program edge Unit) :
    Option ((request : Request) × request.Reply) → Prop
  | silent (same : SameWorld world after) (stage : Stage env after kind held fine above) :
      Matched env world after kind held fine above none
  | taken {request : Request} {rest : request.Reply → Program edge Unit} {reply : request.Reply}
      {final : World} {event : Option ((request : Request) × request.Reply)}
      (issues : above = .call request rest)
      (answered : respond env request world = some (reply, final)) (same : SameWorld after final)
      (stage : Stage env after kind held fine (rest reply)) (seen : event = visible request reply) :
      Matched env world after kind held fine above event

/-- The list whose mutex a thread holds after a request. -/
def Moves (held : Option RegistryList) (request : LockedRequest) (next : Option RegistryList) : Prop :=
  match request with
  | .lock list => held = none ∧ next = some list
  | .unlock list => held = some list ∧ next = none
  | _ => next = held

/-- Every step a thread can take. -/
def Continues (env : Env) (world : World) (kind : Kind) (held : Option RegistryList)
    (fine : Program locked Unit) (above : Program edge Unit) : Prop :=
  match fine with
  | .done _ => True
  | .call request rest => ∀ reply after, serve env request world = some (reply, after) →
    ∃ next, Moves held request next ∧
      (∀ list, held ≠ some list → after.entries list = world.entries list) ∧
      Matched env world after kind next (rest reply) above (shown request reply)

/-- The list a step works on. -/
def LockedRequest.accesses : LockedRequest → Option RegistryList
  | content list | matchVal list _ _ | unlink list _ | iteratorDestroy list => some list
  | issue (.push list _) => some list
  | _ => none

/-- The thread is about to work on the list. -/
def Accesses (list : RegistryList) : Program locked Unit → Prop
  | .done _ => False
  | .call request _ => request.accesses = some list

instance (list : RegistryList) (program : Program locked Unit) : Decidable (Accesses list program) :=
  match program with
  | .done _ => inferInstanceAs (Decidable False)
  | .call request _ => inferInstanceAs (Decidable (request.accesses = some list))

section Steps

variable {kind : Kind} {held : Option RegistryList} {fine : Program locked Unit}
  {above : Program edge Unit}

/-- A step of the driver that changes neither list is the same step above. -/
private theorem continues_issue {request : Request} {rest : request.Reply → Program locked Unit}
    {restAbove : request.Reply → Program edge Unit} (keeps : request.keepsLists = true)
    (stages : ∀ reply after, Stage env after kind held (rest reply) (restAbove reply)) :
    Continues env world kind held (.call (.issue request) rest) (.call request restAbove) := by
  intro reply after served
  exact ⟨held, rfl, fun list _ => handle_keepsLists keeps served list,
    .taken rfl served (.refl _) (stages reply after) rfl⟩

private theorem continues_outside (program : Program edge Unit) :
    Continues env world .driver none (withLocks program) program := by
  cases program with
  | done value => trivial
  | call request rest =>
    cases request
    case push list node =>
      rintro reply after ⟨⟩
      exact ⟨some list, ⟨rfl, rfl⟩, fun _ _ => rfl, .silent (.refl _) (.pushing list node rest)⟩
    case find list key =>
      rintro reply after ⟨⟩
      exact ⟨some list, ⟨rfl, rfl⟩, fun _ _ => rfl, .silent (.refl _) (.opening (.key key) rest)⟩
    case remove list node =>
      rintro reply after ⟨⟩
      exact ⟨some list, ⟨rfl, rfl⟩, fun _ _ => rfl, .silent (.refl _) (.opening (.node node) rest)⟩
    all_goals exact continues_issue rfl fun reply after => .outside (rest reply)

private theorem continues_pushing (list : RegistryList) (node : Ref)
    (rest : Unit → Program edge Unit) : Continues env world .driver (some list)
      (issued (push list node) >>= fun _ => mutexUnlock list >>= fun _ => withLocks (rest ()))
      (.call (.push list node) rest) := by
  intro reply after served
  refine ⟨some list, rfl, fun other different => ?_,
    .taken rfl served (.refl _) (.leaving (.outside _)) rfl⟩
  have served : respond env (.push list node) world = some ((), after) := served
  cases list <;> cases other <;> simp_all [respond, World.entries]
  all_goals
    obtain ⟨-, rfl⟩ := served
    rfl

private theorem continues_opening {list : RegistryList} (sought : Sought list)
    (rest : (asked sought).Reply → Program edge Unit) : Continues env world .driver (some list)
      ((listFind list sought >>= conclude list sought) >>= fun reply => withLocks (rest reply))
      (.call (asked sought) rest) := by
  rw [listFind_eq]
  rintro reply after ⟨⟩
  refine ⟨some list, rfl, fun _ _ => rfl, .silent (.refl _) ?_⟩
  cases iterates : env.malloc (.listIterator list) with
  | false => exact .concluding sought rest (.refused iterates)
  | true => exact .opened sought rest iterates

private theorem continues_ending {list : RegistryList} (sought : Sought list)
    (rest : (asked sought).Reply → Program edge Unit) {found : Option ListNode}
    (settled : Settled env world sought found) : Continues env world .driver (some list)
      (((listIteratorDestroy list >>= fun _ => pure found) >>= conclude list sought) >>= fun reply =>
        withLocks (rest reply))
      (.call (asked sought) rest) := by
  rintro reply after ⟨⟩
  exact ⟨some list, rfl, fun _ _ => rfl, .silent (.refl _) (.concluding sought rest settled)⟩

private theorem continues_searching {list : RegistryList} (sought : Sought list)
    (rest : (asked sought).Reply → Program edge Unit)
    (iterates : env.malloc (.listIterator list) = true) {done todo : List Ref}
    (entries : world.entries list = done ++ todo)
    (passed : ∀ entry ∈ done, answer world sought entry = some false) :
    Continues env world .driver (some list)
      ((searchFrom list sought done.length (todo.map some) >>= conclude list sought) >>= fun reply =>
        withLocks (rest reply))
      (.call (asked sought) rest) := by
  cases todo with
  | nil =>
    rw [List.append_nil] at entries
    exact continues_ending sought rest (.missing iterates (entries ▸ passed))
  | cons entry more =>
    intro reply after called
    have same : SameWorld world after := callMatch_same called
    have keeps := Keeps.of_same same
    have called : callMatch world list sought (some entry) = some (reply, after) := called
    have answered : answer world sought entry = some reply := by
      rw [answer, called]
      rfl
    refine ⟨some list, rfl, fun other _ => same.entries other, .silent same ?_⟩
    cases reply with
    | true =>
      have settled : Settled env world sought (some ⟨done.length, some entry⟩) :=
        .found iterates entries passed answered
      exact .ending sought rest (settled.later keeps (same.entries list))
    | false =>
      have further : ∀ other ∈ done ++ [entry], answer after sought other = some false := by
        intro other member
        rcases List.mem_append.mp member with earlier | here
        · exact keeps.answer (passed other earlier)
        · rw [List.mem_singleton.mp here]
          exact keeps.answer answered
      have split : after.entries list = (done ++ [entry]) ++ more := by
        rw [same.entries, entries, List.append_assoc, List.singleton_append]
      have stage := Stage.searching sought rest iterates split further
      rw [List.length_append] at stage
      exact stage

private theorem continues_concluding {list : RegistryList} (sought : Sought list)
    (rest : (asked sought).Reply → Program edge Unit) {found : Option ListNode}
    (settled : Settled env world sought found) (sound : Sound (sizes world) (.call (asked sought) rest)) :
    Continues env world .driver (some list)
      (conclude list sought found >>= fun reply => withLocks (rest reply))
      (.call (asked sought) rest) := by
  cases sought with
  | key key =>
    obtain ⟨final, answered, same⟩ := settled.find
    rintro reply after ⟨⟩
    exact ⟨none, ⟨rfl, rfl⟩, fun _ _ => rfl, .taken rfl answered same (.outside _) rfl⟩
  | node node =>
    cases found with
    | none =>
      obtain ⟨final, answered, same⟩ := settled.keep sound.1
      rintro reply after ⟨⟩
      exact ⟨none, ⟨rfl, rfl⟩, fun _ _ => rfl, .taken rfl answered same (.outside _) rfl⟩
    | some listNode =>
      intro reply after unlinked
      obtain ⟨final, answered, same⟩ := settled.unlinks unlinked
      refine ⟨some list, rfl, fun other different => ?_,
        .taken rfl answered same (.leaving (.outside _)) rfl⟩
      cases list <;> cases other <;> cases unlinked
      · exact absurd rfl different
      · rfl
      · rfl
      · exact absurd rfl different

private theorem continues_preparing (config : DriverConfig) (program : Program edge Bool)
    (quiet : Quiet program) : Continues env world .timer none
      (issued program >>= fun ready => if ready then statusSection config else pure ())
      (program >>= fun ready => if ready then statusCollect config else pure ()) := by
  cases program with
  | done ready =>
    cases ready with
    | false => trivial
    | true =>
      rintro reply after ⟨⟩
      exact ⟨some .connDevice, ⟨rfl, rfl⟩, fun _ _ => rfl, .silent (.refl _) (.counting config)⟩
  | call request rest =>
    exact continues_issue quiet.1 fun reply after => .preparing config (rest reply) (quiet.2 reply)

theorem statusBuffers_quiet : Quiet statusBuffers := by
  simp [Quiet, statusBuffers, Request.keepsLists]

theorem sendStatus_quiet (config : DriverConfig) (text : Bytes) :
    Quiet (sendStatus config text) := by
  refine ⟨rfl, fun _ => ⟨rfl, fun status => ⟨rfl, fun flushed => ?_⟩⟩⟩
  exact issues_ite.mpr (by split <;> [exact ⟨rfl, fun _ => trivial⟩; trivial])

theorem listDevices_quiet (deviceListMsg : Bytes) (nodes : List Ref) :
    Quiet (Edge.listDevices deviceListMsg nodes) := by
  refine issues_listDevices (fun _ => ?_) (fun _ _ _ => ?_) ?_ deviceListMsg nodes <;> rfl

private theorem statusNodes_listed (config : DriverConfig) {nodes : List Ref} (listed : nodes ≠ []) :
    statusNodes config (nodes.map some) = listIteratorNew .connDevice >>= fun allocated =>
      if allocated then issued (Edge.listDevices [] nodes.reverse) >>= fun deviceListMsg =>
        listIteratorDestroy .connDevice >>= fun _ => mutexUnlock .connDevice >>= fun _ =>
          issued (sendStatus config deviceListMsg)
      else pure () := by
  rw [statusNodes, if_pos (by simpa using listed)]
  congr 1
  funext allocated
  cases allocated with
  | false => rfl
  | true =>
    rw [← List.map_reverse, listDevices_issued]
    rfl

private theorem iterate_answered (env : Env) (world : World) :
    respond env (.iterate .connDevice) world = some (iterateTail (world.entries .connDevice)
      (env.malloc (.listIterator .connDevice)), world) := rfl

private theorem continues_counting (config : DriverConfig) : Continues env world .timer (some .connDevice)
    (content .connDevice >>= statusNodes config) (statusCollect config) := by
  rintro reply after ⟨⟩
  refine ⟨some .connDevice, rfl, fun _ _ => rfl, ?_⟩
  cases entries : world.entries .connDevice with
  | nil =>
    have answered := iterate_answered env world
    rw [entries] at answered
    exact .taken rfl answered (.refl _) (.leaving (.sending _ (sendStatus_quiet config []))) rfl
  | cons node more =>
    exact .silent (.refl _) (.iterating config entries (List.cons_ne_nil _ _))

private theorem continues_iterating (config : DriverConfig) {nodes : List Ref}
    (entries : world.entries .connDevice = nodes) (listed : nodes ≠ []) :
    Continues env world .timer (some .connDevice) (statusNodes config (nodes.map some))
      (statusCollect config) := by
  rw [statusNodes_listed config listed]
  rintro reply after ⟨⟩
  have answered := iterate_answered env world
  rw [entries, iterateTail] at answered
  refine ⟨some .connDevice, rfl, fun _ _ => rfl, ?_⟩
  cases iterates : env.malloc (.listIterator .connDevice) with
  | false =>
    rw [iterates, if_neg (by simpa using listed)] at answered
    exact .taken rfl answered (.refl _) (.stranded iterates) rfl
  | true =>
    rw [iterates, if_pos (Or.inr rfl)] at answered
    exact .taken rfl answered (.refl _) (.listing config _ (listDevices_quiet [] nodes.reverse)) rfl

private theorem continues_listing (config : DriverConfig) (program : Program edge Bytes)
    (quiet : Quiet program) : Continues env world .timer (some .connDevice)
      (issued program >>= fun deviceListMsg => listIteratorDestroy .connDevice >>= fun _ =>
        mutexUnlock .connDevice >>= fun _ => issued (sendStatus config deviceListMsg))
      (program >>= sendStatus config) := by
  cases program with
  | done text =>
    rintro reply after ⟨⟩
    exact ⟨some .connDevice, rfl, fun _ _ => rfl,
      .silent (.refl _) (.leaving (.sending _ (sendStatus_quiet config text)))⟩
  | call request rest =>
    exact continues_issue quiet.1 fun reply after => .listing config (rest reply) (quiet.2 reply)

/-- Whatever step a thread takes, the thread above can follow. -/
theorem Stage.continues (stage : Stage env world kind held fine above)
    (sound : Sound (sizes world) above) : Continues env world kind held fine above := by
  cases stage with
  | outside => exact continues_outside _
  | pushing list node rest => exact continues_pushing list node rest
  | leaving after =>
    rintro reply after ⟨⟩
    exact ⟨none, ⟨rfl, rfl⟩, fun _ _ => rfl, .silent (.refl _) ‹_›⟩
  | opening sought rest => exact continues_opening sought rest
  | opened sought rest iterates =>
    rintro reply after ⟨⟩
    exact ⟨_, rfl, fun _ _ => rfl, .silent (.refl _)
      (@Stage.searching _ _ _ sought rest iterates [] _ rfl nofun)⟩
  | searching sought rest iterates entries passed =>
    exact continues_searching sought rest iterates entries passed
  | ending sought rest settled => exact continues_ending sought rest settled
  | concluding sought rest settled => exact continues_concluding sought rest settled sound
  | preparing config program quiet => exact continues_preparing config program quiet
  | counting config => exact continues_counting config
  | iterating config entries listed => exact continues_iterating config entries listed
  | listing config program quiet => exact continues_listing config program quiet
  | sending _ quiet =>
    cases above with
    | done value => trivial
    | call request rest =>
      exact continues_issue quiet.1 fun reply after => .sending (rest reply) (quiet.2 reply)
  | stranded => trivial

/-- A thread has finished above when it has, and holds nothing then unless a notification
got no iterator. -/
theorem Stage.finished (stage : Stage env world kind held fine above) (done : fine = .done ()) :
    above = .done () ∧ ∀ list, held = some list → list = .connDevice ∧ kind = .timer ∧
      env.malloc (.listIterator .connDevice) = false := by
  cases stage with
  | outside =>
    cases above with
    | done value => exact ⟨rfl, nofun⟩
    | call request rest => cases request <;> cases done
  | pushing | leaving | counting | opened | ending => cases done
  | opening sought rest =>
    rw [listFind_eq] at done
    cases done
  | @searching list sought rest iterates before todo entries passed =>
    cases todo <;> cases done
  | @concluding list sought rest found settled =>
    cases sought <;> cases found <;> cases done
  | preparing config program quiet =>
    cases program with
    | done ready => cases ready <;> [exact ⟨rfl, nofun⟩; cases done]
    | call request rest => cases done
  | iterating config entries listed =>
    rw [statusNodes_listed config listed] at done
    cases done
  | listing config program quiet => cases program <;> cases done
  | sending _ quiet => cases above <;> [exact ⟨rfl, nofun⟩; cases done]
  | stranded refused => exact ⟨rfl, fun list same => by cases same; exact ⟨rfl, rfl, refused⟩⟩

private theorem accesses_issue {request : Request} (keeps : request.keepsLists = true) :
    (LockedRequest.issue request).accesses ≠ some list := by
  cases request
  case push => cases keeps
  all_goals exact nofun

/-- A thread works on a list in its section only. -/
theorem Stage.holds (stage : Stage env world kind held fine above) (accesses : Accesses list fine) :
    held = some list := by
  cases stage with
  | outside =>
    cases above with
    | done value => cases accesses
    | call request rest => cases request <;> cases accesses
  | leaving => cases accesses
  | pushing | counting | opened | ending => cases accesses; rfl
  | opening sought rest =>
    rw [listFind_eq] at accesses
    cases accesses
  | @searching _ sought rest iterates before todo entries passed =>
    cases todo <;> (cases accesses; rfl)
  | @concluding _ sought rest found settled =>
    cases sought <;> cases found <;> cases accesses
    rfl
  | preparing config program quiet =>
    cases program with
    | done ready => cases ready <;> cases accesses
    | call request rest => exact absurd accesses (accesses_issue quiet.1)
  | iterating config entries listed =>
    rw [statusNodes_listed config listed] at accesses
    cases accesses
  | listing config program quiet =>
    cases program with
    | done text => cases accesses; rfl
    | call request rest => exact absurd accesses (accesses_issue quiet.1)
  | sending _ quiet =>
    cases above with
    | done value => cases accesses
    | call request rest => exact absurd accesses (accesses_issue quiet.1)
  | stranded => cases accesses

end Steps

/-! ## The threads -/

/-- A thread that runs a program of the driver, or a notification of the timer. -/
inductive Thread where
  | driver (program : Program edge Unit)
  | statusSync (config : DriverConfig)

namespace Thread

/-- With its locks. -/
def fine : Thread → Program locked Unit
  | driver program => withLocks program
  | statusSync config => handleStatusSync config

def kind : Thread → Kind
  | driver _ => .driver
  | statusSync _ => .timer

/-- With each locked section a single request. -/
def coarse : Thread → Program edge Unit
  | driver program => program
  | statusSync config => Edge.handleStatusSync config

end Thread

def mutexUse : LockedRequest → MutexUse RegistryList
  | .lock list => .locks list
  | .unlock list => .unlocks list
  | _ => .none

variable {ι : Type} [DecidableEq ι]

/-- Any number of threads, each with the outcomes it meets, and the world they share. -/
structure Team (ι : Type) where
  threads : ι → Thread
  envs : ι → Env
  world : World

namespace Team

def fine (team : Team ι) : System locked (Guarded World RegistryList ι) ι Empty where
  handler thread := Guarded.guard mutexUse (serve (team.envs thread)) thread
  outside event _ := event.elim

def coarse (team : Team ι) : System edge World ι Empty where
  handler thread := respond (team.envs thread)
  outside event _ := event.elim

/-- No mutex is locked. -/
def fineStart (team : Team ι) : Pool locked (Guarded World RegistryList ι) ι where
  shared := ⟨team.world, fun _ => .free⟩
  threads thread := (team.threads thread).fine

def coarseStart (team : Team ι) : Pool edge World ι where
  shared := team.world
  threads thread := (team.threads thread).coarse

end Team

/-- Whose section it is that a mutex guards. -/
def Owned (held : ι → Option RegistryList) (list : RegistryList) : Mutex ι → Prop
  | .free => ∀ thread, held thread ≠ some list
  | .held owner again => again = 0 ∧ ∀ thread, held thread = some list ↔ thread = owner

/-- A pool with locks and the pool of the level above. -/
structure Related (team : Team ι) (pool : Pool locked (Guarded World RegistryList ι) ι)
    (above : Pool edge World ι) (held : ι → Option RegistryList) : Prop where
  world : SameWorld pool.shared.world above.shared
  stages : ∀ thread, Stage (team.envs thread) pool.shared.world (team.threads thread).kind
    (held thread) (pool.threads thread) (above.threads thread)
  sound : ∀ thread, Sound (sizes above.shared) (above.threads thread)
  mutexes : ∀ list, Owned held list (pool.shared.mutexes list)

omit [DecidableEq ι] in
theorem coarse_begins {team : Team ι}
    (sound : ∀ thread, Sound (sizes team.world) (team.threads thread).coarse) :
    Related team team.fineStart team.coarseStart fun _ => none where
  world := .refl _
  stages thread := by
    change Stage _ team.world (team.threads thread).kind none (team.threads thread).fine
      (team.threads thread).coarse
    cases team.threads thread with
    | driver program => exact .outside program
    | statusSync config =>
      rw [Thread.fine, Thread.coarse, handleStatusSync_eq, collected_eq]
      exact .preparing config statusBuffers statusBuffers_quiet
  sound := sound
  mutexes list thread := nofun

section Ownership

variable {held later : ι → Option RegistryList} {thread : ι} {next : Option RegistryList}
  {mutexes after : RegistryList → Mutex ι}

omit [DecidableEq ι] in
private theorem Owned.congr {mutex : Mutex ι} (owned : Owned held list mutex)
    (same : ∀ thread, later thread = some list ↔ held thread = some list) : Owned later list mutex := by
  cases mutex with
  | free => exact fun thread => (same thread).not.mpr (owned thread)
  | held owner again => exact ⟨owned.1, fun thread => (same thread).trans (owned.2 thread)⟩

private theorem owned_lock (outside : held thread = none)
    (admitted : Guarded.permit mutexes thread (.locks list) = some after)
    (owned : ∀ list, Owned held list (mutexes list)) (other : RegistryList) :
    Owned (Function.update held thread (some list)) other (after other) := by
  obtain ⟨mutex, locked, rfl⟩ := Option.map_eq_some_iff.mp admitted
  have before := owned list
  by_cases same : other = list
  · subst same
    cases current : mutexes other with
    | free =>
      rw [current] at locked before
      cases locked
      rw [Function.update_self]
      refine ⟨rfl, fun member => ?_⟩
      by_cases own : member = thread
      · simp [own]
      · simp [own, before member]
    | held owner again =>
      rw [current] at locked before
      have stranger : owner ≠ thread := by
        rintro rfl
        cases outside.symm.trans ((before.2 owner).mpr rfl)
      simp [Mutex.lock, stranger] at locked
  · rw [Function.update_of_ne same]
    refine (owned other).congr fun member => ?_
    by_cases own : member = thread
    · simp [own, outside, Ne.symm same]
    · simp [own]

private theorem owned_unlock (inside : held thread = some list)
    (admitted : Guarded.permit mutexes thread (.unlocks list) = some after)
    (owned : ∀ list, Owned held list (mutexes list)) (other : RegistryList) :
    Owned (Function.update held thread none) other (after other) := by
  obtain ⟨mutex, unlocked, rfl⟩ := Option.map_eq_some_iff.mp admitted
  have before := owned list
  by_cases same : other = list
  · subst same
    cases current : mutexes other with
    | free =>
      rw [current] at before
      exact absurd inside (before thread)
    | held owner again =>
      rw [current] at unlocked before
      obtain ⟨rfl, sole⟩ := before
      obtain rfl := (sole thread).mp inside
      simp only [Mutex.unlock, if_true, Option.some.injEq] at unlocked
      subst unlocked
      rw [Function.update_self]
      intro member
      by_cases own : member = thread
      · simp [own]
      · simp [own, sole]
  · rw [Function.update_of_ne same]
    refine (owned other).congr fun member => ?_
    by_cases own : member = thread
    · simp [own, inside, Ne.symm same]
    · simp [own]

/-- A thread's move, and what it makes of the mutexes. -/
private theorem Moves.owned {request : LockedRequest} (moves : Moves (held thread) request next)
    (admitted : Guarded.permit mutexes thread (mutexUse request) = some after)
    (owned : ∀ list, Owned held list (mutexes list)) (list : RegistryList) :
    Owned (Function.update held thread next) list (after list) := by
  cases request with
  | lock list =>
    obtain ⟨outside, rfl⟩ := moves
    exact owned_lock outside admitted owned _
  | unlock list =>
    obtain ⟨inside, rfl⟩ := moves
    exact owned_unlock inside admitted owned _
  | content | matchVal | unlink | iteratorDestroy | issue =>
    cases admitted
    cases moves
    rw [Function.update_eq_self]
    exact owned list

end Ownership

def seenFine : Event locked ι Empty → Option (ι × (request : Request) × request.Reply)
  | .request thread request reply => (shown request reply).map fun seen => (thread, seen)
  | .outside event => event.elim

def seenCoarse : Event edge ι Empty → Option (ι × (request : Request) × request.Reply)
  | .request thread request reply => (visible request reply).map fun seen => (thread, seen)
  | .outside event => event.elim

omit [DecidableEq ι] in
theorem Related.held {team : Team ι} {pool : Pool locked (Guarded World RegistryList ι) ι}
    {above : Pool edge World ι} {held : ι → Option RegistryList} (related : Related team pool above held)
    {thread : ι} {list : RegistryList} :
    held thread = some list ↔ pool.shared.mutexes list = .held thread 0 := by
  have owned := related.mutexes list
  cases current : pool.shared.mutexes list with
  | free =>
    rw [current] at owned
    exact ⟨fun own => absurd own (owned thread), nofun⟩
  | held owner again =>
    rw [current] at owned
    obtain ⟨rfl, sole⟩ := owned
    rw [sole, Mutex.held.injEq]
    exact ⟨fun same => ⟨same.symm, rfl⟩, fun same => same.1.symm⟩

omit [DecidableEq ι] in
theorem Related.inside {team : Team ι} {pool : Pool locked (Guarded World RegistryList ι) ι}
    {above : Pool edge World ι} {held : ι → Option RegistryList} (related : Related team pool above held)
    {owner : ι} {again : Nat} {list : RegistryList}
    (holds : pool.shared.mutexes list = .held owner again) : held owner = some list := by
  have owned := related.mutexes list
  rw [holds] at owned
  exact (owned.2 owner).mpr rfl

omit [DecidableEq ι] in
/-- No other thread holds the mutex of a list a thread works on. -/
theorem Related.sole {team : Team ι} {pool : Pool locked (Guarded World RegistryList ι) ι}
    {above : Pool edge World ι} {held : ι → Option RegistryList} (related : Related team pool above held)
    {thread other : ι} {list : RegistryList} (own : held thread = some list)
    (also : held other = some list) : other = thread := by
  have both := (related.held.mp also).symm.trans (related.held.mp own)
  cases both
  rfl

variable {team : Team ι} {pool : Pool locked (Guarded World RegistryList ι) ι} {above : Pool edge World ι}
  {held : ι → Option RegistryList} {thread : ι} {request : LockedRequest}
  {rest : request.Reply → Program locked Unit} {reply : request.Reply}

omit [DecidableEq ι] in
/-- A request that is answered moves the thread as its stage has it. -/
theorem Related.moves (related : Related team pool above held)
    (waiting : pool.threads thread = .call request rest) {after : World}
    (served : serve (team.envs thread) request pool.shared.world = some (reply, after)) :
    ∃ next, Moves (held thread) request next ∧
      (∀ list, held thread ≠ some list → after.entries list = pool.shared.world.entries list) ∧
      Matched (team.envs thread) pool.shared.world after (team.threads thread).kind next (rest reply)
        (above.threads thread) (shown request reply) := by
  have sound : Sound (sizes pool.shared.world) (above.threads thread) :=
    (related.sound thread).later fun list => (Keeps.of_same related.world.symm).sizes list
  have continues := (related.stages thread).continues sound
  rw [waiting] at continues
  exact continues reply after served

/-- A step of a thread is followed by none or one of the same thread above. -/
theorem Related.step {shared : Guarded World RegistryList ι} (related : Related team pool above held)
    (waiting : pool.threads thread = .call request rest)
    (answered : team.fine.handler thread request pool.shared = some (reply, shared)) :
    ∃ next taken above', Moves (held thread) request next ∧ team.coarse.Run above taken above' ∧
      Related team ⟨shared, Function.update pool.threads thread (rest reply)⟩ above'
        (Function.update held thread next) ∧
      System.seen seenCoarse taken =
        (seenFine (.request thread request reply : Event locked ι Empty)).toList := by
  obtain ⟨admitted, served⟩ := Guarded.guard_eq_some_iff.mp answered
  obtain ⟨next, moves, others, matched⟩ := related.moves waiting served
  have mutexes := moves.owned admitted related.mutexes
  have changed {threadAbove : Program edge Unit} (own : Stage (team.envs thread) shared.world
      (team.threads thread).kind next (rest reply) threadAbove) (other : ι) :
      Stage (team.envs other) shared.world (team.threads other).kind
        (Function.update held thread next other) (Function.update pool.threads thread (rest reply) other)
        (Function.update above.threads thread threadAbove other) := by
    by_cases same : other = thread
    · subst same
      simpa using own
    · have stays : Stage (team.envs other) shared.world (team.threads other).kind (held other)
          (pool.threads other) (above.threads other) :=
        (related.stages other).later (serve_keeps served) fun list own =>
          others list fun also => same (related.sole also own)
      simpa [same] using stays
  generalize shows : shown request reply = event at matched
  cases matched with
  | silent same stage =>
    refine ⟨next, [], above, moves, .start, ?_, by simp [System.seen, seenFine, shows]⟩
    exact {
      world := same.symm.trans related.world
      stages := fun other => by simpa using changed stage other
      sound := related.sound
      mutexes := mutexes }
  | @taken asked restAbove answer final event issues answeredHere same stage seen =>
    obtain ⟨shared', followed, alike⟩ := related.world.handle answeredHere
    refine ⟨next, _, _, moves, .single (.request issues followed), ?_, ?_⟩
    · refine ⟨same.trans alike, changed stage, fun other => ?_, mutexes⟩
      change Sound (sizes shared') (Function.update above.threads thread (restAbove answer) other)
      by_cases own : other = thread
      · subst own
        have before := related.sound other
        rw [issues] at before
        simpa using before.step followed
      · rw [Function.update_of_ne own]
        exact (related.sound other).later (handle_keeps followed).sizes
    · cases seen
      cases shown : visible asked answer <;> simp [System.seen, seenFine, seenCoarse, shows, shown]

theorem related_follows (team : Team ι) : System.Follows team.fine team.coarse
    (fun pool above => ∃ held, Related team pool above held) seenFine seenCoarse := by
  rintro pool next above event ⟨held, related⟩ step
  cases step with
  | outside taken => exact Empty.elim ‹_›
  | request waiting answered =>
    obtain ⟨now, taken, above', -, went, related', seen⟩ := related.step waiting answered
    exact ⟨taken, above', went, ⟨_, related'⟩, seen⟩

end IotstackDriver.Edge.Locking
