import Mathlib.Data.Rat.Defs
import Troubleshooter.Adapter.Mapping

-- The client of the MCP server, which reads all messages of the server from one stream.
namespace Troubleshooter.Adapter

-- One request at a time holds the lock, from the writing of it to its end.
structure Pending where
  id : Int
  method : String

structure MCPClient where
  nextID : Int := 1
  written : List Params := []
  responses : List Params := []
  pending : Option Pending := none

inductive ClientEvent where
  -- A request gets the lock; its writing fails once the server has exited.
  | request (method : String) (params : Params) (exited : Bool)
  -- The reader gets a line, which may not be JSON.
  | line (decoded : Option Value)
  -- The pending request gets a message from the queue, or its time is up.
  | get
  | expire

inductive Outcome where
  | returned (id : Int) (result : Value)
  | raised (id : Int) (text : String)

-- message.get("id") == id, for which a bool is a number.
def sameID (id : Int) : Value → Bool
  | .int value => value == id
  | .float value => value == (id : ℚ)
  | .bool value => (if value then 1 else 0) == id
  | _ => false

namespace MCPClient

def readStdout (client : MCPClient) : Option Value → MCPClient
  | some (.map message) =>
    if (message.lookup "id").isSome then
      { client with responses := client.responses ++ [message] }
    else client
  | _ => client

-- The body of the loop, for a message that the queue has.
def take (python : Python.Runtime) (client : MCPClient) (pending : Pending) (message : Params) :
    MCPClient × Option Outcome :=
  if !sameID pending.id (Python.get message "id" .null) then (client, none)
  else
    match message.lookup "error" with
    | some error =>
      ({ client with pending := none }, some (.raised pending.id
        ("MCP request " ++ pending.method ++ " failed: " ++ Python.str python error)))
    | none =>
      ({ client with pending := none },
        some (.returned pending.id (Python.get message "result" .null)))

def request (client : MCPClient) (method : String) (params : Params) (exited : Bool) :
    MCPClient × Option Outcome :=
  let id := client.nextID
  let client := { client with nextID := id + 1 }
  if exited then (client, some (.raised id "MCP server process exited"))
  else
    let message : Params := [("jsonrpc", .str "2.0"), ("id", .int id), ("method", .str method),
      ("params", .map params)]
    ({ client with written := client.written ++ [message], pending := some ⟨id, method⟩ }, none)

-- An event that cannot happen yet has to wait: it leaves all as it is.
def step (python : Python.Runtime) (client : MCPClient) : ClientEvent → MCPClient × Option Outcome
  | .request method params exited =>
    if client.pending.isSome then (client, none) else client.request method params exited
  | .line decoded => (client.readStdout decoded, none)
  | .get =>
    match client.pending, client.responses with
    | some pending, message :: responses =>
      take python { client with responses } pending message
    | _, _ => (client, none)
  | .expire =>
    match client.pending with
    | some pending =>
      ({ client with pending := none }, some (.raised pending.id
        ("MCP request " ++ pending.method ++ " timed out")))
    | none => (client, none)

def run (python : Python.Runtime) (client : MCPClient) (events : List ClientEvent) : MCPClient :=
  events.foldl (fun client event => (client.step python event).1) client

end MCPClient

-- A JSON-RPC response with a result, to the request of this id.
def isResult (id : Int) (message : Params) : Bool :=
  (match message.lookup "id" with
    | some (.int value) => value == id
    | some (.float value) => value == (id : ℚ)
    | _ => false) &&
  (match message.lookup "jsonrpc" with
    | some (.str version) => version == "2.0"
    | _ => false) &&
  (message.lookup "result").isSome && (message.lookup "error").isNone &&
  (message.lookup "method").isNone

-- It has arrived after the request was written.
def Solicited (python : Python.Runtime) (events : List ClientEvent) (id : Int)
    (message : Params) : Prop :=
  ∃ earlier method params later, events = earlier ++ .request method params false :: later ∧
    (MCPClient.run python {} earlier).pending = none ∧
    (MCPClient.run python {} earlier).nextID = id ∧
    .line (some (.map message)) ∈ later ∧ isResult id message = true

-- No message that arrives carries the id of the pending request or of one that is still to come,
-- unless it is a response to the pending one, or an error.
def Orderly (client : MCPClient) : ClientEvent → Prop
  | .line (some (.map message)) =>
    ∀ id, sameID id (Python.get message "id" .null) = true → message.lookup "error" = none →
      (client.nextID ≤ id ∨ client.pending.map Pending.id = some id) →
        client.pending.map Pending.id = some id ∧ isResult id message = true
  | _ => True

def OrderlyRun (python : Python.Runtime) : MCPClient → List ClientEvent → Prop
  | _, [] => True
  | client, event :: events =>
    Orderly client event ∧ OrderlyRun python (client.step python event).1 events

section Runs

variable {python : Python.Runtime} {events more : List ClientEvent} {event : ClientEvent}
  {client client' : MCPClient} {id : Int} {message : Params}

theorem run_append (client : MCPClient) (events more : List ClientEvent) :
    client.run python (events ++ more) = (client.run python events).run python more :=
  List.foldl_append

theorem orderlyRun_append :
    OrderlyRun python client (events ++ more) ↔
      OrderlyRun python client events ∧ OrderlyRun python (client.run python events) more := by
  induction events generalizing client with
  | nil => exact ⟨fun h => ⟨trivial, h⟩, fun h => h.2⟩
  | cons event events ih =>
    rw [List.cons_append, OrderlyRun, OrderlyRun, ih, and_assoc]
    rfl

theorem Solicited.append (h : Solicited python events id message) :
    Solicited python (events ++ more) id message := by
  obtain ⟨earlier, method, params, later, rfl, hidle, hid, hline, hresult⟩ := h
  exact ⟨earlier, method, params, later ++ more, List.append_assoc _ _ _, hidle, hid,
    List.mem_append_left _ hline, hresult⟩

-- The pending request has been written.
def Written (python : Python.Runtime) (events : List ClientEvent) (id : Int) : Prop :=
  ∃ earlier method params later, events = earlier ++ .request method params false :: later ∧
    (MCPClient.run python {} earlier).pending = none ∧
    (MCPClient.run python {} earlier).nextID = id

theorem Written.append (h : Written python events id) : Written python (events ++ more) id := by
  obtain ⟨earlier, method, params, later, rfl, hidle, hid⟩ := h
  exact ⟨earlier, method, params, later ++ more, List.append_assoc _ _ _, hidle, hid⟩

-- What is queued for the pending request is a response to it, and nothing is for a later one.
structure Clean (python : Python.Runtime) (events : List ClientEvent) (client : MCPClient) :
    Prop where
  pending : ∀ pending, client.pending = some pending →
    pending.id < client.nextID ∧ Written python events pending.id
  queued : ∀ message ∈ client.responses, ∀ id,
    sameID id (Python.get message "id" .null) = true → message.lookup "error" = none →
      (client.nextID ≤ id ∨ client.pending.map Pending.id = some id) →
        client.pending.map Pending.id = some id ∧ Solicited python events id message

theorem Clean.append (h : Clean python events client) : Clean python (events ++ more) client where
  pending pending hpending := ⟨(h.pending pending hpending).1, (h.pending pending hpending).2.append⟩
  queued message hmessage id hid herror hahead :=
    let ⟨hpending, hsolicited⟩ := h.queued message hmessage id hid herror hahead
    ⟨hpending, hsolicited.append⟩

-- No message is left for a request that is still to come.
theorem Clean.later (h : Clean python events client) (hmessage : message ∈ client.responses)
    (hid : sameID id (Python.get message "id" .null) = true)
    (herror : message.lookup "error" = none) : ¬client.nextID ≤ id := by
  intro hahead
  obtain ⟨hpending, -⟩ := h.queued message hmessage id hid herror (.inl hahead)
  obtain ⟨pending, hsome, rfl⟩ := Option.map_eq_some_iff.mp hpending
  exact absurd (h.pending pending hsome).1 (by omega)

-- Messages may leave the queue, and the request may end.
theorem Clean.shrink (h : Clean python events client) (hnext : client'.nextID = client.nextID)
    (hsub : ∀ message ∈ client'.responses, message ∈ client.responses)
    (hpending : client'.pending = client.pending ∨ client'.pending = none) :
    Clean python events client' where
  pending pending hsome := by
    rcases hpending with hsame | hnone
    · rw [hnext]
      exact h.pending pending (hsame ▸ hsome)
    · rw [hnone] at hsome
      exact nomatch hsome
  queued message hmessage id hid herror hahead := by
    rw [hnext] at hahead
    rcases hpending with hsame | hnone
    · rw [hsame] at hahead ⊢
      exact h.queued message (hsub message hmessage) id hid herror hahead
    · rw [hnone] at hahead
      exact absurd (hahead.resolve_right nofun) (h.later (hsub message hmessage) hid herror)

theorem Clean.take (h : Clean python events client) (pending : Pending) {responses : List Params}
    (hresponses : client.responses = message :: responses) :
    Clean python events (MCPClient.take python { client with responses } pending message).1 := by
  have hsub : ∀ other ∈ responses, other ∈ client.responses :=
    fun other hother => hresponses ▸ List.mem_cons_of_mem _ hother
  unfold MCPClient.take
  split
  next => exact h.shrink rfl hsub (.inl rfl)
  next =>
    split
    next => exact h.shrink rfl hsub (.inr rfl)
    next => exact h.shrink rfl hsub (.inr rfl)

theorem Clean.step (h : Clean python events (MCPClient.run python {} events))
    (horderly : Orderly (MCPClient.run python {} events) event) :
    Clean python (events ++ [event]) (MCPClient.run python {} (events ++ [event])) := by
  rw [run_append]
  change Clean python (events ++ [event])
    ((MCPClient.run python {} events).step python event).1
  generalize hclient : MCPClient.run python {} events = client at h horderly ⊢
  cases event with
  | request method params exited =>
    dsimp only [MCPClient.step]
    split
    next => exact h.append
    next hidle =>
      have hnone : client.pending = none := Option.not_isSome_iff_eq_none.mp hidle
      unfold MCPClient.request
      split
      next =>
        refine ⟨fun pending hsome => ?_, fun message hmessage id hid herror hahead => ?_⟩
        · exact nomatch hnone.symm.trans hsome
        have hlater : client.nextID + 1 ≤ id := hahead.resolve_right (by rw [hnone]; exact nofun)
        exact absurd (by omega) (h.later hmessage hid herror)
      next hwrites =>
        have hexited : exited = false := Bool.eq_false_iff.mpr hwrites
        refine ⟨fun pending hsome => ?_, fun message hmessage id hid herror hahead => ?_⟩
        · obtain rfl := Option.some.inj hsome
          refine ⟨Int.lt_succ _, events, method, params, [], ?_, ?_, ?_⟩
          · rw [hexited]
          · rw [hclient, hnone]
          · rw [hclient]
        · have hlater : client.nextID ≤ id := by
            rcases hahead with hlater | hsame
            · exact Int.le_trans (Int.le_of_lt (Int.lt_succ _)) hlater
            · exact Int.le_of_eq (Option.some.inj hsame)
          exact absurd hlater (h.later hmessage hid herror)
  | line decoded =>
    dsimp only [MCPClient.step]
    unfold MCPClient.readStdout
    split
    next message =>
      split
      next =>
        refine ⟨h.append.pending, fun other hother id hid herror hahead => ?_⟩
        rcases List.mem_append.mp hother with hqueued | hnew
        · exact h.append.queued other hqueued id hid herror hahead
        · obtain rfl := List.mem_singleton.mp hnew
          obtain ⟨hpending, hresult⟩ := horderly id hid herror hahead
          obtain ⟨pending, hsome, rfl⟩ := Option.map_eq_some_iff.mp hpending
          obtain ⟨earlier, method, params, later, hsplit, hidle, hid'⟩ :=
            (h.pending pending hsome).2
          refine ⟨hpending, earlier, method, params, later ++ [.line (some (.map other))], ?_,
            hidle, hid', List.mem_append_right _ (List.mem_singleton_self _), hresult⟩
          rw [hsplit, List.append_assoc]
          rfl
      next => exact h.append
    next => exact h.append
  | get =>
    dsimp only [MCPClient.step]
    split
    next pending message responses _ hresponses => exact (h.take pending hresponses).append
    next => exact h.append
  | expire =>
    dsimp only [MCPClient.step]
    split
    next =>
      have hended : Clean python events { client with pending := none } :=
        h.shrink rfl (fun _ hmessage => hmessage) (.inr rfl)
      exact hended.append
    next => exact h.append

theorem clean_of_orderlyRun (h : OrderlyRun python {} events) :
    Clean python events (MCPClient.run python {} events) := by
  induction events using List.reverseRecOn with
  | nil => exact ⟨nofun, nofun⟩
  | append_singleton events event ih =>
    obtain ⟨hbefore, hevent, -⟩ := orderlyRun_append.mp h
    exact (ih hbefore).step hevent

theorem returned_cases {result : Value}
    (h : (client.step python event).2 = some (.returned id result)) :
    ∃ pending message responses, client.pending = some pending ∧
      client.responses = message :: responses ∧ id = pending.id ∧
      sameID id (Python.get message "id" .null) = true ∧ message.lookup "error" = none ∧
      result = Python.get message "result" .null := by
  cases event with
  | request method params exited =>
    dsimp only [MCPClient.step] at h
    split at h
    next => exact nomatch h
    next =>
      unfold MCPClient.request at h
      split at h
      next => exact nomatch Option.some.inj h
      next => exact nomatch h
  | line decoded => exact nomatch h
  | get =>
    dsimp only [MCPClient.step] at h
    split at h
    next pending message responses hpending hresponses =>
      unfold MCPClient.take at h
      split at h
      next => exact nomatch h
      next hid =>
        split at h
        next => exact nomatch Option.some.inj h
        next herror =>
          obtain ⟨rfl, rfl⟩ := Outcome.returned.inj (Option.some.inj h)
          exact ⟨pending, message, responses, hpending, hresponses, rfl, by simpa using hid,
            herror, rfl⟩
    next => exact nomatch h
  | expire =>
    dsimp only [MCPClient.step] at h
    split at h
    next => exact nomatch Option.some.inj h
    next => exact nomatch h

-- What a request returns is the result of a response to it, as long as no message carries the id
-- of the request or of a later one that is not such a response.
theorem returned_of_orderlyRun (horderly : OrderlyRun python {} events)
    {before after : List ClientEvent} (hsplit : events = before ++ event :: after)
    {result : Value}
    (h : ((MCPClient.run python {} before).step python event).2 = some (.returned id result)) :
    ∃ message, Solicited python before id message ∧ result = Python.get message "result" .null := by
  rw [hsplit] at horderly
  have hclean := clean_of_orderlyRun (orderlyRun_append.mp horderly).1
  obtain ⟨pending, message, responses, hpending, hresponses, rfl, hid, herror, hresult⟩ :=
    returned_cases h
  have hmessage : message ∈ (MCPClient.run python {} before).responses :=
    hresponses ▸ List.mem_cons_self
  refine ⟨message, (hclean.queued message hmessage pending.id hid herror (.inr ?_)).2, hresult⟩
  rw [hpending]
  rfl

-- A message that carries the id of the pending request is returned from, whatever it is.
theorem returned_of_sameID {pending : Pending} (hpending : client.pending = some pending)
    (hqueue : client.responses = [])
    (hid : sameID pending.id (Python.get message "id" .null) = true)
    (herror : message.lookup "error" = none) :
    ((client.step python (.line (some (.map message)))).1.step python .get).2 =
      some (.returned pending.id (Python.get message "result" .null)) := by
  have hkey : (message.lookup "id").isSome = true := by
    unfold Python.get at hid
    cases hfound : message.lookup "id" with
    | none =>
      rw [hfound] at hid
      exact nomatch hid
    | some value => rfl
  dsimp only [MCPClient.step, MCPClient.readStdout]
  rw [if_pos hkey, hqueue, List.nil_append, hpending]
  dsimp only [MCPClient.take]
  rw [hid, if_neg (by decide), herror]

end Runs

namespace Sample

def answer : Params :=
  [("jsonrpc", .str "2.0"), ("id", .int 1), ("result", .map [("ok", .bool true)])]

-- A request of the server, which counts its own from 1 too.
def ping : Params := [("jsonrpc", .str "2.0"), ("id", .int 1), ("method", .str "ping")]

def exchange (message : Params) : List ClientEvent :=
  [.request "tools/list" [] false, .line (some (.map message))]

theorem orderlyRun_answer : OrderlyRun .ascii {} (exchange answer ++ [.get]) := by
  refine ⟨trivial, fun id hid _ _ => ?_, trivial, trivial⟩
  obtain rfl : 1 = id := eq_of_beq hid
  exact ⟨rfl, by decide +kernel⟩

end Sample

theorem returned_of_orderlyRun_answer :
    ∃ message, Solicited .ascii (Sample.exchange Sample.answer) 1 message ∧
      .map [("ok", .bool true)] = Python.get message "result" .null :=
  returned_of_orderlyRun Sample.orderlyRun_answer
    (show Sample.exchange Sample.answer ++ [.get] = Sample.exchange Sample.answer ++ .get :: [] from
      rfl) rfl

-- What the server asks for is taken for the answer.
theorem returned_ping :
    ¬∀ (before : List ClientEvent) (event : ClientEvent) (id : Int) (result : Value),
      ((MCPClient.run .ascii {} before).step .ascii event).2 = some (.returned id result) →
        ∃ message, Solicited .ascii before id message ∧
          result = Python.get message "result" .null := by
  intro h
  obtain ⟨message, ⟨earlier, method, params, later, hsplit, -, -, hline, hresult⟩, -⟩ :=
    h (Sample.exchange Sample.ping) .get 1 .null rfl
  have hmem : .line (some (.map message)) ∈ Sample.exchange Sample.ping := by
    rw [hsplit]
    exact List.mem_append_right _ (List.mem_cons_of_mem _ hline)
  rcases List.mem_cons.mp hmem with hrequest | hmem
  · exact nomatch hrequest
  · obtain rfl : message = Sample.ping := by
      simpa using List.mem_singleton.mp hmem
    exact absurd hresult (by decide +kernel)

end Troubleshooter.Adapter
