/-
This file models the serve loops of the two ingestors of `server/ingestor.rs` as state
machines run over traces of events.

A serve loop is a `tokio::select!` between a 50 ms interval and the listener. Each pass of the
loop is one event of the trace: an interval tick, or what the listener produced together with
what `try_send` answered for the request built from it. Between passes other tasks may store
the shared `online` flag; those stores are events too, so a trace is any interleaving of
the loop's passes with them. `serve` takes the ingestor by value, so nothing else can call
`shutdown` while it runs: the status the loop checks stays `Listening`.

`runLoop` runs any such step function, and two lemmas about it are used for both ingestors: a
loop that returns does so at one pass reached through passes that went on, and an invariant
of the passes that go on holds there. For the TCP ingestor this gives that the task returns
only at a pass whose `check_for_shutdown` is true, and then returns `Ok(())`, and that the
requests it queued are exactly the accepted connections `try_send` took. The Nym ingestor
returns at those passes too, but also at a delivery it cannot turn into a request: the `?`
operators of its loop end the task with the error.

Each loop's `online` flag is the one the trace last stored (`lastStored`), so whether a task
returns at all is a property of the trace alone: the TCP task returns exactly when some pass
sees the flag cleared, the Nym task also at the first malformed delivery.
-/

import Mathlib.Data.List.Basic

namespace Zaino

/-! ### Serve loops over traces -/

/-- What one pass of a serve loop does: go on from a new state, or return from the task, in a
final state, with a result. -/
inductive LoopStep (σ ε : Type) where
  | next (state : σ)
  | returned (state : σ) (result : Except ε Unit)

section Loop

variable {σ ε Event : Type} (step : σ → Event → LoopStep σ ε)

/-- Runs a loop over a trace of events, up to the pass that returns. -/
def runLoop : σ → List Event → LoopStep σ ε
  | state, [] => .next state
  | state, event :: events =>
    match step state event with
    | .next state => runLoop state events
    | .returned final result => .returned final result

theorem runLoop_cons_of_next {state next : σ} {event : Event} (events : List Event)
    (goesOn : step state event = .next next) :
    runLoop step state (event :: events) = runLoop step next events := by
  simp only [runLoop, goesOn]

/-- A loop that returns does so at one event, reached through a prefix of the trace whose
passes went on. -/
theorem runLoop_eq_returned {state final : σ} {events : List Event} {result : Except ε Unit}
    (returned : runLoop step state events = .returned final result) :
    ∃ before middle event after, events = before ++ event :: after ∧
      runLoop step state before = .next middle ∧ step middle event = .returned final result := by
  induction events generalizing state with
  | nil => cases returned
  | cons event events inductionHypothesis =>
    cases stepped : step state event with
    | next next =>
      rw [runLoop_cons_of_next step events stepped] at returned
      obtain ⟨before, middle, last, after, rfl, reached, ended⟩ := inductionHypothesis returned
      exact ⟨event :: before, middle, last, after, rfl,
        by rw [runLoop_cons_of_next step before stepped, reached], ended⟩
    | returned final' result' =>
      simp only [runLoop, stepped] at returned
      obtain ⟨rfl, rfl⟩ := LoopStep.returned.inj returned
      exact ⟨[], state, event, events, rfl, rfl, stepped⟩

/-- An invariant kept by every pass that goes on holds of every state a run goes on from. -/
theorem runLoop_next_invariant (invariant : σ → Prop)
    (kept : ∀ state event next, invariant state → step state event = .next next → invariant next)
    {state final : σ} {events : List Event} (holds : invariant state)
    (reached : runLoop step state events = .next final) : invariant final := by
  induction events generalizing state with
  | nil => cases reached; exact holds
  | cons event events inductionHypothesis =>
    cases stepped : step state event with
    | next next =>
      rw [runLoop_cons_of_next step events stepped] at reached
      exact inductionHypothesis (kept state event next holds stepped) reached
    | returned _ _ =>
      simp only [runLoop, stepped] at reached
      cases reached

/-- What a pass that goes on appends to a part of the state, a run appends for all its
events, in order. -/
theorem runLoop_accumulates {α : Type} (part : σ → List α) (contribution : Event → List α)
    (appends : ∀ state event next, step state event = .next next →
      part next = part state ++ contribution event)
    {state final : σ} {events : List Event} (reached : runLoop step state events = .next final) :
    part final = part state ++ events.flatMap contribution := by
  induction events generalizing state with
  | nil => cases reached; simp
  | cons event events inductionHypothesis =>
    cases stepped : step state event with
    | next next =>
      rw [runLoop_cons_of_next step events stepped] at reached
      rw [inductionHypothesis reached, appends state event next stepped, List.flatMap_cons,
        List.append_assoc]
    | returned _ _ =>
      simp only [runLoop, stepped] at reached
      cases reached

/-- A run over two traces whose first part went on goes on over the second from there. -/
theorem runLoop_append_of_next {state middle : σ} {before : List Event} (after : List Event)
    (reached : runLoop step state before = .next middle) :
    runLoop step state (before ++ after) = runLoop step middle after := by
  induction before generalizing state with
  | nil => cases reached; rfl
  | cons event before inductionHypothesis =>
    cases stepped : step state event with
    | next next =>
      rw [runLoop_cons_of_next step before stepped] at reached
      rw [List.cons_append, runLoop_cons_of_next step _ stepped, inductionHypothesis reached]
    | returned _ _ =>
      simp only [runLoop, stepped] at reached
      cases reached

/-- A run over two traces whose first part returned returns there, whatever follows. -/
theorem runLoop_append_of_returned {state final : σ} {before : List Event}
    {result : Except ε Unit} (after : List Event)
    (returned : runLoop step state before = .returned final result) :
    runLoop step state (before ++ after) = .returned final result := by
  induction before generalizing state with
  | nil => cases returned
  | cons event before inductionHypothesis =>
    cases stepped : step state event with
    | next next =>
      rw [runLoop_cons_of_next step before stepped] at returned
      rw [List.cons_append, runLoop_cons_of_next step _ stepped, inductionHypothesis returned]
    | returned _ _ =>
      simpa only [List.cons_append, runLoop, stepped] using returned

/-- A trace returns by one of its events if the state every run of the events before it goes
on to returns at it. -/
theorem runLoop_returns_of_split {state : σ} {before : List Event} {event : Event}
    (after : List Event)
    (returns : ∀ middle, runLoop step state before = .next middle →
      ∃ final result, step middle event = .returned final result) :
    ∃ final result, runLoop step state (before ++ event :: after) = .returned final result := by
  cases running : runLoop step state before with
  | returned final result => exact ⟨final, result, runLoop_append_of_returned step _ running⟩
  | next middle =>
    obtain ⟨final, result, stepped⟩ := returns middle running
    exact ⟨final, result, by rw [runLoop_append_of_next step _ running, runLoop, stepped]⟩

/-- Whether a loop returns is decided pass by pass: if whether a pass returns, from every state
a prefix of the trace goes on to, is a condition on that prefix and the pass's event, then the
loop returns exactly when its trace has an event that meets the condition after its prefix. -/
theorem runLoop_returns_iff {state : σ} (stops : List Event → Event → Prop)
    (returnsAt : ∀ before middle event, runLoop step state before = .next middle →
      ((∃ final result, step middle event = .returned final result) ↔ stops before event))
    (events : List Event) :
    (∃ final result, runLoop step state events = .returned final result) ↔
      ∃ before event after, events = before ++ event :: after ∧ stops before event := by
  constructor
  · rintro ⟨final, result, returned⟩
    obtain ⟨before, middle, event, after, rfl, reached, ended⟩ := runLoop_eq_returned step returned
    exact ⟨before, event, after, rfl, (returnsAt before middle event reached).mp ⟨_, _, ended⟩⟩
  · rintro ⟨before, event, after, rfl, stopped⟩
    exact runLoop_returns_of_split step after fun middle reached =>
      (returnsAt before middle event reached).mpr stopped

/-- The value a trace leaves in a cell, from the one a run starts with: the value of the last
event that stores one, where `stored event` is what an event stores, if anything. -/
def lastStored {α : Type} (stored : Event → Option α) (value : α) : List Event → α
  | [] => value
  | event :: events => lastStored stored ((stored event).getD value) events

/-- A cell of the state that every pass that goes on from a state of an invariant keeps, unless
its event stores one, is in every state a run goes on from the last value its events stored. -/
theorem runLoop_lastStored_of_invariant {α : Type} (invariant : σ → Prop)
    (kept : ∀ state event next, invariant state → step state event = .next next → invariant next)
    (cell : σ → α) (stored : Event → Option α)
    (keeps : ∀ state event next, invariant state → step state event = .next next →
      cell next = (stored event).getD (cell state))
    {state final : σ} {events : List Event} (holds : invariant state)
    (reached : runLoop step state events = .next final) :
    cell final = lastStored stored (cell state) events := by
  induction events generalizing state with
  | nil => cases reached; rfl
  | cons event events inductionHypothesis =>
    cases stepped : step state event with
    | next next =>
      rw [runLoop_cons_of_next step events stepped] at reached
      rw [inductionHypothesis (kept state event next holds stepped) reached,
        keeps state event next holds stepped, lastStored]
    | returned _ _ =>
      simp only [runLoop, stepped] at reached
      cases reached

/-- A cell that every pass that goes on keeps, unless its event stores one, is in every state a
run goes on from the last value its events stored. -/
theorem runLoop_lastStored {α : Type} (cell : σ → α) (stored : Event → Option α)
    (keeps : ∀ state event next, step state event = .next next →
      cell next = (stored event).getD (cell state))
    {state final : σ} {events : List Event} (reached : runLoop step state events = .next final) :
    cell final = lastStored stored (cell state) events :=
  runLoop_lastStored_of_invariant step (fun _ => True) (fun _ _ _ _ _ => trivial) cell stored
    (fun state event next _ => keeps state event next) trivial reached

/-- A run that goes on from a state outside a set to one inside it enters the set at one pass:
the passes before it stay outside, and the rest of the run goes on from the state it entered. -/
theorem runLoop_enters (inside : σ → Prop) {state final : σ} {events : List Event}
    (reached : runLoop step state events = .next final) (outside : ¬inside state)
    (entered : inside final) :
    ∃ before middle event next after, events = before ++ event :: after ∧
      runLoop step state before = .next middle ∧ ¬inside middle ∧
      step middle event = .next next ∧ inside next ∧ runLoop step next after = .next final := by
  induction events generalizing state with
  | nil => cases reached; exact absurd entered outside
  | cons event events inductionHypothesis =>
    cases stepped : step state event with
    | next next =>
      rw [runLoop_cons_of_next step events stepped] at reached
      by_cases within : inside next
      · exact ⟨[], state, event, next, events, rfl, rfl, outside, stepped, within, reached⟩
      · obtain ⟨before, middle, last, next', after, rfl, run, out, goesOn, into, rest⟩ :=
          inductionHypothesis reached within
        exact ⟨event :: before, middle, last, next', after, rfl,
          by rw [runLoop_cons_of_next step before stepped, run], out, goesOn, into, rest⟩
    | returned _ _ =>
      simp only [runLoop, stepped] at reached
      cases reached

end Loop

/-! ### The ingestors' state -/

/-- `IngestorStatus`. -/
inductive IngestorStatus where
  | inactive
  | listening
  | closing
  | offline
  deriving DecidableEq, Repr

/-- What `QueueSender::try_send` answers. -/
inductive TrySendResult where
  | ok
  | queueFull
  | closed
  deriving DecidableEq, Repr

/-- The variants of `NymError` the Nym loop raises. -/
inductive NymError where
  | emptyMessageError
  | emptyRecipientTagError
  deriving DecidableEq, Repr

/-- The variants of `IngestorError` a serve loop returns; a `RequestError` is kept as the text
it displays. -/
inductive IngestorError where
  | nymError (error : NymError)
  | requestError (error : String)
  deriving DecidableEq, Repr

/-- The fields `TcpIngestor` and `NymIngestor` share, with the listener left to the trace: the
`online` flag as last stored, the status, and the requests `try_send` has put in the queue. -/
structure Ingestor (Request : Type) where
  online : Bool
  status : IngestorStatus
  queued : List Request

namespace Ingestor

variable {Request : Type}

/-- `check_for_shutdown`, whose body is the same in both ingestors. -/
def checkForShutdown (ingestor : Ingestor Request) : Bool :=
  if ingestor.status = .closing then true
  else if !ingestor.online then true
  else false

/-- `shutdown`. -/
def shutdown (ingestor : Ingestor Request) : Ingestor Request :=
  { ingestor with status := .closing }

/-- The `match` on `try_send`: a full or closed queue is only logged, and the request dropped. -/
def trySend (ingestor : Ingestor Request) (request : Request) :
    TrySendResult → Ingestor Request
  | .ok => { ingestor with queued := ingestor.queued ++ [request] }
  | .queueFull => ingestor
  | .closed => ingestor

@[simp] theorem trySend_online (ingestor : Ingestor Request) (request : Request)
    (sent : TrySendResult) : (ingestor.trySend request sent).online = ingestor.online := by
  cases sent <;> rfl

@[simp] theorem trySend_status (ingestor : Ingestor Request) (request : Request)
    (sent : TrySendResult) : (ingestor.trySend request sent).status = ingestor.status := by
  cases sent <;> rfl

theorem checkForShutdown_of_listening {ingestor : Ingestor Request}
    (listening : ingestor.status = .listening) :
    ingestor.checkForShutdown = !ingestor.online := by
  cases online : ingestor.online <;> simp [checkForShutdown, listening, online]

/-- In every state a serve loop goes on to, the check for shutdown sees the flag the trace last
stored, when the passes that go on keep the status and change the flag only by a store. -/
theorem checkForShutdown_of_reached {ε Event : Type}
    {step : Ingestor Request → Event → LoopStep (Ingestor Request) ε}
    {stored : Event → Option Bool}
    (keepsStatus : ∀ ingestor event next, step ingestor event = .next next →
      next.status = ingestor.status)
    (keepsOnline : ∀ ingestor event next, step ingestor event = .next next →
      next.online = (stored event).getD ingestor.online)
    {ingestor middle : Ingestor Request} {before : List Event}
    (reached : runLoop step { ingestor with status := .listening } before = .next middle) :
    middle.checkForShutdown = !lastStored stored ingestor.online before := by
  have listening : middle.status = .listening :=
    runLoop_next_invariant step (fun state => state.status = .listening)
      (fun _ _ _ holds goesOn => (keepsStatus _ _ _ goesOn).trans holds) rfl reached
  rw [checkForShutdown_of_listening listening,
    runLoop_lastStored step online stored keepsOnline reached]

end Ingestor

/-! ### `TcpIngestor::serve` -/

/-- What happens between two passes of the TCP loop or in one: another task stores the
`online` flag, the interval ticks, or `accept` gives a connection, from which
`ZingoProxyRequest::new_from_grpc` builds the request, with what `try_send` answers, or fails. -/
inductive TcpEvent (Request : Type) where
  | setOnline (online : Bool)
  | tick
  | accepted (request : Request) (sent : TrySendResult)
  | acceptFailed

namespace TcpIngestor

variable {Request : Type}

/-- `TcpIngestor::check_for_shutdown`. -/
def checkForShutdown (ingestor : Ingestor Request) : Bool := ingestor.checkForShutdown

/-- One event of the TCP loop. Both arms of the `select!` check for shutdown first. -/
def step (ingestor : Ingestor Request) :
    TcpEvent Request → LoopStep (Ingestor Request) IngestorError
  | .setOnline online => .next { ingestor with online := online }
  | .tick => if checkForShutdown ingestor then .returned ingestor (.ok ()) else .next ingestor
  | .accepted request sent =>
    if checkForShutdown ingestor then .returned ingestor (.ok ())
    else .next (ingestor.trySend request sent)
  | .acceptFailed =>
    if checkForShutdown ingestor then .returned ingestor (.ok ()) else .next ingestor

/-- `TcpIngestor::serve`: the status is set to `Listening`, then the loop runs. -/
def serve (ingestor : Ingestor Request) (events : List (TcpEvent Request)) :
    LoopStep (Ingestor Request) IngestorError :=
  runLoop step { ingestor with status := .listening } events

/-- What one event puts in the queue. -/
def TcpEvent.enqueued : TcpEvent Request → List Request
  | .accepted request .ok => [request]
  | _ => []

/-- The TCP loop returns only at a pass whose check for shutdown is true, and then `Ok(())`. -/
theorem step_eq_returned {ingestor final : Ingestor Request} {event : TcpEvent Request}
    {result : Except IngestorError Unit} (returned : step ingestor event = .returned final result) :
    checkForShutdown ingestor = true ∧ final = ingestor ∧ result = .ok () := by
  cases event with
  | setOnline online => cases returned
  | tick | acceptFailed | accepted request sent =>
    simp only [step] at returned
    split at returned <;> cases returned
    exact ⟨by assumption, rfl, rfl⟩

/-- A pass that goes on keeps the status, and queues exactly what its event enqueues. -/
theorem step_eq_next {ingestor next : Ingestor Request} {event : TcpEvent Request}
    (goesOn : step ingestor event = .next next) :
    next.status = ingestor.status ∧ next.queued = ingestor.queued ++ TcpEvent.enqueued event := by
  cases event with
  | setOnline online => cases goesOn; exact ⟨rfl, by simp [TcpEvent.enqueued]⟩
  | tick | acceptFailed =>
    simp only [step] at goesOn
    split at goesOn <;> cases goesOn
    exact ⟨rfl, by simp [TcpEvent.enqueued]⟩
  | accepted request sent =>
    simp only [step] at goesOn
    split at goesOn <;> cases goesOn
    cases sent <;> exact ⟨by simp, by simp [Ingestor.trySend, TcpEvent.enqueued]⟩

/-- Whatever the trace, the TCP serve task returns only at a pass where `check_for_shutdown`
is true, which, the status being `Listening`, is a pass that sees `online` false; and it
returns `Ok(())`. -/
theorem serve_returns_only_on_shutdown (ingestor : Ingestor Request)
    (events : List (TcpEvent Request)) {final : Ingestor Request}
    {result : Except IngestorError Unit}
    (returned : serve ingestor events = .returned final result) :
    result = .ok () ∧ final.status = .listening ∧ final.online = false ∧
      ∃ before event after, events = before ++ event :: after ∧
        runLoop step { ingestor with status := .listening } before = .next final ∧
        checkForShutdown final = true := by
  obtain ⟨before, middle, event, after, rfl, reached, ended⟩ := runLoop_eq_returned step returned
  obtain ⟨shutdown, rfl, rfl⟩ := step_eq_returned ended
  have listening : final.status = .listening :=
    runLoop_next_invariant step (fun state => state.status = .listening)
      (fun _ _ _ holds goesOn => (step_eq_next goesOn).1.trans holds) rfl reached
  have offline : final.online = false := by
    simpa [checkForShutdown, Ingestor.checkForShutdown_of_listening listening] using shutdown
  exact ⟨rfl, listening, offline, before, event, after, rfl, reached, shutdown⟩

/-- The value a TCP event stores in the `online` flag, if it stores one; the events that store
none are the passes of the loop. -/
def TcpEvent.storedOnline : TcpEvent Request → Option Bool
  | .setOnline online => some online
  | _ => none

/-- A pass that goes on keeps the `online` flag; only a store changes it. -/
theorem online_of_step_eq_next {ingestor next : Ingestor Request} {event : TcpEvent Request}
    (goesOn : step ingestor event = .next next) :
    next.online = (TcpEvent.storedOnline event).getD ingestor.online := by
  cases event with
  | setOnline online => cases goesOn; rfl
  | tick | acceptFailed | accepted request sent =>
    simp only [step] at goesOn
    split at goesOn <;> cases goesOn
    simp [TcpEvent.storedOnline]

/-- At a pass whose check for shutdown is true, the TCP loop returns `Ok(())` from either arm
of the `select!`. -/
theorem step_of_shutdown {ingestor : Ingestor Request} {event : TcpEvent Request}
    (shutdown : checkForShutdown ingestor = true) (pass : TcpEvent.storedOnline event = none) :
    step ingestor event = .returned ingestor (.ok ()) := by
  cases event with
  | setOnline online => cases pass
  | tick | accepted | acceptFailed => simp only [step, shutdown, ↓reduceIte]

theorem storedOnline_of_step_eq_returned {ingestor final : Ingestor Request}
    {event : TcpEvent Request} {result : Except IngestorError Unit}
    (returned : step ingestor event = .returned final result) :
    TcpEvent.storedOnline event = none := by
  cases event <;> first | cases returned | rfl

/-- A pass returns exactly when it is a pass of the loop, not a store, and its check for shutdown
is true. -/
theorem step_returns_iff {ingestor : Ingestor Request} {event : TcpEvent Request} :
    (∃ final result, step ingestor event = .returned final result) ↔
      TcpEvent.storedOnline event = none ∧ checkForShutdown ingestor = true :=
  ⟨fun ⟨_, _, returned⟩ =>
      ⟨storedOnline_of_step_eq_returned returned, (step_eq_returned returned).1⟩,
    fun ⟨pass, shutdown⟩ => ⟨_, _, step_of_shutdown shutdown pass⟩⟩

/-- When the TCP serve task returns, over every trace: exactly when the trace has a pass at
which the last `online` stored before it, or the flag the task started with, is false. -/
theorem serve_returns_iff_offline_pass (ingestor : Ingestor Request)
    (events : List (TcpEvent Request)) :
    (∃ final result, serve ingestor events = .returned final result) ↔
      ∃ before event after, events = before ++ event :: after ∧
        TcpEvent.storedOnline event = none ∧
        lastStored TcpEvent.storedOnline ingestor.online before = false := by
  refine runLoop_returns_iff step _ (fun before middle event reached => ?_) events
  rw [step_returns_iff, checkForShutdown, Ingestor.checkForShutdown_of_reached
    (fun _ _ _ goesOn => (step_eq_next goesOn).1)
    (fun _ _ _ goesOn => online_of_step_eq_next goesOn) reached, Bool.not_eq_true']

/-- A connection is queued, another task clears `online`, and the next tick ends the task. -/
theorem serve_accept_then_offline :
    ∃ final result, serve ⟨true, .inactive, []⟩
        [.accepted 7 .ok, .setOnline false, .tick] = .returned final result ∧
      result = .ok () ∧ final.status = .listening ∧ final.online = false ∧
      ∃ before event after, [.accepted 7 .ok, .setOnline false, .tick] = before ++ event :: after ∧
        runLoop step { (⟨true, .inactive, []⟩ : Ingestor Nat) with status := .listening } before =
          .next final ∧
        checkForShutdown final = true :=
  ⟨_, _, rfl, serve_returns_only_on_shutdown _ _ rfl⟩

/-- While the TCP loop runs, it queues exactly the requests of the accepted connections that
`try_send` took, in the order they were accepted: none is lost and none is queued twice. -/
theorem runLoop_queues_accepted {ingestor final : Ingestor Request}
    {events : List (TcpEvent Request)}
    (reached : runLoop step ingestor events = .next final) :
    final.queued = ingestor.queued ++ events.flatMap TcpEvent.enqueued :=
  runLoop_accumulates step Ingestor.queued TcpEvent.enqueued
    (fun _ _ _ goesOn => (step_eq_next goesOn).2) reached

/-- When the TCP serve task returns, its queue holds exactly the requests of the connections
accepted, and taken by `try_send`, before the pass that ended it: a connection accepted at that
pass is dropped without being queued. -/
theorem serve_returns_with_accepted_before (ingestor : Ingestor Request)
    (events : List (TcpEvent Request)) {final : Ingestor Request}
    {result : Except IngestorError Unit}
    (returned : serve ingestor events = .returned final result) :
    ∃ before event after, events = before ++ event :: after ∧
      runLoop step { ingestor with status := .listening } before = .next final ∧
      TcpEvent.storedOnline event = none ∧
      final.queued = ingestor.queued ++ before.flatMap TcpEvent.enqueued := by
  obtain ⟨before, middle, event, after, rfl, reached, ended⟩ := runLoop_eq_returned step returned
  obtain ⟨-, rfl, -⟩ := step_eq_returned ended
  exact ⟨before, event, after, rfl, reached, storedOnline_of_step_eq_returned ended,
    by rw [runLoop_queues_accepted reached]⟩

/-- A connection is queued, `online` is cleared, and the next accepted connection is dropped. -/
theorem serve_drops_connection_at_shutdown :
    ∃ final result, serve ⟨true, .inactive, []⟩
        [.accepted 1 .ok, .setOnline false, .accepted 2 .ok] = .returned final result ∧
      ∃ before event after, [.accepted 1 .ok, .setOnline false, .accepted 2 .ok] =
          before ++ event :: after ∧
        runLoop step { (⟨true, .inactive, []⟩ : Ingestor Nat) with status := .listening } before =
          .next final ∧
        TcpEvent.storedOnline event = none ∧
        final.queued = ([] : List Nat) ++ before.flatMap TcpEvent.enqueued :=
  ⟨_, _, rfl, serve_returns_with_accepted_before ⟨true, .inactive, []⟩
    [.accepted 1 .ok, .setOnline false, .accepted 2 .ok] (by rfl)⟩

/-- A full queue drops the first connection; the second is queued. -/
theorem runLoop_queued_full_then_ok :
    ∃ final, runLoop step (⟨true, .listening, []⟩ : Ingestor Nat)
        [.accepted 1 .queueFull, .tick, .accepted 2 .ok] = .next final ∧
      final.queued =
        [] ++ [.accepted 1 .queueFull, .tick, .accepted 2 .ok].flatMap TcpEvent.enqueued :=
  ⟨_, rfl, @runLoop_queues_accepted Nat ⟨true, .listening, []⟩ _
    [.accepted 1 .queueFull, .tick, .accepted 2 .ok] rfl⟩

end TcpIngestor

/-! ### `NymIngestor::serve` -/

/-- A `ReconstructedMessage`: the payload and the anonymous sender tag it came with. -/
structure ReconstructedMessage where
  message : List UInt8
  senderTag : Option (List UInt8)

/-- What happens between two passes of the Nym loop or in one: another task stores the
`online` flag, the interval ticks, or `wait_for_messages` gives a delivery (`None` when the
client failed), with what `try_send` would answer. -/
inductive NymEvent where
  | setOnline (online : Bool)
  | tick
  | delivered (incoming : Option (List ReconstructedMessage)) (sent : TrySendResult)

namespace NymIngestor

variable {Request : Type} (newFromNym : List UInt8 → List UInt8 → Except String Request)

/-- `NymIngestor::check_for_shutdown`. -/
def checkForShutdown (ingestor : Ingestor Request) : Bool := ingestor.checkForShutdown

/-- The `Some(request)` arm: the first message must exist and carry a sender tag, and
`ZingoProxyRequest::new_from_nym` must decode it; each `?` returns its error from the task. -/
def receive (ingestor : Ingestor Request) (request : List ReconstructedMessage)
    (sent : TrySendResult) : Except IngestorError (Ingestor Request) :=
  match request with
  | [] => .error (.nymError .emptyMessageError)
  | first :: _ =>
    match first.senderTag with
    | none => .error (.nymError .emptyRecipientTagError)
    | some returnRecipient =>
      match newFromNym returnRecipient first.message with
      | .error error => .error (.requestError error)
      | .ok zingoProxyRequest => .ok (ingestor.trySend zingoProxyRequest sent)

/-- One event of the Nym loop. Both arms of the `select!` check for shutdown first. -/
def step (ingestor : Ingestor Request) : NymEvent → LoopStep (Ingestor Request) IngestorError
  | .setOnline online => .next { ingestor with online := online }
  | .tick => if checkForShutdown ingestor then .returned ingestor (.ok ()) else .next ingestor
  | .delivered incoming sent =>
    if checkForShutdown ingestor then .returned ingestor (.ok ())
    else
      match incoming with
      | none => .next ingestor
      | some request =>
        match receive newFromNym ingestor request sent with
        | .ok ingestor => .next ingestor
        | .error error => .returned ingestor (.error error)

/-- `NymIngestor::serve`: the status is set to `Listening`, then the loop runs. -/
def serve (ingestor : Ingestor Request) (events : List NymEvent) :
    LoopStep (Ingestor Request) IngestorError :=
  runLoop (step newFromNym) { ingestor with status := .listening } events

/-- The Nym loop returns `Ok(())` at a pass whose check for shutdown is true, or, at a
delivery of an online ingestor, the error of the request it could not receive. -/
theorem step_eq_returned {ingestor final : Ingestor Request} {event : NymEvent}
    {result : Except IngestorError Unit}
    (returned : step newFromNym ingestor event = .returned final result) :
    final = ingestor ∧
      (checkForShutdown ingestor = true ∧ result = .ok () ∨
        checkForShutdown ingestor = false ∧ ∃ request sent error,
          event = .delivered (some request) sent ∧
          receive newFromNym ingestor request sent = .error error ∧ result = .error error) := by
  cases event with
  | setOnline online => cases returned
  | tick =>
    simp only [step] at returned
    split at returned <;> cases returned
    exact ⟨rfl, .inl ⟨by assumption, rfl⟩⟩
  | delivered incoming sent =>
    simp only [step] at returned
    split at returned
    · cases returned
      exact ⟨rfl, .inl ⟨by assumption, rfl⟩⟩
    · rename_i running
      split at returned
      · cases returned
      · split at returned <;> cases returned
        exact ⟨rfl, .inr ⟨by simpa using running, _, sent, _, rfl, by assumption, rfl⟩⟩

/-- A delivery the Nym loop receives has a first message with a sender tag, from which
`new_from_nym` decodes the request it then tries to queue. -/
theorem receive_eq_ok {ingestor next : Ingestor Request} {request : List ReconstructedMessage}
    {sent : TrySendResult} (received : receive newFromNym ingestor request sent = .ok next) :
    ∃ first others returnRecipient zingoProxyRequest, request = first :: others ∧
      first.senderTag = some returnRecipient ∧
      newFromNym returnRecipient first.message = .ok zingoProxyRequest ∧
      next = ingestor.trySend zingoProxyRequest sent := by
  unfold receive at received
  split at received
  · cases received
  · split at received
    · cases received
    · split at received
      · cases received
      · cases received
        exact ⟨_, _, _, _, rfl, by assumption, by assumption, rfl⟩

/-- What one event of the Nym loop puts in the queue: the request decoded from the first
message of a delivery, when `try_send` takes it. -/
def enqueued : NymEvent → List Request
  | .delivered (some (first :: _)) .ok =>
    match first.senderTag with
    | some returnRecipient =>
      match newFromNym returnRecipient first.message with
      | .ok zingoProxyRequest => [zingoProxyRequest]
      | .error _ => []
    | none => []
  | _ => []

/-- A pass that goes on keeps the status, and queues exactly what its event enqueues. -/
theorem step_eq_next {ingestor next : Ingestor Request} {event : NymEvent}
    (goesOn : step newFromNym ingestor event = .next next) :
    next.status = ingestor.status ∧ next.queued = ingestor.queued ++ enqueued newFromNym event := by
  cases event with
  | setOnline online => cases goesOn; exact ⟨rfl, by simp [enqueued]⟩
  | tick =>
    simp only [step] at goesOn
    split at goesOn <;> cases goesOn
    exact ⟨rfl, by simp [enqueued]⟩
  | delivered incoming sent =>
    simp only [step] at goesOn
    split at goesOn
    · cases goesOn
    · split at goesOn
      · cases goesOn
        exact ⟨rfl, by simp [enqueued]⟩
      · split at goesOn
        · cases goesOn
          obtain ⟨first, others, returnRecipient, request, rfl, tagged, decoded, rfl⟩ :=
            receive_eq_ok newFromNym ‹_›
          cases sent <;> simp [enqueued, tagged, decoded, Ingestor.trySend]
        · cases goesOn

/-- While the Nym loop runs, it queues exactly the requests decoded from the deliveries that
`try_send` took, in the order they arrived: none is lost and none is queued twice. -/
theorem runLoop_queues_received {ingestor final : Ingestor Request} {events : List NymEvent}
    (reached : runLoop (step newFromNym) ingestor events = .next final) :
    final.queued = ingestor.queued ++ events.flatMap (enqueued newFromNym) :=
  runLoop_accumulates (step newFromNym) Ingestor.queued (enqueued newFromNym)
    (fun _ _ _ goesOn => (step_eq_next newFromNym goesOn).2) reached

/-- With a decoder that takes the payload as the request, a tagged delivery is queued, and a
failed delivery puts nothing in the queue. -/
theorem runLoop_queued_tagged :
    ∃ final, runLoop (step fun _ payload => .ok payload)
        (⟨true, .listening, []⟩ : Ingestor (List UInt8))
        [.delivered (some [⟨[1], some [7]⟩]) .ok, .delivered none .queueFull] = .next final ∧
      final.queued = [] ++ [.delivered (some [⟨[1], some [7]⟩]) .ok,
        .delivered none .queueFull].flatMap (enqueued fun _ payload => .ok payload) :=
  ⟨_, rfl, @runLoop_queues_received (List UInt8) (fun _ payload => .ok payload)
    ⟨true, .listening, []⟩ _
    [.delivered (some [⟨[1], some [7]⟩]) .ok, .delivered none .queueFull] rfl⟩

/-- Whatever the trace, the Nym serve task returns at a pass that sees `online` false, with
`Ok(())`, or at a delivery it could not turn into a request while online, with that error. -/
theorem serve_returns_on_shutdown_or_bad_delivery (ingestor : Ingestor Request)
    (events : List NymEvent)
    {final : Ingestor Request} {result : Except IngestorError Unit}
    (returned : serve newFromNym ingestor events = .returned final result) :
    ∃ before event after, events = before ++ event :: after ∧
      runLoop (step newFromNym) { ingestor with status := .listening } before = .next final ∧
      final.status = .listening ∧
      (final.online = false ∧ result = .ok () ∨
        final.online = true ∧ ∃ request sent error,
          event = .delivered (some request) sent ∧
          receive newFromNym final request sent = .error error ∧ result = .error error) := by
  obtain ⟨before, middle, event, after, rfl, reached, ended⟩ :=
    runLoop_eq_returned (step newFromNym) returned
  obtain ⟨rfl, exit⟩ := step_eq_returned newFromNym ended
  have listening : final.status = .listening :=
    runLoop_next_invariant (step newFromNym) (fun state => state.status = .listening)
      (fun _ _ _ holds goesOn => (step_eq_next newFromNym goesOn).1.trans holds) rfl reached
  have check : checkForShutdown final = !final.online :=
    Ingestor.checkForShutdown_of_listening listening
  refine ⟨before, event, after, rfl, reached, listening, ?_⟩
  rcases exit with ⟨shutdown, rfl⟩ | ⟨running, request, sent, error, rfl, failed, rfl⟩
  · exact .inl ⟨by simpa [check] using shutdown, rfl⟩
  · exact .inr ⟨by simpa [check] using running, request, sent, error, rfl, failed, rfl⟩

/-- The value a Nym event stores in the `online` flag, if it stores one; the events that store
none are the passes of the loop. -/
def NymEvent.storedOnline : NymEvent → Option Bool
  | .setOnline online => some online
  | _ => none

/-- Whether a delivery cannot be turned into a request: it has no message, its first message
has no sender tag, or `new_from_nym` rejects that message. -/
def malformed : List ReconstructedMessage → Bool
  | [] => true
  | first :: _ =>
    match first.senderTag with
    | none => true
    | some returnRecipient => !(newFromNym returnRecipient first.message).isOk

/-- A delivery fails to be received exactly when it is malformed, whatever the ingestor. -/
theorem receive_eq_error_iff (ingestor : Ingestor Request) (request : List ReconstructedMessage)
    (sent : TrySendResult) :
    (∃ error, receive newFromNym ingestor request sent = .error error) ↔
      malformed newFromNym request = true := by
  rcases request with _ | ⟨⟨message, _ | returnRecipient⟩, others⟩
  · simp [receive, malformed]
  · simp [receive, malformed]
  · cases decoded : newFromNym returnRecipient message <;>
      simp [receive, malformed, decoded, Except.isOk, Except.toBool]

/-- A pass that goes on keeps the `online` flag; only a store changes it. -/
theorem online_of_step_eq_next {ingestor next : Ingestor Request} {event : NymEvent}
    (goesOn : step newFromNym ingestor event = .next next) :
    next.online = (NymEvent.storedOnline event).getD ingestor.online := by
  cases event with
  | setOnline online => cases goesOn; rfl
  | tick =>
    simp only [step] at goesOn
    split at goesOn <;> cases goesOn
    rfl
  | delivered incoming sent =>
    simp only [step] at goesOn
    split at goesOn
    · cases goesOn
    · split at goesOn
      · cases goesOn
        rfl
      · split at goesOn <;> cases goesOn
        obtain ⟨-, -, -, -, -, -, -, rfl⟩ := receive_eq_ok newFromNym ‹_›
        simp [NymEvent.storedOnline]

/-- At a pass whose check for shutdown is true, the Nym loop returns `Ok(())` from either arm
of the `select!`, before it looks at a delivery. -/
theorem step_of_shutdown {ingestor : Ingestor Request} {event : NymEvent}
    (shutdown : checkForShutdown ingestor = true) (pass : NymEvent.storedOnline event = none) :
    step newFromNym ingestor event = .returned ingestor (.ok ()) := by
  cases event with
  | setOnline online => cases pass
  | tick | delivered => simp only [step, shutdown, ↓reduceIte]

theorem storedOnline_of_step_eq_returned {ingestor final : Ingestor Request} {event : NymEvent}
    {result : Except IngestorError Unit}
    (returned : step newFromNym ingestor event = .returned final result) :
    NymEvent.storedOnline event = none := by
  cases event <;> first | cases returned | rfl

/-- A pass returns exactly when it is a pass of the loop, not a store, and either its check for
shutdown is true or it is a malformed delivery. -/
theorem step_returns_iff {ingestor : Ingestor Request} {event : NymEvent} :
    (∃ final result, step newFromNym ingestor event = .returned final result) ↔
      NymEvent.storedOnline event = none ∧
        (checkForShutdown ingestor = true ∨ ∃ request sent,
          event = .delivered (some request) sent ∧ malformed newFromNym request = true) := by
  constructor
  · rintro ⟨final, result, returned⟩
    refine ⟨storedOnline_of_step_eq_returned newFromNym returned, ?_⟩
    rcases (step_eq_returned newFromNym returned).2 with
      ⟨shutdown, -⟩ | ⟨-, request, sent, error, rfl, failed, -⟩
    · exact .inl shutdown
    · exact .inr ⟨request, sent, rfl,
        (receive_eq_error_iff newFromNym ingestor request sent).mp ⟨error, failed⟩⟩
  · rintro ⟨pass, shutdown | ⟨request, sent, rfl, bad⟩⟩
    · exact ⟨_, _, step_of_shutdown newFromNym shutdown pass⟩
    · obtain ⟨error, failed⟩ := (receive_eq_error_iff newFromNym ingestor request sent).mpr bad
      cases shutdown : checkForShutdown ingestor
      · exact ⟨ingestor, .error error, by simp only [step, shutdown, failed]; rfl⟩
      · exact ⟨_, _, step_of_shutdown newFromNym shutdown pass⟩

/-- Over every trace, the Nym serve task returns exactly when the trace has a pass at which the
last `online` stored before it, or the flag the task started with, is false, or a malformed
delivery. -/
theorem serve_returns_iff_offline_pass_or_malformed (ingestor : Ingestor Request)
    (events : List NymEvent) :
    (∃ final result, serve newFromNym ingestor events = .returned final result) ↔
      ∃ before event after, events = before ++ event :: after ∧
        NymEvent.storedOnline event = none ∧
        (lastStored NymEvent.storedOnline ingestor.online before = false ∨
          ∃ request sent, event = .delivered (some request) sent ∧
            malformed newFromNym request = true) := by
  refine runLoop_returns_iff (step newFromNym) _ (fun before middle event reached => ?_) events
  rw [step_returns_iff, checkForShutdown,
    @Ingestor.checkForShutdown_of_reached _ _ _ (step newFromNym) NymEvent.storedOnline
      (fun _ _ _ goesOn => (step_eq_next newFromNym goesOn).1)
      (fun _ _ _ goesOn => online_of_step_eq_next newFromNym goesOn) _ _ _ reached,
    Bool.not_eq_true']

/-- With a decoder that takes the payload as the request, a tagless delivery ends the task. -/
theorem serve_returned_tagless :
    ∃ final result, serve (fun _ payload => .ok payload) ⟨true, .inactive, []⟩
        [.tick, .delivered (some [⟨[1], none⟩]) .ok] = .returned final result ∧
      ∃ before event after,
        [.tick, .delivered (some [⟨[1], none⟩]) .ok] = before ++ event :: after ∧
        runLoop (step fun _ payload => .ok payload)
          { (⟨true, .inactive, []⟩ : Ingestor (List UInt8)) with status := .listening } before =
            .next final ∧
        final.status = .listening ∧
        (final.online = false ∧ result = .ok () ∨
          final.online = true ∧ ∃ request sent error,
            event = .delivered (some request) sent ∧
            receive (fun _ payload => .ok payload) final request sent = .error error ∧
            result = .error error) :=
  ⟨_, _, rfl,
    serve_returns_on_shutdown_or_bad_delivery (fun _ payload => .ok payload) _ _ rfl⟩

/-- When the Nym serve task returns, its queue holds exactly the requests received, and taken
by `try_send`, before the pass that ended it: a delivery at that pass is not queued. -/
theorem serve_returns_with_received_before (ingestor : Ingestor Request)
    (events : List NymEvent) {final : Ingestor Request} {result : Except IngestorError Unit}
    (returned : serve newFromNym ingestor events = .returned final result) :
    ∃ before event after, events = before ++ event :: after ∧
      runLoop (step newFromNym) { ingestor with status := .listening } before = .next final ∧
      NymEvent.storedOnline event = none ∧
      final.queued = ingestor.queued ++ before.flatMap (enqueued newFromNym) := by
  obtain ⟨before, middle, event, after, rfl, reached, ended⟩ :=
    runLoop_eq_returned (step newFromNym) returned
  obtain ⟨rfl, -⟩ := step_eq_returned newFromNym ended
  have queued := runLoop_accumulates (step newFromNym) Ingestor.queued (enqueued newFromNym)
    (fun _ _ _ goesOn => (step_eq_next newFromNym goesOn).2) reached
  exact ⟨before, event, after, rfl, reached, storedOnline_of_step_eq_returned newFromNym ended,
    queued⟩

/-- With a decoder that takes the payload as the request, a tagged delivery is queued, `online`
is cleared, and the next delivery is not. -/
theorem serve_drops_delivery_at_shutdown :
    ∃ final result, serve (fun _ payload => .ok payload) ⟨true, .inactive, []⟩
        [.delivered (some [⟨[1], some [7]⟩]) .ok, .setOnline false,
          .delivered (some [⟨[2], some [7]⟩]) .ok] = .returned final result ∧
      ∃ before event after, [.delivered (some [⟨[1], some [7]⟩]) .ok, .setOnline false,
          .delivered (some [⟨[2], some [7]⟩]) .ok] = before ++ event :: after ∧
        runLoop (step fun _ payload => .ok payload)
          { (⟨true, .inactive, []⟩ : Ingestor (List UInt8)) with status := .listening } before =
          .next final ∧
        NymEvent.storedOnline event = none ∧
        final.queued = ([] : List (List UInt8)) ++
          before.flatMap (enqueued fun _ payload => .ok payload) :=
  ⟨_, _, rfl, serve_returns_with_received_before (fun _ payload => .ok payload)
    ⟨true, .inactive, []⟩ [.delivered (some [⟨[1], some [7]⟩]) .ok, .setOnline false,
      .delivered (some [⟨[2], some [7]⟩]) .ok] (by rfl)⟩

/-- One delivery with no message, or whose first message has no sender tag, ends the Nym serve
task of an online ingestor with an error, whatever follows it. -/
theorem serve_ends_on_malformed_delivery (ingestor : Ingestor Request) (sent : TrySendResult)
    (rest : List NymEvent) :
    serve newFromNym { ingestor with online := true } (.delivered (some []) sent :: rest) =
        .returned { ingestor with online := true, status := .listening }
          (.error (.nymError .emptyMessageError)) ∧
      ∀ message others,
        serve newFromNym { ingestor with online := true }
            (.delivered (some (⟨message, none⟩ :: others)) sent :: rest) =
          .returned { ingestor with online := true, status := .listening }
            (.error (.nymError .emptyRecipientTagError)) :=
  ⟨rfl, fun _ _ => rfl⟩

end NymIngestor

end Zaino
