import Shuttle.Lib.Machine

/-!
# Two readers of one TURN socket

The receive loop of a TURN client and its requests read the same socket. The loop hands Data
indications to `onData` and drops every other message; a request takes the next datagram for its
response, whatever it is. A run interleaves arrivals and reads by the loop and by requests.
-/

namespace Shuttle.TURN

open Shuttle.Lib

/-- A response with its transaction ID, or a Data indication with the payload in it. -/
inductive Incoming (τ δ : Type) where
  | response (transactionID : τ)
  | indication (data : δ)

inductive Outcome (τ δ : Type) where
  /-- `readResponse` returned it to the request with this transaction ID. -/
  | returned (transactionID : τ) (message : Incoming τ δ)
  /-- `handleDataIndication` gave it to `onData`. -/
  | onData (data : δ)
  | dropped (message : Incoming τ δ)

structure Client (τ δ : Type) where
  socket : List (Incoming τ δ)
  /-- Transaction IDs of the requests that wait in `readResponse`; none once it has returned. -/
  requests : List (Option τ)
  arrived : List (Incoming τ δ)
  outcomes : List (Outcome τ δ)

inductive Event (τ δ : Type) where
  /-- `CreatePermission` or `refresh` sends its request and waits. -/
  | request (transactionID : τ)
  | arrive (message : Incoming τ δ)
  | loopRead
  | requestRead (index : Nat)
  /-- The read of a request runs into its deadline. -/
  | timeout (index : Nat)

variable {τ δ : Type}

def handleMessage : Incoming τ δ → Outcome τ δ
  | .response transactionID => .dropped (.response transactionID)
  | .indication data => .onData data

def step (client : Client τ δ) : Event τ δ → Option (Client τ δ)
  | .request transactionID =>
    some { client with requests := client.requests ++ [some transactionID] }
  | .arrive message =>
    some { client with
      socket := client.socket ++ [message]
      arrived := client.arrived ++ [message] }
  | .loopRead =>
    match client.socket with
    | [] => none
    | message :: rest =>
      some { client with
        socket := rest
        outcomes := client.outcomes ++ [handleMessage message] }
  | .requestRead index =>
    match client.socket, client.requests[index]? with
    | message :: rest, some (some transactionID) =>
      some { client with
        socket := rest
        requests := client.requests.set index none
        outcomes := client.outcomes ++ [.returned transactionID message] }
    | _, _ => none
  | .timeout index =>
    match client.requests[index]? with
    | some (some _) => some { client with requests := client.requests.set index none }
    | _ => none

def machine : Machine (Client τ δ) (Event τ δ) := ⟨step⟩

def allocated : Client τ δ := ⟨[], [], [], []⟩

variable [DecidableEq τ]

def Outcome.delivered : Outcome τ δ → Option (Incoming τ δ)
  | .returned transactionID (.response other) =>
    if transactionID = other then some (.response other) else none
  | .onData data => some (.indication data)
  | _ => none

/-- Every message that arrived was delivered where it belongs, once, or is still in the socket. -/
def Delivered (client : Client τ δ) : Prop :=
  client.arrived = client.outcomes.filterMap Outcome.delivered ++ client.socket

/-- A read by the wrong reader: the loop reads a response, or a request reads an indication or the
response to another request. -/
def Misreads (client : Client τ δ) : Event τ δ → Prop
  | .loopRead => ∃ transactionID rest, client.socket = .response transactionID :: rest
  | .requestRead index => ∃ message rest transactionID, client.socket = message :: rest ∧
      client.requests[index]? = some (some transactionID) ∧ message ≠ .response transactionID
  | _ => False

theorem delivered_read {client : Client τ δ} {message : Incoming τ δ}
    {rest : List (Incoming τ δ)} {outcome : Outcome τ δ} (delivered : Delivered client)
    (head : client.socket = message :: rest)
    (own : ∀ other, outcome.delivered = some other → other = message)
    (requests : List (Option τ)) :
    Delivered ⟨rest, requests, client.arrived, client.outcomes ++ [outcome]⟩ ↔
      outcome.delivered = some message := by
  unfold Delivered at delivered ⊢
  rw [delivered, head, List.filterMap_append, List.append_assoc]
  cases found : outcome.delivered with
  | none =>
    simp [found]
  | some other => simp [found, own other found]

theorem delivered_step {client next : Client τ δ} {event : Event τ δ}
    (delivered : Delivered client) (stepped : machine.step client event = some next) :
    Delivered next ↔ ¬Misreads client event := by
  cases event with
  | request transactionID =>
    cases stepped
    exact iff_of_true delivered id
  | arrive message =>
    cases stepped
    refine iff_of_true ?_ id
    unfold Delivered at delivered ⊢
    rw [delivered, List.append_assoc]
  | timeout index =>
    simp only [machine, step] at stepped
    split at stepped <;> cases stepped
    exact iff_of_true delivered id
  | loopRead =>
    simp only [machine, step] at stepped
    split at stepped
    · cases stepped
    rename_i message rest head
    cases stepped
    have own : ∀ other, (handleMessage message).delivered = some other → other = message := by
      cases message <;> simp [handleMessage, Outcome.delivered]
    refine (delivered_read delivered head own _).trans ?_
    cases message <;> simp [Misreads, head, handleMessage, Outcome.delivered]
  | requestRead index =>
    simp only [machine, step] at stepped
    split at stepped
    · rename_i message rest transactionID head waiting
      cases stepped
      have own : ∀ other, (Outcome.returned transactionID message).delivered = some other →
          other = message := by
        cases message <;> simp [Outcome.delivered]
      refine (delivered_read delivered head own _).trans ?_
      cases message <;> simp [Misreads, head, waiting, Outcome.delivered, eq_comm]
    · cases stepped

end Shuttle.TURN
