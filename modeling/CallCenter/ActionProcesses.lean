import CallCenter.FlowLedger

/-!
# Concurrent action requests

A `run_action` request is a process: it reserves a receipt, checks the action, crosses
the dispatch boundary, sends the action with its own arguments and settles the receipt.
Each transaction is one event, so the events of any number of processes interleave
freely; a process may crash between any two of them, and `ambient` requests stand for
everything else that the call's rows undergo, including transactions whose process died
before it learned the answer.

The system records what was really sent: the tool, the arguments and the receipt under
which a process sent them.
-/

namespace CallCenter.ActionProcesses

open JsonValues FlowDefinition Timestamps FlowState FlowActions FlowLedger

/-- How far a process has come with the receipt it may execute. -/
inductive Stage where
  | holding
  | refused
  | permitted
  | sent
deriving DecidableEq

/-- A process that may execute: its request, and the receipt of its reservation. -/
structure Process where
  args : FlowActionReservationArgs
  receipt : FlowActionReceipt
  stage : Stage

/-- What a process sent, and under which receipt. -/
structure Effect where
  receiptId : String
  tool : String
  arguments : List (String × Value)

/-- The rows of the call, its processes and what they sent. -/
structure System where
  db : Database
  processes : Nat → Option Process
  effects : List Effect

/-- Start or replace a process, or end it. -/
def System.setProcess (system : System) (pid : Nat) (process : Option Process) : System :=
  { system with processes := fun other => if other = pid then process else system.processes other }

/-- What the processes of a call do, one transaction at a time. -/
inductive Event where
  | reserve (pid : Nat) (args : FlowActionReservationArgs) (clock : ClockReading) (now : Instant)
  | reject (pid : Nat) (error : String) (clock : ClockReading) (now : Instant)
  | permit (pid : Nat) (clock : ClockReading)
  | dispatch (pid : Nat)
  | settle (pid : Nat) (status : Settlement) (result : Value) (error : Option String)
      (deliveryState : Option DeliveryState) (clock : ClockReading) (now : Instant)
  | crash (pid : Nat)
  | ambient (request : Request)

/-- Before the boundary a process settles its receipt as not sent. -/
def rejection (process : Process) (error : String) : AtomicSettleArgs where
  receiptId := process.receipt.id
  status := .failed
  result := .undefined
  error := some error
  ownerToken := process.args.ownerToken
  deliveryState := some .notSent

/-- The request to cross the boundary. -/
def permitRequest (process : Process) : DispatchArgs where
  receiptId := process.receipt.id
  ownerToken := process.args.ownerToken
  runtimeDigest := process.args.runtimeDigest

/-- The effect of sending the action: the process's own tool and arguments. -/
def Process.effect (process : Process) : Effect where
  receiptId := process.receipt.id
  tool := process.args.tool
  arguments := process.args.arguments

variable (sha256 : String → String) (flow : AgentFlow)

/-- A new request reserves a receipt; its process lives on only if it may execute. -/
def reserveEvent (system : System) (pid : Nat) (args : FlowActionReservationArgs)
    (clock : ClockReading) (now : Instant) : System :=
  match respond sha256 flow system.db ⟨.reserve args now, clock, false⟩ with
  | some (db, .reservation (.ok reservation)) =>
    if reservation.execute then
      { system with db }.setProcess pid (some ⟨args, reservation.receipt, .holding⟩)
    else { system with db }
  | some (db, _) => { system with db }
  | none => system

/-- A process asks for its one-shot permit. -/
def permitEvent (system : System) (pid : Nat) (process : Process) (clock : ClockReading) :
    System :=
  match respond sha256 flow system.db
      ⟨.markDispatchStarted (permitRequest process), clock, false⟩ with
  | some (db, .update (.ok _)) =>
    { system with db }.setProcess pid (some { process with stage := .permitted })
  | some (db, .update (.error reason)) =>
    if reason.code = .dispatchAlreadyStarted then { system with db }.setProcess pid none
    else { system with db }.setProcess pid (some { process with stage := .refused })
  | some (db, _) => { system with db }.setProcess pid none
  | none => system.setProcess pid none

/-- A process settles its receipt and ends. -/
def settleEvent (system : System) (pid : Nat) (args : AtomicSettleArgs) (clock : ClockReading)
    (now : Instant) : System :=
  { system with db := serve sha256 flow system.db ⟨.settle args now, clock, false⟩ }.setProcess
    pid none

/-- One event. Events of a process that is not at the stage they need do nothing. -/
def systemStep (system : System) : Event → System
  | .reserve pid args clock now =>
    match system.processes pid with
    | some _ => system
    | none => reserveEvent sha256 flow system pid args clock now
  | .reject pid error clock now =>
    match system.processes pid with
    | some process =>
      if process.stage = .holding ∨ process.stage = .refused then
        settleEvent sha256 flow system pid (rejection process error) clock now
      else system
    | none => system
  | .permit pid clock =>
    match system.processes pid with
    | some process =>
      if process.stage = .holding then permitEvent sha256 flow system pid process clock
      else system
    | none => system
  | .dispatch pid =>
    match system.processes pid with
    | some process =>
      if process.stage = .permitted then
        { system with effects := system.effects ++ [process.effect] }.setProcess pid
          (some { process with stage := .sent })
      else system
    | none => system
  | .settle pid status result error deliveryState clock now =>
    match system.processes pid with
    | some process =>
      if process.stage = .sent then
        settleEvent sha256 flow system pid
          { receiptId := process.receipt.id, status, result, error,
            ownerToken := process.args.ownerToken, deliveryState } clock now
      else system
    | none => system
  | .crash pid => system.setProcess pid none
  | .ambient request => { system with db := serve sha256 flow system.db request }

/-- A call in which nothing was asked yet. -/
def newSystem (call : Option CallRow) : System where
  db := newCall call
  processes := fun _ => none
  effects := []

/-- The system after any interleaving of events. -/
def runSystem (call : Option CallRow) (events : List Event) : System :=
  Runs.run (systemStep sha256 flow) (newSystem call) events

end CallCenter.ActionProcesses
