import ClusterClient.Script
import ClusterClient.Workload

/-!
A workload against a script on a virtual clock. Time passes only while something is waited for: a
reply, a deadline, or a given span. In the meantime the loops do what falls due; at one and the
same time the foreground goes first. Operations can be hooked to requests: they are performed
while the request is being sent, before the script sees it.
-/

namespace ClusterClient

structure Exchange where
  due : Nat
  reply : Http.Reply
deriving Repr, Inhabited

structure Hook where
  request : Nat
  operations : List Client.Operation
deriving Repr, Inhabited

structure Simulation extends Workload where
  now : Nat := 0
  script : Script
  hooks : List Hook := []
  sent : Nat := 0
  hookAnswers : List Client.Answer := []
  exchanges : List (Nat × Exchange) := []
deriving Inhabited

namespace Simulation

def event (s : Simulation) (e : Workload.Event) : Simulation :=
  { s with toWorkload := s.toWorkload.step s.now e }

def perform (s : Simulation) (op : Client.Operation) : Simulation × Client.Answer :=
  (s.event (.perform op), (s.client.perform s.now op).2)

def runHooks (s : Simulation) (number : Nat) : Simulation :=
  let operations := (s.hooks.filter (·.request == number)).flatMap (·.operations)
  operations.foldl (fun s op =>
    let (s, answer) := s.perform op
    { s with hookAnswers := s.hookAnswers ++ [answer] }) s

/-- Sends a request. A reply that comes at the deadline is in time. -/
def send (s : Simulation) (request : Http.Request) : Simulation × Exchange :=
  let s := { s with sent := s.sent + 1 }
  let s := s.runHooks s.sent
  let (script, reply, latency) := s.script.send request
  let timeout := s.client.settings.timeout
  let exchange : Exchange :=
    if latency ≤ timeout then ⟨s.now + latency, reply⟩ else ⟨s.now + timeout, .error .timeout⟩
  ({ s with script }, exchange)

def runLoop (s : Simulation) (id : Nat) (r : Refresh) (e : Exchange) : Simulation :=
  if e.due ≤ s.now then
    let next := s.event (.loopReply id e.reply)
    match _h : s.client.resumeRefresh s.now r e.reply with
    | (_, .asking request r) =>
      let (s, e) := next.send request
      s.runLoop id r e
    | (_, .done _) => next
  else { s with exchanges := s.exchanges ++ [(id, e)] }
termination_by r.remaining.length
decreasing_by exact Client.resumeRefresh_asking _h

def moveLoop (s : Simulation) (l : Loop) : Option Simulation :=
  match l.refresh with
  | some r => do
    let (_, e) ← s.exchanges.find? (·.1 == l.id)
    if e.due ≤ s.now then
      some ({ s with exchanges := s.exchanges.filter (·.1 != l.id) }.runLoop l.id r e)
    else none
  | none =>
    let next := s.event (.wake l.id)
    match s.client.wake? s.now l with
    | some wake =>
      match (s.client.wakeLoop s.now l wake).2 with
      | some (.asking request r) =>
        let (s, e) := next.send request
        some (s.runLoop l.id r e)
      | _ => some next
    | none => if l.id ∈ s.client.watch.notify.waiting then none else some next

def settleWithin : Nat → Simulation → Simulation
  | 0, s => s
  | fuel + 1, s =>
    match s.client.watch.loops.findSome? s.moveLoop with
    | some s => settleWithin fuel s
    | none => s

/-- How many moves loops can make at one time: each takes its reply, ends, catches up with the
ticks within the tolerance, takes up a signal that it was handed and one that was stored, and
waits; hooked operations can start loops and give signals. -/
def moves (s : Simulation) : Nat :=
  let hooked := (s.hooks.flatMap (·.operations)).length
  (Loop.tolerance + 6) * (s.client.watch.loops.length + hooked + 1)

def settle (s : Simulation) : Simulation := s.settleWithin s.moves

def loopDue (s : Simulation) (l : Loop) : Nat :=
  match l.refresh, s.exchanges.find? (·.1 == l.id) with
  | some _, some (_, e) => e.due
  | _, _ => l.nextTick

def nextDue? (s : Simulation) : Option Nat := (s.client.watch.loops.map s.loopDue).min?

/-- Lets time pass, from what the clock shows now up to a time; what is due for loops at that time
is left to be done. -/
def passFrom (clock : Nat) (s : Simulation) (time : Nat) : Simulation :=
  let s := { s with now := clock }.settle
  match s.nextDue? with
  | some due =>
    if clock < due ∧ due < time then passFrom due s time else { s with now := time }
  | none => { s with now := time }
termination_by time - clock

def passUntil (s : Simulation) (time : Nat) : Simulation :=
  if s.now < time then passFrom s.now s time else s

def await (s : Simulation) (e : Exchange) (limit : Option Nat) : Simulation × Option Http.Reply :=
  if e.due ≤ s.now then (s, some e.reply)
  else match limit with
  | none => (s.passUntil e.due, some e.reply)
  | some limit =>
    if e.due ≤ limit then (s.passUntil e.due, some e.reply) else (s.passUntil limit, none)

def runRefresh (s : Simulation) (i : Nat) (r : Refresh) (e : Exchange) :
    Simulation × Except Fault Bool :=
  let s := s.passUntil e.due
  let next := s.event (.reply i e.reply)
  match _h : s.client.resumeRefresh s.now r e.reply with
  | (_, .asking request r) =>
    let (s, e) := next.send request
    s.runRefresh i r e
  | (_, .done outcome) => (next, outcome)
termination_by r.remaining.length
decreasing_by exact Client.resumeRefresh_asking _h

def refresh (s : Simulation) : Simulation × Except Fault Bool :=
  let next := s.event .refresh
  match s.client.startRefresh.2 with
  | .asking request r =>
    let (next, e) := next.send request
    next.runRefresh s.tasks.length r e
  | .done outcome => (next, outcome)

def runCall (s : Simulation) (i : Nat) (limit : Option Nat) (call : Call.Suspended)
    (e : Exchange) : Simulation × Option (Except Fault Execution) :=
  match s.await e limit with
  | (s, none) => (s.event (.drop i), none)
  | (s, some reply) =>
    let next := s.event (.reply i reply)
    match _h : s.client.resumeCall s.now call reply with
    | (_, .asking request call) =>
      let (s, e) := next.send request
      s.runCall i limit call e
    | (_, .done outcome) => (next, some outcome)
termination_by call.rank
decreasing_by exact Client.resumeCall_asking _h

def execute (s : Simulation) (d : Descriptor) (seed : Option UInt64) (span : Option Nat) :
    Simulation × Option (Except Fault Execution) :=
  let next := s.event (.call d seed)
  let (client, seed) := s.client.seedFor seed
  match (client.startCall s.now d seed).2 with
  | .asking request call =>
    let (next, e) := next.send request
    next.runCall s.tasks.length (span.map (s.now + ·)) call e
  | .done outcome => (next, some outcome)

inductive Step
  | perform (op : Client.Operation)
  | refresh
  | advance (span : Nat)
  | execute (d : Descriptor) (seed : Option UInt64) (span : Option Nat)
deriving Repr, Inhabited

inductive Result
  | nothing
  | answer (a : Client.Answer)
  | refreshed (outcome : Except Fault Bool)
  | executed (outcome : Option (Except Fault Execution))
deriving Inhabited

def foreground (s : Simulation) : Step → Simulation × Result
  | .perform op =>
    let (s, answer) := s.perform op
    (s, .answer answer)
  | .refresh =>
    let (s, outcome) := s.refresh
    (s, .refreshed outcome)
  | .advance span => (s.passUntil (s.now + span), .nothing)
  | .execute d seed span =>
    let (s, outcome) := s.execute d seed span
    (s, .executed outcome)

def step (s : Simulation) (step : Step) : Simulation × Result :=
  let (s, result) := { s with script := s.script.clear, hookAnswers := [] }.foreground step
  (s.settle, result)

end Simulation

end ClusterClient
