import ClusterClient.Call
import ClusterClient.Operation

/-!
Workloads: a client with any number of calls and refreshes under way on it. Every beginning, reply,
wake-up and operation is an event of its own, so that a list of events is one of the orders in
which things can come about.
-/

namespace ClusterClient

inductive Task
  | call (progress : Call.Progress)
  /-- A call that waits while another one fetches the snapshot of the first use. -/
  | queued (descriptor : Descriptor) (seed : UInt64)
  | refresh (progress : Refresh.Progress)
  | dropped
deriving Inhabited

structure Workload where
  client : Client
  tasks : List Task := []
deriving Inhabited

namespace Task

def isBootstrapping : Task → Bool
  | .call (.asking _ (.bootstrapping ..)) => true
  | _ => false

def enter (c : Client) (fetching : Bool) (now : Nat) (d : Descriptor) (seed : UInt64) :
    Client × Task :=
  if fetching ∧ c.Opens d then (c, .queued d seed)
  else
    let (c, progress) := c.startCall now d seed
    (c, .call progress)

def proceed (c : Client) (fetching : Bool) (now : Nat) : Task → Client × Task
  | .queued d seed => enter c fetching now d seed
  | task => (c, task)

def resume (c : Client) (now : Nat) (reply : Http.Reply) : Task → Client × Task
  | .call (.asking _ waiting) =>
      let (c, progress) := c.resumeCall now waiting reply
      (c, .call progress)
  | .refresh (.asking _ r) =>
      let (c, progress) := c.resumeRefresh now r reply
      (c, .refresh progress)
  | task => (c, task)

def drop (c : Client) : Task → Client × Task
  | .call (.asking _ waiting) => (c.dropCall waiting, .dropped)
  | .refresh (.asking ..) => (c.dropRefresh, .dropped)
  | .queued .. => (c, .dropped)
  | task => (c, task)

end Task

namespace Client

/-- Lets a loop take up what it is due to, or wait for a signal; unless it waits for a reply. -/
def rouseLoop (c : Client) (now : Nat) (l : Loop) : Client :=
  match l.refresh, c.wake? now l with
  | none, some wake =>
      match c.wakeLoop now l wake with
      | (c, some (.asking _ r)) => c.setRefresh l.id (some r)
      | (c, _) => c
  | none, none => c.modifyNotify (·.wait l.id)
  | some _, _ => c

def resumeLoop (c : Client) (now : Nat) (l : Loop) (reply : Http.Reply) : Client :=
  match l.refresh with
  | some r =>
      match c.resumeRefresh now r reply with
      | (c, .asking _ r) => c.setRefresh l.id (some r)
      | (c, .done _) => c.setRefresh l.id none
  | none => c

end Client

namespace Workload

inductive Event
  | perform (op : Client.Operation)
  | call (d : Descriptor) (seed : Option UInt64)
  | proceed (task : Nat)
  | refresh
  | reply (task : Nat) (reply : Http.Reply)
  | drop (task : Nat)
  | wake (loop : Nat)
  | loopReply (loop : Nat) (reply : Http.Reply)
deriving Inhabited

def loop? (w : Workload) (id : Nat) : Option Loop := w.client.watch.loops.find? (·.id = id)

def updateTask (w : Workload) (i : Nat) (f : Task → Client × Task) : Workload :=
  match w.tasks[i]? with
  | some task =>
      let (client, task) := f task
      { client, tasks := w.tasks.set i task }
  | none => w

def updateLoop (w : Workload) (id : Nat) (f : Loop → Client) : Workload :=
  match w.loop? id with
  | some l => { w with client := f l }
  | none => w

def isFetching (w : Workload) : Bool := w.tasks.any Task.isBootstrapping

def step (w : Workload) (now : Nat) : Event → Workload
  | .perform op => { w with client := (w.client.perform now op).1 }
  | .call d seed =>
      let (client, seed) := w.client.seedFor seed
      let (client, task) := Task.enter client w.isFetching now d seed
      { client, tasks := w.tasks ++ [task] }
  | .proceed i => w.updateTask i (Task.proceed w.client w.isFetching now)
  | .refresh =>
      let (client, progress) := w.client.startRefresh
      { client, tasks := w.tasks ++ [.refresh progress] }
  | .reply i reply => w.updateTask i (Task.resume w.client now reply)
  | .drop i => w.updateTask i (Task.drop w.client)
  | .wake id => w.updateLoop id (w.client.rouseLoop now)
  | .loopReply id reply => w.updateLoop id (w.client.resumeLoop now · reply)

abbrev Run := List (Nat × Event)

def run (w : Workload) (events : Run) : Workload :=
  events.foldl (fun w event => w.step event.1 event.2) w

theorem run_append (w : Workload) (first second : Run) :
    w.run (first ++ second) = (w.run first).run second := by
  simp [run]

def trio : Workload where
  client := {
    settings := {
      source := .database "shop"
      seeds := ["http://a"]
      timeout := 1000
      cacheEnabled := true }
    topology := ⟨[
      { url := "http://a", tag := "A" },
      { url := "http://b", tag := "B" },
      { url := "http://c", tag := "C" }], 5, none⟩
    cache := { maxAge := 100 }
    selector := ⟨.none, .singleLeader, []⟩ }

def newcomer : Workload where
  client := {
    settings := {
      source := .database "shop"
      seeds := ["http://a"]
      timeout := 30000
      topologyUpdates := true
      refreshInterval := 60000
      cacheEnabled := true }
    topology := .seed ["http://a"] (some "shop")
    cache := { maxAge := 300000 }
    selector := ⟨.none, .singleLeader, []⟩ }

example : Client.new { urls := ["http://a"], database := some "shop" } (.sequential 0) =
    .ok newcomer.client := rfl

def opening : Run := [(0, .call (.new .get "/docs") (some 7))]

def opened : Run := [(2, .reply 0 (.ok ⟨404, [], []⟩))]

end Workload

end ClusterClient
