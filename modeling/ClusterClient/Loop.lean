import ClusterClient.Refresh

/-!
The background loop. It waits for the next of three things: that it is no longer in force, the
tick of its interval, or a signal. Signals do not move the ticks. Each signal that comes while it
waits leads to a refresh; those that come while it refreshes lead to one between them.
-/

namespace ClusterClient

namespace Loop

inductive Wake
  | stop
  | tick
  | signal
deriving DecidableEq, Repr, Inhabited

/-- A tick that is taken up later than this, in milliseconds, moves the following ones. -/
def tolerance : Nat := 5

def followingTick (l : Loop) (now : Nat) : Nat :=
  if l.nextTick + tolerance < now then now + l.interval else l.nextTick + l.interval

end Loop

namespace Client

/-- Why an idle loop wakes now, if it does: an end comes first, then a tick, then a signal. -/
def wake? (c : Client) (now : Nat) (l : Loop) : Option Loop.Wake :=
  if c.watch.active ≠ some l.id then some .stop
  else if l.nextTick ≤ now then some .tick
  else if c.watch.notify.isReady l.id then some .signal
  else none

def setLoop (c : Client) (l : Loop) : Client :=
  c.modifyWatch fun w =>
    { w with loops := w.loops.map fun other => if other.id = l.id then l else other }

def removeLoop (c : Client) (id : Nat) : Client :=
  c.modifyWatch fun w => { w with loops := w.loops.filter (·.id ≠ id) }

def wakeLoop (c : Client) (now : Nat) (l : Loop) : Loop.Wake → Client × Option Refresh.Progress
  | .stop => ((c.modifyNotify (·.leave l.id)).removeLoop l.id, none)
  | .tick =>
    let c := (c.modifyNotify (·.leave l.id)).setLoop { l with nextTick := l.followingTick now }
    let c := if l.evicts then { c with cache := (c.cache.evictExpired now).1 } else c
    let (c, progress) := c.startRefresh
    (c, some progress)
  | .signal =>
    let (c, progress) := (c.modifyNotify (·.take l.id)).startRefresh
    (c, some progress)

def setRefresh (c : Client) (id : Nat) (r : Option Refresh) : Client :=
  c.modifyWatch fun w =>
    { w with loops := w.loops.map fun l => if l.id = id then { l with refresh := r } else l }

end Client

end ClusterClient
