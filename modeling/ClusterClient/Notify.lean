namespace ClusterClient

/-- Hands each signal to one of those who wait, the first to have come first. While nobody waits one
signal is kept. -/
structure Notify where
  isStored : Bool := false
  waiting : List Nat := []
  handed : List Nat := []
deriving DecidableEq, Repr, Inhabited

namespace Notify

def notify (n : Notify) : Notify :=
  match n.waiting with
  | [] => { n with isStored := true }
  | id :: rest => { n with waiting := rest, handed := n.handed ++ [id] }

def isReady (n : Notify) (id : Nat) : Bool := n.isStored || n.handed.contains id

def wait (n : Notify) (id : Nat) : Notify :=
  if id ∈ n.waiting then n else { n with waiting := n.waiting ++ [id] }

def take (n : Notify) (id : Nat) : Notify :=
  if id ∈ n.handed then { n with handed := n.handed.erase id } else { n with isStored := false }

def leave (n : Notify) (id : Nat) : Notify :=
  let n := { n with waiting := n.waiting.erase id }
  if id ∈ n.handed then { n with handed := n.handed.erase id }.notify else n

end Notify

end ClusterClient
