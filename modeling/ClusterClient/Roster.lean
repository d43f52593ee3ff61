import ClusterClient.Rising

namespace ClusterClient

structure Roster where
  entries : List (String × String)
  rising : Rising.Keys entries := by exact .nil
deriving DecidableEq, Repr

namespace Roster

def empty : Roster := ⟨[], .nil⟩

instance : Inhabited Roster := ⟨empty⟩

def ofList (entries : List (String × String)) : Roster :=
  ⟨Rising.ofList entries, Rising.keys_ofList entries⟩

theorem ofList_entries (r : Roster) : ofList r.entries = r := by
  obtain ⟨entries, rising⟩ := r
  simp [ofList, Rising.ofList_eq_self rising]

end Roster

end ClusterClient
