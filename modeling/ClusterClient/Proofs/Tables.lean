import ClusterClient.CommandLine.Report
import Mathlib.Data.List.Forall2

namespace ClusterClient.CommandLine

/-- A cell begins with its text and is filled up with blanks; a text that is too long is not cut. -/
structure IsCell (width : Nat) (text cell : String) : Prop where
  length : cell.length = max width text.length
  filled : ∃ blanks : List Char, cell = text ++ String.ofList blanks ∧ ∀ c ∈ blanks, c = ' '

def Shows (line : String) (n : Node) : Prop :=
  ∃ tag role, IsCell tagWidth n.tag tag ∧ IsCell roleWidth n.role.label role ∧
    line = tag ++ " " ++ role ++ " " ++ n.url ++ "\n"

def databaseCaption (name : String) (etag : Int64) : String :=
  "Database Topology: " ++ name ++ "\nEtag: " ++ toString etag.toInt ++ "\n\n"

def clusterCaption (r : ClusterReport) : String :=
  "Cluster Topology\nLeader: " ++ r.leader.getD "(none)" ++ "\nEtag: " ++
    toString r.etag.toInt ++ "\n\n"

theorem isCell_iff {width : Nat} {text cell : String} :
    IsCell width text cell ↔ cell = padded width text := by
  constructor
  · rintro ⟨length, blanks, rfl, blank⟩
    rw [String.length_append, String.length_ofList] at length
    have missing : blanks.length = width - text.length := by omega
    rw [padded, ← missing, List.eq_replicate_iff.2 ⟨rfl, blank⟩, List.length_replicate]
  · rintro rfl
    constructor
    · rw [padded, String.length_append, String.length_ofList, List.length_replicate]
      omega
    · exact ⟨_, rfl, fun c member => List.eq_of_mem_replicate member⟩

theorem shows_iff {line : String} {n : Node} :
    Shows line n ↔ line = row n.tag n.role.label n.url := by
  simp only [Shows, isCell_iff]
  constructor
  · rintro ⟨tag, role, rfl, rfl, line⟩
    exact line
  · intro line
    exact ⟨_, _, rfl, rfl, line⟩

theorem forall₂_shows_iff {rows : List String} {nodes : List Node} :
    List.Forall₂ Shows rows nodes ↔ rows = nodeRows nodes := by
  rw [nodeRows, ← List.forall₂_eq_eq_eq, List.forall₂_map_right_iff]
  constructor
  · exact List.Forall₂.imp fun _ _ => shows_iff.1
  · exact List.Forall₂.imp fun _ _ => shows_iff.2

theorem groupRows_eq (role : Role) (roster : Roster) :
    groupRows role.label roster =
      nodeRows (roster.entries.map fun e => ⟨e.2, e.1, none, role⟩) := by
  rw [groupRows, nodeRows, List.map_map]
  rfl

theorem clusterRows_eq (r : ClusterReport) :
    clusterRows r.membership = nodeRows r.topology.nodes := by
  have groups : r.topology.nodes = r.membership.groups.flatMap fun group =>
      group.2.entries.map fun e => ⟨e.2, e.1, none, group.1⟩ := rfl
  have rows : clusterRows r.membership =
      r.membership.groups.flatMap fun group => groupRows group.1.label group.2 := by
    simp [clusterRows, Membership.groups, Role.label]
  rw [rows, groups, nodeRows, List.map_flatMap]
  exact congrArg (List.flatMap · _) (funext fun group => groupRows_eq group.1 group.2)

theorem cluster_table_shows_routed_nodes (r : ClusterReport) :
    ∃ rows, List.Forall₂ Shows rows r.topology.nodes ∧
      clusterReport r = clusterCaption r ++ tableHead ++ String.join rows ∧
      ∀ name etag, databaseReport name ⟨r.topology.nodes, etag⟩ =
        databaseCaption name etag ++ tableHead ++ String.join rows := by
  refine ⟨nodeRows r.topology.nodes, forall₂_shows_iff.2 rfl, ?_, ?_⟩
  · rw [← clusterRows_eq]
    rfl
  · intro name etag
    rfl

example :
    clusterRows ⟨.ofList [("A", "http://a:8080")], .empty, .ofList [("standby", "http://s")]⟩ =
      ["A      member       http://a:8080\n", "standby watcher      http://s\n"] := by
  decide +kernel

end ClusterClient.CommandLine
