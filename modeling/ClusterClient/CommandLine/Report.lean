import ClusterClient.Topology

namespace ClusterClient.CommandLine

def padded (width : Nat) (text : String) : String :=
  text ++ String.ofList (List.replicate (width - text.length) ' ')

def tagWidth : Nat := 6
def roleWidth : Nat := 12

def row (tag role url : String) : String :=
  padded tagWidth tag ++ " " ++ padded roleWidth role ++ " " ++ url ++ "\n"

def tableHead : String := row "TAG" "ROLE" "URL" ++ row "---" "----" "---"

def nodeRows (nodes : List Node) : List String :=
  nodes.map fun n => row n.tag n.role.label n.url

def databaseReport (name : String) (r : DatabaseReport) : String :=
  "Database Topology: " ++ name ++ "\nEtag: " ++ toString r.etag.toInt ++ "\n\n" ++ tableHead ++
    String.join (nodeRows r.nodes)

def groupRows (role : String) (roster : Roster) : List String :=
  roster.entries.map fun e => row e.1 role e.2

def clusterRows (m : Membership) : List String :=
  groupRows "member" m.members ++ groupRows "promotable" m.promotables ++
    groupRows "watcher" m.watchers

def clusterReport (r : ClusterReport) : String :=
  "Cluster Topology\nLeader: " ++ r.leader.getD "(none)" ++ "\nEtag: " ++
    toString r.etag.toInt ++ "\n\n" ++ tableHead ++ String.join (clusterRows r.membership)

end ClusterClient.CommandLine
