import ClusterClient.Json.Shape
import ClusterClient.Json.Writer
import ClusterClient.Topology

namespace ClusterClient

open Json (Doc Value Fields)

def Role.ofDoc? (doc : Doc) : Option Role := doc.caseName?.bind Role.ofWireName?

namespace Node

def fieldNames : List String := ["Url", "ClusterTag", "Database", "ServerRole"]

def ofDoc? (doc : Doc) : Option Node := do
  let fields ← Fields.ofDoc? fieldNames doc
  return {
    url := ← fields.required "Url" Doc.text?
    tag := ← fields.required "ClusterTag" Doc.text?
    database := ← fields.optional "Database" none (Doc.option? Doc.text?)
    role := ← fields.optional "ServerRole" .member Role.ofDoc? }

def toValue (n : Node) : Value := .object [
  ("Url", .string n.url),
  ("ClusterTag", .string n.tag),
  ("Database", .optional n.database),
  ("ServerRole", .string n.role.wireName)]

end Node

namespace Topology

def fieldNames : List String := ["nodes", "etag", "leader"]

def ofDoc? (doc : Doc) : Option Topology := do
  let fields ← Fields.ofDoc? fieldNames doc
  return {
    nodes := ← fields.required "nodes" (Doc.list? Node.ofDoc?)
    etag := ← fields.required "etag" Doc.int64?
    leader := ← fields.optional "leader" none (Doc.option? Doc.text?) }

def toValue (t : Topology) : Value := .object ([
  ("nodes", .array (t.nodes.map Node.toValue)),
  ("etag", .int t.etag.toInt)] ++ (t.leader.toList.map fun tag => ("leader", .string tag)))

end Topology

namespace DatabaseReport

def fieldNames : List String := ["Nodes", "Etag"]

def ofDoc? (doc : Doc) : Option DatabaseReport := do
  let fields ← Fields.ofDoc? fieldNames doc
  return {
    nodes := ← fields.required "Nodes" (Doc.list? Node.ofDoc?)
    etag := ← fields.required "Etag" Doc.int64? }

def toValue (r : DatabaseReport) : Value := .object [
  ("Nodes", .array (r.nodes.map Node.toValue)),
  ("Etag", .int r.etag.toInt)]

def ofBytes? (bytes : List UInt8) : Option DatabaseReport := (Doc.ofBytes? bytes).bind ofDoc?

end DatabaseReport

def Roster.ofDoc? (doc : Doc) : Option Roster := doc.texts?.map Roster.ofList

def Roster.toValue (r : Roster) : Value :=
  .object (r.entries.map fun (tag, url) => (tag, .string url))

namespace Membership

def fieldNames : List String := ["Members", "Promotables", "Watchers"]

def ofDoc? (doc : Doc) : Option Membership := do
  let fields ← Fields.ofDoc? fieldNames doc
  return {
    members := ← fields.optional "Members" .empty Roster.ofDoc?
    promotables := ← fields.optional "Promotables" .empty Roster.ofDoc?
    watchers := ← fields.optional "Watchers" .empty Roster.ofDoc? }

def toValue (m : Membership) : Value := .object [
  ("Members", m.members.toValue),
  ("Promotables", m.promotables.toValue),
  ("Watchers", m.watchers.toValue)]

end Membership

namespace ClusterReport

def fieldNames : List String := ["Leader", "Etag", "Topology"]

def ofDoc? (doc : Doc) : Option ClusterReport := do
  let fields ← Fields.ofDoc? fieldNames doc
  return {
    leader := ← fields.optional "Leader" none (Doc.option? Doc.text?)
    etag := ← fields.required "Etag" Doc.int64?
    membership := ← fields.required "Topology" Membership.ofDoc? }

def toValue (r : ClusterReport) : Value := .object [
  ("Leader", .optional r.leader),
  ("Etag", .int r.etag.toInt),
  ("Topology", r.membership.toValue)]

def ofBytes? (bytes : List UInt8) : Option ClusterReport := (Doc.ofBytes? bytes).bind ofDoc?

end ClusterReport

end ClusterClient
