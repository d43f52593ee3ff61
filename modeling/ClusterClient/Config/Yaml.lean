import ClusterClient.Config.Json
import ClusterClient.Yaml.Shape

namespace ClusterClient

open Yaml (Tree)
open Yaml.Tree (Fields)

def ReadBalance.ofTree? (t : Tree) : Option ReadBalance := t.text?.bind ofName?

def ClusterMode.ofTree? (t : Tree) : Option ClusterMode := t.text?.bind ofName?

def StatusPolicy.ofTree? (t : Tree) : Option StatusPolicy := do
  let fields ← Fields.ofTree? fieldNames t
  let default : StatusPolicy := {}
  return {
    retryable := ←
      fields.optional "retryable_statuses" default.retryable (Tree.list? Tree.uint16?)
    refreshing := ←
      fields.optional "refresh_statuses" default.refreshing (Tree.list? Tree.uint16?) }

namespace Config

def ofTree? (t : Tree) : Option Config := do
  let fields ← Fields.ofTree? fieldNames t
  let default : Config := {}
  return {
    urls := ← fields.optional "urls" default.urls (Tree.list? Tree.text?)
    database := ← fields.optional "database" default.database (Tree.option? Tree.text?)
    readBalance := ← fields.optional "read_balance" default.readBalance ReadBalance.ofTree?
    clusterMode := ← fields.optional "cluster_mode" default.clusterMode ClusterMode.ofTree?
    requestTimeout := ←
      fields.optional "request_timeout_ms" default.requestTimeout Tree.uint64?
    refreshInterval := ←
      fields.optional "topology_refresh_interval_ms" default.refreshInterval Tree.uint64?
    topologyUpdates := ← fields.optional "topology_updates" default.topologyUpdates Tree.bool?
    cacheEnabled := ← fields.optional "cache_enabled" default.cacheEnabled Tree.bool?
    cacheMaxAge := ← fields.optional "cache_max_age_ms" default.cacheMaxAge Tree.uint64?
    statuses := ← fields.optional "failover" default.statuses StatusPolicy.ofTree?
    apiKey := ← fields.optional "api_key" default.apiKey (Tree.option? Tree.text?) }

/-- The configuration that a YAML text spells; directives, anchors, tags and block scalars are
refused. -/
def parseYaml? (text : String) : Option Config := (Tree.ofText? text).bind ofTree?

def ofYaml : String → Except Fault Config := ofText parseYaml?

end Config

end ClusterClient
