import ClusterClient.Config
import ClusterClient.Duration

namespace ClusterClient

inductive Setting
  | url (url : String)
  | urls (urls : List String)
  | database (name : String)
  | readBalance (balance : ReadBalance)
  | clusterMode (mode : ClusterMode)
  | requestTimeout (d : Duration)
  | refreshInterval (d : Duration)
  | topologyUpdates (enabled : Bool)
  | cacheEnabled (enabled : Bool)
  | cacheMaxAge (d : Duration)
  | statuses (policy : StatusPolicy)
  | apiKey (key : String)
deriving DecidableEq, Repr

namespace Config

def set (c : Config) : Setting → Config
  | .url url => { c with urls := c.urls ++ [url] }
  | .urls urls => { c with urls }
  | .database name => { c with database := some name }
  | .readBalance balance => { c with readBalance := balance }
  | .clusterMode mode => { c with clusterMode := mode }
  | .requestTimeout d => { c with requestTimeout := d.millisWord }
  | .refreshInterval d => { c with refreshInterval := d.millisWord }
  | .topologyUpdates enabled => { c with topologyUpdates := enabled }
  | .cacheEnabled enabled => { c with cacheEnabled := enabled }
  | .cacheMaxAge d => { c with cacheMaxAge := d.millisWord }
  | .statuses policy => { c with statuses := policy }
  | .apiKey key => { c with apiKey := some key }

def build (settings : List Setting) : Except Fault Config :=
  (settings.foldl set {}).validate

end Config

end ClusterClient
