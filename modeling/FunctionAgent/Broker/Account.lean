import FunctionAgent.Broker.Update
import FunctionAgent.Channel.Settings
import FunctionAgent.Text.Quoted
/-!
# Broker accounts

An account says where the broker is, and who the agent is there. The client secret is never shown.
-/

set_option autoImplicit false

namespace FunctionAgent

open FunctionAgent.Text

/-- Where the broker is, and who the agent is there. -/
structure Account where
  /-- A host with an optional port, or an address with a scheme. -/
  host : String
  clusterId : String
  clientId : String
  clientSecret : String
  /-- Whether the channel is left open. -/
  insecure : Bool
  connectTimeout : Span
  deriving DecidableEq

namespace Account

/-- The broker used when none is chosen. -/
def defaultHost : String := "grpc.openobd.com"

/-- The cluster used when none is chosen. -/
def defaultCluster : String := "001"

/-- An account at the usual broker. -/
def new (clientId clientSecret : String) : Account :=
  ⟨defaultHost, defaultCluster, clientId, clientSecret, false, .ofSeconds 10⟩

/-- A change of an account. -/
inductive Change where
  | host (host : String)
  | cluster (id : String)
  /-- Whether to leave the channel open from now on. -/
  | insecure (insecure : Bool)
  | connectTimeout (timeout : Span)
  deriving DecidableEq

/-- The account after a change. -/
def apply (a : Account) : Change → Account
  | .host host => { a with host }
  | .cluster id => { a with clusterId := id }
  | .insecure insecure => { a with insecure }
  | .connectTimeout timeout => { a with connectTimeout := timeout }

/-- What is exchanged for a token. -/
def credentials (a : Account) : Credentials := ⟨a.clientId, a.clientSecret, a.clusterId⟩

/-- How the channel to the broker is opened. -/
def channel (a : Account) : ChannelSettings :=
  (ChannelSettings.forHost a.host a.insecure).withConnectTimeout a.connectTimeout

/-- The address of the broker. -/
def endpoint (a : Account) : String := a.channel.address

/-- The account as it is shown for inspection. -/
def render (a : Account) : String :=
  "BrokerConfig \x7b host: " ++ quoted a.host ++ ", cluster_id: " ++ quoted a.clusterId
    ++ ", client_id: " ++ quoted a.clientId ++ ", client_secret: \"[REDACTED]\", insecure: "
    ++ toString a.insecure ++ ", connect_timeout: " ++ a.connectTimeout.render ++ " \x7d"

end Account

end FunctionAgent
