import FunctionAgent.Log
import FunctionAgent.Span
import FunctionAgent.Text.Blank
/-!
# Channel settings

How the channel to a broker is opened: the address, whether the channel is encrypted, how it is kept
alive, and how long connecting may take. The scheme of the address follows the choice of
encryption.
-/

set_option autoImplicit false

namespace FunctionAgent

open FunctionAgent.Text

/-- How an idle channel is kept alive. -/
structure KeepAlive where
  interval : Span
  /-- How long an answer may take before the channel counts as dead. -/
  timeout : Span
  /-- Whether this is done while no stream is open. -/
  whileIdle : Bool
  deriving DecidableEq

/-- The usual way to keep a channel alive. -/
def KeepAlive.standard : KeepAlive := ⟨.ofSeconds 10, .ofSeconds 20, true⟩

/-- How a channel is opened. -/
structure ChannelSettings where
  address : String
  isEncrypted : Bool
  keepAlive : Option KeepAlive
  connectTimeout : Option Span
  deriving DecidableEq

namespace ChannelSettings

/-- The scheme of an encrypted channel. -/
def secureScheme : List Char := "https://".toList

/-- The scheme of an open channel. -/
def plainScheme : List Char := "http://".toList

/-- What stands behind a scheme. -/
def separator : List Char := "://".toList

/-- What stands behind the first separator, if there is one. -/
def behindScheme? : List Char → Option (List Char)
  | [] => none
  | c :: rest =>
    if (c :: rest).take separator.length = separator then some ((c :: rest).drop separator.length)
    else behindScheme? rest

/-- A text with its scheme replaced, or with a scheme put in front of it. -/
def withScheme (scheme : List Char) (address : List Char) : List Char :=
  scheme ++ (behindScheme? address).getD address

/-- Whether a text starts with the scheme of an encrypted channel, in any case. -/
def isSecure (address : List Char) : Bool :=
  (address.take secureScheme.length).map Char.toLower == secureScheme

/-- The settings for an address, between blanks; its scheme says whether to encrypt. -/
def new (address : String) : ChannelSettings :=
  ⟨trim address, isSecure (trim address).toList, some .standard, some (.ofSeconds 30)⟩

/-- Encrypts the channel. -/
def withEncryption (c : ChannelSettings) : ChannelSettings :=
  { c with isEncrypted := true, address := .ofList (withScheme secureScheme c.address.toList) }

/-- Leaves the channel open. -/
def withoutEncryption (c : ChannelSettings) : ChannelSettings :=
  { c with isEncrypted := false, address := .ofList (withScheme plainScheme c.address.toList) }

/-- Keeps the channel alive in a given way. -/
def withKeepAlive (c : ChannelSettings) (k : KeepAlive) : ChannelSettings :=
  { c with keepAlive := some k }

/-- Does not keep the channel alive. -/
def withoutKeepAlive (c : ChannelSettings) : ChannelSettings := { c with keepAlive := none }

/-- Gives connecting so much time. -/
def withConnectTimeout (c : ChannelSettings) (timeout : Span) : ChannelSettings :=
  { c with connectTimeout := some timeout }

/-- The settings for a host that may or may not carry a scheme; the scheme that it gets follows
the choice of encryption. -/
def forHost (host : String) (insecure : Bool) : ChannelSettings :=
  let bare := (trim host).toList
  let scheme := if insecure then plainScheme else secureScheme
  let address := match behindScheme? bare with
    | some _ => bare
    | none => scheme ++ bare
  if insecure then (new (.ofList address)).withoutEncryption
  else (new (.ofList address)).withEncryption

/-- A change of the settings. -/
inductive Change where
  | encrypt
  | leaveOpen
  | keepAlive (k : KeepAlive)
  | noKeepAlive
  | connectTimeout (timeout : Span)
  deriving DecidableEq

/-- The settings after a change. -/
def apply (c : ChannelSettings) : Change → ChannelSettings
  | .encrypt => c.withEncryption
  | .leaveOpen => c.withoutEncryption
  | .keepAlive k => c.withKeepAlive k
  | .noKeepAlive => c.withoutKeepAlive
  | .connectTimeout timeout => c.withConnectTimeout timeout

end ChannelSettings

end FunctionAgent
