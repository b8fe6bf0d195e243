import BoundedTls.Config.Settings
import BoundedTls.Tls.Engine
import BoundedTls.Tls.MaterialError

/-!
# Certificate material

TLS contexts from armoured texts and from files. A server needs a certificate chain and the private
key of its first certificate, a client the authorities that it trusts and the name that it expects.
Texts are read, and material is accepted or refused, by an engine.
-/

namespace BoundedTls.Tls.Engine

open BoundedTls.Address

variable (engine : Engine)

/-! ## What a text holds -/

/-- All certificates of a text. There must be one. -/
def chainOf (text : Reading) (source : String) : Except MaterialError (List (List UInt8)) := do
  let chain ← (engine.certificates text).mapError .unreadable
  if chain.isEmpty then throw (.noCertificates source)
  return chain

/-- The first private key of a text. There must be one. -/
def keyOf (text : Reading) (source : String) : Except MaterialError PrivateKey := do
  match ← (engine.privateKey text).mapError .unreadable with
  | some key => return key
  | none => throw (.noPrivateKey source)

/-- Open a file that must be there. -/
def openFile (files : Files) (path : String) : Except MaterialError Reading :=
  match files.open? path with
  | some opened => opened.mapError .unreadable
  | none => .error (.notFound path)

/-! ## The two sides of a context -/

/-- The server side of a chain and a key. -/
def serverOf (chain : List (List UInt8)) (key : PrivateKey) : Except MaterialError ServerConfig :=
  (engine.serverSide chain key).mapError .refused

/-- The client side of a list of authorities, each of which must be trusted, and a name. -/
def clientOf (authorities : List (List UInt8)) (name : String) :
    Except MaterialError (ClientConfig × ServerName) := do
  let anchors ← (authorities.mapM engine.trust).mapError .refused
  let config ← (engine.clientSide anchors).mapError .refused
  match ServerName.parse? name with
  | some name => return (config, name)
  | none => throw .badServerName

/-! ## Contexts -/

/-- The context of a server from the texts of its chain and its key. -/
def ofServerTexts (chain key : List UInt8) : Except MaterialError Context := do
  let chain ← engine.chainOf ⟨chain, none⟩ "certificate PEM"
  let key ← engine.keyOf ⟨key, none⟩ "key PEM"
  return { server := some (← engine.serverOf chain key) }

/-- The context of a server from the files of its chain and its key. -/
def loadServer (files : Files) (chainPath keyPath : String) : Except MaterialError Context := do
  let chain ← engine.chainOf (← openFile files chainPath) chainPath
  let key ← engine.keyOf (← openFile files keyPath) keyPath
  return { server := some (← engine.serverOf chain key) }

/-- The context of a client from the file of the authorities that it trusts. -/
def loadClient (files : Files) (path name : String) : Except MaterialError Context := do
  let authorities ← engine.chainOf (← openFile files path) path
  return { client := some (← engine.clientOf authorities name) }

/-- The name that a client expects if none is set. -/
def defaultServerName : String :=
  "localhost"

/-- The server side that the settings provide for. -/
def serverOfSettings (files : Files) (s : Config.TlsSettings) :
    Except MaterialError (Option ServerConfig) :=
  match s.certPath, s.keyPath with
  | some chain, some key => (engine.loadServer files chain key).map Context.server
  | _, _ => .ok none

/-- The client side that the settings provide for. -/
def clientOfSettings (files : Files) (s : Config.TlsSettings) :
    Except MaterialError (Option (ClientConfig × ServerName)) :=
  match s.caPath with
  | some path =>
    (engine.loadClient files path (s.serverName.getD defaultServerName)).map Context.client
  | none => .ok none

/-- The context with every role that the settings provide for. -/
def ofSettings (files : Files) (s : Config.TlsSettings) : Except MaterialError Context := do
  let server ← engine.serverOfSettings files s
  let client ← engine.clientOfSettings files s
  return ⟨server, client⟩

end BoundedTls.Tls.Engine
