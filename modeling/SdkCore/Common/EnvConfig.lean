import SdkCore.Serde
import SdkCore.Worker.NexusTimeout

/-!
# Client configuration in TOML

`crates/common/src/envconfig.rs`: `ClientConfig::from_toml` reads the profiles of a client
configuration from a TOML document, and `ClientConfig::to_toml` writes them. Reading goes through
`TomlClientConfig`, whose structs ignore keys they do not know, or with `strict` through
`StrictTomlClientConfig`, whose structs refuse them; both have the same fields, and their
conversions (`to_client_config`, `into_client_config`) the same code, so the strict structs are
the lenient ones here with `deny_unknown_fields` set. A TLS source is given by a path or by data,
not both, and empty data is no data; gRPC metadata keys are normalized on the way in and on the
way out.

The `toml` crate is a parameter (`Toml`), as are the Unicode `to_lowercase` and the orders in which
the `profile` map and each profile's `grpc_meta` map are iterated (`profileOrder`, `orders`), which
their `HashMap`s' random hashers decide.
-/

namespace SdkCore.EnvConfig

open Serde

/-! ## The configuration -/

/-- `DataSource`: a path to the data, or the data. -/
inductive DataSource where
  | path (p : String)
  | data (d : ByteArray)
  deriving DecidableEq

/-- `ClientConfigTLS`. -/
structure ClientConfigTLS where
  disabled : Option Bool
  clientCert : Option DataSource
  clientKey : Option DataSource
  serverCaCert : Option DataSource
  serverName : Option String
  disableHostVerification : Bool
  deriving DecidableEq

/-- `ClientConfigCodec`. -/
structure ClientConfigCodec where
  endpoint : Option String
  auth : Option String
  deriving DecidableEq

/-- `ClientConfigProfile`. -/
structure ClientConfigProfile where
  address : Option String
  «namespace» : Option String
  apiKey : Option String
  tls : Option ClientConfigTLS
  codec : Option ClientConfigCodec
  grpcMeta : Finmap fun _ : String => String
  deriving DecidableEq

/-- `ClientConfig`: the profiles by name. -/
structure ClientConfig where
  profiles : Finmap fun _ : String => ClientConfigProfile
  deriving DecidableEq

/-- `ClientConfigFromTOMLOptions`. -/
structure ClientConfigFromTOMLOptions where
  strict : Bool

/-- What `ConfigError::LoadError` boxes here: a UTF-8 error, a TOML error of reading or of
deserializing, or one of writing. -/
inductive LoadError where
  | utf8
  | toml (message : String)
  | de (e : DeError)
  | ser (message : String)

/-- `ConfigError`, the variants `from_toml` and `to_toml` return. -/
inductive ConfigError where
  | invalidConfig (message : String)
  | loadError (e : LoadError)

/-- The `toml` crate as these functions use it: `toml::from_str` reads a document into a table,
and `toml::to_string_pretty` writes one. -/
structure Toml where
  fromStr : String → Except String Table
  toStringPretty : Table → Except String String

/-- What is assumed of the `toml` crate: it writes every table a document can hold, as a text it
reads back as the same table, and a text of only whitespace is the empty table. -/
structure Toml.Lawful (toml : Toml) : Prop where
  toStringPretty_fromStr : ∀ t : Table, t.Canonical →
    ∃ s, toml.toStringPretty t = .ok s ∧ toml.fromStr s = .ok t
  fromStr_blank : ∀ s t, Nexus.trim s.toList = [] → toml.fromStr s = .ok t → t = []

/-- `normalize_grpc_meta_key`: lowercased, and `_` replaced by `-`. -/
def normalizeGrpcMetaKey (toLowercase : String → String) (key : String) : String :=
  (toLowercase key).map fun c => if c = '_' then '-' else c

/-! ## `String::from_utf8_lossy` -/

/-- The length of the UTF-8 sequence a byte starts, or 0 for a byte that starts none. -/
def utf8Width (b : UInt8) : Nat :=
  if b < 0x80 then 1
  else if 0xC2 ≤ b && b ≤ 0xDF then 2
  else if 0xE0 ≤ b && b ≤ 0xEF then 3
  else if 0xF0 ≤ b && b ≤ 0xF4 then 4
  else 0

/-- The range of the byte after a lead byte, which `E0`, `ED`, `F0` and `F4` narrow. -/
def secondByteOk (lead b : UInt8) : Bool :=
  if lead = 0xE0 then 0xA0 ≤ b && b ≤ 0xBF
  else if lead = 0xED then 0x80 ≤ b && b ≤ 0x9F
  else if lead = 0xF0 then 0x90 ≤ b && b ≤ 0xBF
  else if lead = 0xF4 then 0x80 ≤ b && b ≤ 0x8F
  else 0x80 ≤ b && b ≤ 0xBF

def isContinuation (b : UInt8) : Bool := 0x80 ≤ b && b ≤ 0xBF

/-- How many of the bytes after a lead byte continue its sequence, at most `need`. -/
def validContinuations (lead : UInt8) (need : Nat) (rest : List UInt8) : Nat :=
  match need, rest with
  | 0, _ => 0
  | _, [] => 0
  | n + 1, b :: bs =>
    if secondByteOk lead b then 1 + ((bs.take n).takeWhile isContinuation).length else 0

/-- The character a complete sequence of `width` bytes encodes. -/
def decodeChar (width : Nat) (lead : UInt8) (cont : List UInt8) : Char :=
  Char.ofNat (cont.foldl (fun acc c => acc * 64 + c.toNat % 64) (lead.toNat % 2 ^ (7 - width)))

/-- Decoding that replaces each maximal invalid part by U+FFFD, as `Utf8Chunks` splits it. -/
def lossyChars : List UInt8 → List Char
  | [] => []
  | b :: rest =>
    if utf8Width b = 1 then Char.ofNat b.toNat :: lossyChars rest
    else if utf8Width b ≠ 0 ∧ validContinuations b (utf8Width b - 1) rest = utf8Width b - 1 then
      decodeChar (utf8Width b) b (rest.take (utf8Width b - 1)) :: lossyChars (rest.drop (utf8Width b - 1))
    else Char.ofNat 0xFFFD :: lossyChars (rest.drop (validContinuations b (utf8Width b - 1) rest))
termination_by l => l.length
decreasing_by all_goals simp only [List.length_drop, List.length_cons]; omega

/-- `String::from_utf8_lossy`: valid UTF-8 is its string. -/
def fromUtf8Lossy (d : ByteArray) : String :=
  match String.fromUTF8? d with
  | some s => s
  | none => String.ofList (lossyChars d.toList)

/-! ## The TOML structs -/

/-- `TomlClientConfigTLS`, and `StrictTomlClientConfigTLS`. -/
structure TomlClientConfigTLS where
  disabled : Option Bool
  clientCertPath : Option String
  clientCertData : Option String
  clientKeyPath : Option String
  clientKeyData : Option String
  serverCaCertPath : Option String
  serverCaCertData : Option String
  serverName : Option String
  disableHostVerification : Bool

/-- `TomlClientConfigTLS::new`. -/
def TomlClientConfigTLS.new : TomlClientConfigTLS :=
  ⟨none, none, none, none, none, none, none, none, false⟩

/-- `TomlClientConfigCodec`, and `StrictTomlClientConfigCodec`. -/
structure TomlClientConfigCodec where
  endpoint : Option String
  auth : Option String

/-- `TomlClientConfigCodec::new`. -/
def TomlClientConfigCodec.new : TomlClientConfigCodec := ⟨none, none⟩

/-- `TomlClientConfigProfile`, and `StrictTomlClientConfigProfile`. -/
structure TomlClientConfigProfile where
  address : Option String
  «namespace» : Option String
  apiKey : Option String
  tls : Option TomlClientConfigTLS
  codec : Option TomlClientConfigCodec
  grpcMeta : Finmap fun _ : String => String

/-- `TomlClientConfigProfile::new`. -/
def TomlClientConfigProfile.new : TomlClientConfigProfile := ⟨none, none, none, none, none, ∅⟩

/-- `TomlClientConfig`: the `profile` table. -/
structure TomlClientConfig where
  profiles : Finmap fun _ : String => TomlClientConfigProfile

/-- `TomlClientConfig::new`. -/
def TomlClientConfig.new : TomlClientConfig := ⟨∅⟩

/-- `StrictTomlClientConfig`: the fields of `TomlClientConfig`. -/
abbrev StrictTomlClientConfig := TomlClientConfig

/-! ## Reading -/

/-- The `string_to_bytes` closure of `to_client_config`: empty data is none. -/
def stringToBytes (s : Option String) : Option ByteArray :=
  s.bind fun val => if val.isEmpty then none else some val.toUTF8

/-- One of the three checks of `to_client_config` that a source is not given both ways. -/
def checkPathOrData (pathName dataName : String) (path data : Option String) :
    Except ConfigError Unit :=
  if path.isSome && data.isSome then
    .error (.invalidConfig ("Cannot specify both " ++ pathName ++ " and " ++ dataName))
  else .ok ()

/-- A source from its two fields: the path, or else the data. -/
def dataSourceOf (path data : Option String) : Option DataSource :=
  (path.map .path).orElse fun _ => (stringToBytes data).map .data

/-- `TomlClientConfigTLS::to_client_config`. -/
def TomlClientConfigTLS.toClientConfig (self : TomlClientConfigTLS) :
    Except ConfigError ClientConfigTLS := do
  checkPathOrData "client_cert_path" "client_cert_data" self.clientCertPath self.clientCertData
  checkPathOrData "client_key_path" "client_key_data" self.clientKeyPath self.clientKeyData
  checkPathOrData "server_ca_cert_path" "server_ca_cert_data" self.serverCaCertPath
    self.serverCaCertData
  pure
    { disabled := self.disabled
      clientCert := dataSourceOf self.clientCertPath self.clientCertData
      clientKey := dataSourceOf self.clientKeyPath self.clientKeyData
      serverCaCert := dataSourceOf self.serverCaCertPath self.serverCaCertData
      serverName := self.serverName
      disableHostVerification := self.disableHostVerification }

/-- `TomlClientConfigCodec::to_client_config`. -/
def TomlClientConfigCodec.toClientConfig (self : TomlClientConfigCodec) : ClientConfigCodec :=
  ⟨self.endpoint, self.auth⟩

/-- The loop over a `grpc_meta` map: each key normalized and inserted in the iteration order, so
of two keys that normalize alike the one visited last wins. -/
def normalizeGrpcMeta (toLowercase : String → String) (order : HashOrder (String × String))
    (m : Finmap fun _ : String => String) : Finmap fun _ : String => String :=
  (order (entries m)).foldl (fun acc p => acc.insert (normalizeGrpcMetaKey toLowercase p.1) p.2) ∅

/-- `TomlClientConfigProfile::to_client_config`. -/
def TomlClientConfigProfile.toClientConfig (toLowercase : String → String)
    (order : HashOrder (String × String)) (self : TomlClientConfigProfile) :
    Except ConfigError ClientConfigProfile := do
  let tls ← match self.tls with
    | none => pure none
    | some tls => some <$> tls.toClientConfig
  let ret : ClientConfigProfile :=
    ⟨self.address, self.«namespace», self.apiKey, tls, self.codec.map (·.toClientConfig), ∅⟩
  if self.grpcMeta ≠ ∅ then
    pure { ret with grpcMeta := normalizeGrpcMeta toLowercase order self.grpcMeta }
  else pure ret

/-- `TomlClientConfig::apply_to_client_config`, and `StrictTomlClientConfig`'s: the profiles
converted in the order the map is iterated, so that of two profiles that fail the first visited
gives the error. -/
def TomlClientConfig.applyToClientConfig (toLowercase : String → String)
    (profileOrder : HashOrder (String × TomlClientConfigProfile))
    (orders : String → HashOrder (String × String)) (self : TomlClientConfig) :
    Except ConfigError ClientConfig :=
  ClientConfig.mk <$> tryInsertAll (fun k v => v.toClientConfig toLowercase (orders k))
    (profileOrder (entries self.profiles)) ∅

/-! ## Deserializing -/

def tlsFields : List String :=
  ["disabled", "client_cert_path", "client_cert_data", "client_key_path", "client_key_data",
    "server_ca_cert_path", "server_ca_cert_data", "server_name", "disable_host_verification"]

def codecFields : List String := ["endpoint", "auth"]

def profileFields : List String := ["address", "namespace", "api_key", "tls", "codec", "grpc_meta"]

/-- The derived `Deserialize` of `TomlClientConfigTLS`, or of `StrictTomlClientConfigTLS` when
unknown fields are denied. -/
def TomlClientConfigTLS.deserialize (denyUnknown : Bool) (v : Value) :
    Except DeError TomlClientConfigTLS := do
  let t ← deTable "struct TomlClientConfigTLS" v
  if denyUnknown then denyUnknownFields tlsFields t
  pure ⟨← deOption deBool t "disabled", ← deOption deString t "client_cert_path",
    ← deOption deString t "client_cert_data", ← deOption deString t "client_key_path",
    ← deOption deString t "client_key_data", ← deOption deString t "server_ca_cert_path",
    ← deOption deString t "server_ca_cert_data", ← deOption deString t "server_name",
    ← deDefault false deBool t "disable_host_verification"⟩

/-- The derived `Deserialize` of `TomlClientConfigCodec`, or of the strict one. -/
def TomlClientConfigCodec.deserialize (denyUnknown : Bool) (v : Value) :
    Except DeError TomlClientConfigCodec := do
  let t ← deTable "struct TomlClientConfigCodec" v
  if denyUnknown then denyUnknownFields codecFields t
  pure ⟨← deOption deString t "endpoint", ← deOption deString t "auth"⟩

/-- The derived `Deserialize` of `TomlClientConfigProfile`, or of the strict one. -/
def TomlClientConfigProfile.deserialize (denyUnknown : Bool) (v : Value) :
    Except DeError TomlClientConfigProfile := do
  let t ← deTable "struct TomlClientConfigProfile" v
  if denyUnknown then denyUnknownFields profileFields t
  pure ⟨← deOption deString t "address", ← deOption deString t "namespace",
    ← deOption deString t "api_key", ← deOption (TomlClientConfigTLS.deserialize denyUnknown) t "tls",
    ← deOption (TomlClientConfigCodec.deserialize denyUnknown) t "codec",
    (← deOption (deMap deString) t "grpc_meta").getD ∅⟩

/-- The derived `Deserialize` of `TomlClientConfig`, or of `StrictTomlClientConfig`. -/
def TomlClientConfig.deserialize (denyUnknown : Bool) (t : Table) :
    Except DeError TomlClientConfig := do
  if denyUnknown then denyUnknownFields ["profile"] t
  pure ⟨(← deOption (deMap (TomlClientConfigProfile.deserialize denyUnknown)) t "profile").getD ∅⟩

/-- `toml::from_str::<StrictTomlClientConfig>` past the parse. -/
def StrictTomlClientConfig.deserialize (t : Table) : Except DeError StrictTomlClientConfig :=
  TomlClientConfig.deserialize true t

/-- `ClientConfig::from_toml`. -/
def ClientConfig.fromToml (toml : Toml) (toLowercase : String → String)
    (profileOrder : HashOrder (String × TomlClientConfigProfile))
    (orders : String → HashOrder (String × String)) (tomlBytes : ByteArray)
    (options : ClientConfigFromTOMLOptions) : Except ConfigError ClientConfig := do
  let some tomlStr := String.fromUTF8? tomlBytes | throw (.loadError .utf8)
  if Nexus.trim tomlStr.toList = [] then return ⟨∅⟩
  let table ← (toml.fromStr tomlStr).mapError (.loadError ∘ .toml)
  if options.strict then
    let tomlConf ← (StrictTomlClientConfig.deserialize table).mapError (.loadError ∘ .de)
    tomlConf.applyToClientConfig toLowercase profileOrder orders
  else
    let tomlConf ← (TomlClientConfig.deserialize false table).mapError (.loadError ∘ .de)
    tomlConf.applyToClientConfig toLowercase profileOrder orders

/-! ## Writing -/

/-- One source written back: a path, or the data as text; with no source both fields stay. -/
def populateSource (source : Option DataSource) (path data : Option String) :
    Option String × Option String :=
  match source with
  | none => (path, data)
  | some (.path p) => (some p, data)
  | some (.data d) => (path, some (fromUtf8Lossy d))

/-- `TomlClientConfigTLS::populate_from_client_config`. -/
def TomlClientConfigTLS.populateFromClientConfig (self : TomlClientConfigTLS)
    (conf : ClientConfigTLS) : TomlClientConfigTLS :=
  let (clientCertPath, clientCertData) :=
    populateSource conf.clientCert self.clientCertPath self.clientCertData
  let (clientKeyPath, clientKeyData) :=
    populateSource conf.clientKey self.clientKeyPath self.clientKeyData
  let (serverCaCertPath, serverCaCertData) :=
    populateSource conf.serverCaCert self.serverCaCertPath self.serverCaCertData
  { disabled := conf.disabled
    clientCertPath, clientCertData, clientKeyPath, clientKeyData, serverCaCertPath,
    serverCaCertData
    serverName := conf.serverName
    disableHostVerification := conf.disableHostVerification }

/-- `TomlClientConfigCodec::populate_from_client_config`. -/
def TomlClientConfigCodec.populateFromClientConfig (_self : TomlClientConfigCodec)
    (conf : ClientConfigCodec) : TomlClientConfigCodec :=
  ⟨conf.endpoint, conf.auth⟩

/-- `TomlClientConfigProfile::populate_from_client_config`. -/
def TomlClientConfigProfile.populateFromClientConfig (toLowercase : String → String)
    (order : HashOrder (String × String)) (self : TomlClientConfigProfile)
    (conf : ClientConfigProfile) : TomlClientConfigProfile :=
  { self with
    address := conf.address
    «namespace» := conf.«namespace»
    apiKey := conf.apiKey
    tls := conf.tls.map TomlClientConfigTLS.new.populateFromClientConfig
    codec := conf.codec.map TomlClientConfigCodec.new.populateFromClientConfig
    grpcMeta := if conf.grpcMeta ≠ ∅ then normalizeGrpcMeta toLowercase order conf.grpcMeta else ∅ }

/-- `TomlClientConfig::populate_from_client_config`. -/
def TomlClientConfig.populateFromClientConfig (toLowercase : String → String)
    (orders : String → HashOrder (String × String)) (_self : TomlClientConfig)
    (conf : ClientConfig) : TomlClientConfig :=
  ⟨mapValues (fun k v => TomlClientConfigProfile.new.populateFromClientConfig toLowercase (orders k) v)
    conf.profiles⟩

/-- The fields of the derived `Serialize` of `TomlClientConfigTLS`, each with what it writes:
nothing for `None` (`Option::is_none`) and for `false` (`std::ops::Not::not`). -/
def TomlClientConfigTLS.fieldValues (self : TomlClientConfigTLS) : List (String × Option Value) :=
  [("disabled", self.disabled.map .boolean),
    ("client_cert_path", self.clientCertPath.map .string),
    ("client_cert_data", self.clientCertData.map .string),
    ("client_key_path", self.clientKeyPath.map .string),
    ("client_key_data", self.clientKeyData.map .string),
    ("server_ca_cert_path", self.serverCaCertPath.map .string),
    ("server_ca_cert_data", self.serverCaCertData.map .string),
    ("server_name", self.serverName.map .string),
    ("disable_host_verification",
      if self.disableHostVerification then some (.boolean true) else none)]

/-- The derived `Serialize` of `TomlClientConfigTLS`. -/
def TomlClientConfigTLS.serialize (self : TomlClientConfigTLS) : Value :=
  .table (serStruct self.fieldValues [])

/-- The fields of the derived `Serialize` of `TomlClientConfigCodec`. -/
def TomlClientConfigCodec.fieldValues (self : TomlClientConfigCodec) :
    List (String × Option Value) :=
  [("endpoint", self.endpoint.map .string), ("auth", self.auth.map .string)]

/-- The derived `Serialize` of `TomlClientConfigCodec`. -/
def TomlClientConfigCodec.serialize (self : TomlClientConfigCodec) : Value :=
  .table (serStruct self.fieldValues [])

/-- The fields of the derived `Serialize` of `TomlClientConfigProfile`; an empty `grpc_meta` is
not written (`HashMap::is_empty`). -/
def TomlClientConfigProfile.fieldValues (self : TomlClientConfigProfile) :
    List (String × Option Value) :=
  [("address", self.address.map .string),
    ("namespace", self.«namespace».map .string),
    ("api_key", self.apiKey.map .string),
    ("tls", self.tls.map TomlClientConfigTLS.serialize),
    ("codec", self.codec.map TomlClientConfigCodec.serialize),
    ("grpc_meta", if self.grpcMeta = ∅ then none else some (.table (serMap .string self.grpcMeta)))]

/-- The derived `Serialize` of `TomlClientConfigProfile`. -/
def TomlClientConfigProfile.serialize (self : TomlClientConfigProfile) : Value :=
  .table (serStruct self.fieldValues [])

/-- The derived `Serialize` of `TomlClientConfig`. -/
def TomlClientConfig.serialize (self : TomlClientConfig) : Table :=
  serStruct [("profile", some (.table (serMap TomlClientConfigProfile.serialize self.profiles)))] []

/-- `ClientConfig::to_toml`. -/
def ClientConfig.toToml (toml : Toml) (toLowercase : String → String)
    (orders : String → HashOrder (String × String)) (self : ClientConfig) :
    Except ConfigError ByteArray := do
  let tomlConf := TomlClientConfig.new.populateFromClientConfig toLowercase orders self
  let s ← (toml.toStringPretty tomlConf.serialize).mapError (.loadError ∘ .ser)
  pure s.toUTF8

end SdkCore.EnvConfig
