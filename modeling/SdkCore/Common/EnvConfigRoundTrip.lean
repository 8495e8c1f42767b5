import SdkCore.Common.EnvConfig

/-!
# Reading a client configuration back

What `ClientConfig::from_toml` returns is `Loaded`: each TLS source given as data holds the UTF-8 of
a nonempty text (`string_to_bytes`), and each gRPC metadata key is normalized. `to_toml` writes such
a configuration as a document that `from_toml` reads back as the same configuration, strict or not
(`fromToml_toToml`). The document is read back as it was written because each derived
`Deserialize` reads what the derived `Serialize` writes (`deserialize_serialize`), and the
configuration is rebuilt because each `to_client_config` undoes `populate_from_client_config` on
loaded values (`toClientConfig_populate`).

A strict read that succeeds gives what a lenient read gives, when the two iterate their maps in the
same orders. Where no two keys of one `grpc_meta` table normalize alike, a read that succeeds gives
one configuration in any orders (`fromToml_orders`); a read that fails returns the error of the
first failing profile visited, which the order of the `profile` map decides. Two reads do not share
a hasher, though, and where two keys do normalize alike the one visited last wins: the strict and
the lenient read of one document then disagree (`fromToml_collidingGrpcMeta`).

`textToml`, the text format of `Serde`, is a `toml` library that meets `Toml.Lawful`; the witnesses
read documents with it and lowercase with `String.toLower`.
-/

namespace SdkCore.EnvConfig

open Serde

variable {toLowercase : String → String}

/-! ## Text -/

theorem fromUTF8?_toUTF8 (s : String) : String.fromUTF8? s.toUTF8 = some s := by
  simp only [String.fromUTF8?, String.toUTF8_eq_toByteArray, dif_pos s.isValidUTF8]
  rfl

theorem fromUtf8Lossy_toUTF8 (s : String) : fromUtf8Lossy s.toUTF8 = s := by
  rw [fromUtf8Lossy, fromUTF8?_toUTF8]

/-! ## What reading produces -/

/-- A source as reading produces it: data is the UTF-8 of a nonempty text. -/
def DataSource.Loaded : DataSource → Prop
  | .path _ => True
  | .data d => ∃ s : String, s ≠ "" ∧ d = s.toUTF8

/-- TLS options as reading produces them. -/
structure ClientConfigTLS.Loaded (tls : ClientConfigTLS) : Prop where
  clientCert : ∀ d ∈ tls.clientCert, d.Loaded
  clientKey : ∀ d ∈ tls.clientKey, d.Loaded
  serverCaCert : ∀ d ∈ tls.serverCaCert, d.Loaded

/-- A profile as reading produces it: its TLS options loaded and its metadata keys normalized. -/
structure ClientConfigProfile.Loaded (toLowercase : String → String) (p : ClientConfigProfile) :
    Prop where
  tls : ∀ t ∈ p.tls, t.Loaded
  grpcMeta : ∀ k ∈ p.grpcMeta, normalizeGrpcMetaKey toLowercase k = k

/-- A configuration as reading produces it. -/
def ClientConfig.Loaded (toLowercase : String → String) (c : ClientConfig) : Prop :=
  ∀ k p, c.profiles.lookup k = some p → p.Loaded toLowercase

theorem stringToBytes_eq_some {s : Option String} {d : ByteArray} (h : stringToBytes s = some d) :
    ∃ val, val ≠ "" ∧ d = val.toUTF8 := by
  obtain ⟨val, -, hval⟩ := Option.bind_eq_some_iff.mp h
  by_cases he : val.isEmpty
  · rw [if_pos he] at hval
    cases hval
  · rw [if_neg he] at hval
    exact ⟨val, by simpa using he, (Option.some.inj hval).symm⟩

theorem stringToBytes_some {s : String} (h : s ≠ "") : stringToBytes (some s) = some s.toUTF8 := by
  simp [stringToBytes, h]

theorem dataSourceOf_loaded {path data : Option String} :
    ∀ d ∈ dataSourceOf path data, d.Loaded := by
  intro d hd
  cases path with
  | some p =>
    cases hd
    trivial
  | none =>
    obtain ⟨b, hb, rfl⟩ := Option.map_eq_some_iff.mp hd
    exact stringToBytes_eq_some hb

theorem TomlClientConfigTLS.toClientConfig_loaded {x : TomlClientConfigTLS} {tls : ClientConfigTLS}
    (h : x.toClientConfig = .ok tls) : tls.Loaded := by
  simp only [toClientConfig] at h
  obtain ⟨_, -, h⟩ := Steps.bind_eq_ok h
  obtain ⟨_, -, h⟩ := Steps.bind_eq_ok h
  obtain ⟨_, -, h⟩ := Steps.bind_eq_ok h
  cases h
  exact ⟨dataSourceOf_loaded, dataSourceOf_loaded, dataSourceOf_loaded⟩

/-- The metadata loop as a fold of inserts. -/
theorem normalizeGrpcMeta_eq (order : HashOrder (String × String))
    (m : Finmap fun _ : String => String) :
    normalizeGrpcMeta toLowercase order m =
      insertAll ((order (entries m)).map fun p => (normalizeGrpcMetaKey toLowercase p.1, p.2)) ∅ := by
  rw [normalizeGrpcMeta, insertAll, List.foldl_map]

/-- `to_client_config` of a profile: the TLS options converted, then the metadata normalized. -/
theorem TomlClientConfigProfile.toClientConfig_eq (order : HashOrder (String × String))
    (x : TomlClientConfigProfile) :
    x.toClientConfig toLowercase order =
      (x.tls.mapM TomlClientConfigTLS.toClientConfig).map fun tls =>
        ⟨x.address, x.«namespace», x.apiKey, tls, x.codec.map (·.toClientConfig),
          if x.grpcMeta ≠ ∅ then normalizeGrpcMeta toLowercase order x.grpcMeta else ∅⟩ := by
  rw [toClientConfig]
  cases x.tls with
  | none =>
    split_ifs <;> rfl
  | some tl =>
    cases tl.toClientConfig <;> split_ifs <;> rfl

/-- `from_toml` in its steps: the UTF-8 check, the blank check, then parsing, deserializing strictly
or not, and converting. -/
theorem ClientConfig.fromToml_eq (toml : Toml) (profileOrder : HashOrder (String × TomlClientConfigProfile))
    (orders : String → HashOrder (String × String)) (t : ByteArray) (o : ClientConfigFromTOMLOptions) :
    ClientConfig.fromToml toml toLowercase profileOrder orders t o =
      match String.fromUTF8? t with
      | none => .error (.loadError .utf8)
      | some s =>
        if Nexus.trim s.toList = [] then .ok ⟨∅⟩
        else (toml.fromStr s).mapError (.loadError ∘ .toml) >>= fun table =>
          (TomlClientConfig.deserialize o.strict table).mapError (.loadError ∘ .de) >>= fun x =>
            x.applyToClientConfig toLowercase profileOrder orders := by
  unfold fromToml
  cases String.fromUTF8? t with
  | none => rfl
  | some s =>
    by_cases hb : Nexus.trim s.toList = []
    · simp only [hb, if_true]
      rfl
    · simp only [hb, if_false]
      cases o.strict <;> rfl

/-- `from_toml` of a text that is not blank. -/
theorem ClientConfig.fromToml_toUTF8 {toml : Toml} {profileOrder : HashOrder (String × TomlClientConfigProfile)}
    {orders : String → HashOrder (String × String)} {s : String} (hblank : Nexus.trim s.toList ≠ [])
    (o : ClientConfigFromTOMLOptions) :
    ClientConfig.fromToml toml toLowercase profileOrder orders s.toUTF8 o =
      (toml.fromStr s).mapError (.loadError ∘ .toml) >>= fun table =>
        (TomlClientConfig.deserialize o.strict table).mapError (.loadError ∘ .de) >>= fun x =>
          x.applyToClientConfig toLowercase profileOrder orders := by
  rw [fromToml_eq, fromUTF8?_toUTF8]
  exact if_neg hblank

/-- What a read that succeeds went through: a blank text gives no profiles, and any other is
parsed, deserialized and converted. -/
theorem ClientConfig.fromToml_eq_ok {toml : Toml}
    {profileOrder : HashOrder (String × TomlClientConfigProfile)}
    {orders : String → HashOrder (String × String)} {t : ByteArray} {o : ClientConfigFromTOMLOptions}
    {c : ClientConfig} :
    ClientConfig.fromToml toml toLowercase profileOrder orders t o = .ok c ↔
      ∃ s, String.fromUTF8? t = some s ∧
        ((Nexus.trim s.toList = [] ∧ c = ⟨∅⟩) ∨
          (Nexus.trim s.toList ≠ [] ∧ ∃ table x, toml.fromStr s = .ok table ∧
            TomlClientConfig.deserialize o.strict table = .ok x ∧
            x.applyToClientConfig toLowercase profileOrder orders = .ok c)) := by
  rw [fromToml_eq]
  cases hs : String.fromUTF8? t with
  | none => simp only [reduceCtorEq, false_and, exists_false]
  | some s =>
    simp only [Option.some.injEq, exists_eq_left']
    by_cases hb : Nexus.trim s.toList = []
    · -- a blank text gives no profiles
      rw [if_pos hb]
      constructor
      · intro h
        exact .inl ⟨hb, (Except.ok.inj h).symm⟩
      · rintro (⟨-, rfl⟩ | ⟨hb', -⟩)
        · rfl
        · exact absurd hb hb'
    · rw [if_neg hb]
      constructor
      · intro h
        obtain ⟨table, htable, h⟩ := Steps.bind_eq_ok h
        obtain ⟨x, hx, h⟩ := Steps.bind_eq_ok h
        exact .inr ⟨hb, table, x, Steps.mapError_eq_ok htable, Steps.mapError_eq_ok hx, h⟩
      · rintro (⟨hb', -⟩ | ⟨-, table, x, htable, hx, h⟩)
        · exact absurd hb' hb
        · simp only [htable, hx, Except.mapError, bind, Except.bind]
          exact h

/-! Normalizing a normalized key changes nothing, as for the ASCII keys gRPC metadata carries. -/

section Idempotent

variable (hidem : ∀ k, normalizeGrpcMetaKey toLowercase (normalizeGrpcMetaKey toLowercase k) =
  normalizeGrpcMetaKey toLowercase k)
include hidem

theorem normalizeGrpcMeta_normalized (order : HashOrder (String × String))
    (m : Finmap fun _ : String => String) :
    ∀ k ∈ normalizeGrpcMeta toLowercase order m, normalizeGrpcMetaKey toLowercase k = k := by
  intro k hk
  rw [normalizeGrpcMeta_eq] at hk
  rcases mem_insertAll hk with hk | hk
  · rw [List.map_map] at hk
    obtain ⟨p, -, rfl⟩ := List.mem_map.mp hk
    exact hidem p.1
  · exact absurd hk Finmap.notMem_empty

theorem TomlClientConfigProfile.toClientConfig_loaded {order : HashOrder (String × String)}
    {x : TomlClientConfigProfile} {p : ClientConfigProfile}
    (h : x.toClientConfig toLowercase order = .ok p) : p.Loaded toLowercase := by
  rw [toClientConfig_eq] at h
  obtain ⟨tls, htls, rfl⟩ := Steps.map_eq_ok h
  constructor
  · intro t ht
    cases hx : x.tls with
    | none =>
      rw [hx] at htls
      cases htls
      cases ht
    | some tl =>
      rw [hx, Option.mapM_some] at htls
      obtain ⟨t', ht', rfl⟩ := Steps.map_eq_ok htls
      cases ht
      exact TomlClientConfigTLS.toClientConfig_loaded ht'
  · show ∀ k ∈ (if x.grpcMeta ≠ ∅ then normalizeGrpcMeta toLowercase order x.grpcMeta else ∅), _
    split_ifs
    · exact normalizeGrpcMeta_normalized hidem order x.grpcMeta
    · exact fun k hk => absurd hk Finmap.notMem_empty

theorem TomlClientConfig.applyToClientConfig_loaded {profileOrder : HashOrder (String × TomlClientConfigProfile)}
    {orders : String → HashOrder (String × String)} {x : TomlClientConfig} {c : ClientConfig}
    (h : x.applyToClientConfig toLowercase profileOrder orders = .ok c) :
    c.Loaded toLowercase := by
  obtain ⟨profiles, hp, rfl⟩ := Steps.map_eq_ok h
  refine tryInsertAll_forall (fun _ _ _ hb => TomlClientConfigProfile.toClientConfig_loaded hidem hb)
    (fun k b hb => ?_) hp
  rw [Finmap.lookup_empty] at hb
  cases hb

/-- Whatever `from_toml` returns, strict or not, is loaded. -/
theorem ClientConfig.fromToml_loaded {toml : Toml} {profileOrder : HashOrder (String × TomlClientConfigProfile)}
    {orders : String → HashOrder (String × String)} {t : ByteArray} {o : ClientConfigFromTOMLOptions}
    {c : ClientConfig} (h : ClientConfig.fromToml toml toLowercase profileOrder orders t o = .ok c) :
    c.Loaded toLowercase := by
  obtain ⟨s, -, ⟨-, rfl⟩ | ⟨-, table, x, -, -, h⟩⟩ := fromToml_eq_ok.mp h
  · -- a blank text has no profiles
    intro k p hp
    rw [Finmap.lookup_empty] at hp
    cases hp
  · exact TomlClientConfig.applyToClientConfig_loaded hidem h

end Idempotent

/-! ## Writing and reading back the TOML structs -/

theorem TomlClientConfigTLS.fieldValues_names (x : TomlClientConfigTLS) :
    x.fieldValues.map Prod.fst = tlsFields := rfl

theorem TomlClientConfigCodec.fieldValues_names (x : TomlClientConfigCodec) :
    x.fieldValues.map Prod.fst = codecFields := rfl

theorem TomlClientConfigProfile.fieldValues_names (x : TomlClientConfigProfile) :
    x.fieldValues.map Prod.fst = profileFields := rfl

theorem TomlClientConfigTLS.deserialize_serialize (denyUnknown : Bool) (x : TomlClientConfigTLS) :
    TomlClientConfigTLS.deserialize denyUnknown x.serialize = .ok x := by
  have hnd : (x.fieldValues.map Prod.fst).Nodup := by
    rw [fieldValues_names]
    decide
  have hdeny : denyUnknownFields tlsFields (serStruct x.fieldValues []) = .ok () :=
    denyUnknownFields_serStruct fun k hk => by rwa [fieldValues_names] at hk
  have hstr := fun k o h => deOption_serStruct deString_string hnd k o h
  rw [deserialize, serialize, deTable]
  simp only [bind, Except.bind, hdeny,
    deOption_serStruct deBool_boolean hnd "disabled" x.disabled rfl,
    hstr "client_cert_path" x.clientCertPath rfl, hstr "client_cert_data" x.clientCertData rfl,
    hstr "client_key_path" x.clientKeyPath rfl, hstr "client_key_data" x.clientKeyData rfl,
    hstr "server_ca_cert_path" x.serverCaCertPath rfl,
    hstr "server_ca_cert_data" x.serverCaCertData rfl, hstr "server_name" x.serverName rfl,
    deDefault_of_lookup ((lookup_serStruct_nil hnd "disable_host_verification").trans rfl)]
  cases denyUnknown <;> rfl

theorem TomlClientConfigCodec.deserialize_serialize (denyUnknown : Bool)
    (x : TomlClientConfigCodec) :
    TomlClientConfigCodec.deserialize denyUnknown x.serialize = .ok x := by
  have hnd : (x.fieldValues.map Prod.fst).Nodup := by
    rw [fieldValues_names]
    decide
  have hdeny : denyUnknownFields codecFields (serStruct x.fieldValues []) = .ok () :=
    denyUnknownFields_serStruct fun k hk => by rwa [fieldValues_names] at hk
  rw [deserialize, serialize, deTable]
  simp only [bind, Except.bind, hdeny,
    deOption_serStruct deString_string hnd "endpoint" x.endpoint rfl,
    deOption_serStruct deString_string hnd "auth" x.auth rfl]
  cases denyUnknown <;> rfl

theorem TomlClientConfigProfile.deserialize_serialize (denyUnknown : Bool)
    (x : TomlClientConfigProfile) :
    TomlClientConfigProfile.deserialize denyUnknown x.serialize = .ok x := by
  have hnd : (x.fieldValues.map Prod.fst).Nodup := by
    rw [fieldValues_names]
    decide
  have hdeny : denyUnknownFields profileFields (serStruct x.fieldValues []) = .ok () :=
    denyUnknownFields_serStruct fun k hk => by rwa [fieldValues_names] at hk
  have hstr := fun k o h => deOption_serStruct deString_string hnd k o h
  -- an empty `grpc_meta` is not written, and reads back as the default
  have hmeta : ∃ o, deOption (deMap deString) (serStruct x.fieldValues []) "grpc_meta" = .ok o ∧
      o.getD ∅ = x.grpcMeta := by
    by_cases hm : x.grpcMeta = ∅
    · exact ⟨none, deOption_serStruct (deMap_serMap deString_string) hnd "grpc_meta" none
        (by rw [fieldValues, if_pos hm]; rfl), hm.symm⟩
    · exact ⟨some x.grpcMeta, deOption_serStruct (deMap_serMap deString_string) hnd "grpc_meta" _
        (by rw [fieldValues, if_neg hm]; rfl), rfl⟩
  obtain ⟨o, ho, hgetD⟩ := hmeta
  rw [deserialize, serialize, deTable]
  simp only [bind, Except.bind, hdeny, hstr "address" x.address rfl,
    hstr "namespace" x.«namespace» rfl, hstr "api_key" x.apiKey rfl,
    deOption_serStruct (TomlClientConfigTLS.deserialize_serialize denyUnknown) hnd "tls" x.tls rfl,
    deOption_serStruct (TomlClientConfigCodec.deserialize_serialize denyUnknown) hnd "codec" x.codec
      rfl,
    ho, hgetD]
  cases denyUnknown <;> rfl

theorem TomlClientConfig.deserialize_serialize (denyUnknown : Bool) (x : TomlClientConfig) :
    TomlClientConfig.deserialize denyUnknown x.serialize = .ok x := by
  rw [deserialize, serialize]
  have hnd : ([("profile", some (Value.table (serMap TomlClientConfigProfile.serialize
      x.profiles)))].map Prod.fst).Nodup := List.nodup_singleton _
  have hdeny : denyUnknownFields ["profile"] (serStruct [("profile", some (Value.table
      (serMap TomlClientConfigProfile.serialize x.profiles)))] []) = .ok () :=
    denyUnknownFields_serStruct fun k hk => hk
  simp only [bind, Except.bind, hdeny,
    deOption_serStruct (deMap_serMap (TomlClientConfigProfile.deserialize_serialize denyUnknown))
      hnd "profile" (some x.profiles) rfl]
  cases denyUnknown <;> rfl

theorem TomlClientConfigTLS.serialize_canonical (x : TomlClientConfigTLS) : x.serialize.Canonical := by
  refine Table.Canonical.serStruct ?_ trivial
  simp only [fieldValues, List.forall_mem_cons, List.not_mem_nil, IsEmpty.forall_iff, implies_true, and_true]
  have hs := Value.canonical_of_mem_map_string
  refine ⟨Value.canonical_of_mem_map Value.boolean (fun _ => trivial), hs _, hs _, hs _, hs _, hs _,
    hs _, hs _, fun v hv => ?_⟩
  split_ifs at hv
  · cases hv
    trivial
  · cases hv

theorem TomlClientConfigCodec.serialize_canonical (x : TomlClientConfigCodec) :
    x.serialize.Canonical := by
  refine Table.Canonical.serStruct ?_ trivial
  simp only [fieldValues, List.forall_mem_cons, List.not_mem_nil, IsEmpty.forall_iff, implies_true, and_true]
  exact ⟨Value.canonical_of_mem_map_string _, Value.canonical_of_mem_map_string _⟩

theorem TomlClientConfigProfile.serialize_canonical (x : TomlClientConfigProfile) :
    x.serialize.Canonical := by
  refine Table.Canonical.serStruct ?_ trivial
  simp only [fieldValues, List.forall_mem_cons, List.not_mem_nil, IsEmpty.forall_iff, implies_true, and_true]
  have hs := Value.canonical_of_mem_map_string
  refine ⟨hs _, hs _, hs _, Value.canonical_of_mem_map _ TomlClientConfigTLS.serialize_canonical,
    Value.canonical_of_mem_map _ TomlClientConfigCodec.serialize_canonical, fun v hv => ?_⟩
  split_ifs at hv
  · cases hv
  · cases hv
    exact Table.Canonical.serMap (fun s => show (Value.string s).Canonical from trivial) x.grpcMeta

theorem TomlClientConfig.serialize_canonical (x : TomlClientConfig) : x.serialize.Canonical := by
  refine Table.Canonical.serStruct ?_ trivial
  simp only [List.forall_mem_cons, List.not_mem_nil, IsEmpty.forall_iff, implies_true, and_true]
  intro v hv
  cases hv
  exact Table.Canonical.serMap TomlClientConfigProfile.serialize_canonical x.profiles

theorem TomlClientConfig.serialize_ne_nil (x : TomlClientConfig) : x.serialize ≠ [] :=
  List.cons_ne_nil _ _

/-! ## Converting what was written back -/

theorem checkPathOrData_populateSource (pathName dataName : String) (src : Option DataSource) :
    checkPathOrData pathName dataName (populateSource src none none).1
      (populateSource src none none).2 = .ok () := by
  rcases src with _ | _ | _ <;> rfl

theorem dataSourceOf_populateSource {src : Option DataSource} (h : ∀ d ∈ src, d.Loaded) :
    dataSourceOf (populateSource src none none).1 (populateSource src none none).2 = src := by
  rcases src with _ | p | d
  · rfl
  · rfl
  · obtain ⟨s, hs, rfl⟩ := h _ rfl
    simp only [populateSource, dataSourceOf, fromUtf8Lossy_toUTF8, stringToBytes_some hs]
    rfl

theorem TomlClientConfigTLS.toClientConfig_populate {tls : ClientConfigTLS} (h : tls.Loaded) :
    (TomlClientConfigTLS.new.populateFromClientConfig tls).toClientConfig = .ok tls := by
  simp only [toClientConfig, populateFromClientConfig, new, checkPathOrData_populateSource,
    dataSourceOf_populateSource h.clientCert, dataSourceOf_populateSource h.clientKey,
    dataSourceOf_populateSource h.serverCaCert]
  rfl

theorem TomlClientConfigCodec.toClientConfig_populate (codec : ClientConfigCodec) :
    (TomlClientConfigCodec.new.populateFromClientConfig codec).toClientConfig = codec := rfl

/-- Metadata whose keys are normalized is its own normalization, in any iteration order. -/
theorem normalizeGrpcMeta_of_normalized {order : HashOrder (String × String)} (horder : order.IsPerm)
    {m : Finmap fun _ : String => String} (hm : ∀ k ∈ m, normalizeGrpcMetaKey toLowercase k = k) :
    normalizeGrpcMeta toLowercase order m = m := by
  have hid : (order (entries m)).map (fun p => (normalizeGrpcMetaKey toLowercase p.1, p.2)) =
      order (entries m) := by
    refine (List.map_congr_left fun p hp => ?_).trans (List.map_id _)
    obtain ⟨k, v⟩ := p
    have hkv : m.lookup k = some v := mem_entries.mp ((horder _).mem_iff.mp hp)
    rw [hm k (Finmap.mem_of_lookup_eq_some hkv)]
    rfl
  rw [normalizeGrpcMeta_eq, hid, insertAll_perm_entries (horder _)]

theorem TomlClientConfigProfile.toClientConfig_populate {order₂ order₃ : HashOrder (String × String)}
    (h₂ : order₂.IsPerm) (h₃ : order₃.IsPerm) {p : ClientConfigProfile}
    (hp : p.Loaded toLowercase) :
    (TomlClientConfigProfile.new.populateFromClientConfig toLowercase order₂ p).toClientConfig
      toLowercase order₃ = .ok p := by
  have hmeta : ∀ order : HashOrder (String × String), order.IsPerm →
      (if p.grpcMeta ≠ ∅ then normalizeGrpcMeta toLowercase order p.grpcMeta else ∅) = p.grpcMeta := by
    intro order horder
    split_ifs with hne
    · exact normalizeGrpcMeta_of_normalized horder hp.grpcMeta
    · exact (not_not.mp hne).symm
  have htls : (p.tls.map TomlClientConfigTLS.new.populateFromClientConfig).mapM
      TomlClientConfigTLS.toClientConfig = .ok p.tls := by
    cases ht : p.tls with
    | none => rfl
    | some tls =>
      rw [Option.map_some, Option.mapM_some,
        TomlClientConfigTLS.toClientConfig_populate (hp.tls tls ht)]
      rfl
  rw [toClientConfig_eq]
  simp only [populateFromClientConfig, hmeta order₂ h₂, hmeta order₃ h₃, htls, Option.map_map,
    Function.comp_def, TomlClientConfigCodec.toClientConfig_populate, Option.map_id']
  rfl

/-- The profiles written, converted back, are the profiles. -/
theorem TomlClientConfig.applyToClientConfig_populate {profileOrder₃ : HashOrder (String × TomlClientConfigProfile)}
    (hp₃ : profileOrder₃.IsPerm) {orders₂ orders₃ : String → HashOrder (String × String)}
    (h₂ : ∀ k, (orders₂ k).IsPerm) (h₃ : ∀ k, (orders₃ k).IsPerm) {c : ClientConfig}
    (hc : c.Loaded toLowercase) :
    (TomlClientConfig.new.populateFromClientConfig toLowercase orders₂ c).applyToClientConfig
      toLowercase profileOrder₃ orders₃ = .ok c := by
  have hconv : ∀ p ∈ entries c.profiles,
      (TomlClientConfigProfile.new.populateFromClientConfig toLowercase (orders₂ p.1) p.2).toClientConfig
        toLowercase (orders₃ p.1) = .ok p.2 := fun p hp =>
    TomlClientConfigProfile.toClientConfig_populate (h₂ p.1) (h₃ p.1) (hc p.1 p.2 (mem_entries.mp hp))
  -- in key order the loop gives the profiles back, so in any order that visits each once
  have hkey : tryInsertAll (fun k v => v.toClientConfig toLowercase (orders₃ k))
      (entries (TomlClientConfig.new.populateFromClientConfig toLowercase orders₂ c).profiles) ∅ =
        .ok c.profiles := by
    rw [populateFromClientConfig, entries_mapValues,
      tryInsertAll_map (fun k v => TomlClientConfigProfile.new.populateFromClientConfig toLowercase
        (orders₂ k) v) hconv,
      insertAll_perm_entries (List.Perm.refl _)]
  rw [applyToClientConfig,
    (tryInsertAll_perm (hp₃ _).symm (nodup_keys_entries _) ∅ c.profiles).mp hkey]
  rfl

/-! ## A `toml` library that reads back what it writes -/

/-- The text format of `Serde` as the `toml` crate: a document is a table's encoding. -/
def textToml : Toml where
  fromStr s := match decode s.length s.toList with
    | some (.table t, []) => .ok t
    | _ => .error "expected a table"
  toStringPretty t := .ok (String.ofList (encode (.table t)))

theorem textToml_fromStr_encode (t : Table) :
    textToml.fromStr (String.ofList (encode (.table t))) = .ok t := by
  have h := decode_encode (.table t) []
  rw [List.append_nil] at h
  simp only [textToml, String.length_ofList, String.toList_ofList, h]

theorem decode_eq_table {n : Nat} {l : List Char} {t : Table} {r : List Char}
    (h : decode n l = some (.table t, r)) : ∃ l', l = 'T' :: l' := by
  rcases n with _ | n
  · simp [decode] at h
  rcases l with _ | ⟨c, l'⟩
  · simp [decode] at h
  by_cases hc : c = 'T'
  · exact ⟨l', by rw [hc]⟩
  · unfold decode at h
    split at h <;> simp_all

theorem trim_cons_T (l : List Char) : Nexus.trim ('T' :: l) ≠ [] := by
  intro h
  simp only [Nexus.trim, List.reverse_eq_nil_iff, List.dropWhile_eq_nil_iff] at h
  have hT : 'T' ∈ (List.dropWhile Nexus.isWhitespace ('T' :: l)).reverse := by
    rw [List.dropWhile_cons_of_neg (by decide)]
    simp
  exact absurd (h 'T' hT) (by decide)

theorem textToml_lawful : textToml.Lawful where
  toStringPretty_fromStr t _ := ⟨_, rfl, textToml_fromStr_encode t⟩
  fromStr_blank s t hb h := by
    simp only [textToml] at h
    split at h
    · next t' heq =>
      obtain ⟨l', hl'⟩ := decode_eq_table heq
      rw [hl'] at hb
      exact absurd hb (trim_cons_T l')
    · cases h

theorem toLower_toLower (c : Char) : c.toLower.toLower = c.toLower := by
  simp only [Char.toLower]
  split
  · split
    · next h1 h2 =>
      simp only [UInt32.le_iff_toNat_le, UInt32.toNat_add, seval] at h1 h2
      omega
    · simp
  · rfl

theorem normalizeGrpcMetaKey_toLower (k : String) :
    normalizeGrpcMetaKey String.toLower (normalizeGrpcMetaKey String.toLower k) =
      normalizeGrpcMetaKey String.toLower k := by
  simp only [normalizeGrpcMetaKey, String.toLower, String.map_map]
  refine congrArg (fun f => String.map f k) (funext fun c => ?_)
  by_cases h : c.toLower = '_'
  · simp only [Function.comp_apply, h, if_true]
    decide
  · simp only [Function.comp_apply, h, if_false, toLower_toLower]

/-! ## Two metadata keys that normalize alike -/

/-- A document whose profile `default` has two `grpc_meta` keys that normalize alike. -/
def collidingGrpcMetaToml : String := "[profile.default.grpc_meta]\nA = \"1\"\na = \"2\"\n"

theorem trim_collidingGrpcMetaToml : Nexus.trim collidingGrpcMetaToml.toList ≠ [] := by
  simp only [collidingGrpcMetaToml]
  decide

/-- Both keys lowercase to `a`. -/
theorem toLower_colliding : "A".toLower = "a" ∧ "a".toLower = "a" := by
  constructor <;> apply String.toList_inj.1 <;> simp [String.toLower]

/-- The table `toml::from_str` reads from it. -/
def collidingGrpcMetaTable : Table :=
  [("profile", .table [("default", .table [("grpc_meta",
    .table [("A", .string "1"), ("a", .string "2")])])])]

/-- The profile both structs deserialize from it. -/
def collidingTomlProfile : TomlClientConfigProfile :=
  ⟨none, none, none, none, none, insertAll [("A", "1"), ("a", "2")] ∅⟩

/-- The configuration with one profile, `default`, whose metadata maps `a` to `v`. -/
def collidingConfig (v : String) : ClientConfig :=
  ⟨Finmap.singleton "default" ⟨none, none, none, none, none, Finmap.singleton "a" v⟩⟩

theorem deserialize_collidingGrpcMetaTable (denyUnknown : Bool) :
    TomlClientConfig.deserialize denyUnknown collidingGrpcMetaTable =
      .ok ⟨insertAll [("default", collidingTomlProfile)] ∅⟩ := by
  cases denyUnknown <;> rfl

theorem collidingTomlProfile_toClientConfig (order : HashOrder (String × String)) :
    collidingTomlProfile.toClientConfig toLowercase order =
      .ok ⟨none, none, none, none, none, insertAll ((order [("A", "1"), ("a", "2")]).map
        fun p => (normalizeGrpcMetaKey toLowercase p.1, p.2)) ∅⟩ := by
  have hentries : entries collidingTomlProfile.grpcMeta = [("A", "1"), ("a", "2")] :=
    entries_insertAll (by decide)
  have hne : collidingTomlProfile.grpcMeta ≠ ∅ := by
    intro h
    have hA : collidingTomlProfile.grpcMeta.lookup "A" = some "1" :=
      lookup_insertAll_of_mem (by decide) List.mem_cons_self ∅
    rw [h, Finmap.lookup_empty] at hA
    cases hA
  rw [TomlClientConfigProfile.toClientConfig_eq, if_pos hne, normalizeGrpcMeta_eq, hentries]
  rfl

/-- Read with any iteration orders, a document that the `toml` library reads as
`collidingGrpcMetaTable` gives the profile `default` whose metadata holds the normalized keys,
inserted in the order its map is iterated. -/
theorem fromToml_collidingGrpcMetaTable {toml : Toml} {doc : String}
    (hblank : Nexus.trim doc.toList ≠ []) (hparse : toml.fromStr doc = .ok collidingGrpcMetaTable)
    {profileOrder : HashOrder (String × TomlClientConfigProfile)} (hpo : profileOrder.IsPerm)
    (orders : String → HashOrder (String × String)) (o : ClientConfigFromTOMLOptions) :
    ClientConfig.fromToml toml toLowercase profileOrder orders doc.toUTF8 o =
      .ok ⟨Finmap.singleton "default" ⟨none, none, none, none, none,
        insertAll ((orders "default" [("A", "1"), ("a", "2")]).map
          fun p => (normalizeGrpcMetaKey toLowercase p.1, p.2)) ∅⟩⟩ := by
  rw [ClientConfig.fromToml_toUTF8 hblank, hparse]
  simp only [Except.mapError, deserialize_collidingGrpcMetaTable, bind, Except.bind]
  -- one profile: every order visits it alone
  rw [TomlClientConfig.applyToClientConfig, entries_insertAll (List.pairwise_singleton _ _),
    List.perm_singleton.mp (hpo _)]
  simp only [tryInsertAll, collidingTomlProfile_toClientConfig]
  rfl

theorem normalizeGrpcMetaKey_colliding (hA : toLowercase "A" = "a") (ha : toLowercase "a" = "a") :
    normalizeGrpcMetaKey toLowercase "A" = "a" ∧ normalizeGrpcMetaKey toLowercase "a" = "a" := by
  constructor
  · rw [normalizeGrpcMetaKey, hA]
    exact String.toList_inj.1 (by simp)
  · rw [normalizeGrpcMetaKey, ha]
    exact String.toList_inj.1 (by simp)

section Colliding

variable {toml : Toml} {doc : String} (hblank : Nexus.trim doc.toList ≠ [])
  (hparse : toml.fromStr doc = .ok collidingGrpcMetaTable)
  (hA : toLowercase "A" = "a") (ha : toLowercase "a" = "a")
  {profileOrder : HashOrder (String × TomlClientConfigProfile)} (hpo : profileOrder.IsPerm)
include hblank hparse hA ha hpo

/-- Iterated in key order, the metadata keeps the value of `a`. -/
theorem fromToml_collidingGrpcMetaTable_id (o : ClientConfigFromTOMLOptions) :
    ClientConfig.fromToml toml toLowercase profileOrder (fun _ => id) doc.toUTF8 o =
      .ok (collidingConfig "2") := by
  obtain ⟨hnA, hna⟩ := normalizeGrpcMetaKey_colliding hA ha
  rw [fromToml_collidingGrpcMetaTable hblank hparse hpo, id]
  simp only [List.map_cons, List.map_nil, hnA, hna]
  rw [insertAll, List.foldl_cons, List.foldl_cons, List.foldl_nil, Finmap.insert_insert]
  rfl

/-- Iterated the other way, it keeps the value of `A`. -/
theorem fromToml_collidingGrpcMetaTable_reverse (o : ClientConfigFromTOMLOptions) :
    ClientConfig.fromToml toml toLowercase profileOrder (fun _ => List.reverse) doc.toUTF8 o =
      .ok (collidingConfig "1") := by
  obtain ⟨hnA, hna⟩ := normalizeGrpcMetaKey_colliding hA ha
  rw [fromToml_collidingGrpcMetaTable hblank hparse hpo]
  simp only [List.reverse_cons, List.reverse_nil, List.nil_append, List.cons_append, List.map_cons,
    List.map_nil, hnA, hna]
  rw [insertAll, List.foldl_cons, List.foldl_cons, List.foldl_nil, Finmap.insert_insert]
  rfl

end Colliding

theorem collidingConfig_ne : collidingConfig "2" ≠ collidingConfig "1" := by
  intro h
  have hmeta := congrArg (fun c : ClientConfig =>
    (c.profiles.lookup "default").map fun p => p.grpcMeta.lookup "a") h
  simp [collidingConfig, Finmap.lookup_singleton_eq] at hmeta


/-- A `toml` library that reads the colliding document as the `toml` crate does. -/
def collidingToml : Toml where
  fromStr s := if s = collidingGrpcMetaToml then .ok collidingGrpcMetaTable else .error "unsupported"
  toStringPretty t := .ok (String.ofList (encode (.table t)))

/-! ## The round trip -/

/-- What `from_toml` returned, `to_toml` writes, and `from_toml` reads it back, strict or not, with
any iteration orders of the maps. -/
theorem ClientConfig.fromToml_toToml {toml : Toml} (htoml : toml.Lawful)
    (hidem : ∀ k, normalizeGrpcMetaKey toLowercase (normalizeGrpcMetaKey toLowercase k) =
      normalizeGrpcMetaKey toLowercase k)
    {profileOrder₁ profileOrder₃ : HashOrder (String × TomlClientConfigProfile)} (hp₃ : profileOrder₃.IsPerm)
    {orders₁ orders₂ orders₃ : String → HashOrder (String × String)}
    (h₂ : ∀ k, (orders₂ k).IsPerm) (h₃ : ∀ k, (orders₃ k).IsPerm) {t : ByteArray}
    {o₁ : ClientConfigFromTOMLOptions} {c : ClientConfig}
    (h : ClientConfig.fromToml toml toLowercase profileOrder₁ orders₁ t o₁ = .ok c)
    (o : ClientConfigFromTOMLOptions) :
    ∃ b, c.toToml toml toLowercase orders₂ = .ok b ∧
      ClientConfig.fromToml toml toLowercase profileOrder₃ orders₃ b o = .ok c := by
  have hc : c.Loaded toLowercase := fromToml_loaded hidem h
  obtain ⟨s, hs, hparse⟩ := htoml.toStringPretty_fromStr _
    (TomlClientConfig.new.populateFromClientConfig toLowercase orders₂ c).serialize_canonical
  have hblank : Nexus.trim s.toList ≠ [] := fun hb =>
    TomlClientConfig.serialize_ne_nil _ (htoml.fromStr_blank s _ hb hparse)
  refine ⟨s.toUTF8, ?_, ?_⟩
  · simp only [toToml, hs]
    rfl
  · rw [fromToml_toUTF8 hblank, hparse]
    simp only [Except.mapError, TomlClientConfig.deserialize_serialize, bind, Except.bind]
    exact TomlClientConfig.applyToClientConfig_populate hp₃ h₂ h₃ hc

/-- The round trip of what the text format reads from the colliding table. -/
theorem fromToml_toToml_collidingGrpcMeta :
    ∃ b, (collidingConfig "2").toToml textToml String.toLower (fun _ => id) = .ok b ∧
      ClientConfig.fromToml textToml String.toLower id (fun _ => id) b ⟨true⟩ =
        .ok (collidingConfig "2") := by
  have hblank : Nexus.trim (String.ofList (encode (.table collidingGrpcMetaTable))).toList ≠ [] := by
    rw [String.toList_ofList]
    exact trim_cons_T _
  have hid : HashOrder.IsPerm (id : HashOrder (String × TomlClientConfigProfile)) :=
    fun _ => List.Perm.refl _
  have hread := fromToml_collidingGrpcMetaTable_id hblank (textToml_fromStr_encode _)
    toLower_colliding.1 toLower_colliding.2 hid ⟨false⟩
  exact ClientConfig.fromToml_toToml textToml_lawful normalizeGrpcMetaKey_toLower
    (fun _ => List.Perm.refl _) (fun _ _ => List.Perm.refl _) (fun _ _ => List.Perm.refl _) hread
    ⟨true⟩

/-! ## Strict and lenient reads -/

theorem TomlClientConfigTLS.deserialize_lenient {v : Value} {x : TomlClientConfigTLS}
    (h : TomlClientConfigTLS.deserialize true v = .ok x) :
    TomlClientConfigTLS.deserialize false v = .ok x :=
  bind_check_eq_ok h

theorem TomlClientConfigCodec.deserialize_lenient {v : Value} {x : TomlClientConfigCodec}
    (h : TomlClientConfigCodec.deserialize true v = .ok x) :
    TomlClientConfigCodec.deserialize false v = .ok x :=
  bind_check_eq_ok h

theorem TomlClientConfigProfile.deserialize_lenient {v : Value} {x : TomlClientConfigProfile}
    (h : TomlClientConfigProfile.deserialize true v = .ok x) :
    TomlClientConfigProfile.deserialize false v = .ok x := by
  rw [deserialize] at h ⊢
  obtain ⟨t, ht, h⟩ := Steps.bind_eq_ok h
  obtain ⟨_, -, h⟩ := Steps.bind_eq_ok h
  obtain ⟨address, haddress, h⟩ := Steps.bind_eq_ok h
  obtain ⟨ns, hns, h⟩ := Steps.bind_eq_ok h
  obtain ⟨apiKey, hapiKey, h⟩ := Steps.bind_eq_ok h
  obtain ⟨tls, htls, h⟩ := Steps.bind_eq_ok h
  obtain ⟨codec, hcodec, h⟩ := Steps.bind_eq_ok h
  obtain ⟨grpcMeta, hgrpcMeta, h⟩ := Steps.bind_eq_ok h
  simp only [ht, bind, Except.bind, Bool.false_eq_true, if_false, haddress, hns, hapiKey,
    deOption_mono (fun _ _ => TomlClientConfigTLS.deserialize_lenient) htls,
    deOption_mono (fun _ _ => TomlClientConfigCodec.deserialize_lenient) hcodec, hgrpcMeta]
  exact h

theorem TomlClientConfig.deserialize_lenient {t : Table} {x : TomlClientConfig}
    (h : TomlClientConfig.deserialize true t = .ok x) : TomlClientConfig.deserialize false t = .ok x := by
  rw [deserialize] at h ⊢
  obtain ⟨_, -, h⟩ := Steps.bind_eq_ok h
  obtain ⟨profiles, hprofiles, h⟩ := Steps.bind_eq_ok h
  simp only [deOption_mono (fun _ _ => deMap_mono fun _ _ => TomlClientConfigProfile.deserialize_lenient) hprofiles]
  exact h

/-- A strict read that succeeds gives what a lenient read gives, with the same iteration orders. -/
theorem ClientConfig.fromToml_lenient_of_strict {toml : Toml}
    {profileOrder : HashOrder (String × TomlClientConfigProfile)}
    {orders : String → HashOrder (String × String)} {t : ByteArray} {c : ClientConfig}
    (h : ClientConfig.fromToml toml toLowercase profileOrder orders t ⟨true⟩ = .ok c) :
    ClientConfig.fromToml toml toLowercase profileOrder orders t ⟨false⟩ = .ok c := by
  obtain ⟨s, hs, hblank | ⟨hb, table, x, htable, hx, h⟩⟩ := fromToml_eq_ok.mp h
  · exact fromToml_eq_ok.mpr ⟨s, hs, .inl hblank⟩
  · exact fromToml_eq_ok.mpr
      ⟨s, hs, .inr ⟨hb, table, x, htable, TomlClientConfig.deserialize_lenient hx, h⟩⟩

example :
    ClientConfig.fromToml collidingToml String.toLower id (fun _ => id) collidingGrpcMetaToml.toUTF8
      ⟨false⟩ = .ok (collidingConfig "2") :=
  ClientConfig.fromToml_lenient_of_strict (fromToml_collidingGrpcMetaTable_id trim_collidingGrpcMetaToml
    (by simp [collidingToml]) toLower_colliding.1 toLower_colliding.2 (fun _ => List.Perm.refl _)
    ⟨true⟩)

/-! ## Reads that do not depend on the iteration order -/

/-- No two metadata keys of one profile normalize alike. -/
def TomlClientConfig.NoCollidingGrpcMeta (toLowercase : String → String) (x : TomlClientConfig) :
    Prop :=
  ∀ k p, x.profiles.lookup k = some p → ∀ k₁ ∈ p.grpcMeta, ∀ k₂ ∈ p.grpcMeta,
    normalizeGrpcMetaKey toLowercase k₁ = normalizeGrpcMetaKey toLowercase k₂ → k₁ = k₂

/-- Metadata none of whose keys normalize alike normalizes to one map in any iteration order. -/
theorem normalizeGrpcMeta_perm {order₁ order₂ : HashOrder (String × String)}
    (h₁ : order₁.IsPerm) (h₂ : order₂.IsPerm) {m : Finmap fun _ : String => String}
    (hinj : ∀ k₁ ∈ m, ∀ k₂ ∈ m,
      normalizeGrpcMetaKey toLowercase k₁ = normalizeGrpcMetaKey toLowercase k₂ → k₁ = k₂) :
    normalizeGrpcMeta toLowercase order₁ m = normalizeGrpcMeta toLowercase order₂ m := by
  have hkeys : ∀ p ∈ order₁ (entries m), p.1 ∈ m := by
    rintro ⟨k, v⟩ hp
    exact Finmap.mem_of_lookup_eq_some (mem_entries.mp ((h₁ _).mem_iff.mp hp))
  have hnd : ((order₁ (entries m)).map Prod.fst).Nodup :=
    ((h₁ _).map Prod.fst).nodup_iff.mpr (nodup_keys_entries m)
  rw [normalizeGrpcMeta_eq, normalizeGrpcMeta_eq]
  refine insertAll_perm (((h₁ _).trans (h₂ _).symm).map _) ?_ ∅
  have hmap : ((order₁ (entries m)).map fun p => (normalizeGrpcMetaKey toLowercase p.1, p.2)).map
      Prod.fst = ((order₁ (entries m)).map Prod.fst).map (normalizeGrpcMetaKey toLowercase) := by
    simp only [List.map_map, Function.comp_def]
  rw [hmap]
  refine hnd.map_on fun k₁ hk₁ k₂ hk₂ h => hinj k₁ ?_ k₂ ?_ h
  · obtain ⟨p, hp, rfl⟩ := List.mem_map.mp hk₁
    exact hkeys p hp
  · obtain ⟨p, hp, rfl⟩ := List.mem_map.mp hk₂
    exact hkeys p hp

theorem TomlClientConfigProfile.toClientConfig_orders {order₁ order₂ : HashOrder (String × String)}
    (h₁ : order₁.IsPerm) (h₂ : order₂.IsPerm) {x : TomlClientConfigProfile}
    (hinj : ∀ k₁ ∈ x.grpcMeta, ∀ k₂ ∈ x.grpcMeta,
      normalizeGrpcMetaKey toLowercase k₁ = normalizeGrpcMetaKey toLowercase k₂ → k₁ = k₂) :
    x.toClientConfig toLowercase order₁ = x.toClientConfig toLowercase order₂ := by
  rw [toClientConfig_eq, toClientConfig_eq, normalizeGrpcMeta_perm h₁ h₂ hinj]

theorem ClientConfig.mk_map_eq_ok {e : Except ConfigError (Finmap fun _ : String => ClientConfigProfile)}
    {c : ClientConfig} : ClientConfig.mk <$> e = .ok c ↔ e = .ok c.profiles := by
  constructor
  · intro h
    obtain ⟨p, rfl, rfl⟩ := Steps.map_eq_ok h
    rfl
  · intro h
    rw [h]
    rfl

section Orders

variable {profileOrder₁ profileOrder₂ : HashOrder (String × TomlClientConfigProfile)}
  (hp₁ : profileOrder₁.IsPerm) (hp₂ : profileOrder₂.IsPerm)
  {orders₁ orders₂ : String → HashOrder (String × String)}
  (h₁ : ∀ k, (orders₁ k).IsPerm) (h₂ : ∀ k, (orders₂ k).IsPerm)
include hp₁ hp₂ h₁ h₂

/-- A conversion that succeeds gives one config in any iteration orders. The profile loop stops at
the first profile that fails, so which error is returned does depend on the profile order. -/
theorem TomlClientConfig.applyToClientConfig_orders {x : TomlClientConfig}
    (hno : x.NoCollidingGrpcMeta toLowercase) (c : ClientConfig) :
    x.applyToClientConfig toLowercase profileOrder₁ orders₁ = .ok c ↔
      x.applyToClientConfig toLowercase profileOrder₂ orders₂ = .ok c := by
  unfold applyToClientConfig
  rw [ClientConfig.mk_map_eq_ok, ClientConfig.mk_map_eq_ok]
  -- first the metadata orders, profile by profile, then the order of the profiles
  have hsame : tryInsertAll (fun k (v : TomlClientConfigProfile) => v.toClientConfig toLowercase
      (orders₁ k)) (profileOrder₁ (entries x.profiles)) ∅ =
        tryInsertAll (fun k v => v.toClientConfig toLowercase (orders₂ k))
          (profileOrder₁ (entries x.profiles)) ∅ :=
    tryInsertAll_congr (fun p hp => TomlClientConfigProfile.toClientConfig_orders (h₁ p.1) (h₂ p.1)
      (hno p.1 p.2 (mem_entries.mp ((hp₁ _).mem_iff.mp hp)))) ∅
  have hnd : ((profileOrder₁ (entries x.profiles)).map Prod.fst).Nodup :=
    ((hp₁ _).map Prod.fst).nodup_iff.mpr (nodup_keys_entries _)
  rw [hsame]
  exact tryInsertAll_perm ((hp₁ _).trans (hp₂ _).symm) hnd ∅ c.profiles

/-- Where no two metadata keys of a profile normalize alike, a read that succeeds returns one config
whatever orders the maps are iterated in. -/
theorem ClientConfig.fromToml_orders {toml : Toml} {t : ByteArray} {o : ClientConfigFromTOMLOptions}
    (hno : ∀ s table x, String.fromUTF8? t = some s → toml.fromStr s = .ok table →
      TomlClientConfig.deserialize o.strict table = .ok x → x.NoCollidingGrpcMeta toLowercase)
    (c : ClientConfig) :
    ClientConfig.fromToml toml toLowercase profileOrder₁ orders₁ t o = .ok c ↔
      ClientConfig.fromToml toml toLowercase profileOrder₂ orders₂ t o = .ok c := by
  -- both reads agree up to the conversion of the profiles, which gives one config either way
  have hconv : ∀ s table x, String.fromUTF8? t = some s → toml.fromStr s = .ok table →
      TomlClientConfig.deserialize o.strict table = .ok x →
      (x.applyToClientConfig toLowercase profileOrder₁ orders₁ = .ok c ↔
        x.applyToClientConfig toLowercase profileOrder₂ orders₂ = .ok c) :=
    fun s table x hs ht hd =>
      TomlClientConfig.applyToClientConfig_orders hp₁ hp₂ h₁ h₂ (hno s table x hs ht hd) c
  rw [fromToml_eq_ok, fromToml_eq_ok]
  constructor
  · rintro ⟨s, hs, hblank | ⟨hb, table, x, ht, hd, h⟩⟩
    · exact ⟨s, hs, .inl hblank⟩
    · exact ⟨s, hs, .inr ⟨hb, table, x, ht, hd, (hconv s table x hs ht hd).mp h⟩⟩
  · rintro ⟨s, hs, hblank | ⟨hb, table, x, ht, hd, h⟩⟩
    · exact ⟨s, hs, .inl hblank⟩
    · exact ⟨s, hs, .inr ⟨hb, table, x, ht, hd, (hconv s table x hs ht hd).mpr h⟩⟩

end Orders

theorem fromToml_orders_collidingGrpcMeta :
    ClientConfig.fromToml collidingToml id id (fun _ => id) collidingGrpcMetaToml.toUTF8 ⟨true⟩ =
        .ok (collidingConfig "2") ↔
      ClientConfig.fromToml collidingToml id List.reverse (fun _ => List.reverse)
        collidingGrpcMetaToml.toUTF8 ⟨true⟩ = .ok (collidingConfig "2") := by
  refine ClientConfig.fromToml_orders (fun _ => List.Perm.refl _) (fun l => List.reverse_perm l)
    (fun _ _ => List.Perm.refl _) (fun _ l => List.reverse_perm l) ?_ _
  intro s table x hs ht hx
  rw [fromUTF8?_toUTF8, Option.some.injEq] at hs
  subst hs
  have htable : table = collidingGrpcMetaTable := by
    simp only [collidingToml, if_pos, Except.ok.injEq] at ht
    exact ht.symm
  subst htable
  rw [deserialize_collidingGrpcMetaTable, Except.ok.injEq] at hx
  subst hx
  intro k p hp k₁ hk₁ k₂ hk₂ hn
  have hp : p = collidingTomlProfile := by
    by_cases hk : k = "default"
    · subst hk
      have hl : (insertAll [("default", collidingTomlProfile)] ∅).lookup "default" =
          some collidingTomlProfile :=
        lookup_insertAll_of_mem (by simp) List.mem_cons_self ∅
      rw [hl] at hp
      exact (Option.some.inj hp).symm
    · rw [lookup_insertAll_of_not_mem (by simpa using hk), Finmap.lookup_empty] at hp
      cases hp
  subst hp
  have hkeys : ∀ k ∈ collidingTomlProfile.grpcMeta, k = "A" ∨ k = "a" := by
    intro k hk
    rcases mem_insertAll hk with hk | hk
    · simpa using hk
    · exact absurd hk Finmap.notMem_empty
  -- without lowercasing, `A` and `a` stay apart
  rcases hkeys k₁ hk₁ with rfl | rfl <;> rcases hkeys k₂ hk₂ with rfl | rfl
  · rfl
  · simpa [normalizeGrpcMetaKey] using congrArg String.toList hn
  · simpa [normalizeGrpcMetaKey] using congrArg String.toList hn
  · rfl

/-! ## Reads that disagree -/

/-- Strict with one iteration order and lenient with another, the reads of one document differ. -/
theorem fromToml_collidingGrpcMeta {toml : Toml}
    (hparse : toml.fromStr collidingGrpcMetaToml = .ok collidingGrpcMetaTable)
    (hA : toLowercase "A" = "a") (ha : toLowercase "a" = "a")
    {profileOrder₁ profileOrder₂ : HashOrder (String × TomlClientConfigProfile)}
    (hp₁ : profileOrder₁.IsPerm) (hp₂ : profileOrder₂.IsPerm) :
    ClientConfig.fromToml toml toLowercase profileOrder₁ (fun _ => id) collidingGrpcMetaToml.toUTF8
        ⟨true⟩ = .ok (collidingConfig "2") ∧
      ClientConfig.fromToml toml toLowercase profileOrder₂ (fun _ => List.reverse)
        collidingGrpcMetaToml.toUTF8 ⟨false⟩ = .ok (collidingConfig "1") ∧
      collidingConfig "2" ≠ collidingConfig "1" := by
  exact ⟨fromToml_collidingGrpcMetaTable_id trim_collidingGrpcMetaToml hparse hA ha hp₁ ⟨true⟩,
    fromToml_collidingGrpcMetaTable_reverse trim_collidingGrpcMetaToml hparse hA ha hp₂ ⟨false⟩,
    collidingConfig_ne⟩

theorem fromToml_collidingGrpcMeta_toLower :
    (∀ l : List (String × TomlClientConfigProfile), (id l).Perm l) ∧
      ClientConfig.fromToml collidingToml String.toLower id (fun _ => id)
        collidingGrpcMetaToml.toUTF8 ⟨true⟩ = .ok (collidingConfig "2") ∧
      ClientConfig.fromToml collidingToml String.toLower id (fun _ => List.reverse)
        collidingGrpcMetaToml.toUTF8 ⟨false⟩ = .ok (collidingConfig "1") ∧
      collidingConfig "2" ≠ collidingConfig "1" :=
  ⟨fun _ => List.Perm.refl _, fromToml_collidingGrpcMeta (by simp [collidingToml]) toLower_colliding.1
    toLower_colliding.2 (fun _ => List.Perm.refl _) (fun _ => List.Perm.refl _)⟩

end SdkCore.EnvConfig
