import WebSsh2.HostKey.Mode

namespace WebSsh2.HostKey

open WebSsh2.Library WebSsh2.Socket

section Schemas

theorem schemaField_eq_some {α : Type} {key : String} {schema : JsonValue → Option α}
    {value : JsonValue} {result : α} (h : schemaField key schema value = some result) :
    ∃ inner, value.field (js key) = some inner ∧ schema inner = some result :=
  Option.bind_eq_some_iff.mp h

theorem booleanSchema_eq_some {value : JsonValue} {result : Bool}
    (h : booleanSchema value = some result) : value = .bool result := by
  unfold booleanSchema at h
  split at h
  · cases h
    rfl
  · cases h

theorem modeSchema_eq_some {value : JsonValue} {mode : HostKeyMode}
    (h : modeSchema value = some mode) : value = .string mode.name := by
  unfold modeSchema at h
  split at h
  · cases h
    assumption
  · split at h
    · cases h
      assumption
    · split at h
      · cases h
        assumption
      · cases h

theorem modeSchema_name (mode : HostKeyMode) : modeSchema (.string mode.name) = some mode := by
  cases mode <;> decide

-- The settings that a section was read from.
structure ReadFrom (value : JsonValue) (config : HostKeyVerificationConfig) : Prop where
  enabled : value.atPath [js "enabled"] = some (.bool config.enabled)
  mode : value.atPath [js "mode"] = some (.string config.mode.name)
  server : value.atPath [js "serverStore", js "enabled"] = some (.bool config.serverStore.enabled)
  client : value.atPath [js "clientStore", js "enabled"] = some (.bool config.clientStore.enabled)

theorem atPath_singleton (key : JsString) (value : JsonValue) :
    value.atPath [key] = value.field key := by
  simp only [Json.atPath, Option.bind_fun_some]

theorem atPath_pair {key inner : JsString} {value outer : JsonValue}
    (h : value.field key = some outer) :
    value.atPath [key, inner] = outer.field inner := by
  rw [Json.atPath, h, Option.bind_some, atPath_singleton]

theorem hostKeyVerificationSchema_eq_some {value : JsonValue}
    {config : HostKeyVerificationConfig} (h : hostKeyVerificationSchema value = some config) :
    ReadFrom value config := by
  unfold hostKeyVerificationSchema at h
  simp only [Option.bind_eq_bind, Option.bind_eq_some_iff, Option.pure_def,
    Option.some.injEq] at h
  obtain ⟨enabled, henabled, mode, hmode, action, -, server, hserver, client, hclient, rfl⟩ := h
  obtain ⟨_, henabledField, henabled⟩ := schemaField_eq_some henabled
  obtain ⟨_, hmodeField, hmode⟩ := schemaField_eq_some hmode
  obtain ⟨_, hserverField, hserver⟩ := schemaField_eq_some hserver
  obtain ⟨_, hclientField, hclient⟩ := schemaField_eq_some hclient
  simp only [hostKeyServerStoreSchema, hostKeyClientStoreSchema, Option.bind_eq_bind,
    Option.bind_eq_some_iff, Option.pure_def, Option.some.injEq] at hserver hclient
  obtain ⟨serverEnabled, hserverEnabled, dbPath, -, rfl⟩ := hserver
  obtain ⟨clientEnabled, hclientEnabled, rfl⟩ := hclient
  obtain ⟨_, hserverEnabledField, hserverEnabled⟩ := schemaField_eq_some hserverEnabled
  obtain ⟨_, hclientEnabledField, hclientEnabled⟩ := schemaField_eq_some hclientEnabled
  exact {
    enabled := by
      rw [atPath_singleton, henabledField, booleanSchema_eq_some henabled]
    mode := by
      rw [atPath_singleton, hmodeField, modeSchema_eq_some hmode]
    server := by
      rw [atPath_pair hserverField, hserverEnabledField, booleanSchema_eq_some hserverEnabled]
    client := by
      rw [atPath_pair hclientField, hclientEnabledField, booleanSchema_eq_some hclientEnabled] }

end Schemas

section Merging

variable {accepts : Fields → Bool} {defaultConfig : Fields}
  {fileConfig envConfig : Option PartialConfig} {config : Config}

theorem processConfig_eq_some
    (h : processConfig accepts defaultConfig fileConfig envConfig = some config) :
    ∃ value, ReadFrom value config.hostKeyVerification ∧ ∀ path,
      Json.atPath (hostKeyPath path) (.object (mergeConfigs defaultConfig fileConfig envConfig)) =
        value.atPath path := by
  unfold processConfig validateConfig at h
  simp only [Option.bind_eq_bind, Option.bind_eq_some_iff] at h
  obtain ⟨verification, hverification, options, -, haccepted⟩ := h
  obtain ⟨ssh, hssh, hverification⟩ := schemaField_eq_some hverification
  obtain ⟨value, hvalue, hverification⟩ := schemaField_eq_some hverification
  split at haccepted
  · cases haccepted
    refine ⟨value, hostKeyVerificationSchema_eq_some hverification, fun path => ?_⟩
    rw [hostKeyPath, Json.atPath, hssh, Option.bind_some, Json.atPath, hvalue, Option.bind_some]
  · cases haccepted

theorem atPath_deepMerge {target : Fields} {source leaf : JsonValue} {path : List JsString}
    (hdistinct : source.distinct = true) (hleaf : leaf.isObject = false)
    (h : Json.atPath path (.object (deepMerge target source)) = some leaf) :
    source.atPath path = some leaf ∨
      source.atPath path = none ∧ Json.atPath path (.object target) = some leaf := by
  cases source with
  | object fields =>
    have hoverlay : Json.overlay (some (.object target)) (.object fields) =
        .object (deepMerge target (.object fields)) := rfl
    rw [← hoverlay] at h
    exact Json.atPath_overlay hdistinct hleaf h
  | null | bool _ | number _ | string _ | array _ =>
    cases path with
    | nil =>
      cases h
      cases hleaf
    | cons key path => exact .inr ⟨rfl, h⟩

-- A setting is the given one, or else the default.
theorem atPath_mergeConfigs {leaf : JsonValue} {path : List JsString}
    (hleaf : leaf.isObject = false)
    (h : Json.atPath path (.object (mergeConfigs defaultConfig fileConfig envConfig)) =
      some leaf) :
    (given fileConfig envConfig path).or (Json.atPath path (.object defaultConfig)) =
      some leaf := by
  -- the file over the defaults, then the environment over both
  have hfile : ∀ leaf : JsonValue, leaf.isObject = false →
      Json.atPath path (.object (mergeConfigs defaultConfig fileConfig none)) = some leaf →
        (fileConfig.bind fun config => config.value.atPath path).or
          (Json.atPath path (.object defaultConfig)) = some leaf := by
    intro leaf hleaf h
    cases fileConfig with
    | none => exact h
    | some config =>
      rcases atPath_deepMerge config.distinct hleaf h with habove | ⟨habove, hbelow⟩
      · rw [Option.bind_some, habove]
        rfl
      · rw [Option.bind_some, habove]
        exact hbelow
  unfold given
  rw [Option.or_assoc]
  cases envConfig with
  | none => exact hfile leaf hleaf h
  | some config =>
    rcases atPath_deepMerge config.distinct hleaf h with habove | ⟨habove, hbelow⟩
    · rw [Option.bind_some, habove]
      rfl
    · rw [Option.bind_some, habove]
      exact hfile leaf hleaf hbelow

end Merging

section Flags

variable {accepts : Fields → Bool} {sshFields optionFields configFields : Fields}
  {fileConfig envConfig : Option PartialConfig} {config : Config}

theorem resolveHostKeyMode_enabled (config : HostKeyVerificationConfig)
    (options : ResolveHostKeyModeOptions) :
    (resolveHostKeyMode config options).enabled = config.enabled := rfl

theorem createServices_of_disabled (h : config.hostKeyVerification.enabled = false) :
    (createServices config).hostKey = none := by
  unfold createServices
  simp only [resolveHostKeyMode_enabled, h]
  rfl

theorem createServices_of_enabled (h : config.hostKeyVerification.enabled = true) :
    (createServices config).hostKey =
      some (HostKeyService.create (resolveHostKeyMode config.hostKeyVerification {})) := by
  unfold createServices
  simp only [resolveHostKeyMode_enabled, h, if_true]

theorem permissions_of_mem {protocol : Protocol} {logins : Nat} {event : Permissions}
    {permissions : HostKeyPermissions} (h : event ∈ permissionEvents protocol config logins)
    (hpermissions : event.hostKeyVerification = some permissions) :
    permissions = hostKeyPermissions config.hostKeyVerification := by
  rcases List.mem_append.mp h with hfirst | hlogin
  · cases protocol with
    | ssh =>
      rw [List.mem_singleton.mp hfirst] at hpermissions
      exact (Option.some.inj hpermissions).symm
    | telnet => cases hfirst
  · rw [List.eq_of_mem_replicate hlogin] at hpermissions
    cases protocol with
    | ssh => exact (Option.some.inj hpermissions).symm
    | telnet => cases hpermissions

-- A configuration in terms of what was given.
structure SettingsOf (fileConfig envConfig : Option PartialConfig)
    (config : HostKeyVerificationConfig) : Prop where
  enabled : (given fileConfig envConfig enabledPath).getD (.bool false) = .bool config.enabled
  mode : givenMode fileConfig envConfig = config.mode
  server : (given fileConfig envConfig serverFlag).getD (.bool true) =
    .bool config.serverStore.enabled
  client : (given fileConfig envConfig clientFlag).getD (.bool true) =
    .bool config.clientStore.enabled

theorem processConfig_settings
    (h : processConfig accepts (createDefaultConfig sshFields optionFields configFields)
      fileConfig envConfig = some config) :
    SettingsOf fileConfig envConfig config.hostKeyVerification := by
  obtain ⟨value, hread, hpath⟩ := processConfig_eq_some h
  have hsetting : ∀ path leaf fallback, leaf.isObject = false →
      Json.atPath (hostKeyPath path)
        (.object (createDefaultConfig sshFields optionFields configFields)) = some fallback →
      value.atPath path = some leaf →
        (given fileConfig envConfig (hostKeyPath path)).getD fallback = leaf := by
    intro path leaf fallback hleaf hdefault hvalue
    have hmerged := atPath_mergeConfigs hleaf ((hpath path).trans hvalue)
    rw [hdefault] at hmerged
    cases hgiven : given fileConfig envConfig (hostKeyPath path) with
    | none | some =>
      rw [hgiven] at hmerged
      exact Option.some.inj hmerged
  have hmode := hsetting [js "mode"] _ (.string (js "hybrid")) rfl rfl hread.mode
  exact {
    enabled := hsetting _ _ (.bool false) rfl rfl hread.enabled
    mode := by
      unfold givenMode modePath
      cases hgiven : given fileConfig envConfig (hostKeyPath [js "mode"]) with
      | none =>
        rw [hgiven, Option.getD_none] at hmode
        have hhybrid := modeSchema_name .hybrid
        rw [HostKeyMode.name, hmode, modeSchema_name] at hhybrid
        exact (Option.some.inj hhybrid).symm
      | some found =>
        rw [hgiven, Option.getD_some] at hmode
        rw [Option.bind_some, hmode, modeSchema_name]
        rfl
    server := hsetting _ _ (.bool true) rfl rfl hread.server
    client := hsetting _ _ (.bool true) rfl rfl hread.client }

-- Verification that is off builds no service, and is announced as off.
theorem flagsTruthful_of_disabled (h : config.hostKeyVerification.enabled = false) :
    FlagsTruthful fileConfig envConfig config := by
  have hnone := createServices_of_disabled h
  refine ⟨fun service hservice => ?_, fun service hservice => ?_,
    fun protocol logins event hevent permissions hpermissions => ?_⟩
  · rw [hnone] at hservice
    cases hservice
  · rw [hnone] at hservice
    cases hservice
  · rw [hnone, permissions_of_mem hevent hpermissions]
    exact h

theorem getD_eq_iff_forall {α : Type} {given : Option α} {value : α} :
    value = given.getD value ↔ ∀ found, given = some found → found = value := by
  cases given with
  | none => simp
  | some found => simp [eq_comm]

-- The stores that are acted on are those of the mode; those that are announced are
-- those of the merged configuration.
theorem flagsTruthful_iff_of_enabled (h : config.hostKeyVerification.enabled = true)
    (hsettings : SettingsOf fileConfig envConfig config.hostKeyVerification) :
    FlagsTruthful fileConfig envConfig config ↔
      (∀ value, given fileConfig envConfig serverFlag = some value →
        value = .bool config.hostKeyVerification.mode.stores.1) ∧
      config.hostKeyVerification.clientStore.enabled =
        config.hostKeyVerification.mode.stores.2 := by
  have hservice := createServices_of_enabled h
  constructor
  · intro htruthful
    refine ⟨getD_eq_iff_forall.mp (htruthful.server _ hservice), ?_⟩
    have hannounced := htruthful.announced .ssh 0 (emitHostKeyVerificationConfig config)
      List.mem_cons_self _ rfl
    rw [hservice] at hannounced
    exact hannounced.2.1
  · rintro ⟨hserver, hclient⟩
    refine ⟨fun service hsome => ?_, fun service hsome => ?_,
      fun protocol logins event hevent permissions hpermissions => ?_⟩
    · cases hservice.symm.trans hsome
      exact getD_eq_iff_forall.mpr hserver
    · cases hservice.symm.trans hsome
      apply getD_eq_iff_forall.mpr
      intro value hvalue
      have hgiven := hsettings.client
      rw [hvalue, Option.getD_some] at hgiven
      rw [hgiven, hclient]
      rfl
    · rw [hservice, permissions_of_mem hevent hpermissions]
      exact ⟨rfl, hclient, rfl⟩

theorem given_enabled_iff
    (hsettings : SettingsOf fileConfig envConfig config.hostKeyVerification) :
    given fileConfig envConfig enabledPath = some (.bool true) ↔
      config.hostKeyVerification.enabled = true := by
  have henabled := hsettings.enabled
  cases hgiven : given fileConfig envConfig enabledPath with
  | none =>
    rw [hgiven, Option.getD_none] at henabled
    simp [← (Json.bool.inj henabled)]
  | some found =>
    rw [hgiven, Option.getD_some] at henabled
    simp [henabled]

-- For every file and environment over the defaults: the flags are effective and
-- announced as they are exactly when none of them departs from the mode.
theorem flags_truthful_iff (accepts : Fields → Bool)
    (sshFields optionFields configFields : Fields)
    (fileConfig envConfig : Option PartialConfig) (config : Config)
    (hconfig : processConfig accepts (createDefaultConfig sshFields optionFields configFields)
      fileConfig envConfig = some config) :
    FlagsTruthful fileConfig envConfig config ↔ FlagsFollowMode fileConfig envConfig := by
  have hsettings := processConfig_settings hconfig
  unfold FlagsFollowMode
  rw [ne_eq, given_enabled_iff hsettings]
  by_cases henabled : config.hostKeyVerification.enabled = true
  · rw [flagsTruthful_iff_of_enabled henabled hsettings, hsettings.mode, hsettings.client]
    simp [henabled]
  · constructor
    · exact fun _ => .inl henabled
    · exact fun _ => flagsTruthful_of_disabled (Bool.eq_false_iff.mpr henabled)

-- Verification in the mode of the server, with the client store turned off as well.
def serverOnlyFile : PartialConfig where
  value := .object [(js "ssh", .object [(js "hostKeyVerification", .object [
    (js "enabled", .bool true),
    (js "mode", .string (js "server")),
    (js "clientStore", .object [(js "enabled", .bool false)])])])]
  distinct := by decide

-- Verification in the default mode, with the client store turned off.
def noClientStoreFile : PartialConfig where
  value := .object [(js "ssh", .object [(js "hostKeyVerification", .object [
    (js "enabled", .bool true),
    (js "clientStore", .object [(js "enabled", .bool false)])])])]
  distinct := by decide

def sampleConfig (mode : HostKeyMode) : Config where
  hostKeyVerification := {
    enabled := true
    mode := mode
    unknownKeyAction := .prompt
    serverStore := { enabled := true, dbPath := js "/data/hostkeys.db" }
    clientStore := { enabled := false } }
  options := { autoLog := false, allowReauth := true, allowReconnect := true, allowReplay := true }

theorem flags_truthful_server_only :
    processConfig (fun _ => true) (createDefaultConfig [] [] []) (some serverOnlyFile) none =
      some (sampleConfig .server) ∧
    FlagsFollowMode (some serverOnlyFile) none ∧
    FlagsTruthful (some serverOnlyFile) none (sampleConfig .server) := by
  have hconfig : processConfig (fun _ => true) (createDefaultConfig [] [] [])
      (some serverOnlyFile) none = some (sampleConfig .server) := by decide +kernel
  have hfollow : FlagsFollowMode (some serverOnlyFile) none := by
    right
    constructor
    · intro value hvalue
      have hnone : given (some serverOnlyFile) none serverFlag = none := by decide +kernel
      rw [hnone] at hvalue
      cases hvalue
    · decide +kernel
  exact ⟨hconfig, hfollow,
    (flags_truthful_iff (fun _ => true) [] [] [] (some serverOnlyFile) none _ hconfig).mpr hfollow⟩

-- The client store was turned off, and the client is told so, but the service uses it.
theorem flags_not_truthful :
    ¬ ∀ (accepts : Fields → Bool) (sshFields optionFields configFields : Fields)
      (fileConfig envConfig : Option PartialConfig) (config : Config),
      processConfig accepts (createDefaultConfig sshFields optionFields configFields)
        fileConfig envConfig = some config → FlagsTruthful fileConfig envConfig config := by
  intro h
  have htruthful := h (fun _ => true) [] [] [] (some noClientStoreFile) none
    (sampleConfig .hybrid) (by decide +kernel)
  have hclient := htruthful.client _ (createServices_of_enabled rfl)
  have hgiven : given (some noClientStoreFile) none clientFlag = some (.bool false) := by
    decide +kernel
  rw [hgiven] at hclient
  cases hclient

end Flags

end WebSsh2.HostKey
