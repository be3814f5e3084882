import Notary.Proofs.Settings.Reading

namespace Notary

/-!
# Layers of settings

A layer has some members of the settings and leaves out the others, in any combination. Put on
settings, it leaves what it does not have as it was. A file whose known members are of the right
types tells a layer, and reading it puts that layer on the defaults, also inside the two tables
that settings hold.
-/

open Settings (Tells Nests namesOf settle settle_settle settle_of_ne text? flag? count? format?
  readText_of_text? readFlag_of_flag? readCount_of_count? readFormat_of_format?)

/-- What a layer has for the listener. -/
structure Listener.Layer where
  bindAddress : Option String := none
  requestTimeout : Option Nat := none
  bodyLimit : Option Nat := none
deriving DecidableEq

/-- What a layer has for the observability. -/
structure Observability.Layer where
  logLevel : Option String := none
  logFormat : Option LogFormat := none
  metricsEnabled : Option Bool := none
  metricsAddress : Option String := none
deriving DecidableEq

/-- What a layer has for the settings. -/
structure Settings.Layer where
  configPath : Option String := none
  secretsEnforced : Option Bool := none
  contextPath : Option String := none
  listener : Listener.Layer := {}
  observability : Observability.Layer := {}
deriving DecidableEq

namespace Listener.Layer

/-- The listener that a layer makes of the one below. -/
def on (l : Layer) (base : Listener) : Listener where
  bindAddress := l.bindAddress.getD base.bindAddress
  requestTimeout := l.requestTimeout.getD base.requestTimeout
  bodyLimit := l.bodyLimit.getD base.bodyLimit

/-- The layer that a table of a file tells, whose known members are of the right types. -/
structure ToldBy (l : Layer) (table : Toml.Table) : Prop where
  bindAddress : Tells table "bind_address" text? l.bindAddress
  requestTimeout : Tells table "request_timeout_secs" count? l.requestTimeout
  bodyLimit : Tells table "max_body_size" count? l.bodyLimit

instance (l : Layer) : DecidablePred l.ToldBy := fun table =>
  decidable_of_iff
    (Tells table "bind_address" text? l.bindAddress ∧
      Tells table "request_timeout_secs" count? l.requestTimeout ∧
      Tells table "max_body_size" count? l.bodyLimit)
    ⟨fun ⟨address, timeout, limit⟩ => ⟨address, timeout, limit⟩,
      fun ⟨address, timeout, limit⟩ => ⟨address, timeout, limit⟩⟩

/-- A listener after the members with the given names have been read. -/
def settled (l : Layer) (names : List String) (start : Listener) : Listener where
  bindAddress := settle "bind_address" names l.bindAddress start.bindAddress
  requestTimeout := settle "request_timeout_secs" names l.requestTimeout start.requestTimeout
  bodyLimit := settle "max_body_size" names l.bodyLimit start.bodyLimit

/--
The members of the listener, read from a table over starting values, are the layer of that table
over those values.
-/
theorem ToldBy.read
    {l : Layer}
    {table : Toml.Table}
    (told : l.ToldBy table)
    (start : Listener) :
    Settings.readByName Settings.listenerMembers start (Settings.Datum.ofEntries table) =
      .ok (l.on start) := by
  have complete : l.settled (namesOf table) start = l.on start := by
    simp only [settled, on, told.bindAddress.settle_eq, told.requestTimeout.settle_eq,
      told.bodyLimit.settle_eq]
  rw [← complete]
  refine Settings.readByName_ofEntries ?_ ?_ ?_ ?_ start
  · simp [settled]
  · simp [settled, settle_settle]
  · simp only [Settings.listenerMembers, List.forall_mem_cons]
    refine ⟨?_, ?_, ?_, nofun⟩
    · exact told.bindAddress.read_eq (readText_of_text? · _) (·.bindAddress)
        (by simp [settled, settle_of_ne])
    · exact told.requestTimeout.read_eq (readCount_of_count? · _) (·.requestTimeout)
        (by simp [settled, settle_of_ne])
    · exact told.bodyLimit.read_eq (readCount_of_count? · _) (·.bodyLimit)
        (by simp [settled, settle_of_ne])
  · intro name unknown start
    simp only [Settings.listenerMembers, Settings.Member.of_name, List.forall_mem_cons] at unknown
    obtain ⟨address, timeout, limit, -⟩ := unknown
    simp only [settled, settle_of_ne address, settle_of_ne timeout, settle_of_ne limit]

end Listener.Layer

namespace Observability.Layer

/-- The observability that a layer makes of the one below. -/
def on (l : Layer) (base : Observability) : Observability where
  logLevel := l.logLevel.getD base.logLevel
  logFormat := l.logFormat.getD base.logFormat
  metricsEnabled := l.metricsEnabled.getD base.metricsEnabled
  metricsAddress := l.metricsAddress.getD base.metricsAddress

/-- The layer that a table of a file tells, whose known members are of the right types. -/
structure ToldBy (l : Layer) (table : Toml.Table) : Prop where
  logLevel : Tells table "log_level" text? l.logLevel
  logFormat : Tells table "log_format" format? l.logFormat
  metricsEnabled : Tells table "metrics_enabled" flag? l.metricsEnabled
  metricsAddress : Tells table "metrics_address" text? l.metricsAddress

instance (l : Layer) : DecidablePred l.ToldBy := fun table =>
  decidable_of_iff
    (Tells table "log_level" text? l.logLevel ∧
      Tells table "log_format" format? l.logFormat ∧
      Tells table "metrics_enabled" flag? l.metricsEnabled ∧
      Tells table "metrics_address" text? l.metricsAddress)
    ⟨fun ⟨level, format, enabled, address⟩ => ⟨level, format, enabled, address⟩,
      fun ⟨level, format, enabled, address⟩ => ⟨level, format, enabled, address⟩⟩

/-- An observability after the members with the given names have been read. -/
def settled (l : Layer) (names : List String) (start : Observability) : Observability where
  logLevel := settle "log_level" names l.logLevel start.logLevel
  logFormat := settle "log_format" names l.logFormat start.logFormat
  metricsEnabled := settle "metrics_enabled" names l.metricsEnabled start.metricsEnabled
  metricsAddress := settle "metrics_address" names l.metricsAddress start.metricsAddress

/--
The members of the observability section, read from a table over starting values, are the layer of
that table over those values.
-/
theorem ToldBy.read
    {l : Layer}
    {table : Toml.Table}
    (told : l.ToldBy table)
    (start : Observability) :
    Settings.readByName (Settings.observabilityMembers .toml) start
        (Settings.Datum.ofEntries table) =
      .ok (l.on start) := by
  have complete : l.settled (namesOf table) start = l.on start := by
    simp only [settled, on, told.logLevel.settle_eq, told.logFormat.settle_eq,
      told.metricsEnabled.settle_eq, told.metricsAddress.settle_eq]
  rw [← complete]
  refine Settings.readByName_ofEntries ?_ ?_ ?_ ?_ start
  · simp [settled]
  · simp [settled, settle_settle]
  · simp only [Settings.observabilityMembers, List.forall_mem_cons]
    refine ⟨?_, ?_, ?_, ?_, nofun⟩
    · exact told.logLevel.read_eq (readText_of_text? · _) (·.logLevel)
        (by simp [settled, settle_of_ne])
    · exact told.logFormat.read_eq readFormat_of_format? (·.logFormat)
        (by simp [settled, settle_of_ne])
    · exact told.metricsEnabled.read_eq readFlag_of_flag? (·.metricsEnabled)
        (by simp [settled, settle_of_ne])
    · exact told.metricsAddress.read_eq (readText_of_text? · _) (·.metricsAddress)
        (by simp [settled, settle_of_ne])
  · intro name unknown start
    simp only [Settings.observabilityMembers, Settings.Member.of_name,
      List.forall_mem_cons] at unknown
    obtain ⟨level, format, enabled, address, -⟩ := unknown
    simp only [settled, settle_of_ne level, settle_of_ne format,
      settle_of_ne enabled, settle_of_ne address]

end Observability.Layer

namespace Settings.Layer

/-- The settings that a layer makes of those below. -/
def on (l : Layer) (base : Settings) : Settings where
  configPath := l.configPath.getD base.configPath
  secretsEnforced := l.secretsEnforced.getD base.secretsEnforced
  contextPath := l.contextPath.getD base.contextPath
  listener := l.listener.on base.listener
  observability := l.observability.on base.observability

/-- The layer that the table of a file tells, whose known members are of the right types. -/
structure ToldBy (l : Layer) (table : Toml.Table) : Prop where
  configPath : Tells table "config_path" text? l.configPath
  secretsEnforced : Tells table "secret_enabled" flag? l.secretsEnforced
  contextPath : Tells table "context_path" text? l.contextPath
  listener : Nests table "listener" l.listener.ToldBy (l.listener = {})
  observability : Nests table "observability" l.observability.ToldBy (l.observability = {})

instance (l : Layer) : DecidablePred l.ToldBy := fun table =>
  decidable_of_iff
    (Tells table "config_path" text? l.configPath ∧
      Tells table "secret_enabled" flag? l.secretsEnforced ∧
      Tells table "context_path" text? l.contextPath ∧
      Nests table "listener" l.listener.ToldBy (l.listener = {}) ∧
      Nests table "observability" l.observability.ToldBy (l.observability = {}))
    ⟨fun ⟨path, secrets, context, listener, observability⟩ =>
        ⟨path, secrets, context, listener, observability⟩,
      fun ⟨path, secrets, context, listener, observability⟩ =>
        ⟨path, secrets, context, listener, observability⟩⟩

/-- Settings after the members with the given names have been read; an inner table is
read over defaults, whatever the settings had before. -/
def settled (l : Layer) (names : List String) (start : Settings) : Settings where
  configPath := settle "config_path" names l.configPath start.configPath
  secretsEnforced := settle "secret_enabled" names l.secretsEnforced start.secretsEnforced
  contextPath := settle "context_path" names l.contextPath start.contextPath
  listener := settle "listener" names (some (l.listener.on .default)) start.listener
  observability :=
    settle "observability" names (some (l.observability.on .default)) start.observability

/-- The settings read from a whole file are the layer of the file over the defaults. -/
theorem ToldBy.read
    {l : Layer}
    {table : Toml.Table}
    (told : l.ToldBy table) :
    ofDatum .toml (.table (Datum.ofEntries table)) = .ok (l.on default) := by
  have complete : l.settled (namesOf table) default = l.on default := by
    simp only [settled, on, told.configPath.settle_eq, told.secretsEnforced.settle_eq,
      told.contextPath.settle_eq]
    congr 1
    · exact told.listener.settle_eq (fun isEmpty => by rw [isEmpty]; rfl)
    · exact told.observability.settle_eq (fun isEmpty => by rw [isEmpty]; rfl)
  rw [← complete]
  refine readByName_ofEntries ?_ ?_ ?_ ?_ default
  · simp [settled]
  · simp [settled, settle_settle]
  · simp only [members, List.forall_mem_cons]
    refine ⟨?_, ?_, ?_, ?_, ?_, nofun⟩
    · exact told.configPath.read_eq (readText_of_text? · _) (·.configPath)
        (by simp [settled, settle_of_ne])
    · exact told.secretsEnforced.read_eq readFlag_of_flag? (·.secretsEnforced)
        (by simp [settled, settle_of_ne])
    · exact told.contextPath.read_eq (readText_of_text? · _) (·.contextPath)
        (by simp [settled, settle_of_ne])
    · intro member inside same place start
      obtain ⟨inner, isTable, tells⟩ := told.listener.only member inside same
      simp only [readStructure_of_members? isTable, tells.read]
      simp [settled, Except.map, settle]
    · intro member inside same place start
      obtain ⟨inner, isTable, tells⟩ := told.observability.only member inside same
      simp only [readStructure_of_members? isTable, tells.read]
      simp [settled, Except.map, settle]
  · intro name unknown start
    simp only [members, Member.of_name, List.forall_mem_cons] at unknown
    obtain ⟨path, secrets, context, listener, observability, -⟩ := unknown
    simp only [settled, settle_of_ne path, settle_of_ne secrets, settle_of_ne context,
      settle_of_ne listener, settle_of_ne observability]

end Settings.Layer

end Notary
