import RowFilter.Json.Decode
import RowFilter.Sql.Backend

/-! Configuration: the environment goes before the file, and the file before the defaults. -/

namespace RowFilter

/-- Reads the name of a backend in a file, where every letter counts. -/
def Backend.decode : Decoder Backend :=
  -- Unlike in the environment, no other spelling is taken.
  Decode.variant ["sqlite", "postgres"] fun name =>
    if name = "sqlite" then some .sqlite
    else if name = "postgres" then some .postgres
    else none

/-- The settings of a file; every one of them may be absent. -/
structure FileConfig where
  backend : Option Backend
  url : Option String
  maxConnections : Option UInt32
  minConnections : Option UInt32
  acquireTimeout : Option UInt64
  idleTimeout : Option UInt64
  maxLifetime : Option UInt64
  statementTimeout : Option UInt64
  busyTimeout : Option UInt64
  defaultLimit : Option UInt32
  streamBuffer : Option UInt64
  /-- The members that are no setting. -/
  extra : Members
deriving DecidableEq

namespace FileConfig

/-- The settings when there is no file. -/
def empty : FileConfig :=
  -- A setting that is absent here leaves room for the environment and for the defaults.
  ⟨none, none, none, none, none, none, none, none, none, none, none, []⟩

/-- The settings that have been read, with the names of all keys that were seen. -/
structure Parts where
  config : FileConfig
  seen : List String

/-- Sets a setting that has not been seen, and reads its value only then. -/
def Parts.set {α : Type} (parts : Parts) (key : String) (decoder : Decoder α) (value : Draft)
    (store : FileConfig → Option α → FileConfig) : Except DecodeError Parts :=
  -- The key is looked at before the value, so that a repeated setting is reported even if it is
  -- wrong.
  if key ∈ parts.seen then .error (.duplicateField key)
  else
    (Decode.optional decoder value).map fun content =>
      ⟨store parts.config content, key :: parts.seen⟩

/-- Reads one member of a file. -/
def decodeMember (parts : Parts) (key : String) (value : Draft) : Except DecodeError Parts :=
  -- Each setting has the decoder of its own type, and what is no setting is kept as it stands.
  match key with
  | "backend" => parts.set key Backend.decode value ({ · with backend := · })
  | "url" => parts.set key Decode.text value ({ · with url := · })
  | "max_connections" => parts.set key Decode.word32 value ({ · with maxConnections := · })
  | "min_connections" => parts.set key Decode.word32 value ({ · with minConnections := · })
  | "acquire_timeout_secs" => parts.set key Decode.word64 value ({ · with acquireTimeout := · })
  | "idle_timeout_secs" => parts.set key Decode.word64 value ({ · with idleTimeout := · })
  | "max_lifetime_secs" => parts.set key Decode.word64 value ({ · with maxLifetime := · })
  | "statement_timeout_secs" =>
    parts.set key Decode.word64 value ({ · with statementTimeout := · })
  | "busy_timeout_secs" => parts.set key Decode.word64 value ({ · with busyTimeout := · })
  | "default_limit" => parts.set key Decode.word32 value ({ · with defaultLimit := · })
  | "stream_buffer" => parts.set key Decode.size value ({ · with streamBuffer := · })
  | other => do
    let content ← Decode.json value
    let extra := parts.config.extra.insert other content
    return { parts with config := { parts.config with extra } }

/-- A number of a setting, or null if the setting is absent. -/
def numberJson (value : Option Nat) : Json :=
  -- Every number that a setting can hold fits a wide integer.
  (value.bind fun number => (WideInt.ofInt? number).map Json.integer).getD .null

/-- The settings by their names, where null stands for an absent one. -/
def members (config : FileConfig) : Members :=
  -- The order is that of the fields, whatever the order in the file was.
  [("backend", (config.backend.map fun backend => Json.string backend.name).getD .null),
    ("url", (config.url.map Json.string).getD .null),
    ("max_connections", numberJson (config.maxConnections.map UInt32.toNat)),
    ("min_connections", numberJson (config.minConnections.map UInt32.toNat)),
    ("acquire_timeout_secs", numberJson (config.acquireTimeout.map UInt64.toNat)),
    ("idle_timeout_secs", numberJson (config.idleTimeout.map UInt64.toNat)),
    ("max_lifetime_secs", numberJson (config.maxLifetime.map UInt64.toNat)),
    ("statement_timeout_secs", numberJson (config.statementTimeout.map UInt64.toNat)),
    ("busy_timeout_secs", numberJson (config.busyTimeout.map UInt64.toNat)),
    ("default_limit", numberJson (config.defaultLimit.map UInt32.toNat)),
    ("stream_buffer", numberJson (config.streamBuffer.map UInt64.toNat))]

/-- Reads the settings of a file from an object. -/
def decode : Decoder FileConfig
  -- Nothing but an object holds settings.
  | .object pairs unclosed =>
    (Decode.members decodeMember ⟨empty, []⟩ pairs unclosed).map Parts.config
  | draft => .error (Decode.mismatch "struct DatabaseFileConfig" draft)

end FileConfig

/-- Why a text is no unsigned number. -/
inductive NumberError where
  | empty
  | invalidDigit
  | tooLarge
deriving DecidableEq

/-- The wording of a number error. -/
def NumberError.message : NumberError → String
  -- The three ways in which a text can fail to be a number of a certain size.
  | .empty => "cannot parse integer from empty string"
  | .invalidDigit => "invalid digit found in string"
  | .tooLarge => "number too large to fit in target type"

/-- Reads digits from the left, each of which has to keep the number below a bound. -/
def readDigits (bound value : Nat) : List Char → Except NumberError Nat
  -- The bound is checked at each digit, before what follows is looked at.
  | [] => .ok value
  | c :: rest =>
    if !c.isDigit then .error .invalidDigit
    else
      let next := value * 10 + (c.toNat - '0'.toNat)
      if bound ≤ next then .error .tooLarge else readDigits bound next rest

/-- Reads an unsigned number below a bound, which a plus may precede. -/
def readUnsigned (bound : Nat) (text : String) : Except NumberError Nat :=
  -- A plus by itself is no number, although a plus in front of digits is passed over.
  match text.toList with
  | [] => .error .empty
  | ['+'] => .error .invalidDigit
  | '+' :: digits => readDigits bound 0 digits
  | digits => readDigits bound 0 digits

/-- The environment variable that names the file. -/
def configVariable : String := "QUERYDECK_CONFIG"

/-- The environment variable of the backend. -/
def backendVariable : String := "QUERYDECK_DATABASE_BACKEND"

/-- The environment variable of the address of the database. -/
def urlVariable : String := "QUERYDECK_DATABASE_URL"

/-- The environment variable of the default limit. -/
def limitVariable : String := "QUERYDECK_DEFAULT_LIMIT"

/-- The environment variable of the stream buffer. -/
def bufferVariable : String := "QUERYDECK_STREAM_BUFFER"

/-- Why there is no configuration. -/
inductive ConfigError where
  | fileNotFound (path : String)
  | fileUnreadable (path reason : String)
  | fileInvalid (path : String) (error : DecodeError)
  | unknownBackend (name : Backend.UnknownName)
  | missingUrl
  | invalidNumber (name text : String) (error : NumberError)
  | emptyBuffer
deriving DecidableEq

/-- The messages of an error, from the outermost to the innermost. -/
def ConfigError.chain : ConfigError → List String
  -- Where there is a cause, it stands behind the message that it belongs to.
  | .fileNotFound path => [s!"Config file not found: {path}"]
  | .fileUnreadable path reason => [s!"Failed to read config file: {path}", reason]
  | .fileInvalid path error => [s!"Failed to parse config file: {path}", error.message]
  | .unknownBackend name => [s!"Invalid {backendVariable}: {name.message}"]
  | .missingUrl => [s!"PostgreSQL URL is required (set {urlVariable})"]
  | .invalidNumber name text error => [s!"Invalid {name}: {text}", error.message]
  | .emptyBuffer => ["stream_buffer must be greater than zero"]

/-- The settings of a pool of connections; times are in seconds. -/
structure PoolSettings where
  maxConnections : UInt32
  minConnections : UInt32
  acquireTimeout : UInt64
  idleTimeout : UInt64
  maxLifetime : UInt64
  statementTimeout : UInt64
  busyTimeout : UInt64
deriving DecidableEq

/-- The settings of queries. -/
structure QuerySettings where
  defaultLimit : UInt32
  streamBuffer : UInt64
deriving DecidableEq

/-- The settings of queries that nothing else is said about. -/
def QuerySettings.default : QuerySettings := ⟨100, 64⟩

namespace PoolSettings

/-- The defaults of a backend. -/
def defaults : Backend → PoolSettings
  -- Only a server limits the time of a statement, and only a file can be busy.
  | .sqlite => ⟨5, 0, 30, 600, 1800, 0, 30⟩
  | .postgres => ⟨20, 2, 30, 600, 1800, 60, 0⟩

/-- The settings by their names. -/
def members (settings : PoolSettings) : Members :=
  -- Every setting of a pool has a value by now.
  [("max_connections", settings.maxConnections.toNat),
    ("min_connections", settings.minConnections.toNat),
    ("acquire_timeout_secs", settings.acquireTimeout.toNat),
    ("idle_timeout_secs", settings.idleTimeout.toNat),
    ("max_lifetime_secs", settings.maxLifetime.toNat),
    ("statement_timeout_secs", settings.statementTimeout.toNat),
    ("busy_timeout_secs", settings.busyTimeout.toNat)].map fun (name, value) =>
      (name, FileConfig.numberJson (some value))

/-- The settings of a file, with the defaults of a backend for those that are absent. -/
def ofFile (file : FileConfig) (backend : Backend) : PoolSettings :=
  -- The backend decides what stands in for an absent setting.
  let fallback := defaults backend
  { maxConnections := file.maxConnections.getD fallback.maxConnections
    minConnections := file.minConnections.getD fallback.minConnections
    acquireTimeout := file.acquireTimeout.getD fallback.acquireTimeout
    idleTimeout := file.idleTimeout.getD fallback.idleTimeout
    maxLifetime := file.maxLifetime.getD fallback.maxLifetime
    statementTimeout := file.statementTimeout.getD fallback.statementTimeout
    busyTimeout := file.busyTimeout.getD fallback.busyTimeout }

end PoolSettings

/-- A complete configuration. -/
structure Config where
  backend : Backend
  url : String
  pool : PoolSettings
  query : QuerySettings
deriving DecidableEq

/-- The variables of an environment. -/
abbrev Environment := String → Option String

namespace Config

/-- The address of a database in memory. -/
def memoryUrl : String := "sqlite::memory:"

/-- A configuration for a database in memory, which has one connection. -/
def memory : Config :=
  -- Each connection of a database in memory would see a database of its own.
  ⟨.sqlite, memoryUrl, { PoolSettings.defaults .sqlite with maxConnections := 1 },
    .default⟩

/-- The backend: that of the environment, else that of the file, else SQLite. -/
def resolveBackend (file : FileConfig) (environment : Environment) :
    Except ConfigError Backend :=
  -- The environment comes before the file, and its text has to name a backend.
  match environment backendVariable with
  | some text => (Backend.parse text).mapError .unknownBackend
  | none => .ok (file.backend.getD .sqlite)

/-- The address: only SQLite has one of its own. -/
def resolveUrl (file : FileConfig) (environment : Environment) (backend : Backend) :
    Except ConfigError String :=
  -- An empty address counts as none, wherever it stands.
  let url := ((environment urlVariable).or file.url).getD ""
  if url ≠ "" then .ok url
  else
    match backend with
    | .sqlite => .ok memoryUrl
    | .postgres => .error .missingUrl

/-- A number of the environment, or else the one given. -/
def resolveNumber (environment : Environment) (name : String) (bound fallback : Nat) :
    Except ConfigError Nat :=
  -- A text that is there has to be a number, even if there is something to fall back on.
  match environment name with
  | some text => (readUnsigned bound text).mapError (.invalidNumber name text)
  | none => .ok fallback

/-- Resolves a configuration, or reports the first setting that is wrong. -/
def resolve (file : FileConfig) (environment : Environment) : Except ConfigError Config := do
  let backend ← resolveBackend file environment
  let url ← resolveUrl file environment backend
  let limit ← resolveNumber environment limitVariable UInt32.size
    (file.defaultLimit.getD QuerySettings.default.defaultLimit).toNat
  let buffer ← resolveNumber environment bufferVariable UInt64.size
    (file.streamBuffer.getD QuerySettings.default.streamBuffer).toNat
  if buffer = 0 then throw .emptyBuffer
  return ⟨backend, url, .ofFile file backend, ⟨.ofNat limit, .ofNat buffer⟩⟩

/-- The reason given for a file that is not there. -/
def noSuchFile : String := "No such file or directory (os error 2)"

/-- Reads the settings of a file, where `files` gives the content of the files there are. -/
def settingsAt (files : String → Option String) (path : String) : Except ConfigError FileConfig :=
  -- A file can be missing, or there with a content that is no configuration.
  match files path with
  | none => .error (.fileUnreadable path noSuchFile)
  | some text => (Decode.read FileConfig.decode text).mapError (.fileInvalid path)

/-- Loads a configuration from the file given, else from the file that the environment names. -/
def load (files : String → Option String) (path : Option String) (environment : Environment) :
    Except ConfigError Config := do
  match path.or (environment configVariable) with
  -- The file is optional, but one that is named has to exist.
  | none => resolve .empty environment
  | some path =>
    if (files path).isNone then throw (.fileNotFound path)
    let file ← settingsAt files path
    resolve file environment

end Config

end RowFilter
