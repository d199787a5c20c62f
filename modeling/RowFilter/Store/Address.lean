import RowFilter.Config
import RowFilter.Store.Error
import RowFilter.Text.Percent
import RowFilter.Text.Printed

/-! Addresses of databases, and what happens when a store connects to them. -/

namespace RowFilter

namespace Address

/-- The failure for a setting of an address. -/
def misconfigured {α : Type} (reason : String) : Except DriverFailure α :=
  -- All faults of an address are of this kind, but for those of the files.
  .error (.configuration reason)

/-- The failure for a value that a setting cannot have. -/
def unknownValue {α : Type} (setting value : String) : Except DriverFailure α :=
  -- The value is shown with its unprintable characters escaped.
  misconfigured s!"unknown value {Text.printed value} for `{setting}`"

/-- Drops every occurrence of a beginning from the start of a text. -/
def dropRepeated (lead : String) : Nat → String → String
  -- The rounds bound the loop, of which each one shortens the text.
  | 0, text => text
  | rounds + 1, text =>
    if text.startsWith lead then dropRepeated lead rounds ((text.drop lead.length).toString)
    else text

/-- Where an embedded database is kept. -/
inductive Location where
  | memory
  | file (path : String)
deriving DecidableEq

/-- The systems of files that an embedded database knows. -/
def fileSystems : List String :=
  -- The last one keeps its files in memory.
  ["unix", "unix-dotfile", "unix-excl", "unix-none", "memdb"]

/-- Checks one setting of an embedded database; the mode may move it into memory. -/
def embeddedSetting (location : Location) (setting : String × String) :
    Except DriverFailure Location :=
  -- Settings are checked in their order, and a value has to be known even where it changes nothing.
  let (name, value) := setting
  if name = "mode" then
    if value = "memory" then .ok .memory
    else if ["ro", "rw", "rwc"].contains value then .ok location
    else unknownValue "mode" value
  else if name = "cache" then
    if ["private", "shared"].contains value then .ok location else unknownValue "cache" value
  else if name = "immutable" then
    if ["true", "1", "false", "0"].contains value then .ok location
    else unknownValue "immutable" value
  else if name = "vfs" then
    if fileSystems.contains value then .ok location
    else
      let message := s!"no such vfs: {value}"
      -- Only this setting is refused by the engine itself.
      .error (.database (some "1") message s!"(code: 1) {message}")
  else misconfigured s!"unknown query parameter `{name}` while parsing connection URL"

/-- The place of an embedded database that an address names. -/
def embedded (address : String) : Except DriverFailure Location := do
  -- The longer scheme is dropped first, since it begins with the shorter one.
  let withoutScheme := dropRepeated "sqlite:" address.length
    (dropRepeated "sqlite://" address.length address)
  let (name, query) := Percent.cutAt '?' withoutScheme.toList
  let location ←
    -- The name for memory is looked for before escapes are read.
    if String.ofList name = ":memory:" then pure Location.memory
    else
      match Percent.decode name with
      | .ok path => pure (.file path)
      | .error fault => misconfigured fault.message
  match query with
  | none => return location
  | some query => (Percent.queryPairs (String.ofList query)).foldlM embeddedSetting location

/-- The directory of a file. -/
def directoryOf (path : String) : String :=
  -- The slash at the end stays, and a bare name has no directory.
  String.ofList (path.toList.reverse.dropWhile (· ≠ '/')).reverse

/-- The failure for a file that cannot be opened. -/
def cannotOpen : DriverFailure :=
  -- The code is that of the engine.
  .database (some "14") "unable to open database file" "(code: 14) unable to open database file"

/-- Opens an embedded database; a file needs a directory that exists. -/
def openEmbedded (hasDirectory : String → Bool) (address : String) : Except DriverFailure Unit := do
  -- The file itself need not exist, since it is made.
  match ← embedded address with
  | .memory => return ()
  | .file path => if hasDirectory (directoryOf path) then return () else throw cannotOpen

/-- The parts of the address of a server that are checked. -/
structure ServerAddress where
  host : List Char
  port : Option (List Char)
  query : Option (List Char)

/-- The text after the scheme of an address, if it has one. -/
def afterScheme? (text : List Char) : Option (List Char) :=
  -- A scheme begins with a letter and ends before the first colon.
  match text with
  | [] => none
  | c :: _ =>
    let scheme := text.takeWhile fun c => c.isAlphanum || c = '+' || c = '-' || c = '.'
    match text.drop scheme.length with
    | ':' :: rest => if c.isAlpha then some rest else none
    | _ => none

/-- The text after the last occurrence of a mark, and whether the mark occurs. -/
def afterLast (mark : Char) (text : List Char) : Bool × List Char :=
  -- The text is read from its end.
  let after := (text.reverse.takeWhile (· ≠ mark)).reverse
  (after.length < text.length, after)

/-- Whether a character cannot stand in the name of a host. -/
def isForbiddenInHost (c : Char) : Bool :=
  -- These would end the host or be mistaken for another part of the address.
  c.toNat = 0 || "\t\n\r #/:<>?@[\\]^|".toList.contains c

/-- Checks the host of a server, the port after it included. -/
def checkHost (hasUser : Bool) (text : List Char) : Except DriverFailure Unit := do
  -- A host between brackets has colons of its own.
  let (host, port) :=
    match text with
    | '[' :: _ =>
      let (inner, after) := Percent.cutAt ']' text
      (inner ++ [']'], (after.getD []).drop 1)
    | _ =>
      let (host, after) := Percent.cutAt ':' text
      (host, after.getD [])
  let hasPort := text.contains ':'
  -- The host may only be missing where nothing else is said about the server.
  if host.isEmpty ∧ (hasUser ∨ hasPort) then misconfigured "empty host"
  if host.head? ≠ some '[' ∧ host.any isForbiddenInHost then
    misconfigured "invalid domain character"
  if port.any (fun c => !c.isDigit) ∨ 65535 < (String.ofList port).toNat?.getD 0 then
    misconfigured "invalid port number"

/-- The modes of encryption that a server address may name. -/
def encryptionModes : List String :=
  -- The order is from the weakest to the strongest.
  ["disable", "allow", "prefer", "require", "verify-ca", "verify-full"]

/-- Checks one setting of a server. -/
def serverSetting (setting : String × String) : Except DriverFailure Unit :=
  let (name, value) := setting
  let number (bound : Nat) : Except DriverFailure Unit :=
    match readUnsigned bound value with
    | .ok _ => .ok ()
    | .error error => misconfigured error.message
  if name = "sslmode" ∨ name = "ssl-mode" then
    if encryptionModes.contains (value.map Char.toLower) then .ok ()
    else
      -- The reason is a failure of its own, which is shown as a whole.
      let inner := DriverFailure.configuration
        s!"unknown value {Text.printed value} for `ssl_mode`"
      misconfigured inner.message
  else if name = "statement-cache-capacity" then number UInt64.size
  else if name = "port" then number 65536
  else .ok ()

/-- Opens a connection to a server; its address is checked, and no server answers. -/
def openServer (address : String) : Except DriverFailure Unit := do
  -- Blanks and controls around an address do not count.
  let isEdge (c : Char) : Bool := c.toNat ≤ 0x20
  let trimmed := ((address.toList.dropWhile isEdge).reverse.dropWhile isEdge).reverse
  match afterScheme? trimmed with
  | none => misconfigured "relative URL without a base"
  | some rest =>
    let (rest, _) := Percent.cutAt '#' rest
    let (place, query) := Percent.cutAt '?' rest
    match place with
    | '/' :: '/' :: authority =>
      -- A user may have the mark in its name, so that the last one divides.
      let (hasUser, host) := afterLast '@' (authority.takeWhile (· ≠ '/'))
      checkHost hasUser host
    | _ => pure ()
    (Percent.queryPairs (String.ofList (query.getD []))).forM serverSetting
    throw .poolTimedOut

/-- The error for a database to which there is no connection. -/
def connectError (backend : Backend) (failure : DriverFailure) : StoreError :=
  -- No statement was sent, so that the error has none.
  .connection s!"failed to connect to {backend.name}: {failure.message}" none
    (some (.driver failure))

/-- Connects to a database, where `hasDirectory` knows the directories that exist. -/
def connect (hasDirectory : String → Bool) (backend : Backend) (address : String) :
    Except StoreError Unit :=
  -- The backend says which kind of address is meant.
  let opened :=
    match backend with
    | .sqlite => openEmbedded hasDirectory address
    | .postgres => openServer address
  opened.mapError (connectError backend)

end Address

end RowFilter
