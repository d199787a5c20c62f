import RowFilter.Config
import RowFilter.Proofs.Calendar.DateText
import RowFilter.Proofs.Json.Written
import RowFilter.Proofs.Result

/-! Which settings make a configuration: the environment goes before the file, and the file before
the defaults of the backend that both lead to. -/

namespace RowFilter

/-- What is left of a text has blanks around it that are dropped. -/
theorem Text.trim_split (text : List Char) :
    ∃ before after, text = before ++ trim text ++ after ∧ (∀ c ∈ before, isBlank c = true) ∧
      ∀ c ∈ after, isBlank c = true := by
  -- What is dropped are the blanks in front, and those that come first from the back.
  refine ⟨text.takeWhile isBlank,
    ((text.dropWhile isBlank).reverse.takeWhile isBlank).reverse, ?_, ?_, ?_⟩
  · -- The end is cut off the text behind the blanks at its start.
    have back := congrArg List.reverse
      (List.takeWhile_append_dropWhile (p := isBlank) (l := (text.dropWhile isBlank).reverse))
    rw [List.reverse_append, List.reverse_reverse] at back
    rw [trim, List.append_assoc, back, List.takeWhile_append_dropWhile]
  · exact fun c listed => List.mem_takeWhile_imp listed
  · exact fun c listed => List.mem_takeWhile_imp (List.mem_reverse.mp listed)

/-- A letter is no blank, whatever its case. -/
theorem Text.isBlank_of_toLower {c : Char} (letter : 'a' ≤ c.toLower ∧ c.toLower ≤ 'z') :
    isBlank c = false := by
  -- In either case the code point is one of a letter, and no range of blanks has a letter.
  obtain ⟨least, most⟩ := letter
  have bounds : 65 ≤ c.toNat ∧ c.toNat ≤ 122 := by
    unfold Char.toLower at least most
    split at least
    · rename_i upper
      have low : 65 ≤ c.toNat := upper.1
      have high : c.toNat ≤ 90 := upper.2
      omega
    · have low : 97 ≤ c.toNat := least
      rename_i lower
      rw [dif_neg lower] at most
      have high : c.toNat ≤ 122 := most
      omega
  simp only [isBlank, blankRanges, List.any_cons, List.any_nil, Bool.or_false,
    Bool.or_eq_false_iff, Bool.and_eq_false_iff, decide_eq_false_iff_not]
  omega

namespace Backend

/-- The names of a backend. -/
def names : Backend → List String
  -- Only the second one has another name.
  | .sqlite => ["sqlite"]
  | .postgres => ["postgres", "postgresql"]

/-- Whether a text names a backend, where blanks around the name and the case of its letters do not
count. -/
def IsNamed (text : String) (backend : Backend) : Prop :=
  -- The blanks are taken off before the letters are made small.
  ∃ before name after, text.toList = before ++ name ++ after ∧
    (∀ c ∈ before, Text.isBlank c = true) ∧ (∀ c ∈ after, Text.isBlank c = true) ∧
    String.ofList (name.map Char.toLower) ∈ backend.names

/-- A name of a backend has small letters, and at least one. -/
theorem letters_of_mem_names {backend : Backend} {name : String} (listed : name ∈ backend.names) :
    name.toList ≠ [] ∧ ∀ c ∈ name.toList, 'a' ≤ c ∧ c ≤ 'z' := by
  -- The names are few.
  cases backend <;> simp only [names, List.mem_cons, List.not_mem_nil, or_false] at listed
  · subst listed
    simp
  · rcases listed with rfl | rfl <;> simp

/-- A text is parsed as the backend that it names. -/
theorem parse_ok {text : String} {backend : Backend} :
    parse text = .ok backend ↔ IsNamed text backend := by
  -- Taking off the blanks and making the letters small leaves the name that is compared.
  have lowered (name : List Char) :
      (String.ofList name).map Char.toLower = String.ofList (name.map Char.toLower) := by
    rw [← String.toList_inj, String.toList_map, String.toList_ofList, String.toList_ofList]
  -- What decides is the name without the blanks around it.
  have decided (name : String) : (if name = "sqlite" then Except.ok sqlite
      else if name = "postgres" ∨ name = "postgresql" then .ok postgres
      else .error (⟨name⟩ : UnknownName)) = .ok backend ↔ name ∈ backend.names := by
    by_cases lite : name = "sqlite"
    · subst lite
      cases backend <;> simp [names]
    · rw [if_neg lite]
      cases backend <;> split <;> simp_all [names]
  simp only [parse]
  rw [decided, lowered]
  constructor
  · -- The text is put together again from the blanks that are dropped and the name.
    intro listed
    obtain ⟨before, after, split, leading, trailing⟩ := Text.trim_split text.toList
    exact ⟨before, _, after, split, leading, trailing, listed⟩
  · rintro ⟨before, name, after, split, leading, trailing, listed⟩
    obtain ⟨filled, letters⟩ := letters_of_mem_names listed
    rw [String.toList_ofList] at filled letters
    have plain : ∀ c ∈ name, Text.isBlank c = false := fun c own =>
      Text.isBlank_of_toLower (letters _ (List.mem_map_of_mem own))
    have some : name ≠ [] := fun none => filled (by rw [none]; rfl)
    have trimmed : Text.trim text.toList = name := by
      rw [split]
      exact Text.trim_surrounded leading trailing (List.cons_head_tail some).symm
        (List.dropLast_append_getLast some).symm (plain _ (List.head_mem some))
        (plain _ (List.getLast_mem some))
    rw [trimmed]
    exact listed

end Backend

/-- Whether a text spells a number in decimal, with a plus in front of it or without one. -/
def SpellsNumber (text : String) (number : Nat) : Prop :=
  -- The digits are what is behind the plus, if there is one.
  ∃ digits : List Char, digits ≠ [] ∧ (∀ c ∈ digits, c.isDigit = true) ∧
    (text.toList = digits ∨ text.toList = '+' :: digits) ∧ Nat.ofDigitChars 10 digits 0 = number

/-- Digits are read up to the end if the number stays below the bound. -/
theorem readDigits_ok {bound before number : Nat} {digits : List Char} (filled : digits ≠ []) :
    readDigits bound before digits = .ok number
      ↔ (∀ c ∈ digits, c.isDigit = true) ∧ Nat.ofDigitChars 10 digits before = number ∧
          number < bound := by
  -- The number that has been read so far is quantified over.
  induction digits generalizing before with
  | nil => exact absurd rfl filled
  | cons c rest ih =>
    by_cases digit : c.isDigit = true
    · rw [readDigits, if_neg (by simp [digit])]
      have next : before * 10 + (c.toNat - '0'.toNat) = 10 * before + (c.toNat - '0'.toNat) := by
        rw [Nat.mul_comm]
      have grows := Numeral.le_ofDigitChars rest (10 * before + (c.toNat - '0'.toNat))
      simp only [next, List.forall_mem_cons, digit, true_and, Nat.ofDigitChars_cons]
      by_cases exceeds : bound ≤ 10 * before + (c.toNat - '0'.toNat)
      · -- More digits make the number no smaller.
        rw [if_pos exceeds]
        constructor
        · rintro ⟨⟩
        · rintro ⟨-, rfl, below⟩
          omega
      · rw [if_neg exceeds]
        cases rest with
        | nil =>
          rw [readDigits, Except.ok.injEq, Nat.ofDigitChars_nil]
          constructor
          · rintro rfl
            exact ⟨by simp, rfl, Nat.lt_of_not_le exceeds⟩
          · exact fun known => known.2.1
        | cons other rest => exact ih (by simp)
    · rw [readDigits, if_pos (by simp [digit])]
      constructor
      · rintro ⟨⟩
      · exact fun known => absurd (known.1 c (.head _)) digit

/-- The characters behind a plus, or all of them if there is none in front. -/
def withoutPlus : List Char → List Char
  -- At most one plus is taken off.
  | '+' :: rest => rest
  | text => text

/-- A text spells a number by the digits behind its plus. -/
theorem spellsNumber_iff {text : String} {number : Nat} : SpellsNumber text number
    ↔ withoutPlus text.toList ≠ [] ∧ (∀ c ∈ withoutPlus text.toList, c.isDigit = true) ∧
        Nat.ofDigitChars 10 (withoutPlus text.toList) 0 = number := by
  -- A text is taken apart in one way only, since a plus is no digit.
  constructor
  · rintro ⟨digits, filled, digit, plain | signed, value⟩
    · -- A plus is no digit.
      have unsigned : withoutPlus digits = digits := by
        unfold withoutPlus
        split
        · exact absurd (digit '+' (.head _)) (by decide)
        · rfl
      rw [plain, unsigned]
      exact ⟨filled, digit, value⟩
    · rw [signed]
      exact ⟨filled, digit, value⟩
  · rintro ⟨filled, digit, value⟩
    refine ⟨_, filled, digit, ?_, value⟩
    unfold withoutPlus
    split
    · exact .inr (by assumption)
    · exact .inl rfl

/-- A text is read as the number that it spells, if that is below the bound. -/
theorem readUnsigned_ok {bound number : Nat} {text : String} :
    readUnsigned bound text = .ok number ↔ SpellsNumber text number ∧ number < bound := by
  -- The reader fails on a text without digits, and otherwise reads the digits behind the plus.
  rw [spellsNumber_iff, and_assoc, and_assoc]
  by_cases filled : withoutPlus text.toList = []
  · -- There is nothing, or nothing behind a plus.
    have failed : ∃ error, readUnsigned bound text = .error error := by
      unfold readUnsigned
      split <;> simp_all [withoutPlus]
    obtain ⟨error, failed⟩ := failed
    simp [failed, filled]
  · have read : readUnsigned bound text = readDigits bound 0 (withoutPlus text.toList) := by
      unfold readUnsigned
      split <;> simp_all [withoutPlus]
    rw [read, readDigits_ok filled]
    exact (and_iff_right filled).symm

/-- Whether each setting of a pool is that of a file, or else that of a backend by default. -/
structure PoolSettings.Layers (file : FileConfig) (backend : Backend) (pool : PoolSettings) :
    Prop where
  maxConnections : pool.maxConnections = file.maxConnections.getD (defaults backend).maxConnections
  minConnections : pool.minConnections = file.minConnections.getD (defaults backend).minConnections
  acquireTimeout : pool.acquireTimeout = file.acquireTimeout.getD (defaults backend).acquireTimeout
  idleTimeout : pool.idleTimeout = file.idleTimeout.getD (defaults backend).idleTimeout
  maxLifetime : pool.maxLifetime = file.maxLifetime.getD (defaults backend).maxLifetime
  statementTimeout :
    pool.statementTimeout = file.statementTimeout.getD (defaults backend).statementTimeout
  busyTimeout : pool.busyTimeout = file.busyTimeout.getD (defaults backend).busyTimeout

/-- Just the settings of a file with the defaults of a backend have these two layers. -/
theorem PoolSettings.layers_iff {file : FileConfig} {backend : Backend} {pool : PoolSettings} :
    Layers file backend pool ↔ pool = ofFile file backend := by
  -- Each setting is a layer of its own, and together they are all there is of a pool.
  constructor
  · rintro ⟨_, _, _, _, _, _, _⟩
    cases pool
    simp_all [ofFile]
  · rintro rfl
    exact ⟨rfl, rfl, rfl, rfl, rfl, rfl, rfl⟩

namespace Config

variable {file : FileConfig} {environment : Environment}

/-- The backend that the environment names, else that of the file, else SQLite. -/
def IsBackend (file : FileConfig) (environment : Environment) (backend : Backend) : Prop :=
  -- The environment is not passed over, even if it names no backend.
  match environment backendVariable with
  | some text => backend.IsNamed text
  | none => backend = file.backend.getD .sqlite

/-- The address that the environment gives, else that of the file, else none. -/
def givenUrl (file : FileConfig) (environment : Environment) : String :=
  -- The address is given even where it is empty.
  ((environment urlVariable).or file.url).getD ""

/-- The number below a bound that a variable of the environment spells, else the one given. -/
def IsNumber (environment : Environment) (name : String) (bound fallback number : Nat) : Prop :=
  -- A variable that is there has to spell a number.
  match environment name with
  | some text => SpellsNumber text number ∧ number < bound
  | none => number = fallback

/-- The limit of the environment, else that of the file, else 100. -/
def IsLimit (file : FileConfig) (environment : Environment) (limit : Nat) : Prop :=
  -- The limit is a word of 32 bits.
  IsNumber environment limitVariable UInt32.size (file.defaultLimit.getD 100).toNat limit

/-- The buffer of the environment, else that of the file, else 64. -/
def IsBuffer (file : FileConfig) (environment : Environment) (buffer : Nat) : Prop :=
  -- The buffer is a word of 64 bits.
  IsNumber environment bufferVariable UInt64.size (file.streamBuffer.getD 64).toNat buffer

/-- Whether there is an address: only SQLite has one of its own. -/
def HasUrl (file : FileConfig) (environment : Environment) (backend : Backend) : Prop :=
  -- An empty address is none.
  givenUrl file environment ≠ "" ∨ backend = .sqlite

/-- Whether a configuration is what a file and an environment say, with the defaults of the backend
that they lead to. -/
structure Layers (file : FileConfig) (environment : Environment) (config : Config) : Prop where
  backend : IsBackend file environment config.backend
  reachable : HasUrl file environment config.backend
  url : config.url
    = if givenUrl file environment = "" then memoryUrl else givenUrl file environment
  pool : config.pool.Layers file config.backend
  limit : IsLimit file environment config.query.defaultLimit.toNat
  buffer : IsBuffer file environment config.query.streamBuffer.toNat
  flows : config.query.streamBuffer.toNat ≠ 0

/-- The first setting that keeps a file and an environment from making a configuration. -/
inductive Refuses (file : FileConfig) (environment : Environment) : ConfigError → Prop
  | unknownBackend {text : String} (given : environment backendVariable = some text)
      (unknown : ∀ backend, ¬ Backend.IsNamed text backend) :
    Refuses file environment
      (.unknownBackend ⟨(String.ofList (Text.trim text.toList)).map Char.toLower⟩)
  | missingUrl {backend : Backend} (named : IsBackend file environment backend)
      (unreachable : ¬ HasUrl file environment backend) :
    Refuses file environment .missingUrl
  | invalidLimit {backend : Backend} {text : String} {reason : NumberError}
      (named : IsBackend file environment backend) (reachable : HasUrl file environment backend)
      (given : environment limitVariable = some text)
      (invalid : ∀ limit, ¬ IsLimit file environment limit)
      (known : readUnsigned UInt32.size text = .error reason) :
    Refuses file environment (.invalidNumber limitVariable text reason)
  | invalidBuffer {backend : Backend} {limit : Nat} {text : String} {reason : NumberError}
      (named : IsBackend file environment backend) (reachable : HasUrl file environment backend)
      (limited : IsLimit file environment limit)
      (given : environment bufferVariable = some text)
      (invalid : ∀ buffer, ¬ IsBuffer file environment buffer)
      (known : readUnsigned UInt64.size text = .error reason) :
    Refuses file environment (.invalidNumber bufferVariable text reason)
  | emptyBuffer {backend : Backend} {limit : Nat}
      (named : IsBackend file environment backend) (reachable : HasUrl file environment backend)
      (limited : IsLimit file environment limit) (empty : IsBuffer file environment 0) :
    Refuses file environment .emptyBuffer

/-- The backend is the one that is named. -/
theorem resolveBackend_ok {backend : Backend} :
    resolveBackend file environment = .ok backend ↔ IsBackend file environment backend := by
  -- The two layers are the two cases, and only the environment is parsed.
  unfold resolveBackend IsBackend
  cases environment backendVariable with
  | none => simp [eq_comm]
  | some text =>
    refine Iff.trans ⟨Result.mapError_ok, fun parsed => ?_⟩ Backend.parse_ok
    simp [parsed, Except.mapError]

/-- Only a name of the environment may be unknown. -/
theorem resolveBackend_error {error : ConfigError} :
    resolveBackend file environment = .error error ↔ ∃ text,
      environment backendVariable = some text ∧ (∀ backend, ¬ Backend.IsNamed text backend) ∧
      error = .unknownBackend ⟨(String.ofList (Text.trim text.toList)).map Char.toLower⟩ := by
  -- Without a variable nothing can be unknown.
  cases given : environment backendVariable with
  | none => simp [resolveBackend, given]
  | some text =>
    have named := @Backend.parse_ok text
    simp only [resolveBackend, given, Option.some.injEq, exists_eq_left']
    -- The text is parsed as a backend that it names, or else it is told as it was understood.
    cases parsed : Backend.parse text with
    | ok backend =>
      have own := named.mp parsed
      simp only [Except.mapError, reduceCtorEq, false_iff, not_and]
      exact fun unknown => absurd own (unknown backend)
    | error unknown =>
      have unnamed : ∀ backend, ¬ Backend.IsNamed text backend := fun backend own => by
        rw [named.mpr own] at parsed
        cases parsed
      have told : unknown = ⟨(String.ofList (Text.trim text.toList)).map Char.toLower⟩ := by
        simp only [Backend.parse] at parsed
        split at parsed
        · cases parsed
        · split at parsed <;> cases parsed
          rfl
      simp [Except.mapError, unnamed, told, @eq_comm _ error]

/-- An address is the one that is given, or that of SQLite. -/
theorem resolveUrl_ok {backend : Backend} {url : String} :
    resolveUrl file environment backend = .ok url ↔ HasUrl file environment backend ∧
      url = if givenUrl file environment = "" then memoryUrl else givenUrl file environment := by
  -- There is a way out for one backend only, where no address is given.
  have given : resolveUrl file environment backend = if givenUrl file environment ≠ "" then
      .ok (givenUrl file environment) else _ := rfl
  by_cases empty : givenUrl file environment = ""
  · rw [given, if_neg (not_not.mpr empty), if_pos empty]
    cases backend <;> simp [HasUrl, empty, @eq_comm _ url]
  · rw [given, if_pos empty, if_neg empty]
    simp [HasUrl, empty, @eq_comm _ url]

/-- An address may be missing. -/
theorem resolveUrl_error {backend : Backend} {error : ConfigError} :
    resolveUrl file environment backend = .error error
      ↔ ¬ HasUrl file environment backend ∧ error = .missingUrl := by
  -- The way out of one backend is missing for the other one.
  have given : resolveUrl file environment backend = if givenUrl file environment ≠ "" then
      .ok (givenUrl file environment) else _ := rfl
  by_cases empty : givenUrl file environment = ""
  · rw [given, if_neg (not_not.mpr empty)]
    cases backend <;> simp [HasUrl, empty, @eq_comm _ error]
  · rw [given, if_pos empty]
    simp [HasUrl, empty]

variable {name : String} {bound fallback : Nat}

/-- A number is the one that is spelled, or the one given. -/
theorem resolveNumber_ok {number : Nat} :
    resolveNumber environment name bound fallback = .ok number
      ↔ IsNumber environment name bound fallback number := by
  -- The two layers are the two cases, and only the environment is read.
  unfold resolveNumber IsNumber
  cases environment name with
  | none => simp [eq_comm]
  | some text =>
    refine Iff.trans ⟨Result.mapError_ok, fun read => ?_⟩ readUnsigned_ok
    simp [read, Except.mapError]

/-- Only a text of the environment may be no number. -/
theorem resolveNumber_error {error : ConfigError} :
    resolveNumber environment name bound fallback = .error error ↔ ∃ text reason,
      environment name = some text ∧
      (∀ number, ¬ IsNumber environment name bound fallback number) ∧
      readUnsigned bound text = .error reason ∧ error = .invalidNumber name text reason := by
  -- Without a variable the number is the one given.
  cases given : environment name with
  | none => simp [resolveNumber, given]
  | some text =>
    simp only [resolveNumber, given, IsNumber, ← readUnsigned_ok, Option.some.injEq]
    cases read : readUnsigned bound text with
    | ok number => simp [Except.mapError, read]
    | error reason => simp [Except.mapError, read, @eq_comm _ error]

/-- A configuration is resolved setting by setting. -/
theorem resolve_eq (file : FileConfig) (environment : Environment) :
    resolve file environment = (resolveBackend file environment >>= fun backend =>
      resolveUrl file environment backend >>= fun url =>
      resolveNumber environment limitVariable UInt32.size
        (file.defaultLimit.getD 100).toNat >>= fun limit =>
      resolveNumber environment bufferVariable UInt64.size
        (file.streamBuffer.getD 64).toNat >>= fun buffer =>
      if buffer = 0 then .error .emptyBuffer
      else .ok ⟨backend, url, .ofFile file backend, ⟨.ofNat limit, .ofNat buffer⟩⟩) := rfl

/-- A number that is resolved fits its word. -/
theorem IsNumber.lt {number : Nat} (own : IsNumber environment name bound fallback number)
    (fits : fallback < bound) : number < bound := by
  -- A spelled number is checked against the bound, and the other one is known to be below it.
  unfold IsNumber at own
  split at own
  · exact own.2
  · rw [own]
    exact fits

/-- A limit is a word of 32 bits. -/
theorem IsLimit.toNat_ofNat {limit : Nat} (own : IsLimit file environment limit) :
    (UInt32.ofNat limit).toNat = limit :=
  -- What is checked is the bound of the word.
  UInt32.toNat_ofNat_of_lt' (IsNumber.lt own (UInt32.toNat_lt _))

/-- A buffer is a word of 64 bits. -/
theorem IsBuffer.toNat_ofNat {buffer : Nat} (own : IsBuffer file environment buffer) :
    (UInt64.ofNat buffer).toNat = buffer :=
  -- What is checked is the bound of the word.
  UInt64.toNat_ofNat_of_lt' (IsNumber.lt own (UInt64.toNat_lt _))

/-- A configuration is resolved exactly as its layers say. -/
theorem resolve_ok {config : Config} :
    resolve file environment = .ok config ↔ Layers file environment config := by
  -- Each step yields what its layer says, and a configuration is made of what they yield.
  simp only [resolve_eq, Result.bind_ok_iff, resolveBackend_ok, resolveUrl_ok, resolveNumber_ok]
  constructor
  · rintro ⟨backend, named, url, ⟨reachable, given⟩, limit, limited, buffer, buffered, made⟩
    split at made
    · cases made
    · rename_i flows
      cases made
      have limitWord := IsLimit.toNat_ofNat limited
      have bufferWord := IsBuffer.toNat_ofNat buffered
      refine ⟨named, reachable, given, PoolSettings.layers_iff.mpr rfl, ?_, ?_, ?_⟩
      · rw [limitWord]
        exact limited
      · rw [bufferWord]
        exact buffered
      · rw [bufferWord]
        exact flows
  · rintro ⟨named, reachable, given, pool, limited, buffered, flows⟩
    obtain ⟨backend, url, settings, limit, buffer⟩ := config
    obtain rfl : settings = .ofFile file backend := PoolSettings.layers_iff.mp pool
    refine ⟨_, named, _, ⟨reachable, given⟩, _, limited, _, buffered, ?_⟩
    rw [if_neg flows]
    simp

/-- The failure that is reported is that of the first setting that is wrong. -/
theorem resolve_error {error : ConfigError} :
    resolve file environment = .error error ↔ Refuses file environment error := by
  -- A step fails only behind steps that yield something, which is what each case remembers.
  simp only [resolve_eq, Result.bind_error_iff, resolveBackend_ok, resolveBackend_error,
    resolveUrl_ok, resolveUrl_error, resolveNumber_ok, resolveNumber_error]
  constructor
  · rintro (⟨text, given, unknown, rfl⟩ | ⟨backend, named, ⟨unreachable, rfl⟩ | ⟨url,
      ⟨reachable, -⟩, ⟨text, reason, given, invalid, known, rfl⟩ | ⟨limit, limited,
      ⟨text, reason, given, invalid, known, rfl⟩ | ⟨buffer, buffered, failed⟩⟩⟩⟩)
    · exact .unknownBackend given unknown
    · exact .missingUrl named unreachable
    · exact .invalidLimit named reachable given invalid known
    · exact .invalidBuffer named reachable limited given invalid known
    · split at failed
      · rename_i empty
        cases failed
        subst empty
        exact .emptyBuffer named reachable limited buffered
      · cases failed
  · intro refused
    cases refused with
    | unknownBackend given unknown => exact .inl ⟨_, given, unknown, rfl⟩
    | missingUrl named unreachable => exact .inr ⟨_, named, .inl ⟨unreachable, rfl⟩⟩
    | invalidLimit named reachable given invalid known =>
      exact .inr ⟨_, named, .inr ⟨_, ⟨reachable, rfl⟩,
        .inl ⟨_, _, given, invalid, known, rfl⟩⟩⟩
    | invalidBuffer named reachable limited given invalid known =>
      exact .inr ⟨_, named, .inr ⟨_, ⟨reachable, rfl⟩, .inr ⟨_, limited,
        .inl ⟨_, _, given, invalid, known, rfl⟩⟩⟩⟩
    | emptyBuffer named reachable limited empty =>
      exact .inr ⟨_, named, .inr ⟨_, ⟨reachable, rfl⟩, .inr ⟨_, limited,
        .inr ⟨0, empty, if_pos rfl⟩⟩⟩⟩

/-- Whether a file and an environment make a configuration: the backend is known and has an address,
and the limit and the buffer are numbers, the second one of which is not zero. -/
def IsResolvable (file : FileConfig) (environment : Environment) : Prop :=
  -- All four settings depend on the same backend.
  ∃ backend, IsBackend file environment backend ∧ HasUrl file environment backend ∧
    (∃ limit, IsLimit file environment limit) ∧
    ∃ buffer, IsBuffer file environment buffer ∧ buffer ≠ 0

/-- A file and an environment make a configuration exactly if their settings are right, and
otherwise the first one that is wrong is reported. Each setting of the configuration is that of the
environment where there is a variable for it, or else that of the file, or else the default of the
backend that is resolved; the address is not empty and the buffer holds a row at least. -/
theorem resolve_layers (file : FileConfig) (environment : Environment) :
    ((∃ config, resolve file environment = .ok config) ↔ IsResolvable file environment) ∧
    (∀ error, resolve file environment = .error error ↔ Refuses file environment error) ∧
    (∀ config, resolve file environment = .ok config ↔ Layers file environment config) ∧
    ∀ config, resolve file environment = .ok config →
      config.url ≠ "" ∧ 1 ≤ config.query.streamBuffer.toNat := by
  -- Both directions go through the layers that a configuration is made of.
  refine ⟨⟨?_, ?_⟩, fun error => resolve_error, fun config => resolve_ok, ?_⟩
  · rintro ⟨config, resolved⟩
    obtain ⟨named, reachable, -, -, limited, buffered, flows⟩ := resolve_ok.mp resolved
    exact ⟨_, named, reachable, ⟨_, limited⟩, _, buffered, flows⟩
  · rintro ⟨backend, named, reachable, ⟨limit, limited⟩, buffer, buffered, flows⟩
    refine ⟨⟨backend, _, .ofFile file backend, ⟨.ofNat limit, .ofNat buffer⟩⟩, resolve_ok.mpr
      ⟨named, reachable, rfl, PoolSettings.layers_iff.mpr rfl, ?_, ?_, ?_⟩⟩
    · rw [limited.toNat_ofNat]
      exact limited
    · rw [buffered.toNat_ofNat]
      exact buffered
    · rw [buffered.toNat_ofNat]
      exact flows
  · intro config resolved
    have layers := resolve_ok.mp resolved
    refine ⟨?_, Nat.one_le_iff_ne_zero.mpr layers.flows⟩
    rw [layers.url]
    split
    · decide
    · assumption

/-- The environment sends a file for SQLite to PostgreSQL, whose defaults then count: the number of
connections is that of the file, the limit is that of the environment, and a buffer of no rows is
refused. -/
theorem resolve_layers_environment :
    let file : FileConfig :=
      { FileConfig.empty with
        backend := some .sqlite, maxConnections := some 7, defaultLimit := some 50 }
    let environment (buffer : Option String) : Environment := fun name =>
      if name = backendVariable then some " PostgreSQL "
      else if name = urlVariable then some "postgres://localhost/books"
      else if name = limitVariable then some "+25"
      else if name = bufferVariable then buffer
      else none
    let config : Config :=
      ⟨.postgres, "postgres://localhost/books",
        { PoolSettings.defaults .postgres with maxConnections := 7 }, ⟨25, 64⟩⟩
    Layers file (environment none) config ∧ IsResolvable file (environment none) ∧
      1 ≤ config.query.streamBuffer.toNat ∧ Refuses file (environment (some "0")) .emptyBuffer := by
  -- Both configurations are computed, and what they are made of is told by the theorem.
  intro file environment config
  have resolved : resolve file (environment none) = .ok config := by decide +kernel
  have refused : resolve file (environment (some "0")) = .error .emptyBuffer := by
    decide +kernel
  obtain ⟨resolvable, -, layers, sound⟩ := resolve_layers file (environment none)
  obtain ⟨-, refuses, -⟩ := resolve_layers file (environment (some "0"))
  exact ⟨(layers config).mp resolved, resolvable.mp ⟨config, resolved⟩,
    (sound config resolved).2, (refuses _).mp refused⟩

end Config

end RowFilter
