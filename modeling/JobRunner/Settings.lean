import JobRunner.Backoff
import JobRunner.Service
import JobRunner.Text.Case
import JobRunner.Text.Integer

/-!
# Settings

The settings of a running program, read from named texts.

- `Settings.read`: takes every setting from its variable, or from a second one, or its default.
- `Settings.service`, `Settings.crew`: the settings of the parts.

A numeric text that is set and not blank has to be a number of its range, blanks around it aside;
only the limit of payloads falls back to its default instead.
-/

namespace JobRunner

/-- The settings of a crew of workers. -/
structure CrewSettings where
  name : String
  workersPerType : Nat
  backoff : Backoff
  deriving Inhabited

/-- One worker for every type, and the standard delays. -/
def CrewSettings.standard : CrewSettings := ⟨"worker-1", 1, .standard⟩

/-- The settings of a program. -/
structure Settings where
  /-- Where the jobs are kept; in memory if there is none. -/
  databaseUrl : Option String
  workerName : String
  /-- Where requests are served; nowhere if there is none. -/
  apiAddress : Option String
  /-- The longest wait for a job in milliseconds. -/
  pollTimeout : Nat
  workersPerType : Nat
  connectionBuffer : Nat
  eventCacheCapacity : Nat
  maxAttempts : Int
  maxPayloadBytes : Nat
  migrateOnStartup : Bool
  logJson : Bool
  deriving DecidableEq, Repr, Inhabited

/-- Why settings cannot be used. -/
inductive SettingsError where
  | invalid (name : String) (why : Text.IntegerError)
  | notPositive (name : String)
  deriving DecidableEq, Repr

/-- The wording of settings that cannot be used. -/
def SettingsError.message : SettingsError → String
  | invalid name why => name ++ " is invalid: " ++ why.message
  | notPositive name => name ++ " must be > 0"

/-- Texts by name. -/
abbrev Environment := String → Option String

namespace Environment

/-- The environment of a list of pairs. -/
def ofList (pairs : List (String × String)) : Environment := fun name => pairs.lookup name

/-- A variable that is set and not blank. -/
def filled? (env : Environment) (name : String) : Option String :=
  (env name).filter (!Text.isBlank ·)

/-- The first of two variables that is filled. -/
def firstFilled? (env : Environment) (first second : String) : Option String :=
  env.filled? first <|> env.filled? second

/-- A number, blanks around it aside; none if the variable is not filled. -/
def number? (env : Environment) (name : String) (range : Text.IntegerRange) :
    Except SettingsError (Option Int) :=
  match env.filled? name with
  | none => .ok none
  | some text =>
    match Text.parseInteger range (Text.trim text) with
    | .ok n => .ok (some n)
    | .error why => .error (.invalid name why)

/-- An unsigned number, or its default. -/
def word (env : Environment) (name : String) (default : Nat) : Except SettingsError Nat :=
  (env.number? name .word).map fun n => (n.map Int.toNat).getD default

/-- A switch: on for a few words in any case, off for anything else. -/
def isOn (env : Environment) (name : String) : Bool :=
  match env name with
  | some text => ["1", "true", "yes", "on"].contains (Text.lower text)
  | none => false

end Environment

namespace Settings

/-- An address, unless the text is blank or one of the words that switch it off. -/
def address? (text : String) : Option String :=
  let trimmed := Text.trim text
  if trimmed.isEmpty || ["0", "off", "false", "none"].contains (Text.lower trimmed) then none
  else some trimmed

/-- The address served when none is set. -/
def standardAddress : String := "0.0.0.0:8080"

/-- The name of the workers: set for the program, or the name of the host. -/
def readWorkerName (env : Environment) : String :=
  (env.firstFilled? "JOBFLOW_WORKER_ID" "WORKER_ID" <|> env "HOSTNAME").getD "worker-1"

/-- The address to serve. -/
def readAddress (env : Environment) : Option String :=
  match env.firstFilled? "JOBFLOW_API_ADDR" "API_ADDR" with
  | some text => address? text
  | none => some standardAddress

/-- The limit of payloads; a text that is no number counts as none. -/
def readMaxPayload (env : Environment) : Nat :=
  let text := env.firstFilled? "JOBFLOW_MAX_PAYLOAD_BYTES" "MAX_PAYLOAD_BYTES"
  match text.map (Text.parseInteger .word) with
  | some (.ok n) => n.toNat
  | _ => QueueSettings.standard.maxPayloadBytes

/-- Takes all settings from an environment. -/
def read (env : Environment) : Except SettingsError Settings := do
  let pollTimeout ← env.word "JOBFLOW_POLL_TIMEOUT_MS" 5000
  if pollTimeout = 0 then throw (.notPositive "JOBFLOW_POLL_TIMEOUT_MS")
  let workersPerType ← env.word "JOBFLOW_WORKERS_PER_TYPE" 1
  let connectionBuffer ← env.word "JOBFLOW_CONNECTION_BUFFER" 32
  let eventCacheCapacity ← env.word "JOBFLOW_EVENT_CACHE_CAPACITY" 10000
  let maxAttempts := (← env.number? "JOBFLOW_MAX_ATTEMPTS" .counter).getD 1
  if maxAttempts ≤ 0 then throw (.notPositive "JOBFLOW_MAX_ATTEMPTS")
  return {
    databaseUrl := env.filled? "DATABASE_URL"
    workerName := readWorkerName env
    apiAddress := readAddress env
    pollTimeout
    workersPerType := min (max workersPerType 1) 64
    connectionBuffer := max connectionBuffer 1
    eventCacheCapacity
    maxAttempts
    maxPayloadBytes := readMaxPayload env
    migrateOnStartup := env.isOn "JOBFLOW_MIGRATE_ON_STARTUP"
    logJson := env.isOn "JOBFLOW_LOG_JSON" }

/-- The settings of the service. -/
def service (s : Settings) : ServiceSettings where
  queue := ⟨s.pollTimeout, s.maxPayloadBytes⟩
  defaultMaxAttempts := s.maxAttempts
  connectionBuffer := s.connectionBuffer
  eventCacheCapacity := s.eventCacheCapacity

/-- The settings of a crew. -/
def crew (s : Settings) : CrewSettings := ⟨s.workerName, s.workersPerType, .standard⟩

end Settings

end JobRunner
