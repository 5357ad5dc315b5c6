import JobRunner.Proofs.Integers
import JobRunner.Settings
import Mathlib.Data.List.TakeWhile

/-!
# Numbers from the environment

The numeric settings are what the environment asks for, or else reading them fails; only the limit
of payloads is not.

- `Environment.Supplies`: the text of the first of some variables that is filled.
- `NumericSetting.Asks`: the number that an environment asks for.
- `NumericSetting.Refuses`: why reading a setting fails.
- `Settings.honours_numbers`: settings are what is asked for, or the first one at fault is named.
- `Settings.ignores_payload_text`: a limit of payloads with blanks around it is not honoured, and
  one that is no number is not reported.
-/

namespace JobRunner

/-! ## Blank texts -/

namespace Text

/-- A text is blank exactly when trimming leaves nothing of it. -/
theorem trim_eq_empty_iff {s : String} : trim s = "" ↔ isBlank s = true := by
  have hback : trim s = "" ↔ ∀ c ∈ (dropBlank s.toList).reverse, isBlankChar c = true := by
    rw [trim, ← String.toList_inj, String.toList_ofList, String.toList_empty,
      List.reverse_eq_nil_iff]
    exact List.dropWhile_eq_nil_iff
  rw [hback, isBlank, List.all_eq_true]
  constructor
  · intro h
    -- a character that stops the first trimming would stop the second one too
    have hnil : dropBlank s.toList = [] := by
      by_contra hne
      have hblank := h _ (List.mem_reverse.mpr (List.head_mem hne))
      exact Bool.eq_false_iff.mp (List.head_dropWhile_not isBlankChar hne) hblank
    exact List.dropWhile_eq_nil_iff.mp hnil
  · intro h c hc
    exact h c ((List.dropWhile_suffix isBlankChar).subset (List.mem_reverse.mp hc))

end Text

/-! ## Variables -/

namespace Environment

/-- The first of some variables that is set and not blank has this text. -/
inductive Supplies (env : Environment) : List String → String → Prop
  | first {name text : String} {names : List String} (set : env name = some text)
      (filled : Text.trim text ≠ "") : Supplies env (name :: names) text
  | later {name text : String} {names : List String}
      (blank : ∀ other, env name = some other → Text.trim other = "")
      (rest : Supplies env names text) : Supplies env (name :: names) text

variable {env : Environment} {name first second text : String}

/-- A variable is filled if its text is not blank. -/
theorem filled?_eq_some_iff :
    env.filled? name = some text ↔ env name = some text ∧ Text.trim text ≠ "" := by
  unfold filled?
  rw [Option.filter_eq_some_iff, Bool.not_eq_true', ← Bool.not_eq_true, ← Text.trim_eq_empty_iff]

/-- A variable is not filled if it is absent or blank. -/
theorem filled?_eq_none_iff :
    env.filled? name = none ↔ ∀ other, env name = some other → Text.trim other = "" := by
  unfold filled?
  simp [Option.filter_eq_none_iff, Text.trim_eq_empty_iff]

/-- The first filled name supplies the text. -/
theorem supplies_iff {names : List String} :
    env.Supplies names text ↔ names.findSome? env.filled? = some text := by
  induction names with
  | nil => exact iff_of_false nofun nofun
  | cons name names ih =>
    rw [List.findSome?_cons]
    constructor
    · rintro (⟨hset, hfilled⟩ | ⟨hblank, hrest⟩)
      · rw [filled?_eq_some_iff.mpr ⟨hset, hfilled⟩]
      · rw [filled?_eq_none_iff.mpr hblank]
        exact ih.mp hrest
    · intro h
      cases hfirst : env.filled? name with
      | some other =>
        rw [hfirst] at h
        cases h
        obtain ⟨hset, hfilled⟩ := filled?_eq_some_iff.mp hfirst
        exact .first hset hfilled
      | none =>
        rw [hfirst] at h
        exact .later (filled?_eq_none_iff.mp hfirst) (ih.mpr h)

/-- One variable supplies its text if it is filled. -/
theorem supplies_singleton_iff : env.Supplies [name] text ↔ env.filled? name = some text := by
  rw [supplies_iff]
  simp

/-- A second variable supplies its text if it is filled and the first one is not. -/
theorem supplies_pair_iff :
    env.Supplies [first, second] text ↔ env.firstFilled? first second = some text := by
  rw [supplies_iff]
  unfold firstFilled?
  cases h : env.filled? first <;> simp [h]

end Environment

/-! ## What is asked for -/

/-- A setting that is a number. -/
inductive NumericSetting where
  | pollTimeout
  | workersPerType
  | connectionBuffer
  | eventCacheCapacity
  | maxAttempts
  | maxPayloadBytes
  deriving DecidableEq, Repr

namespace NumericSetting

/-- The variable of a setting. -/
def name : NumericSetting → String
  | pollTimeout => "JOBFLOW_POLL_TIMEOUT_MS"
  | workersPerType => "JOBFLOW_WORKERS_PER_TYPE"
  | connectionBuffer => "JOBFLOW_CONNECTION_BUFFER"
  | eventCacheCapacity => "JOBFLOW_EVENT_CACHE_CAPACITY"
  | maxAttempts => "JOBFLOW_MAX_ATTEMPTS"
  | maxPayloadBytes => "JOBFLOW_MAX_PAYLOAD_BYTES"

/-- The variables of a setting, in the order in which they count. -/
def names : NumericSetting → List String
  | maxPayloadBytes => [name maxPayloadBytes, "MAX_PAYLOAD_BYTES"]
  | k => [k.name]

/-- The numbers of the type of a setting. -/
def range : NumericSetting → Text.IntegerRange
  | maxAttempts => .counter
  | _ => .word

/-- The number of a setting that is not asked for. -/
def default : NumericSetting → Int
  | pollTimeout => 5000
  | workersPerType => 1
  | connectionBuffer => 32
  | eventCacheCapacity => 10000
  | maxAttempts => 1
  | maxPayloadBytes => 262144

/-- Whether zero and negative numbers are refused. -/
def mustBePositive : NumericSetting → Bool
  | pollTimeout | maxAttempts => true
  | _ => false

/-- What becomes of a number that is out of bounds. -/
def fitted : NumericSetting → Int → Int
  | workersPerType, n => min (max n 1) 64
  | connectionBuffer, n => max n 1
  | _, n => n

/-- The number of a setting. -/
def value (s : Settings) : NumericSetting → Int
  | pollTimeout => s.pollTimeout
  | workersPerType => s.workersPerType
  | connectionBuffer => s.connectionBuffer
  | eventCacheCapacity => s.eventCacheCapacity
  | maxAttempts => s.maxAttempts
  | maxPayloadBytes => s.maxPayloadBytes

/-- An environment asks for a number: a text that it supplies spells the number, blanks around it
aside, or no text is supplied and the number is the default. -/
inductive Asks (k : NumericSetting) (env : Environment) (n : Int) : Prop
  | spelled {text : String} (supplied : env.Supplies k.names text)
      (spells : Text.Spells k.range (Text.trim text) n)
  | unset (absent : ∀ text, ¬env.Supplies k.names text) (standard : n = k.default)

/-- A number that is asked for may be used. -/
def Allows (k : NumericSetting) (n : Int) : Prop := k.mustBePositive = true → 0 < n

/-- Reading a setting fails, and why: the text that is supplied is no number, or the number is not
positive. -/
inductive Refuses (k : NumericSetting) (env : Environment) : SettingsError → Prop
  | invalid {text : String} {why : Text.IntegerError} (supplied : env.Supplies k.names text)
      (fault : Text.parseInteger k.range (Text.trim text) = .error why)
      (spellsNone : ∀ n, ¬Text.Spells k.range (Text.trim text) n) :
      Refuses k env (.invalid k.name why)
  | notPositive {n : Int} (asks : k.Asks env n) (low : ¬k.Allows n) :
      Refuses k env (.notPositive k.name)

/-- Without a check, an environment gives a number: a text that it supplies spells the number just
as it stands, or no such text is supplied and the number is the default. -/
inductive Tolerates (k : NumericSetting) (env : Environment) (n : Int) : Prop
  | spelled {text : String} (supplied : env.Supplies k.names text)
      (spells : Text.Spells k.range text n)
  | standard (spellsNone : ∀ text, env.Supplies k.names text → ∀ m, ¬Text.Spells k.range text m)
      (standard : n = k.default)

/-- The settings that are checked, in the order in which they are. -/
def checked : List NumericSetting :=
  [pollTimeout, workersPerType, connectionBuffer, eventCacheCapacity, maxAttempts]

/-- The number of a setting that is checked, or why it is refused. -/
def check (env : Environment) (k : NumericSetting) : Except SettingsError Int := do
  let n := (← env.number? k.name k.range).getD k.default
  if k.mustBePositive = true ∧ n ≤ 0 then throw (.notPositive k.name)
  return n

variable {env : Environment} {k : NumericSetting} {n : Int} {e : SettingsError} {s : Settings}

theorem names_of_mem_checked (hk : k ∈ checked) : k.names = [k.name] := by
  cases k with
  | maxPayloadBytes => exact absurd hk (by decide)
  | _ => rfl

/-- Zero is in the range of every setting. -/
theorem range_contains_zero (k : NumericSetting) : k.range.Contains 0 := by
  cases k <;> decide

/-- So is the default. -/
theorem range_contains_default (k : NumericSetting) : k.range.Contains k.default := by
  cases k <;> decide

/-- A number that is asked for is in the range. -/
theorem Asks.contains (h : k.Asks env n) : k.range.Contains n := by
  cases h with
  | spelled _ hspells => exact hspells.contained
  | unset _ hdefault => exact hdefault ▸ k.range_contains_default

/-- Only a number that must be positive is refused. -/
theorem not_allows_iff : ¬k.Allows n ↔ k.mustBePositive = true ∧ n ≤ 0 := by
  unfold Allows
  rw [Classical.not_imp, Int.not_lt]

/-- A filled variable asks for the number it is read as. -/
theorem asks_of_filled? {text : String} (hk : k ∈ checked) (h : env.filled? k.name = some text) :
    k.Asks env n ↔ Text.parseInteger k.range (Text.trim text) = .ok n := by
  have hsupplies : ∀ other, env.Supplies k.names other ↔ other = text := fun other => by
    rw [names_of_mem_checked hk, Environment.supplies_singleton_iff, h, Option.some.injEq, eq_comm]
  rw [Text.parseInteger_eq_ok_iff k.range_contains_zero]
  constructor
  · rintro (⟨hsupplied, hspells⟩ | ⟨habsent, -⟩)
    · rwa [(hsupplies _).mp hsupplied] at hspells
    · exact absurd ((hsupplies text).mpr rfl) (habsent text)
  · exact .spelled ((hsupplies text).mpr rfl)

/-- Otherwise the default is asked for. -/
theorem asks_of_not_filled? (hk : k ∈ checked) (h : env.filled? k.name = none) :
    k.Asks env n ↔ n = k.default := by
  have habsent : ∀ text, ¬env.Supplies k.names text := fun text => by
    rw [names_of_mem_checked hk, Environment.supplies_singleton_iff, h]
    exact nofun
  constructor
  · rintro (⟨hsupplied, -⟩ | ⟨-, hdefault⟩)
    · exact absurd hsupplied (habsent _)
    · exact hdefault
  · exact .unset habsent

/-! ## One setting -/

/-- A number that has been read is checked for its sign only. -/
theorem check_of_number? {o : Option Int} (h : env.number? k.name k.range = .ok o) :
    check env k =
      if k.mustBePositive = true ∧ o.getD k.default ≤ 0 then .error (.notPositive k.name)
      else .ok (o.getD k.default) := by
  unfold check
  rw [h]
  show (if _ then _ else _ : Except SettingsError Int) = _
  split <;> rfl

/-- Either one number is asked for, or none and the setting is refused. -/
theorem check_cases (hk : k ∈ checked) (env : Environment) :
    (∃ n, (∀ m, k.Asks env m ↔ m = n) ∧ check env k =
        if k.mustBePositive = true ∧ n ≤ 0 then .error (.notPositive k.name) else .ok n) ∨
      ∃ e, k.Refuses env e ∧ (∀ m, ¬k.Asks env m) ∧ check env k = .error e := by
  -- what is asked for is the default, what can be read, or nothing
  cases hfilled : env.filled? k.name with
  | none =>
    have hnumber : env.number? k.name k.range = .ok none := by
      simp only [Environment.number?, hfilled]
    exact .inl ⟨k.default, fun m => asks_of_not_filled? hk hfilled, check_of_number? hnumber⟩
  | some text =>
    cases hparse : Text.parseInteger k.range (Text.trim text) with
    | ok n =>
      have hnumber : env.number? k.name k.range = .ok (some n) := by
        simp only [Environment.number?, hfilled, hparse]
      refine .inl ⟨n, fun m => ?_, check_of_number? hnumber⟩
      rw [asks_of_filled? hk hfilled, hparse, Except.ok.injEq, eq_comm]
    | error why =>
      have hnumber : env.number? k.name k.range = .error (.invalid k.name why) := by
        simp only [Environment.number?, hfilled, hparse]
      have hsupplied : env.Supplies k.names text := by
        rw [names_of_mem_checked hk, Environment.supplies_singleton_iff, hfilled]
      refine .inr ⟨.invalid k.name why, .invalid hsupplied hparse fun n hspells => ?_,
        fun m hasks => ?_, ?_⟩
      · rw [← Text.parseInteger_eq_ok_iff k.range_contains_zero, hparse] at hspells
        cases hspells
      · rw [asks_of_filled? hk hfilled, hparse] at hasks
        cases hasks
      · unfold check
        rw [hnumber]
        rfl

/-- A checked setting gets a number exactly if that is asked for and may be used. -/
theorem check_eq_ok_iff (hk : k ∈ checked) :
    check env k = .ok n ↔ k.Asks env n ∧ k.Allows n := by
  rcases check_cases hk env with ⟨m, hasks, hcheck⟩ | ⟨e, -, hnone, hcheck⟩
  · rw [hcheck, hasks]
    split
    · next hlow =>
      refine iff_of_false nofun ?_
      rintro ⟨rfl, hallows⟩
      exact not_allows_iff.mpr hlow hallows
    · next hhigh =>
      have hallows : k.Allows m := Classical.not_not.mp (not_allows_iff.not.mpr hhigh)
      rw [Except.ok.injEq, eq_comm]
      exact ⟨fun h => ⟨h, h ▸ hallows⟩, And.left⟩
  · rw [hcheck]
    exact iff_of_false nofun fun h => hnone n h.1

/-- A checked setting that gets no number is refused. -/
theorem refuses_of_check (hk : k ∈ checked) (h : check env k = .error e) : k.Refuses env e := by
  rcases check_cases hk env with ⟨m, hasks, hcheck⟩ | ⟨e', hrefuses, -, hcheck⟩
  · rw [hcheck] at h
    split at h
    · next hlow =>
      cases h
      exact .notPositive ((hasks m).mpr rfl) (not_allows_iff.mpr hlow)
    · cases h
  · rw [hcheck] at h
    cases h
    exact hrefuses

end NumericSetting

/-! ## All settings -/

namespace Settings

open NumericSetting

variable {env : Environment} {s : Settings} {e : SettingsError}

/-- The settings with the numbers that have been checked. -/
def ofChecked (env : Environment) (pollTimeout workersPerType connectionBuffer eventCacheCapacity
    maxAttempts : Int) : Settings where
  databaseUrl := env.filled? "DATABASE_URL"
  workerName := readWorkerName env
  apiAddress := readAddress env
  pollTimeout := pollTimeout.toNat
  workersPerType := min (max workersPerType.toNat 1) 64
  connectionBuffer := max connectionBuffer.toNat 1
  eventCacheCapacity := eventCacheCapacity.toNat
  maxAttempts
  maxPayloadBytes := readMaxPayload env
  migrateOnStartup := env.isOn "JOBFLOW_MIGRATE_ON_STARTUP"
  logJson := env.isOn "JOBFLOW_LOG_JSON"

/-- A natural number that may be zero is checked by being read. -/
theorem bind_word {k : NumericSetting} (hrange : k.range = .word) (hk : k.mustBePositive = false)
    (env : Environment) {β : Type} (f : Nat → Except SettingsError β) :
    env.word k.name k.default.toNat >>= f = check env k >>= fun n => f n.toNat := by
  unfold Environment.word check
  rw [hrange, hk]
  rcases env.number? k.name .word with e | _ | n <;> rfl

/-- The timeout is checked once it has been read. -/
theorem bind_pollTimeout (env : Environment) {β : Type} (f : Nat → Except SettingsError β) :
    (env.word "JOBFLOW_POLL_TIMEOUT_MS" 5000 >>= fun n =>
      if n = 0 then throw (.notPositive "JOBFLOW_POLL_TIMEOUT_MS") else f n) =
      check env .pollTimeout >>= fun n => f n.toNat := by
  unfold Environment.word check
  simp only [NumericSetting.name, NumericSetting.range, mustBePositive, true_and]
  rcases env.number? "JOBFLOW_POLL_TIMEOUT_MS" .word with e | _ | n
  · rfl
  · rfl
  · show (if n.toNat = 0 then _ else _) = (if n ≤ 0 then _ else _) >>= _
    by_cases hn : n ≤ 0
    · rw [if_pos hn, if_pos (Int.toNat_eq_zero.mpr hn)]
      rfl
    · rw [if_neg hn, if_neg (Int.toNat_eq_zero.not.mpr hn)]
      rfl

/-- The attempts are checked once they have been read. -/
theorem bind_maxAttempts (env : Environment) {β : Type} (f : Int → Except SettingsError β) :
    (env.number? "JOBFLOW_MAX_ATTEMPTS" .counter >>= fun o =>
      if o.getD 1 ≤ 0 then throw (.notPositive "JOBFLOW_MAX_ATTEMPTS") else f (o.getD 1)) =
      check env .maxAttempts >>= f := by
  unfold check
  simp only [NumericSetting.name, NumericSetting.range, NumericSetting.default, mustBePositive,
    true_and, bind_assoc]
  refine bind_congr fun o => ?_
  split <;> rfl

/-- The settings are read one after the other. -/
theorem read_eq (env : Environment) : read env = (do
    let pollTimeout ← check env .pollTimeout
    let workersPerType ← check env .workersPerType
    let connectionBuffer ← check env .connectionBuffer
    let eventCacheCapacity ← check env .eventCacheCapacity
    let maxAttempts ← check env .maxAttempts
    return ofChecked env pollTimeout workersPerType connectionBuffer eventCacheCapacity
      maxAttempts) := by
  refine (bind_pollTimeout env _).trans (bind_congr fun p => ?_)
  refine (bind_word (k := .workersPerType) rfl rfl env _).trans (bind_congr fun w => ?_)
  refine (bind_word (k := .connectionBuffer) rfl rfl env _).trans (bind_congr fun b => ?_)
  refine (bind_word (k := .eventCacheCapacity) rfl rfl env _).trans (bind_congr fun c => ?_)
  exact bind_maxAttempts env fun a => .ok (ofChecked env p w b c a)

/-- Settings are read if every checked setting gets a number; else the first one that does not is
the one that is reported. -/
theorem read_cases (env : Environment) :
    (∃ p w b c a, check env .pollTimeout = .ok p ∧ check env .workersPerType = .ok w ∧
      check env .connectionBuffer = .ok b ∧ check env .eventCacheCapacity = .ok c ∧
      check env .maxAttempts = .ok a ∧ read env = .ok (ofChecked env p w b c a)) ∨
    ∃ earlier k later e, checked = earlier ++ k :: later ∧
      (∀ j ∈ earlier, ∃ n, check env j = .ok n) ∧ check env k = .error e ∧ read env = .error e := by
  rw [read_eq]
  rcases hp : check env .pollTimeout with e | p
  · exact .inr ⟨[], _, _, e, rfl, nofun, hp, rfl⟩
  rcases hw : check env .workersPerType with e | w
  · exact .inr ⟨[_], _, _, e, rfl, by simp [hp], hw, rfl⟩
  rcases hb : check env .connectionBuffer with e | b
  · exact .inr ⟨[_, _], _, _, e, rfl, by simp [hp, hw], hb, rfl⟩
  rcases hc : check env .eventCacheCapacity with e | c
  · exact .inr ⟨[_, _, _], _, _, e, rfl, by simp [hp, hw, hb], hc, rfl⟩
  rcases ha : check env .maxAttempts with e | a
  · exact .inr ⟨[_, _, _, _], _, _, e, rfl, by simp [hp, hw, hb, hc], ha, rfl⟩
  exact .inl ⟨p, w, b, c, a, rfl, rfl, rfl, rfl, rfl, rfl⟩

/-! ## The limit of payloads -/

/-- The limit of payloads is not checked. -/
theorem tolerates_readMaxPayload (env : Environment) :
    NumericSetting.maxPayloadBytes.Tolerates env (readMaxPayload env) := by
  have hspells : ∀ text m, Text.parseInteger .word text = .ok m ↔ Text.Spells .word text m :=
    fun _ _ => Text.parseInteger_eq_ok_iff (by decide)
  have hsupplies : ∀ text, env.Supplies NumericSetting.maxPayloadBytes.names text ↔
      env.firstFilled? "JOBFLOW_MAX_PAYLOAD_BYTES" "MAX_PAYLOAD_BYTES" = some text :=
    fun _ => Environment.supplies_pair_iff
  unfold readMaxPayload
  dsimp only
  cases hfilled : env.firstFilled? "JOBFLOW_MAX_PAYLOAD_BYTES" "MAX_PAYLOAD_BYTES" with
  | none =>
    refine .standard (fun text hsupplied => ?_) rfl
    rw [hsupplies, hfilled] at hsupplied
    cases hsupplied
  | some text =>
    cases hparse : Text.parseInteger .word text with
    | ok n =>
      have hn := (hspells text n).mp hparse
      rw [Option.map_some, hparse]
      show Tolerates _ env (n.toNat : Int)
      rw [Int.toNat_of_nonneg hn.contained.1]
      exact .spelled ((hsupplies text).mpr hfilled) hn
    | error why =>
      rw [Option.map_some, hparse]
      -- the text is no number, and the error is dropped
      refine .standard (fun other hsupplied m hm => ?_) rfl
      rw [hsupplies, hfilled] at hsupplied
      cases hsupplied
      have hread := (hspells text m).mpr hm
      rw [hparse] at hread
      cases hread

/-! ## Main results -/

/-- The settings are what the environment asks for, within their bounds, and they are handed on as
they are. -/
structure Honours (s : Settings) (env : Environment) : Prop where
  /-- A checked setting is the number that is asked for. -/
  asked : ∀ k ∈ checked, ∃ n, k.Asks env n ∧ k.Allows n ∧ k.value s = k.fitted n
  /-- The limit of payloads is not checked. -/
  payload : NumericSetting.maxPayloadBytes.Tolerates env s.maxPayloadBytes
  pollTimeout_pos : 0 < s.pollTimeout
  workersPerType_pos : 1 ≤ s.workersPerType
  workersPerType_le : s.workersPerType ≤ 64
  connectionBuffer_pos : 1 ≤ s.connectionBuffer
  maxAttempts_pos : 1 ≤ s.maxAttempts
  service : s.service = ⟨⟨s.pollTimeout, s.maxPayloadBytes⟩, s.maxAttempts, s.connectionBuffer,
    s.eventCacheCapacity⟩
  crew : s.crew = ⟨s.workerName, s.workersPerType, .standard⟩

/-- Settings made of checked numbers honour the environment. -/
theorem honours_ofChecked {p w b c a : Int} (hp : check env .pollTimeout = .ok p)
    (hw : check env .workersPerType = .ok w) (hb : check env .connectionBuffer = .ok b)
    (hc : check env .eventCacheCapacity = .ok c) (ha : check env .maxAttempts = .ok a) :
    (ofChecked env p w b c a).Honours env := by
  obtain ⟨hpasks, hpallows⟩ := (check_eq_ok_iff (by decide)).mp hp
  obtain ⟨hwasks, hwallows⟩ := (check_eq_ok_iff (by decide)).mp hw
  obtain ⟨hbasks, hballows⟩ := (check_eq_ok_iff (by decide)).mp hb
  obtain ⟨hcasks, hcallows⟩ := (check_eq_ok_iff (by decide)).mp hc
  obtain ⟨haasks, haallows⟩ := (check_eq_ok_iff (by decide)).mp ha
  have hppos : 0 < p := hpallows rfl
  -- the five numbers are as checked, and the sixth one is read for itself
  constructor
  case asked =>
    intro k hk
    cases k with
    | pollTimeout => exact ⟨p, hpasks, hpallows, Int.toNat_of_nonneg hpasks.contains.1⟩
    | workersPerType =>
      refine ⟨w, hwasks, hwallows, ?_⟩
      show ((min (max w.toNat 1) 64 : Nat) : Int) = min (max w 1) 64
      omega
    | connectionBuffer =>
      refine ⟨b, hbasks, hballows, ?_⟩
      show ((max b.toNat 1 : Nat) : Int) = max b 1
      omega
    | eventCacheCapacity => exact ⟨c, hcasks, hcallows, Int.toNat_of_nonneg hcasks.contains.1⟩
    | maxAttempts => exact ⟨a, haasks, haallows, rfl⟩
    | maxPayloadBytes => exact absurd hk (by decide)
  case payload => exact tolerates_readMaxPayload env
  case pollTimeout_pos =>
    show 0 < p.toNat
    omega
  case workersPerType_pos =>
    show 1 ≤ min (max w.toNat 1) 64
    omega
  case workersPerType_le => exact Nat.min_le_right _ _
  case connectionBuffer_pos => exact Nat.le_max_right _ _
  case maxAttempts_pos => exact haallows rfl
  case service => rfl
  case crew => rfl

/-- A reported fault begins with the variable it is about. -/
theorem message_of_refuses {k : NumericSetting} (h : k.Refuses env e) :
    ∃ rest, e.message = k.name ++ rest := by
  cases h with
  | invalid => exact ⟨_, String.append_assoc⟩
  | notPositive => exact ⟨_, rfl⟩

/-- Settings that have been read are what the environment asks for. They are read exactly if every
checked setting is asked for a number that may be used. Otherwise the first one that is not is
refused by the name of its variable. -/
theorem honours_numbers (env : Environment) :
    (∀ s, read env = .ok s → s.Honours env) ∧
    ((∃ s, read env = .ok s) ↔ ∀ k ∈ checked, ∃ n, k.Asks env n ∧ k.Allows n) ∧
    ∀ e, read env = .error e → ∃ earlier k later, checked = earlier ++ k :: later ∧
      (∀ j ∈ earlier, ∃ n, j.Asks env n ∧ j.Allows n) ∧ k.Refuses env e ∧
      ∃ rest, e.message = k.name ++ rest := by
  rcases read_cases env with ⟨p, w, b, c, a, hp, hw, hb, hc, ha, hread⟩ |
    ⟨earlier, k, later, e, hsplit, hearlier, hcheck, hread⟩
  · -- all five have been read
    have hhonours := honours_ofChecked hp hw hb hc ha
    rw [hread]
    refine ⟨?_, ?_, nofun⟩
    · rintro _ ⟨⟩
      exact hhonours
    · refine iff_of_true ⟨_, rfl⟩ fun k hk => ?_
      obtain ⟨n, hasks, hallows, -⟩ := hhonours.asked k hk
      exact ⟨n, hasks, hallows⟩
  · -- the first of them that is refused is reported
    have hmem : k ∈ checked := hsplit ▸ List.mem_append_right earlier List.mem_cons_self
    have hrefuses := refuses_of_check hmem hcheck
    rw [hread]
    refine ⟨nofun, ?_, ?_⟩
    · refine iff_of_false nofun fun h => ?_
      obtain ⟨n, hn⟩ := h k hmem
      rw [(check_eq_ok_iff hmem).mpr hn] at hcheck
      cases hcheck
    · rintro _ ⟨⟩
      refine ⟨earlier, k, later, hsplit, fun j hj => ?_, hrefuses, message_of_refuses hrefuses⟩
      obtain ⟨n, hn⟩ := hearlier j hj
      have hj' : j ∈ checked := hsplit ▸ List.mem_append_left (k :: later) hj
      exact ⟨n, (check_eq_ok_iff hj').mp hn⟩

/-- Numbers with blanks and a sign, beyond their bounds, and under a second name. -/
def motley : Environment := Environment.ofList
  [("JOBFLOW_POLL_TIMEOUT_MS", " +250\t"), ("JOBFLOW_WORKERS_PER_TYPE", "200"),
    ("JOBFLOW_CONNECTION_BUFFER", "0"), ("JOBFLOW_EVENT_CACHE_CAPACITY", " "),
    ("JOBFLOW_MAX_ATTEMPTS", "3"), ("JOBFLOW_MAX_PAYLOAD_BYTES", ""), ("MAX_PAYLOAD_BYTES", "1024")]

/-- Settings from such an environment, and a timeout of zero that is refused. -/
theorem honours_of_motley :
    let s : Settings := ⟨none, "worker-1", some "0.0.0.0:8080", 250, 64, 1, 10000, 3, 1024, false,
      false⟩
    let idle := Environment.ofList
      [("JOBFLOW_POLL_TIMEOUT_MS", "0"), ("JOBFLOW_MAX_ATTEMPTS", "three")]
    let e := SettingsError.notPositive "JOBFLOW_POLL_TIMEOUT_MS"
    read motley = .ok s ∧ s.Honours motley ∧ read idle = .error e ∧
      ∃ k : NumericSetting, k.Refuses idle e := by
  intro s idle e
  have hread : read motley = .ok s := by decide +kernel
  have hfails : read idle = .error e := by decide +kernel
  obtain ⟨-, k, -, -, -, hrefuses, -⟩ := (honours_numbers idle).2.2 e hfails
  exact ⟨hread, (honours_numbers motley).1 s hread, hfails, k, hrefuses⟩

/-- The limit of payloads ignores a number with blanks around it, and does not report a text that
is no number. -/
theorem ignores_payload_text :
    let padded := Environment.ofList [("JOBFLOW_MAX_PAYLOAD_BYTES", " 1024 ")]
    let mistyped := Environment.ofList [("JOBFLOW_MAX_PAYLOAD_BYTES", "64k")]
    NumericSetting.maxPayloadBytes.Asks padded 1024 ∧
    (∃ s, read padded = .ok s ∧ s.maxPayloadBytes = 262144) ∧
    (∃ text, mistyped.Supplies NumericSetting.maxPayloadBytes.names text) ∧
    (∀ n, ¬NumericSetting.maxPayloadBytes.Asks mistyped n) ∧
    ∃ s, read mistyped = .ok s ∧ s.maxPayloadBytes = 262144 := by
  intro padded mistyped
  let s : Settings := ⟨none, "worker-1", some "0.0.0.0:8080", 5000, 1, 32, 10000, 1, 262144, false,
    false⟩
  have hpadded : read padded = .ok s := by decide +kernel
  have hmistyped : read mistyped = .ok s := by decide +kernel
  have hspells : Text.Spells .word (Text.trim " 1024 ") 1024 :=
    (Text.parseInteger_eq_ok_iff (by decide)).mp (by decide +kernel)
  have hsupplies : mistyped.Supplies NumericSetting.maxPayloadBytes.names "64k" :=
    .first rfl (by decide +kernel)
  refine ⟨.spelled (.first rfl (by decide +kernel)) hspells, ⟨s, hpadded, rfl⟩, ⟨_, hsupplies⟩, ?_,
    ⟨s, hmistyped, rfl⟩⟩
  rintro n (⟨hsupplied, hn⟩ | ⟨habsent, -⟩)
  · -- no other text is supplied, and it spells no number
    have htext := Environment.supplies_pair_iff.mp hsupplied
    rw [Environment.supplies_pair_iff.mp hsupplies] at htext
    cases htext
    have hread := (Text.parseInteger_eq_ok_iff (by decide)).mpr hn
    have hfault : Text.parseInteger .word (Text.trim "64k") = .error .invalidDigit := by
      decide +kernel
    rw [show NumericSetting.maxPayloadBytes.range = .word from rfl, hfault] at hread
    cases hread
  · exact habsent _ hsupplies

end Settings

end JobRunner
