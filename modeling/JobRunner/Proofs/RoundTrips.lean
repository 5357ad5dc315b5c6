import JobRunner.Job.Codec
import JobRunner.Proofs.Formats
import Mathlib.Algebra.Ring.Nat
import Mathlib.Tactic.Common

/-!
# Records written and read back

What becomes of a job, an outcome or an event that is written as JSON and read again.

- `JobId.parse?_toText`: the text of an id is read as the id.
- `Outcome.withoutNull`, `Event.withoutNull`: the record with a null result taken for none.
- `Codec.restores_records`: a job is read back as it was written, and so are an outcome and an
  event, but for a null result.
- `Codec.loses_null`: an outcome and an event with a null result are read back without it.
-/

namespace JobRunner

/-! ## Ids -/

namespace JobId

variable (id : JobId) {ds : List Char}

/-- The `n`-th digit is that of the number in base 16. -/
theorem digitAt_eq (n : Nat) :
    id.digitAt n = Nat.digitChar (id.value.toNat / 16 ^ (31 - n) % 16) := by
  unfold digitAt
  rw [BitVec.extractLsb'_toNat, Nat.shiftRight_eq_div_pow, Nat.pow_mul]

/-- A digit is read as the number it was written for. -/
theorem digitValue?_digitChar {n : Nat} (h : n < 16) : digitValue? (Nat.digitChar n) = some n := by
  have hall : ∀ n < 16, digitValue? (Nat.digitChar n) = some n := by decide
  exact hall n h

theorem digitChar_ne_hyphen {n : Nat} (h : n < 16) : Nat.digitChar n ≠ '-' := by
  have hall : ∀ n < 16, Nat.digitChar n ≠ '-' := by decide
  exact hall n h

/-- The first `k` digits make up the number without its other digits. -/
theorem foldlM_digitAt {k : Nat} (hk : k ≤ 32) :
    ((List.range k).map id.digitAt).foldlM (fun n c => (digitValue? c).map (n * 16 + ·)) 0 =
      some (id.value.toNat / 16 ^ (32 - k)) := by
  induction k with
  | zero =>
    have hlt : id.value.toNat < 16 ^ 32 := id.value.isLt
    rw [Nat.sub_zero, Nat.div_eq_of_lt hlt]
    rfl
  | succ k ih =>
    -- one digit more makes the quotient `16` times as large and adds its last digit
    have hpow : (16 : Nat) ^ (32 - k) = 16 ^ (32 - (k + 1)) * 16 := by
      rw [← Nat.pow_succ]
      congr 1
      omega
    have hsub : 31 - k = 32 - (k + 1) := by omega
    rw [List.range_succ, List.map_append, List.foldlM_append, ih (Nat.le_of_succ_le hk)]
    show (digitValue? (id.digitAt k)).map (id.value.toNat / 16 ^ (32 - k) * 16 + ·) >>= some = _
    rw [digitAt_eq, digitValue?_digitChar (Nat.mod_lt _ (by decide)), hsub, hpow,
      ← Nat.div_div_eq_div_mul]
    exact congrArg some (Nat.div_add_mod' _ 16)

/-- An id has 32 digits. -/
theorem length_digits : id.digits.length = 32 := by
  unfold digits
  rw [List.length_map, List.length_range]

/-- An id is read back from its digits. -/
theorem ofDigits?_digits : ofDigits? id.digits = some id := by
  unfold ofDigits?
  rw [if_pos id.length_digits]
  have hfold := id.foldlM_digitAt (Nat.le_refl 32)
  rw [Nat.sub_self, Nat.pow_zero, Nat.div_one] at hfold
  unfold digits
  rw [hfold]
  show some (ofNat id.value.toNat) = some id
  unfold ofNat
  rw [BitVec.ofNat_toNat, BitVec.setWidth_eq]

/-- There is no hyphen among the digits of an id. -/
theorem not_mem_digits : '-' ∉ id.digits := by
  intro hmem
  obtain ⟨n, -, hn⟩ := List.mem_map.mp hmem
  rw [digitAt_eq] at hn
  exact digitChar_ne_hyphen (Nat.mod_lt _ (by decide)) hn

/-- Four hyphens are put among the digits. -/
theorem length_hyphenated (h : ds.length = 32) : (hyphenated ds).length = 36 := by
  simp [hyphenated, h]

/-- Without its hyphens, the hyphenated form is just the digits. -/
theorem filter_hyphenated (h : '-' ∉ ds) : (hyphenated ds).filter (· != '-') = ds := by
  have hkeep : ∀ part : List Char, part ⊆ ds → part.filter (· != '-') = part := by
    intro part hpart
    refine List.filter_eq_self.mpr fun c hc => bne_iff_ne.mpr ?_
    rintro rfl
    exact h (hpart hc)
  have hgroup : ∀ n : Nat, (ds.drop n).take 4 ⊆ ds := fun n =>
    ((List.take_sublist 4 _).trans (List.drop_sublist n ds)).subset
  have hnext : ∀ n : Nat, (ds.drop n).take 4 ++ ds.drop (n + 4) = ds.drop n := by
    intro n
    rw [← List.drop_drop, List.take_append_drop]
  unfold hyphenated
  simp only [List.filter_append, List.filter_cons, bne_self_eq_false, Bool.false_eq_true, if_false,
    hkeep _ (List.take_sublist 8 ds).subset, hkeep _ (hgroup _),
    hkeep _ (List.drop_sublist 20 ds).subset]
  rw [hnext 16, hnext 12, hnext 8, List.take_append_drop]

/-- The text of an id is read as the id. -/
theorem parse?_toText : parse? id.toText = some id := by
  -- with its hyphens the text is too long for bare digits
  have hlength : (hyphenated id.digits).length ≠ 32 := by
    rw [length_hyphenated id.length_digits]
    decide
  have hhyphenated : ofHyphenated? (hyphenated id.digits) = some id := by
    unfold ofHyphenated?
    rw [filter_hyphenated id.not_mem_digits]
    simp only [if_true]
    exact id.ofDigits?_digits
  unfold parse? toText
  rw [String.toList_ofList]
  simp only [hhyphenated, ofDigits?, if_neg hlength]
  rfl

end JobId

/-! ## Records with a result -/

/-- The text of an instant is read as the instant. -/
def Instant.IsLegible (t : Instant) : Prop := parse? t.toText = some t

/-- Whether a value is null. -/
def Json.isNull : Json → Bool
  | .null => true
  | .bool _ | .number _ | .text _ | .array _ | .obj _ => false

namespace Json

variable {room : Nat} {key : String} {v : Json}

/-- A result that may be absent, with null taken for absent. -/
def nonNull? (value : Option Json) : Option Json := value.filter (!·.isNull)

/-- Only a value that is null is lost. -/
theorem nonNull?_eq_self_iff {value : Option Json} :
    nonNull? value = value ↔ value ≠ some .null := by
  cases value with
  | none => simp [nonNull?]
  | some v => cases v <;> simp [nonNull?, isNull]

/-- A result that is there is read as such, unless it is null. -/
theorem takes_nonNull? {value : Option Json} (h : value = some v) (room : Nat) :
    (Format.optional .any).Takes room v (nonNull? value) := by
  subst h
  cases v with
  | null => exact Format.takes_optional_null .any room
  | bool | number | text | array | obj =>
    exact Format.takes_optional (Format.takes_any room _) (by simp)

/-- An error that is there is read as such. -/
theorem takes_error {error : Option String} (h : error.map .text = some v) (room : Nat) :
    (Format.optional .text).Takes room v error := by
  obtain ⟨message, rfl, rfl⟩ := Option.map_eq_some_iff.mp h
  exact Format.takes_optional (Format.takes_text room message) (by simp)

/-- A field that may be absent has at most one entry. -/
theorem keys_optional_sublist (key : String) (value : Option Json) :
    (( entry? key value).map Prod.fst).Sublist [key] := by
  cases value with
  | none => exact List.nil_sublist [key]
  | some v => exact List.Sublist.refl [key]

/-- The entry of a field that may be absent holds its value. -/
theorem mem_optional_iff {value : Option Json} : (key, v) ∈ entry? key value ↔ value = some v := by
  cases value <;> simp [ entry?, eq_comm]

theorem not_mem_optional {other : String} (hne : key ≠ other) (value : Option Json) :
    (key, v) ∉ entry? other value := by
  cases value <;> simp [ entry?, hne]

end Json

/-- A status is read back as it was written. -/
theorem Status.takes_toJson (s : Status) (room : Nat) : Status.format.Takes room s.toJson s :=
  Json.Format.takes_enumeration "a job status" room (Status.ofName?_name s)

/-- So is an id. -/
theorem JobId.takes_toJson (id : JobId) (room : Nat) : JobId.format.Takes room id.toJson id :=
  Json.Format.takes_spelled "a UUID string" room id.parse?_toText

/-- So is an instant whose year has four digits. -/
theorem Instant.IsLegible.takes_toJson {t : Instant} (h : t.IsLegible) (room : Nat) :
    Instant.format.Takes room t.toJson t :=
  Json.Format.takes_spelled "an RFC 3339 formatted date and time string" room h

/-! ## Outcomes -/

namespace Outcome

/-- The outcome, with a null result taken for none. -/
def withoutNull (o : Outcome) : Outcome := { o with value := Json.nonNull? o.value }

/-- A result is read back unchanged unless its value is null. -/
theorem withoutNull_eq_self_iff {o : Outcome} : o.withoutNull = o ↔ o.value ≠ some .null := by
  rw [← Json.nonNull?_eq_self_iff]
  constructor
  · intro h
    exact congrArg value h
  · intro h
    unfold withoutNull
    rw [h]

/-- The keys of a written result are names of its fields, each at most once. -/
theorem keys_entries_sublist (o : Outcome) :
    (o.entries.map Prod.fst).Sublist Outcome.fields.names := by
  unfold entries
  simp only [List.map_append]
  exact (((List.Sublist.refl ["job_id", "status"]).append
    (Json.keys_optional_sublist "result" o.value)).append
    (Json.keys_optional_sublist "error" _)).append (List.Sublist.refl ["completed_at"])

/-- The fields of a written result are read back, but for a value that is null. -/
theorem fields_take {o : Outcome} (h : o.completedAt.IsLegible) (room : Nat) :
    Outcome.fields.Takes room o.entries
      (o.jobId, o.status, Json.nonNull? o.value, o.error, o.completedAt, ()) := by
  refine ⟨.found ?_ (o.jobId.takes_toJson room), .found ?_ (o.status.takes_toJson room), ?_, ?_,
    .found ?_ (h.takes_toJson room), trivial⟩
  · simp [entries, Json.Field.required]
  · simp [entries, Json.Field.required]
  · refine Json.Field.takes_of_optional rfl (fun v => ?_) (fun v hv => Json.takes_nonNull? hv room)
      fun hnone => by rw [hnone]; rfl
    simp [entries, Json.Field.optional, Json.mem_optional_iff, Json.not_mem_optional]
  · refine Json.Field.takes_of_optional rfl (fun v => ?_) (fun v hv => Json.takes_error hv room)
      Option.map_eq_none_iff.mp
    simp [entries, Json.Field.optional, Json.mem_optional_iff, Json.not_mem_optional]
  · simp [entries, Json.Field.required]

/-- A written result is read back, but for a value that is null. -/
theorem restores_entries {o : Outcome} (h : o.completedAt.IsLegible) :
    Outcome.format.RestoresRecord o.entries o.withoutNull :=
  Json.Format.restores_record "an outcome" _ (fields_take h _) o.keys_entries_sublist (by decide)

end Outcome

/-! ## Events -/

namespace Event

/-- The event, with a null result taken for none. -/
def withoutNull (e : Event) : Event := { e with value := Json.nonNull? e.value }

/-- An event is read back unchanged unless its value is null. -/
theorem withoutNull_eq_self_iff {e : Event} : e.withoutNull = e ↔ e.value ≠ some .null := by
  rw [← Json.nonNull?_eq_self_iff]
  constructor
  · intro h
    exact congrArg value h
  · intro h
    unfold withoutNull
    rw [h]

/-- The keys of a written event are names of its fields, each at most once. -/
theorem keys_entries_sublist (e : Event) : (e.entries.map Prod.fst).Sublist Event.fields.names := by
  unfold entries
  simp only [List.map_append]
  exact ((List.Sublist.refl ["type", "job_id", "status"]).append
    (Json.keys_optional_sublist "result" e.value)).append (Json.keys_optional_sublist "error" _)

/-- The fields of a written event are read back, but for a value that is null. -/
theorem fields_take (e : Event) (room : Nat) :
    Event.fields.Takes room e.entries
      (e.kind, e.jobId, e.status, Json.nonNull? e.value, e.error, ()) := by
  refine ⟨.found ?_ (Json.Format.takes_text room e.kind), .found ?_ (e.jobId.takes_toJson room),
    .found ?_ (e.status.takes_toJson room), ?_, ?_, trivial⟩
  · simp [entries, Json.Field.required]
  · simp [entries, Json.Field.required]
  · simp [entries, Json.Field.required]
  · refine Json.Field.takes_of_optional rfl (fun v => ?_) (fun v hv => Json.takes_nonNull? hv room)
      fun hnone => by rw [hnone]; rfl
    simp [entries, Json.Field.withDefault, Json.mem_optional_iff, Json.not_mem_optional]
  · refine Json.Field.takes_of_optional rfl (fun v => ?_) (fun v hv => Json.takes_error hv room)
      Option.map_eq_none_iff.mp
    simp [entries, Json.Field.withDefault, Json.mem_optional_iff, Json.not_mem_optional]

/-- A written event is read back, but for a value that is null. -/
theorem restores_entries (e : Event) : Event.format.RestoresRecord e.entries e.withoutNull :=
  Json.Format.restores_record "an event" _ (e.fields_take _) e.keys_entries_sublist (by decide)

end Event

/-! ## Jobs -/

namespace Job

/-- Counters have 32 bits, and the texts of times are read as the times. -/
structure IsLegible (job : Job) : Prop where
  attempts_ge : -0x80000000 ≤ job.attempts
  attempts_le : job.attempts ≤ 0x7FFFFFFF
  maxAttempts_ge : -0x80000000 ≤ job.maxAttempts
  maxAttempts_le : job.maxAttempts ≤ 0x7FFFFFFF
  createdAt : job.createdAt.IsLegible
  updatedAt : job.updatedAt.IsLegible

/-- The fields of a written job are read back. -/
theorem fields_take {job : Job} (h : job.IsLegible) (room : Nat) :
    Job.fields.Takes room job.entries
      (job.id, job.jobType, job.payload, job.status, job.attempts, job.maxAttempts, job.createdAt,
        job.updatedAt, ()) := by
  refine ⟨.found ?_ (job.id.takes_toJson room), .found ?_ (Json.Format.takes_text room job.jobType),
    .found ?_ (Json.Format.takes_any room job.payload), .found ?_ (job.status.takes_toJson room),
    .found ?_ (Json.Format.takes_integer "i32" room h.attempts_ge h.attempts_le),
    .found ?_ (Json.Format.takes_integer "i32" room h.maxAttempts_ge h.maxAttempts_le),
    .found ?_ (h.createdAt.takes_toJson room), .found ?_ (h.updatedAt.takes_toJson room), trivial⟩
  all_goals simp [entries, Json.Field.required]

/-- A written job is read back. -/
theorem restores_entries {job : Job} (h : job.IsLegible) :
    Job.format.RestoresRecord job.entries job :=
  Json.Format.restores_record "a job" _ (fields_take h _) (List.Sublist.refl _) (by decide)

end Job

/-! ## All records -/

namespace Codec

/-- A job is read back as it was written. An outcome and an event are read back without a null
result, and so as they were written exactly if the result is no null. -/
theorem restores_records (job : Job) (o : Outcome) (e : Event) :
    (job.IsLegible → Job.format.RestoresRecord job.entries job) ∧
    (o.completedAt.IsLegible → Outcome.format.RestoresRecord o.entries o.withoutNull ∧
      (Outcome.format.RestoresRecord o.entries o ↔ o.value ≠ some .null)) ∧
    Event.format.RestoresRecord e.entries e.withoutNull ∧
      (Event.format.RestoresRecord e.entries e ↔ e.value ≠ some .null) := by
  refine ⟨Job.restores_entries, fun ho => ?_, ?_⟩
  · have houtcome := Outcome.restores_entries ho
    refine ⟨houtcome, fun h => ?_, fun hvalue => ?_⟩
    · exact Outcome.withoutNull_eq_self_iff.mp (houtcome.unique h.toRestores)
    · rwa [Outcome.withoutNull_eq_self_iff.mpr hvalue] at houtcome
  · have hevent := e.restores_entries
    refine ⟨hevent, fun h => ?_, fun hvalue => ?_⟩
    · exact Event.withoutNull_eq_self_iff.mp (hevent.unique h.toRestores)
    · rwa [Event.withoutNull_eq_self_iff.mpr hvalue] at hevent

/-- The JSON form of the outcome of a first job, completed when time began. -/
theorem toJson_completed (v : Json) :
    (Outcome.completed .nil v .epoch).toJson = .obj
      [("completed_at", .text "1970-01-01T00:00:00Z"),
        ("job_id", .text "00000000-0000-0000-0000-000000000000"), ("result", v),
        ("status", .text "completed")] := by
  have htime : Instant.epoch.toText = "1970-01-01T00:00:00Z" := by decide +kernel
  have hid : JobId.nil.toText = "00000000-0000-0000-0000-000000000000" := by decide +kernel
  simp [Outcome.toJson, Outcome.entries, Outcome.completed, Json.entry?, Json.object,
    Json.normalize, Json.keyLE, Json.keepLast, List.mergeSort, List.MergeSort.Internal.splitInTwo,
    Instant.toJson, htime, JobId.toJson, hid, Status.toJson, Status.name]

/-- A completed result can be nested one level deeper than its value. -/
theorem sound_completed {v : Json} (h : v.Sound (Json.nestingLimit - 1)) :
    (Outcome.completed .nil v .epoch).toJson.Sound Json.nestingLimit := by
  rw [toJson_completed]
  refine ⟨by decide, ?_, trivial, trivial, h, trivial, trivial⟩
  simp [Json.normalize, Json.keyLE, Json.keepLast, List.mergeSort,
    List.MergeSort.Internal.splitInTwo]

theorem readableFields_completed {v : Json} (h : v.Sound (Json.nestingLimit - 1))
    (spells : let fields := (Outcome.completed .nil v .epoch).entries
      Json.tokensOf (Json.renderRecord fields) = (Json.obj fields).tokens) :
    Json.ReadableFields (Outcome.completed .nil v .epoch).entries :=
  ⟨⟨trivial, trivial, h, trivial, trivial⟩, spells⟩

theorem isLegible_epoch : Instant.epoch.IsLegible := by
  unfold Instant.IsLegible
  decide +kernel

/-- A completed job, its outcome with a list for a result, and the event about it are read back. -/
theorem restores_of_list :
    let job : Job := ⟨.nil, "echo", .null, .completed, 1, 3, .epoch, .epoch⟩
    let o := Outcome.completed .nil (.array [.null, .text "done"]) .epoch
    let e := Event.ofStatus .nil .completed (some (.array [.null, .text "done"])) none
    Job.format.ofJson job.toJson = .ok job ∧ Outcome.format.ofJson o.toJson = .ok o ∧
      Outcome.format.readAll o.toJson.render = .ok o ∧ Outcome.format.readAll o.toText = .ok o ∧
      Event.format.ofJson e.toJson = .ok e := by
  intro job o e
  obtain ⟨hjob, houtcome, -, hevent⟩ := restores_records job o e
  have ho := (houtcome isLegible_epoch).2.mpr (by simp [o, Outcome.completed])
  have hreadable : o.toJson.Readable := by
    refine ⟨sound_completed ⟨by decide, trivial, trivial, trivial⟩, ?_⟩
    rw [toJson_completed]
    decide +kernel
  have hfields : Json.ReadableFields o.entries :=
    readableFields_completed ⟨by decide, trivial, trivial, trivial⟩ (by decide +kernel)
  have hlegible : job.IsLegible :=
    ⟨by decide, by decide, by decide, by decide, isLegible_epoch, isLegible_epoch⟩
  have he := hevent.mpr (by simp [e, Event.ofStatus])
  exact ⟨(hjob hlegible).ofJson, ho.ofJson, ho.readAll hreadable, ho.readText hfields, he.ofJson⟩

/-- The outcome of an attempt that answers null is read back without a result, from its JSON form
and from its text, and so is the event about it. -/
theorem loses_null :
    let o := Outcome.completed .nil .null .epoch
    let e := Event.ofStatus .nil .completed (some .null) none
    o.value = some .null ∧ Outcome.format.ofJson o.toJson = .ok { o with value := none } ∧
      Outcome.format.readAll o.toJson.render = .ok { o with value := none } ∧
      Outcome.format.readAll o.toText = .ok { o with value := none } ∧
      e.value = some .null ∧ Event.format.ofJson e.toJson = .ok { e with value := none } := by
  intro o e
  have ho : Outcome.format.RestoresRecord o.entries { o with value := none } :=
    Outcome.restores_entries isLegible_epoch
  have hreadable : o.toJson.Readable := by
    refine ⟨sound_completed trivial, ?_⟩
    rw [toJson_completed]
    decide +kernel
  have hfields : Json.ReadableFields o.entries :=
    readableFields_completed trivial (by decide +kernel)
  exact ⟨rfl, ho.ofJson, ho.readAll hreadable, ho.readText hfields, rfl,
    e.restores_entries.ofJson⟩

end Codec

end JobRunner
