import JobRunner.Json.Format
import JobRunner.Proofs.Tokens
import Mathlib.Data.List.Nodup

/-!
# Formats take what they describe

That a format takes a JSON value for a value of its type, from the value itself and from its tokens.

- `Format.Takes`: a format takes a JSON value for a given one.
- `Fields.Takes`: the fields of a record are found among some entries, or may be missing.
- `Format.takes_record`: a record whose fields are found is taken, in whatever order they stand.
- `Format.restores_record`: so it is read back from its JSON value and from its text.
-/

namespace JobRunner.Json

variable {α β : Type} {room : Nat}

/-- A format takes a JSON value for `a`, whether it is given the value or, with room for `room`
brackets, its tokens. -/
structure Format.Takes (f : Format α) (room : Nat) (v : Json) (a : α) : Prop where
  ofJson : f.ofJson v = .ok a
  read : v.Sound room → ∀ rest, f.read room (v.tokens ++ rest) = .ok (a, rest)

namespace Format

variable {f : Format α} {v : Json} {a : α}

/-! ## Single values -/

/-- A value of any kind is read as it is. -/
theorem takes_any (room : Nat) (v : Json) : any.Takes room v v where
  ofJson := rfl
  read hv rest := by
    simp only [any]
    rw [readValue_tokens hv rest]

/-- A text is read as what it spells. -/
theorem takes_spelled {parse : String → Option α} {s : String} (expected : String) (room : Nat)
    (h : parse s = some a) : (spelled expected parse).Takes room (.text s) a := by
  have hofJson : (spelled expected parse).ofJson (.text s) = .ok a := by
    simp only [spelled, scalar, h]
  refine ⟨hofJson, fun _ rest => ?_⟩
  have hvalue := readValue_tokens (show Sound 0 (.text s) from trivial) rest
  simp only [spelled, scalar, tokens, List.cons_append, List.nil_append] at hvalue ⊢
  rw [hvalue]
  simp only [h]

theorem takes_text (room : Nat) (s : String) : text.Takes room (.text s) s :=
  takes_spelled "a string" room rfl

/-- A number within its bounds is read as it is. -/
theorem takes_integer {low high n : Int} (expected : String) (room : Nat) (hlow : low ≤ n)
    (hhigh : n ≤ high) : (integer expected low high).Takes room (.int n) n := by
  have hofJson : (integer expected low high).ofJson (.int n) = .ok n := by
    simp only [integer, scalar, int, hlow, hhigh, and_self, if_true]
  refine ⟨hofJson, fun _ rest => ?_⟩
  have hvalue := readValue_tokens (show Sound 0 (.int n) from trivial) rest
  simp only [integer, scalar, int, tokens, List.cons_append, List.nil_append] at hvalue ⊢
  rw [hvalue]
  simp only [hlow, hhigh, and_self, if_true]

/-- Null is taken for none. -/
theorem takes_optional_null (f : Format α) (room : Nat) : f.optional.Takes room .null none where
  ofJson := rfl
  read _ _ := rfl

/-- A value that is not null is read as present. -/
theorem takes_optional (h : f.Takes room v a) (hv : v ≠ .null) :
    f.optional.Takes room v (some a) where
  ofJson := by
    have hsome : (f.ofJson v).map some = .ok (some a) := by
      rw [h.ofJson]
      rfl
    cases v with
    | null => exact absurd rfl hv
    | bool | number | text | array | obj => exact hsome
  read hsound rest := by
    have hread := h.read hsound rest
    have hne := tokens_append_ne_null hv rest
    -- the tokens do not begin with null, so they are left to the format of the value
    generalize v.tokens ++ rest = tokens at hread hne
    simp only [optional]
    rw [hread]
    rfl

/-- A name is read as what stands beside it in the table. -/
theorem takes_enumeration {table : List (String × α)} {name : String} (expected : String)
    (room : Nat) (h : table.lookup name = some a) :
    (enumeration expected table).Takes room (.text name) a := by
  have hpick : enumeration.pick table name = .ok a := by
    simp only [enumeration.pick, h]
  refine ⟨hpick, fun _ rest => ?_⟩
  have hchecked : enumeration.checked table name = .ok a := by
    simp only [enumeration.checked, hpick]
    rfl
  simp only [enumeration, tokens, List.cons_append, List.nil_append, hchecked]
  rfl

end Format

/-! ## Records -/

/-- A field is found among the entries of an object, or is missing and has a default. -/
inductive Field.Takes (f : Field α) (room : Nat) (entries : List (String × Json)) (a : α) :
    Prop where
  | found {v : Json} (mem : (f.name, v) ∈ entries) (takes : f.format.Takes room v a)
  | missing (absent : f.name ∉ entries.map Prod.fst) (default : f.ifMissing = some a)

/-- A field that may be absent is found as its value, or missing. -/
theorem Field.takes_of_optional {f : Field (Option α)} {entries : List (String × Json)}
    {value : Option Json} {a : Option α} (hdefault : f.ifMissing = some none)
    (hmem : ∀ v, (f.name, v) ∈ entries ↔ value = some v)
    (htakes : ∀ v, value = some v → f.format.Takes room v a) (hnone : value = none → a = none) :
    f.Takes room entries a := by
  cases value with
  | some v => exact .found ((hmem v).mpr rfl) (htakes v rfl)
  | none =>
    refine .missing (fun hkey => ?_) (by rw [hdefault, hnone rfl])
    obtain ⟨⟨_, v⟩, hentry, rfl⟩ := List.mem_map.mp hkey
    cases (hmem v).mp hentry

namespace Fields

/-- The names of the fields in their order. -/
def names : Fields αs → List String
  | .nil => []
  | .cons f rest => f.name :: rest.names

/-- Every field is found among the entries of an object, or is missing and has a default. -/
def Takes (room : Nat) (entries : List (String × Json)) : Fields αs → Tuple αs → Prop
  | .nil, _ => True
  | .cons f rest, (a, as) => f.Takes room entries a ∧ rest.Takes room entries as

/-- The values of those fields whose names are among `keys`. -/
def slotsOf (keys : List String) : Fields αs → Tuple αs → Slots αs
  | .nil, _ => ()
  | .cons f rest, (a, as) => (if f.name ∈ keys then some a else none, rest.slotsOf keys as)

variable {αs : List Type} {fs : Fields αs} {values : Tuple αs}
  {entries done : List (String × Json)} {v : Json} {key : String} {keys : List String}

theorem slotsOf_nil (fs : Fields αs) (values : Tuple αs) : fs.slotsOf [] values = fs.blank := by
  induction fs with
  | nil => rfl
  | cons f rest ih =>
    obtain ⟨a, as⟩ := values
    show (if f.name ∈ [] then some a else none, rest.slotsOf [] as) = (none, rest.blank)
    rw [if_neg List.not_mem_nil, ih]

/-- A key that is no name of a field fills no slot. -/
theorem slotsOf_append_of_not_mem (h : key ∉ fs.names) :
    fs.slotsOf (keys ++ [key]) values = fs.slotsOf keys values := by
  induction fs with
  | nil => rfl
  | cons f rest ih =>
    obtain ⟨a, as⟩ := values
    obtain ⟨hne, hrest⟩ := not_or.mp (List.mem_cons.not.mp h)
    have hiff : f.name ∈ keys ++ [key] ↔ f.name ∈ keys := by simp [Ne.symm hne]
    show (if f.name ∈ keys ++ [key] then some a else none, rest.slotsOf (keys ++ [key]) as) = _
    rw [ih hrest, if_congr hiff rfl rfl]
    rfl

/-- What stands under the name of a field is what the field takes. -/
theorem takes_of_mem {f : Field α} {a : α} (hf : f.Takes room entries a)
    (hkeys : (entries.map Prod.fst).Nodup) (hmem : (f.name, v) ∈ entries) :
    f.format.Takes room v a := by
  cases hf with
  | found hmem' htakes =>
    -- the keys differ, so both are the same entry
    have hsame := List.inj_on_of_nodup_map hkeys hmem hmem' rfl
    cases hsame
    exact htakes
  | missing habsent => exact absurd (List.mem_map_of_mem hmem) habsent

/-- An entry of an object fills the slot of its field. -/
theorem setEntry_slotsOf (h : fs.Takes room entries values) (hkeys : (entries.map Prod.fst).Nodup)
    (hnames : fs.names.Nodup) (hmem : (key, v) ∈ entries) (keys : List String) :
    fs.setEntry key v (fs.slotsOf keys values) = .ok (fs.slotsOf (keys ++ [key]) values) := by
  induction fs with
  | nil => rfl
  | cons f rest ih =>
    obtain ⟨a, as⟩ := values
    obtain ⟨hf, hrest⟩ := h
    obtain ⟨hname, hnames⟩ := List.nodup_cons.mp hnames
    by_cases heq : key = f.name
    · subst heq
      have hofJson := (takes_of_mem hf hkeys hmem).ofJson
      have hslot : f.name ∈ keys ++ [f.name] := List.mem_append_right _ List.mem_cons_self
      simp only [slotsOf, setEntry, if_true, hofJson, if_pos hslot, slotsOf_append_of_not_mem hname]
      rfl
    · have hiff : f.name ∈ keys ++ [key] ↔ f.name ∈ keys := by simp [Ne.symm heq]
      simp only [slotsOf, setEntry, if_neg heq, ih hrest hnames, if_congr hiff rfl rfl]
      rfl

/-- Once all entries have filled their slots, the other fields take their defaults. -/
theorem close_slotsOf (h : fs.Takes room entries values) :
    fs.close (fs.slotsOf (entries.map Prod.fst) values) = .ok values := by
  induction fs with
  | nil => rfl
  | cons f rest ih =>
    obtain ⟨a, as⟩ := values
    obtain ⟨hf, hrest⟩ := h
    have hslot : ((if f.name ∈ entries.map Prod.fst then some a else none) <|> f.ifMissing) =
        some a := by
      cases hf with
      | found hmem => rw [if_pos (List.mem_map_of_mem hmem)]; rfl
      | missing habsent hdefault => rw [if_neg habsent, hdefault]; rfl
    simp only [slotsOf, close, hslot, ih hrest]
    rfl

/-- The fields are taken from the entries of an object, in whatever order they stand. -/
theorem ofEntries_of_takes (h : fs.Takes room entries values)
    (hkeys : (entries.map Prod.fst).Nodup) (hnames : fs.names.Nodup) :
    fs.ofEntries entries = .ok values := by
  -- behind the entries in `done`, just the slots of their fields are filled
  have hfold : ∀ (done rest : List (String × Json)), done ++ rest = entries →
      rest.foldlM (fun slots e => fs.setEntry e.1 e.2 slots)
        (fs.slotsOf (done.map Prod.fst) values) =
          .ok (fs.slotsOf (entries.map Prod.fst) values) := by
    intro done rest hsplit
    induction rest generalizing done with
    | nil =>
      rw [← hsplit, List.append_nil]
      rfl
    | cons e rest ih =>
      have hmem : e ∈ entries := hsplit ▸ List.mem_append_right done List.mem_cons_self
      have hnext := ih (done ++ [e]) (by rw [← hsplit, List.append_assoc]; rfl)
      rw [List.map_append] at hnext
      rw [List.foldlM_cons, setEntry_slotsOf h hkeys hnames hmem]
      exact hnext
  have hslots := hfold [] entries rfl
  rw [List.map_nil, slotsOf_nil] at hslots
  show entries.foldlM (fun slots e => fs.setEntry e.1 e.2 slots) fs.blank >>= fs.close = .ok values
  rw [hslots]
  exact close_slotsOf h

/-- The tokens of an entry fill the slot of its field, unless it has been filled. -/
theorem readEntry?_slotsOf (h : fs.Takes room entries values)
    (hkeys : (entries.map Prod.fst).Nodup) (hnames : fs.names.Nodup) (hmem : (key, v) ∈ entries)
    (hv : v.Sound room) (hknown : key ∈ fs.names) (hnew : key ∉ keys) :
    ∃ read, fs.readEntry? key (fs.slotsOf keys values) = some read ∧
      ∀ rest, read room (.colon :: (v.tokens ++ rest)) =
        .ok (fs.slotsOf (keys ++ [key]) values, rest) := by
  induction fs with
  | nil => cases hknown
  | cons f rest ih =>
    obtain ⟨a, as⟩ := values
    obtain ⟨hf, hrest⟩ := h
    obtain ⟨hname, hnames⟩ := List.nodup_cons.mp hnames
    by_cases heq : key = f.name
    · subst heq
      have hread := (takes_of_mem hf hkeys hmem).read hv
      have hslot : f.name ∈ keys ++ [f.name] := List.mem_append_right _ List.mem_cons_self
      simp only [slotsOf, readEntry?, if_true, if_neg hnew, if_pos hslot,
        slotsOf_append_of_not_mem hname]
      refine ⟨_, rfl, fun rest => ?_⟩
      simp only [hread]
      rfl
    · have hiff : f.name ∈ keys ++ [key] ↔ f.name ∈ keys := by simp [Ne.symm heq]
      have hlater : key ∈ rest.names := (List.mem_cons.mp hknown).resolve_left heq
      obtain ⟨read, hentry, hread⟩ := ih hrest hnames hlater
      simp only [slotsOf, readEntry?, if_neg heq, hentry, if_congr hiff rfl rfl]
      refine ⟨_, rfl, fun rest => ?_⟩
      simp only [hread]
      rfl

/-- The next entry of a record is read into its slot. -/
theorem readEntry?_of_split (h : fs.Takes room entries values)
    (hkeys : (entries.map Prod.fst).Nodup) (hnames : fs.names.Nodup)
    (hknown : ∀ e ∈ entries, e.1 ∈ fs.names) (hsound : SoundEntries room entries)
    {todo : List (String × Json)} (hsplit : done ++ (key, v) :: todo = entries) :
    ∃ read, fs.readEntry? key (fs.slotsOf (done.map Prod.fst) values) = some read ∧
      ∀ rest, read room (.colon :: (v.tokens ++ rest)) =
        .ok (fs.slotsOf (done.map Prod.fst ++ [key]) values, rest) := by
  have hmem : (key, v) ∈ entries := hsplit ▸ List.mem_append_right done List.mem_cons_self
  have hnew : key ∉ done.map Prod.fst := by
    rw [← hsplit, List.map_append] at hkeys
    intro hdone
    exact (List.nodup_append.mp hkeys).2.2 key hdone key List.mem_cons_self rfl
  exact readEntry?_slotsOf h hkeys hnames hmem (hsound.of_mem hmem) (hknown _ hmem) hnew

section
variable {slots slots' : Slots αs} {read : Reader (Slots αs)} {tokens rest : List Token}

/-- A comma behind an entry, and the next entry is read. -/
theorem readEntries_comma (hentry : fs.readEntry? key slots = some read)
    (hread : read room tokens = .ok (slots', .comma :: rest)) (fuel : Nat) :
    fs.readEntries room (fuel + 1) slots (.text (some key) :: tokens) =
      fs.readEntries room fuel slots' rest := by
  simp only [readEntries, hentry, hread]
  rfl

/-- A brace behind an entry, and the object ends. -/
theorem readEntries_close (hentry : fs.readEntry? key slots = some read)
    (hread : read room tokens = .ok (slots', .closeObject :: rest)) (fuel : Nat) :
    fs.readEntries room (fuel + 1) slots (.text (some key) :: tokens) = .ok (slots', rest) := by
  simp only [readEntries, hentry, hread]
  rfl

end

/-- The fields are read from the tokens of an object. -/
theorem readEntries_of_takes (h : fs.Takes room entries values)
    (hkeys : (entries.map Prod.fst).Nodup) (hnames : fs.names.Nodup)
    (hknown : ∀ e ∈ entries, e.1 ∈ fs.names) (hsound : SoundEntries room entries)
    (rest : List Token) (todo : List (String × Json)) :
    ∀ (done : List (String × Json)) (key : String) (v : Json) (fuel : Nat),
      done ++ (key, v) :: todo = entries → todo.length < fuel →
      fs.readEntries room fuel (fs.slotsOf (done.map Prod.fst) values)
          (.text (some key) :: .colon :: (v.tokens ++ (entryTokens todo ++ rest))) =
        .ok (fs.slotsOf (entries.map Prod.fst) values, rest) := by
  -- on the entries behind this one; those in `done` have filled their slots
  induction todo with
  | nil =>
    intro done key v fuel hsplit hfuel
    obtain ⟨fuel, rfl⟩ := Nat.exists_eq_succ_of_ne_zero (Nat.ne_of_gt hfuel)
    obtain ⟨read, hentry, hread⟩ := readEntry?_of_split h hkeys hnames hknown hsound hsplit
    rw [← hsplit, List.map_append]
    exact readEntries_close hentry (hread _) fuel
  | cons e todo ih =>
    intro done key v fuel hsplit hfuel
    obtain ⟨fuel, rfl⟩ := Nat.exists_eq_succ_of_ne_zero (Nat.ne_of_gt (Nat.zero_lt_of_lt hfuel))
    obtain ⟨read, hentry, hread⟩ := readEntry?_of_split h hkeys hnames hknown hsound hsplit
    obtain ⟨next, w⟩ := e
    have hnext := ih (done ++ [(key, v)]) next w fuel (by rw [← hsplit, List.append_assoc]; rfl)
      (Nat.lt_of_succ_lt_succ hfuel)
    rw [List.map_append] at hnext
    simp only [entryTokens, List.cons_append, List.append_assoc]
    rw [readEntries_comma hentry (hread _) fuel]
    exact hnext

/-- The order of the entries does not matter. -/
theorem Takes.perm (h : fs.Takes room entries values) {entries' : List (String × Json)}
    (hperm : entries.Perm entries') : fs.Takes room entries' values := by
  induction fs with
  | nil => trivial
  | cons f rest ih =>
    obtain ⟨a, as⟩ := values
    obtain ⟨hf, hrest⟩ := h
    refine ⟨?_, ih hrest⟩
    cases hf with
    | found hmem htakes => exact .found (hperm.mem_iff.mp hmem) htakes
    | missing habsent hdefault =>
      exact .missing ((hperm.map Prod.fst).mem_iff.not.mp habsent) hdefault

end Fields

namespace Format

section
variable {αs : List Type} {fs : Fields αs} {values : Tuple αs} {entries : List (String × Json)}

/-- A record whose fields are found among some entries, or may be missing, is read from the tokens
of these entries, in whatever order they stand. -/
theorem read_record (name : String) (make : Tuple αs → α) (h : fs.Takes room entries values)
    (hkeys : (entries.map Prod.fst).Nodup) (hnames : fs.names.Nodup)
    (hknown : ∀ e ∈ entries, e.1 ∈ fs.names) (hsound : SoundEntries room entries)
    (rest : List Token) :
    (record name fs make).read (room + 1) ((obj entries).tokens ++ rest) =
      .ok (make values, rest) := by
  have hroom : room + 1 ≠ 0 := Nat.succ_ne_zero room
  have hclose := fs.close_slotsOf h
  cases entries with
  | nil =>
    rw [List.map_nil, Fields.slotsOf_nil] at hclose
    simp only [tokens, record, List.cons_append, List.nil_append, if_neg hroom, bind, Except.bind,
      hclose]
    rfl
  | cons e todo =>
    obtain ⟨key, v⟩ := e
    have hread := fs.readEntries_of_takes h hkeys hnames hknown hsound rest todo [] key v
    rw [List.map_nil, Fields.slotsOf_nil] at hread
    simp only [tokens, record, List.cons_append, List.append_assoc, if_neg hroom, bind,
      Except.bind]
    -- the fuel is the number of tokens, and every entry takes one at least
    have hlength := length_lt_entryTokens todo
    have hfuel : todo.length < (Token.text (some key) :: .colon ::
        (v.tokens ++ (entryTokens todo ++ rest))).length := by
      simp only [List.length_cons, List.length_append]
      omega
    rw [Nat.add_sub_cancel, hread _ rfl hfuel]
    simp only [hclose]
    rfl

/-- A record whose fields are found among some entries, or may be missing, is taken from the object
with these entries. -/
theorem takes_record (name : String) (make : Tuple αs → α) (h : fs.Takes room entries values)
    (hkeys : (entries.map Prod.fst).Nodup) (hnames : fs.names.Nodup)
    (hknown : ∀ e ∈ entries, e.1 ∈ fs.names) :
    (record name fs make).Takes (room + 1) (.obj entries) (make values) where
  ofJson := by
    simp only [record, fs.ofEntries_of_takes h hkeys hnames]
    rfl
  read hsound := read_record name make h hkeys hnames hknown hsound.2.2

/-- A record is taken from an object however its entries are ordered. -/
theorem takes_object (name : String) (make : Tuple αs → α) (h : fs.Takes room entries values)
    (hkeys : (entries.map Prod.fst).Sublist fs.names) (hnames : fs.names.Nodup) :
    (record name fs make).Takes (room + 1) (object entries) (make values) := by
  have hperm : (normalize entries).Perm entries := normalize_perm (hnames.sublist hkeys)
  have hkeysPerm := hperm.map Prod.fst
  refine takes_record name make (h.perm hperm.symm) ?_ hnames fun e he => ?_
  · exact hkeysPerm.nodup_iff.mpr (hnames.sublist hkeys)
  · exact hkeys.subset (hkeysPerm.mem_iff.mp (List.mem_map_of_mem he))

end

/-! ## Reading back -/

/-- Read back, from the value itself and from its text, a JSON value gives `a`. -/
structure Restores (f : Format α) (v : Json) (a : α) : Prop where
  ofJson : f.ofJson v = .ok a
  readAll : v.Readable → f.readAll v.render = .ok a

/-- A value restores one thing at most. -/
theorem Restores.unique {f : Format α} {v : Json} {a b : α} (ha : f.Restores v a)
    (hb : f.Restores v b) : a = b := Except.ok.inj (ha.ofJson.symm.trans hb.ofJson)

theorem Takes.restores {f : Format α} {v : Json} {a : α} (h : f.Takes nestingLimit v a) :
    f.Restores v a where
  ofJson := h.ofJson
  readAll hv := by
    have hread := h.read hv.sound []
    rw [List.append_nil] at hread
    unfold readAll
    rw [hv.spells, hread]
    rfl

/-- Read back, from its JSON value and from the text with its fields in their own order, a record
with some entries gives `a`. -/
structure RestoresRecord (f : Format α) (entries : List (String × Json)) (a : α) : Prop extends
    f.Restores (object entries) a where
  readText : ReadableFields entries → f.readAll (renderRecord entries) = .ok a

/-- A record is read back as what its fields are taken for. -/
theorem restores_record {αs : List Type} {fs : Fields αs} {values : Tuple αs}
    {entries : List (String × Json)} (name : String) (make : Tuple αs → α)
    (h : fs.Takes (nestingLimit - 1) entries values)
    (hkeys : (entries.map Prod.fst).Sublist fs.names) (hnames : fs.names.Nodup) :
    (record name fs make).RestoresRecord entries (make values) where
  toRestores := (takes_object name make h hkeys hnames).restores
  readText hfields := by
    have hread := read_record name make h (hnames.sublist hkeys) hnames
      (fun e he => hkeys.subset (List.mem_map_of_mem he)) hfields.sound []
    rw [List.append_nil] at hread
    have hread : (record name fs make).read nestingLimit (obj entries).tokens =
      .ok (make values, []) := hread
    unfold readAll
    rw [hfields.spells, hread]
    rfl

end Format

end JobRunner.Json
