import JobRunner.Json.Reader
import JobRunner.Json.Writer
import Mathlib.Data.List.Nodup

/-!
# Values as tokens

What the text of a value consists of, and that it is read as the value.

- `Json.tokens`: the tokens of the text of a value.
- `Json.Sound`: objects are sorted, and brackets are nested no deeper than there is room for.
- `Json.readValue_tokens`: the tokens of a sound value are read as the value.
- `Json.nodup_keys_of_readValue`: the keys of an object that is read are different.
- `Json.Readable`: sound values whose texts spell their tokens; `Json.Readable.parse?_render` reads
  such a text back. `Json.ReadableFields`: the same of a record, its fields in any order.
-/

namespace JobRunner.Json

/-! ## Sorted entries -/

theorem keepLast_eq_self {entries : List (String × Json)} (h : (entries.map Prod.fst).Nodup) :
    keepLast entries = entries := by
  induction entries with
  | nil => rfl
  | cons a rest ih =>
    cases rest with
    | nil => rfl
    | cons b rest =>
      obtain ⟨hnew, hrest⟩ := List.nodup_cons.mp h
      have hne : a.1 ≠ b.1 := fun heq => hnew (heq ▸ List.mem_cons_self)
      rw [keepLast, if_neg hne, ih hrest]

/-- Entries with different keys are only put in order. -/
theorem normalize_perm {entries : List (String × Json)} (h : (entries.map Prod.fst).Nodup) :
    (normalize entries).Perm entries := by
  have hsorted : (entries.mergeSort keyLE).Perm entries := List.mergeSort_perm entries keyLE
  unfold normalize
  rw [keepLast_eq_self ((hsorted.map Prod.fst).nodup_iff.mpr h)]
  exact hsorted

theorem keepLast_sublist (entries : List (String × Json)) : (keepLast entries).Sublist entries := by
  induction entries with
  | nil => exact .refl _
  | cons a rest ih =>
    cases rest with
    | nil => exact .refl _
    | cons b rest =>
      rw [keepLast]
      split
      · exact .cons _ ih
      · exact .cons_cons _ ih

/-- Of sorted entries, every one that is kept has a greater key than those before it. -/
theorem pairwise_keepLast {entries : List (String × Json)}
    (h : entries.Pairwise fun a b => a.1 ≤ b.1) :
    (keepLast entries).Pairwise fun a b => a.1 < b.1 := by
  induction entries with
  | nil => exact .nil
  | cons a rest ih =>
    cases rest with
    | nil => exact List.pairwise_singleton _ a
    | cons b rest =>
      obtain ⟨hfirst, hrest⟩ := List.pairwise_cons.mp h
      rw [keepLast]
      split
      · exact ih hrest
      · next hne =>
        have hlt : a.1 < b.1 := Std.lt_of_le_of_ne (hfirst b List.mem_cons_self) hne
        refine List.pairwise_cons.mpr ⟨fun e he => ?_, ih hrest⟩
        rcases List.mem_cons.mp ((keepLast_sublist _).subset he) with rfl | he
        · exact hlt
        · exact Std.lt_of_lt_of_le hlt ((List.pairwise_cons.mp hrest).1 e he)

theorem keyLE_trans (a b c : String × Json) (hab : keyLE a b = true) (hbc : keyLE b c = true) :
    keyLE a c = true :=
  decide_eq_true (String.le_trans (of_decide_eq_true hab) (of_decide_eq_true hbc))

theorem keyLE_total (a b : String × Json) : (keyLE a b || keyLE b a) = true := by
  rw [Bool.or_eq_true]
  exact (String.le_total a.1 b.1).imp decide_eq_true decide_eq_true

theorem pairwise_normalize (entries : List (String × Json)) :
    (normalize entries).Pairwise fun a b => a.1 < b.1 := by
  have hsorted := List.pairwise_mergeSort keyLE_trans keyLE_total entries
  exact pairwise_keepLast (hsorted.imp of_decide_eq_true)

/-- Entries with different keys are sorted in one way only. -/
theorem normalize_eq_of_perm {entries sorted : List (String × Json)} (hperm : entries.Perm sorted)
    (hsorted : sorted.Pairwise fun a b => a.1 < b.1) : normalize entries = sorted := by
  have hkeys : (entries.map Prod.fst).Nodup :=
    (hperm.map Prod.fst).nodup_iff.mpr (List.pairwise_map.mpr (hsorted.imp Std.ne_of_lt))
  exact ((normalize_perm hkeys).trans hperm).eq_of_pairwise
    (fun _ _ _ _ hlt hgt => absurd hgt (Std.not_gt_of_lt hlt)) (pairwise_normalize entries) hsorted

/-- The keys of an object; none of any other value. -/
def keys : Json → List String
  | .obj entries => entries.map Prod.fst
  | _ => []

/-- The keys of an object are different, however often its entries repeat one. -/
theorem nodup_keys_object (entries : List (String × Json)) : (object entries).keys.Nodup :=
  List.pairwise_map.mpr ((pairwise_normalize entries).imp Std.ne_of_lt)

/-! ## Tokens of a value -/

deriving instance DecidableEq for Token

mutual

/-- The tokens of the text of a value. -/
def tokens : Json → List Token
  | .null => [.null]
  | .bool b => [.bool b]
  | .number n => [.number (some n)]
  | .text s => [.text (some s)]
  | .array [] => [.openArray, .closeArray]
  | .array (item :: items) => .openArray :: (item.tokens ++ itemTokens items)
  | .obj [] => [.openObject, .closeObject]
  | .obj ((key, v) :: entries) =>
    .openObject :: .text (some key) :: .colon :: (v.tokens ++ entryTokens entries)

/-- The tokens of further items of an array, up to its end. -/
def itemTokens : List Json → List Token
  | [] => [.closeArray]
  | item :: items => .comma :: (item.tokens ++ itemTokens items)

/-- The tokens of further fields of an object, up to its end. -/
def entryTokens : List (String × Json) → List Token
  | [] => [.closeObject]
  | (key, v) :: entries =>
    .comma :: .text (some key) :: .colon :: (v.tokens ++ entryTokens entries)

end

mutual

/-- Every object is sorted by key, and at most `room` brackets are nested. -/
def Sound : (room : Nat) → Json → Prop
  | room, .array items => 0 < room ∧ SoundItems (room - 1) items
  | room, .obj entries => 0 < room ∧ normalize entries = entries ∧ SoundEntries (room - 1) entries
  | _, .null | _, .bool _ | _, .number _ | _, .text _ => True

/-- Every item is sound. -/
def SoundItems : (room : Nat) → List Json → Prop
  | _, [] => True
  | room, item :: items => Sound room item ∧ SoundItems room items

/-- The value of every field is sound. -/
def SoundEntries : (room : Nat) → List (String × Json) → Prop
  | _, [] => True
  | room, (_, v) :: entries => Sound room v ∧ SoundEntries room entries

end

variable {room : Nat} {v : Json} {key : String} {entries : List (String × Json)}

theorem SoundEntries.of_mem (h : SoundEntries room entries) (hmem : (key, v) ∈ entries) :
    v.Sound room := by
  induction entries with
  | nil => cases hmem
  | cons e entries ih =>
    obtain ⟨hfirst, hrest⟩ := h
    rcases List.mem_cons.mp hmem with rfl | hmem
    · exact hfirst
    · exact ih hrest hmem

/-- Every field takes at least one token, and so does the end. -/
theorem length_lt_entryTokens (entries : List (String × Json)) :
    entries.length < (entryTokens entries).length := by
  induction entries with
  | nil => decide
  | cons e entries ih =>
    simp only [entryTokens, List.length_cons, List.length_append]
    omega

/-- No value begins with a closing bracket. -/
theorem tokens_append_ne_closeArray (v : Json) (rest rest' : List Token) :
    v.tokens ++ rest ≠ .closeArray :: rest' := by
  cases v with
  | array items => cases items <;> simp [tokens]
  | obj entries => rcases entries with - | ⟨⟨key, v⟩, entries⟩ <;> simp [tokens]
  | null | bool | number | text => simp [tokens]

/-- Only null begins like null. -/
theorem tokens_append_ne_null (hv : v ≠ .null) (rest rest' : List Token) :
    v.tokens ++ rest ≠ .null :: rest' := by
  cases v with
  | null => exact absurd rfl hv
  | array items => cases items <;> simp [tokens]
  | obj entries => rcases entries with - | ⟨⟨key, v⟩, entries⟩ <;> simp [tokens]
  | bool | number | text => simp [tokens]

/-! ## Reading them -/

theorem valueIn_openArray {stack : List Frame} {tokens : List Token}
    (hne : ∀ rest, tokens ≠ .closeArray :: rest) :
    valueIn room stack (.openArray :: tokens) =
      if room = 0 then none else valueIn (room - 1) (.items [] :: stack) tokens := by
  rw [valueIn]
  exact hne

mutual

/-- The tokens of a value are read as the value, inside any open brackets. -/
theorem valueIn_tokens (v : Json) (room : Nat) (stack : List Frame) (rest : List Token)
    (h : v.Sound room) : valueIn room stack (v.tokens ++ rest) = finish room stack v rest := by
  match v with
  | .null | .bool _ | .number _ | .text _ =>
    simp only [tokens, List.cons_append, List.nil_append, valueIn]
  | .array [] =>
    have hroom : room ≠ 0 := Nat.ne_of_gt h.1
    simp only [tokens, List.cons_append, List.nil_append, valueIn, if_neg hroom]
  | .array (item :: items) =>
    obtain ⟨hpos, hitem, hitems⟩ := h
    -- the first item begins with no closing bracket, so the array is not taken for an empty one
    have hroom : room ≠ 0 := Nat.ne_of_gt hpos
    rw [tokens, List.cons_append, List.append_assoc,
      valueIn_openArray (tokens_append_ne_closeArray item _), if_neg hroom,
      valueIn_tokens item _ _ _ hitem, finish_itemTokens items _ _ _ _ _ hitems,
      Nat.sub_add_cancel hpos]
    rfl
  | .obj [] =>
    have hroom : room ≠ 0 := Nat.ne_of_gt h.1
    rw [tokens, List.cons_append, List.cons_append, List.nil_append, valueIn, if_neg hroom]
    show finish room stack (.obj (normalize [])) rest = _
    rw [h.2.1]
  | .obj ((key, v) :: entries) =>
    obtain ⟨hpos, hsorted, hv, hentries⟩ := h
    have hroom : room ≠ 0 := Nat.ne_of_gt hpos
    rw [tokens, List.cons_append, List.cons_append, List.cons_append, List.append_assoc, valueIn,
      if_neg hroom, valueIn_tokens v _ _ _ hv, finish_entryTokens entries _ _ _ _ _ _ hentries,
      Nat.sub_add_cancel hpos]
    show finish room stack (.obj (normalize ((key, v) :: entries))) rest = _
    rw [hsorted]

/-- Behind an item, the others are read up to the end of the array. -/
theorem finish_itemTokens (items : List Json) (room : Nat) (stack : List Frame) (done : List Json)
    (v : Json) (rest : List Token) (h : SoundItems room items) :
    finish room (.items done :: stack) v (itemTokens items ++ rest) =
      finish (room + 1) stack (.array (done.reverse ++ v :: items)) rest := by
  match items with
  | [] =>
    simp only [itemTokens, List.cons_append, List.nil_append, finish, List.reverse_cons]
  | item :: items =>
    rw [itemTokens, List.cons_append, List.append_assoc, finish, valueIn_tokens item _ _ _ h.1,
      finish_itemTokens items _ _ _ _ _ h.2, List.reverse_cons, List.append_assoc]
    rfl

/-- Behind the value of a field, the other fields are read up to the end of the object. -/
theorem finish_entryTokens (entries : List (String × Json)) (room : Nat) (stack : List Frame)
    (done : List (String × Json)) (key : String) (v : Json) (rest : List Token)
    (h : SoundEntries room entries) :
    finish room (.entries done key :: stack) v (entryTokens entries ++ rest) =
      finish (room + 1) stack (object (done.reverse ++ (key, v) :: entries)) rest := by
  match entries with
  | [] =>
    simp only [entryTokens, List.cons_append, List.nil_append, finish, List.reverse_cons]
  | (next, w) :: entries =>
    rw [entryTokens, List.cons_append, List.cons_append, List.cons_append, List.append_assoc,
      finish, valueIn_tokens w _ _ _ h.1, finish_entryTokens entries _ _ _ _ _ _ h.2,
      List.reverse_cons, List.append_assoc]
    rfl

end

/-- The tokens of a sound value are read as the value. -/
theorem readValue_tokens (h : v.Sound room) (rest : List Token) :
    readValue room (v.tokens ++ rest) = some (v, rest) := by
  unfold readValue
  rw [valueIn_tokens v room [] rest h, finish]

mutual

/-- The keys of an object that is read are different, also behind open brackets. -/
theorem nodup_keys_of_valueIn {room : Nat} {stack : List Frame} {tokens rest : List Token}
    {v : Json} (h : valueIn room stack tokens = some (v, rest)) : v.keys.Nodup := by
  unfold valueIn at h
  split at h
  -- scalars, then arrays and objects, empty ones first, then tokens that begin no value
  case h_1 | h_2 | h_3 | h_4 => exact nodup_keys_of_finish h List.nodup_nil
  case h_9 => cases h
  all_goals
    split at h
    · cases h
  case h_5 => exact nodup_keys_of_finish h List.nodup_nil
  case h_6 => exact nodup_keys_of_valueIn h
  case h_7 => exact nodup_keys_of_finish h (nodup_keys_object [])
  case h_8 => exact nodup_keys_of_valueIn h
termination_by tokens.length

/-- The same behind a value within. -/
theorem nodup_keys_of_finish {room : Nat} {stack : List Frame} {tokens rest : List Token}
    {v w : Json} (h : finish room stack w tokens = some (v, rest)) (hw : w.keys.Nodup) :
    v.keys.Nodup := by
  unfold finish at h
  split at h
  · cases h
    exact hw
  · exact nodup_keys_of_valueIn h
  · exact nodup_keys_of_finish h List.nodup_nil
  · exact nodup_keys_of_valueIn h
  · exact nodup_keys_of_finish h (nodup_keys_object _)
  · cases h
termination_by tokens.length

end

/-- The keys of an object that is read are different. -/
theorem nodup_keys_of_readValue {tokens rest : List Token}
    (h : readValue room tokens = some (v, rest)) : v.keys.Nodup := nodup_keys_of_valueIn h

/-! ## Reading texts -/

/-- A sound value whose text spells its tokens. -/
structure Readable (v : Json) : Prop where
  sound : v.Sound nestingLimit
  spells : tokensOf v.render = v.tokens

/-- The text of a readable value is read as the value. -/
theorem Readable.parse?_render (h : v.Readable) : parse? v.render = some v := by
  have hread := readValue_tokens h.sound []
  rw [List.append_nil] at hread
  unfold parse?
  rw [h.spells, hread]

/-- Fields with sound values, however they are ordered, whose text spells their tokens. -/
structure ReadableFields (fields : List (String × Json)) : Prop where
  sound : SoundEntries (nestingLimit - 1) fields
  spells : tokensOf (renderRecord fields) = (obj fields).tokens

end JobRunner.Json
