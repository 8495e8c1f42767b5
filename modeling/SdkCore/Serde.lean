import Mathlib
import SdkCore.Steps

/-!
# Serde over TOML tables

What a `serde`-derived struct reads from, and writes to, a TOML document. A document is a table: a
map from keys to values kept sorted by key, as `toml::map::Map` (a `BTreeMap`) keeps it, so a
table is a `Canonical` list. `Table.insert` is that map's `insert`; a struct is written by inserting
its fields and read by looking them up. An `Option` field is absent when `None`
(`skip_serializing_if = "Option::is_none"`) and read back as `None` when absent; a field with
`#[serde(default)]` reads its default; `#[serde(deny_unknown_fields)]` refuses a key that is not a
field (`denyUnknownFields`).

A `HashMap` is a `Finmap`, whose equality is that of `HashMap`'s `PartialEq`. Iterating one visits
its entries in an order its random hasher decides: `HashOrder` stands for that choice and is
applied to `entries`, the entries in key order. Inserting the entries in any order gives the map
back (`insertAll_perm_entries`).

The last section is a text format that parses back every table it prints (`decode_encode`): it
shows that what is assumed of a TOML library, printing a table and parsing it back, can be met.
-/

namespace Serde

/-- A TOML value as a deserializer sees it. `other` stands for the integers, floats, datetimes and
arrays, which none of the fields read here accept. -/
inductive Value where
  | string (s : String)
  | boolean (b : Bool)
  | table (entries : List (String × Value))
  | other

/-- A TOML table by its entries. -/
abbrev Table := List (String × Value)

mutual
/-- A value a TOML document can hold: its tables sorted by key, and no `other`. -/
def Value.Canonical : Value → Prop
  | .string _ => True
  | .boolean _ => True
  | .table es => Value.TableCanonical es
  | .other => False

/-- Entries sorted strictly by key, with canonical values. -/
def Value.TableCanonical : List (String × Value) → Prop
  | [] => True
  | (k, v) :: es => v.Canonical ∧ (∀ p ∈ es, k < p.1) ∧ Value.TableCanonical es
end

namespace Table

/-- A table a TOML document can hold. -/
def Canonical (t : Table) : Prop := Value.TableCanonical t

theorem canonical_iff {t : Table} :
    t.Canonical ↔ t.Pairwise (fun p q => p.1 < q.1) ∧ ∀ p ∈ t, p.2.Canonical := by
  induction t with
  | nil => simp [Canonical, Value.TableCanonical]
  | cons p t ih =>
    obtain ⟨k, v⟩ := p
    simp only [Canonical] at ih ⊢
    simp only [Value.TableCanonical, ih, List.pairwise_cons, List.mem_cons, forall_eq_or_imp]
    tauto

/-- `Map::insert` of `toml::map::Map`, sorted by key: the value of a key already there is
replaced. -/
def insert (k : String) (v : Value) : Table → Table
  | [] => [(k, v)]
  | (k', v') :: t =>
    if k < k' then (k, v) :: (k', v') :: t
    else if k = k' then (k, v) :: t
    else (k', v') :: insert k v t

theorem lookup_cons (k j : String) (v : Value) (t : Table) :
    ((k, v) :: t).lookup j = if j = k then some v else t.lookup j := by
  by_cases h : j = k
  · subst h
    simp [List.lookup]
  · have hb : (j == k) = false := beq_false_of_ne h
    simp [List.lookup, hb, h]

@[simp] theorem lookup_insert (k j : String) (v : Value) (t : Table) :
    (t.insert k v).lookup j = if j = k then some v else t.lookup j := by
  induction t with
  | nil => simp [insert, lookup_cons]
  | cons p t ih =>
    obtain ⟨k', v'⟩ := p
    unfold insert
    by_cases hlt : k < k'
    · simp [hlt, lookup_cons]
    · by_cases heq : k = k'
      · subst heq
        by_cases hj : j = k <;> simp [hj, lookup_cons]
      · by_cases hj : j = k'
        · subst hj
          simp [hlt, heq, Ne.symm heq]
        · simp [hlt, heq, hj, ih, lookup_cons]

theorem mem_insert {k : String} {v : Value} {t : Table} {p : String × Value}
    (h : p ∈ t.insert k v) : p = (k, v) ∨ p ∈ t := by
  induction t with
  | nil => simpa [insert] using h
  | cons q t ih =>
    obtain ⟨k', v'⟩ := q
    unfold insert at h
    split_ifs at h
    · simpa using h
    · simp only [List.mem_cons] at h ⊢
      tauto
    · simp only [List.mem_cons] at h ⊢
      rcases h with h | h
      · exact .inr (.inl h)
      · rcases ih h with h | h
        · exact .inl h
        · exact .inr (.inr h)

theorem Canonical.insert {t : Table} (ht : t.Canonical) (k : String) {v : Value}
    (hv : v.Canonical) : (t.insert k v).Canonical := by
  induction t with
  | nil => exact ⟨hv, ⟨fun _ h => absurd h List.not_mem_nil, trivial⟩⟩
  | cons q t ih =>
    obtain ⟨k', v'⟩ := q
    obtain ⟨hv', hlt, ht⟩ := ht
    unfold Table.insert
    split_ifs with h₁ h₂
    · exact ⟨hv, fun p hp => by
        rcases List.mem_cons.mp hp with rfl | hp
        · exact h₁
        · exact h₁.trans (hlt p hp), hv', hlt, ht⟩
    · subst h₂
      exact ⟨hv, hlt, ht⟩
    · -- the key goes after `k'`, which is below every key of the rest and below `k`
      have hk : k' < k := lt_of_le_of_ne (not_lt.mp h₁) (Ne.symm h₂)
      refine ⟨hv', fun p hp => ?_, ih ht⟩
      rcases mem_insert hp with rfl | hp
      · exact hk
      · exact hlt p hp

end Table

theorem Value.canonical_of_mem_map {α : Type} (f : α → Value) (hf : ∀ a, (f a).Canonical)
    {o : Option α} : ∀ v ∈ o.map f, v.Canonical := by
  intro v hv
  obtain ⟨a, -, rfl⟩ := Option.map_eq_some_iff.mp hv
  exact hf a

theorem Value.canonical_of_mem_map_string (o : Option String) :
    ∀ v ∈ o.map Value.string, v.Canonical :=
  canonical_of_mem_map Value.string fun _ => trivial

/-! ## Reading a struct -/

/-- A deserialization error of a `serde`-derived struct. -/
inductive DeError where
  | invalidType (expected : String)
  | unknownField (field : String)
  deriving DecidableEq, Repr

/-- The table of a struct. -/
def deTable (expected : String) : Value → Except DeError Table
  | .table t => .ok t
  | _ => .error (.invalidType expected)

def deString : Value → Except DeError String
  | .string s => .ok s
  | _ => .error (.invalidType "a string")

def deBool : Value → Except DeError Bool
  | .boolean b => .ok b
  | _ => .error (.invalidType "a boolean")

/-- An `Option` field: `None` when the key is absent. -/
def deOption {α : Type} (de : Value → Except DeError α) (t : Table) (name : String) :
    Except DeError (Option α) :=
  match t.lookup name with
  | none => .ok none
  | some v => some <$> de v

/-- A field with `#[serde(default)]`. -/
def deDefault {α : Type} (default : α) (de : Value → Except DeError α) (t : Table)
    (name : String) : Except DeError α :=
  (·.getD default) <$> deOption de t name

/-- `#[serde(deny_unknown_fields)]`: the first key that is not a field is an error. -/
def denyUnknownFields (fields : List String) (t : Table) : Except DeError Unit :=
  match t.find? fun p => !fields.contains p.1 with
  | some p => .error (.unknownField p.1)
  | none => .ok ()

/-- The entries of a map, each value deserialized. -/
def deEntries {α : Type} (de : Value → Except DeError α) :
    Table → Except DeError (List (String × α))
  | [] => .ok []
  | (k, v) :: t => do
    let a ← de v
    let rest ← deEntries de t
    pure ((k, a) :: rest)

/-- A struct written as a table: its fields in order, each inserted unless it is skipped (`none`,
as `skip_serializing_if` decides). -/
def serStruct (fields : List (String × Option Value)) (t : Table) : Table :=
  fields.foldl (fun t f => match f.2 with | none => t | some v => t.insert f.1 v) t

theorem lookup_serStruct_of_not_mem {fields : List (String × Option Value)} {k : String}
    (h : k ∉ fields.map Prod.fst) (t : Table) : (serStruct fields t).lookup k = t.lookup k := by
  induction fields generalizing t with
  | nil => rfl
  | cons f fields ih =>
    obtain ⟨name, o⟩ := f
    rw [List.map_cons, List.mem_cons, not_or] at h
    cases o with
    | none => exact ih h.2 t
    | some v =>
      change (serStruct fields (t.insert name v)).lookup k = _
      rw [ih h.2, Table.lookup_insert, if_neg h.1]

/-- A field's entry is what the serializer wrote for it, or what was there when it was skipped. -/
theorem lookup_serStruct {fields : List (String × Option Value)} (hnd : (fields.map Prod.fst).Nodup)
    {k : String} {o : Option Value} (h : (k, o) ∈ fields) (t : Table) :
    (serStruct fields t).lookup k = o.or (t.lookup k) := by
  induction fields generalizing t with
  | nil => cases h
  | cons f fields ih =>
    obtain ⟨name, o'⟩ := f
    rw [List.map_cons, List.nodup_cons] at hnd
    rcases List.mem_cons.mp h with heq | hmem
    · cases heq
      cases o with
      | none => exact lookup_serStruct_of_not_mem hnd.1 t
      | some v =>
        change (serStruct fields (t.insert k v)).lookup k = _
        rw [lookup_serStruct_of_not_mem hnd.1, Table.lookup_insert, if_pos rfl]
        rfl
    · have hne : k ≠ name := by
        rintro rfl
        exact hnd.1 (List.mem_map.mpr ⟨(k, o), hmem, rfl⟩)
      cases o' with
      | none => exact ih hnd.2 hmem t
      | some v =>
        change (serStruct fields (t.insert name v)).lookup k = _
        rw [ih hnd.2 hmem, Table.lookup_insert, if_neg hne]

theorem mem_serStruct {fields : List (String × Option Value)} {t : Table} {p : String × Value}
    (h : p ∈ serStruct fields t) : p.1 ∈ fields.map Prod.fst ∨ p ∈ t := by
  induction fields generalizing t with
  | nil => exact .inr h
  | cons f fields ih =>
    obtain ⟨name, o⟩ := f
    cases o with
    | none =>
      rcases ih h with h | h
      · exact .inl (List.mem_cons_of_mem _ h)
      · exact .inr h
    | some v =>
      rcases ih h with h | h
      · exact .inl (List.mem_cons_of_mem _ h)
      · rcases Table.mem_insert h with rfl | h
        · exact .inl List.mem_cons_self
        · exact .inr h

theorem Table.Canonical.serStruct {fields : List (String × Option Value)}
    (hf : ∀ f ∈ fields, ∀ v ∈ f.2, v.Canonical) {t : Table} (ht : t.Canonical) :
    (Serde.serStruct fields t).Canonical := by
  induction fields generalizing t with
  | nil => exact ht
  | cons f fields ih =>
    obtain ⟨name, o⟩ := f
    have hrest := fun f hf' => hf f (List.mem_cons_of_mem _ hf')
    cases o with
    | none => exact ih hrest ht
    | some v => exact ih hrest (ht.insert name (hf _ List.mem_cons_self v rfl))

/-- A field read back where the serializer wrote it, or left it out. -/
theorem deOption_of_lookup {α : Type} {de : Value → Except DeError α} {ser : α → Value}
    (hde : ∀ a, de (ser a) = .ok a) {t : Table} {name : String} {o : Option α}
    (h : t.lookup name = o.map ser) : deOption de t name = .ok o := by
  cases o with
  | none => simp [deOption, h]
  | some a => simp [deOption, h, hde]

/-- A struct written into an empty table has at each key what its field of that name wrote. -/
theorem lookup_serStruct_nil {fields : List (String × Option Value)}
    (hnd : (fields.map Prod.fst).Nodup) (k : String) :
    (serStruct fields []).lookup k = (fields.lookup k).join := by
  cases h : fields.lookup k with
  | none =>
    have hk : k ∉ fields.map Prod.fst := by
      intro hk
      obtain ⟨p, hp, rfl⟩ := List.mem_map.mp hk
      simpa using List.lookup_eq_none_iff.mp h p hp
    rw [lookup_serStruct_of_not_mem hk]
    rfl
  | some o =>
    obtain ⟨l₁, l₂, rfl, -⟩ := List.lookup_eq_some_iff.mp h
    rw [lookup_serStruct hnd (List.mem_append_right _ List.mem_cons_self), List.lookup_nil,
      Option.or_none]
    rfl

theorem deOption_serStruct {α : Type} {de : Value → Except DeError α} {ser : α → Value}
    (hde : ∀ a, de (ser a) = .ok a) {fields : List (String × Option Value)}
    (hnd : (fields.map Prod.fst).Nodup) (k : String) (o : Option α)
    (h : (fields.lookup k).join = o.map ser) : deOption de (serStruct fields []) k = .ok o :=
  deOption_of_lookup hde ((lookup_serStruct_nil hnd k).trans h)

theorem deDefault_of_lookup {t : Table} {name : String} {b : Bool}
    (h : t.lookup name = if b = true then some (.boolean true) else none) :
    deDefault false deBool t name = .ok b := by
  cases b <;> simp [deDefault, deOption, h, deBool]

theorem deString_string (s : String) : deString (.string s) = .ok s := rfl

theorem deBool_boolean (b : Bool) : deBool (.boolean b) = .ok b := rfl

theorem denyUnknownFields_eq_ok {fields : List String} {t : Table} :
    denyUnknownFields fields t = .ok () ↔ ∀ p ∈ t, p.1 ∈ fields := by
  unfold denyUnknownFields
  cases h : t.find? fun p => !fields.contains p.1 with
  | none =>
    simp only [List.find?_eq_none, Bool.not_eq_eq_eq_not, Bool.not_true,
      List.contains_eq_mem, decide_eq_false_iff_not, not_not] at h
    simpa using h
  | some p =>
    obtain ⟨hp, hmem⟩ := List.find?_some h, List.mem_of_find?_eq_some h
    simp only [reduceCtorEq, false_iff, not_forall]
    exact ⟨p, hmem, by simpa using hp⟩

/-- A struct read that passed its `deny_unknown_fields` check reads the same without it. -/
theorem bind_check_eq_ok {α : Type} {pre : Except DeError Table}
    {check : Table → Except DeError Unit} {rest : Table → Except DeError α} {a : α}
    (h : (pre >>= fun t => check t >>= fun _ => rest t) = .ok a) : (pre >>= rest) = .ok a := by
  obtain ⟨t, ht, h⟩ := Steps.bind_eq_ok h
  obtain ⟨_, -, h⟩ := Steps.bind_eq_ok h
  rw [ht]
  exact h

/-- A struct written into an empty table has only its fields as keys. -/
theorem denyUnknownFields_serStruct {fields : List (String × Option Value)} {names : List String}
    (h : ∀ k ∈ fields.map Prod.fst, k ∈ names) : denyUnknownFields names (serStruct fields []) = .ok () :=
  denyUnknownFields_eq_ok.mpr fun p hp => by
    rcases mem_serStruct hp with hk | hp
    · exact h _ hk
    · cases hp

/-! ## Hash maps -/

section HashMap

variable {κ ν : Type} [LinearOrder κ]

/-- The entries of a map, in key order. -/
def entries (m : Finmap fun _ : κ => ν) : List (κ × ν) :=
  (m.keys.sort (· ≤ ·)).filterMap fun k => (m.lookup k).map (k, ·)

/-- The order in which a `HashMap` is iterated, which its hasher's random keys decide. -/
abbrev HashOrder (α : Type) := List α → List α

/-- An iteration that visits every entry once. -/
def HashOrder.IsPerm {α : Type} (order : HashOrder α) : Prop := ∀ l, (order l).Perm l

theorem mem_entries {m : Finmap fun _ : κ => ν} {k : κ} {v : ν} :
    (k, v) ∈ entries m ↔ m.lookup k = some v := by
  simp only [entries, List.mem_filterMap, Finset.mem_sort, Finmap.mem_keys, Option.map_eq_some_iff,
    Prod.mk.injEq]
  constructor
  · rintro ⟨k', -, v', hv', rfl, rfl⟩
    exact hv'
  · intro h
    exact ⟨k, Finmap.mem_of_lookup_eq_some h, v, h, rfl, rfl⟩

theorem entries_pairwise (m : Finmap fun _ : κ => ν) :
    (entries m).Pairwise fun p q => p.1 < q.1 := by
  refine List.Pairwise.filterMap _ ?_ (Finset.sortedLT_sort m.keys).pairwise
  intro a a' hlt b hb b' hb'
  simp only [Option.map_eq_some_iff] at hb hb'
  obtain ⟨_, -, rfl⟩ := hb
  obtain ⟨_, -, rfl⟩ := hb'
  exact hlt

theorem nodup_keys_entries (m : Finmap fun _ : κ => ν) : ((entries m).map Prod.fst).Nodup :=
  List.pairwise_map.mpr ((entries_pairwise m).imp ne_of_lt)

/-- A map with a list of entries inserted, in the list's order. -/
def insertAll (l : List (κ × ν)) (m : Finmap fun _ : κ => ν) : Finmap fun _ : κ => ν :=
  l.foldl (fun m p => m.insert p.1 p.2) m

theorem lookup_insertAll_of_not_mem {l : List (κ × ν)} {k : κ} (h : k ∉ l.map Prod.fst)
    (m : Finmap fun _ : κ => ν) : (insertAll l m).lookup k = m.lookup k := by
  induction l generalizing m with
  | nil => rfl
  | cons p l ih =>
    rw [List.map_cons, List.mem_cons, not_or] at h
    change (insertAll l (m.insert p.1 p.2)).lookup k = _
    rw [ih h.2, Finmap.lookup_insert_of_ne _ h.1]

theorem lookup_insertAll_of_mem {l : List (κ × ν)} (hl : (l.map Prod.fst).Nodup) {k : κ} {v : ν}
    (h : (k, v) ∈ l) (m : Finmap fun _ : κ => ν) : (insertAll l m).lookup k = some v := by
  induction l generalizing m with
  | nil => cases h
  | cons p l ih =>
    rw [List.map_cons, List.nodup_cons] at hl
    change (insertAll l (m.insert p.1 p.2)).lookup k = _
    rcases List.mem_cons.mp h with rfl | h
    · rw [lookup_insertAll_of_not_mem hl.1, Finmap.lookup_insert]
    · exact ih hl.2 h _

/-- Inserting a map's entries in any order into an empty map gives the map. -/
theorem insertAll_perm_entries {m : Finmap fun _ : κ => ν} {l : List (κ × ν)}
    (hl : l.Perm (entries m)) : insertAll l ∅ = m := by
  have hnodup : (l.map Prod.fst).Nodup := (hl.map Prod.fst).nodup_iff.mpr (nodup_keys_entries m)
  refine Finmap.ext_lookup fun k => ?_
  cases hk : m.lookup k with
  | some v => exact lookup_insertAll_of_mem hnodup (hl.mem_iff.mpr (mem_entries.mpr hk)) ∅
  | none =>
    rw [lookup_insertAll_of_not_mem ?_ ∅, Finmap.lookup_empty]
    intro hmem
    obtain ⟨⟨k', v⟩, hp, rfl⟩ := List.mem_map.mp hmem
    rw [mem_entries.mp (hl.mem_iff.mp hp)] at hk
    cases hk

theorem mem_insertAll {l : List (κ × ν)} {m : Finmap fun _ : κ => ν} {k : κ}
    (h : k ∈ insertAll l m) : k ∈ l.map Prod.fst ∨ k ∈ m := by
  by_cases hk : k ∈ l.map Prod.fst
  · exact .inl hk
  · rw [← Finmap.lookup_isSome, lookup_insertAll_of_not_mem hk, Finmap.lookup_isSome] at h
    exact .inr h

/-- Entries inserted in key order are the new map's entries. -/
theorem entries_insertAll {l : List (κ × ν)} (hl : l.Pairwise fun p q => p.1 < q.1) :
    entries (insertAll l ∅) = l := by
  have hnd : (l.map Prod.fst).Nodup := List.pairwise_map.mpr (hl.imp ne_of_lt)
  have hmem : ∀ p, p ∈ entries (insertAll l ∅) ↔ p ∈ l := by
    rintro ⟨k, v⟩
    rw [mem_entries]
    constructor
    · intro h
      rcases mem_insertAll (Finmap.mem_of_lookup_eq_some h) with hk | hk
      · obtain ⟨⟨k', v'⟩, hp, rfl⟩ := List.mem_map.mp hk
        rw [lookup_insertAll_of_mem hnd hp] at h
        cases h
        exact hp
      · exact absurd hk (Finmap.notMem_empty)
    · intro h
      exact lookup_insertAll_of_mem hnd h ∅
  have hperm : (entries (insertAll l ∅)).Perm l :=
    (List.perm_ext_iff_of_nodup ((nodup_keys_entries _).of_map _) (hnd.of_map _)).mpr hmem
  exact hperm.eq_of_pairwise (fun _ _ _ _ h₁ h₂ => absurd (h₁.trans h₂) (lt_irrefl _))
    (entries_pairwise _) hl

/-- Entries with distinct keys give one map, in whatever order they are inserted. -/
theorem insertAll_perm {l₁ l₂ : List (κ × ν)} (hp : l₁.Perm l₂) (hnd : (l₁.map Prod.fst).Nodup)
    (m : Finmap fun _ : κ => ν) : insertAll l₁ m = insertAll l₂ m := by
  have hnd₂ : (l₂.map Prod.fst).Nodup := (hp.map Prod.fst).nodup_iff.mp hnd
  refine Finmap.ext_lookup fun k => ?_
  by_cases hk : k ∈ l₁.map Prod.fst
  · obtain ⟨⟨k, v⟩, hmem, rfl⟩ := List.mem_map.mp hk
    rw [lookup_insertAll_of_mem hnd hmem, lookup_insertAll_of_mem hnd₂ (hp.mem_iff.mp hmem)]
  · have hk₂ : k ∉ l₂.map Prod.fst := fun h => hk ((hp.map Prod.fst).mem_iff.mpr h)
    rw [lookup_insertAll_of_not_mem hk, lookup_insertAll_of_not_mem hk₂]

/-- A map with every value changed by a function of its key, as a loop inserting each changed entry
into a new map builds it. -/
def mapValues {μ : Type} (g : κ → ν → μ) (m : Finmap fun _ : κ => ν) : Finmap fun _ : κ => μ :=
  insertAll ((entries m).map fun p => (p.1, g p.1 p.2)) ∅

theorem lookup_mapValues {μ : Type} (g : κ → ν → μ) (m : Finmap fun _ : κ => ν) (k : κ) :
    (mapValues g m).lookup k = (m.lookup k).map (g k) := by
  have hnodup : (((entries m).map fun p => (p.1, g p.1 p.2)).map Prod.fst).Nodup := by
    simpa [List.map_map, Function.comp_def] using nodup_keys_entries m
  cases hk : m.lookup k with
  | some v =>
    exact lookup_insertAll_of_mem hnodup (List.mem_map.mpr ⟨(k, v), mem_entries.mpr hk, rfl⟩) ∅
  | none =>
    rw [mapValues, lookup_insertAll_of_not_mem ?_ ∅, Finmap.lookup_empty, Option.map_none]
    intro hmem
    obtain ⟨⟨k', v⟩, hp, hk'⟩ := List.mem_map.mp (List.map_map ▸ hmem)
    simp only [Function.comp_apply] at hk'
    subst hk'
    rw [mem_entries.mp hp] at hk
    cases hk

theorem keys_mapValues {μ : Type} (g : κ → ν → μ) (m : Finmap fun _ : κ => ν) :
    (mapValues g m).keys = m.keys := by
  ext k
  rw [Finmap.mem_keys, Finmap.mem_keys, ← Finmap.lookup_isSome, ← Finmap.lookup_isSome,
    lookup_mapValues, Option.isSome_map]

theorem entries_mapValues {μ : Type} (g : κ → ν → μ) (m : Finmap fun _ : κ => ν) :
    entries (mapValues g m) = (entries m).map fun p => (p.1, g p.1 p.2) := by
  simp only [entries, keys_mapValues, lookup_mapValues, List.map_filterMap]
  congr 1
  funext k
  cases m.lookup k <;> rfl

/-- A loop that inserts each entry's value converted, and returns the first error. -/
def tryInsertAll {μ ε : Type} (conv : κ → ν → Except ε μ) :
    List (κ × ν) → (Finmap fun _ : κ => μ) → Except ε (Finmap fun _ : κ => μ)
  | [], acc => .ok acc
  | (k, a) :: l, acc => do
    let b ← conv k a
    tryInsertAll conv l (acc.insert k b)

/-- Where every conversion gives back the value it was made from, the loop inserts those. -/
theorem tryInsertAll_map {μ ε : Type} {conv : κ → ν → Except ε μ} (f : κ → μ → ν)
    {l : List (κ × μ)} (h : ∀ p ∈ l, conv p.1 (f p.1 p.2) = .ok p.2)
    (acc : Finmap fun _ : κ => μ) :
    tryInsertAll conv (l.map fun p => (p.1, f p.1 p.2)) acc = .ok (insertAll l acc) := by
  induction l generalizing acc with
  | nil => rfl
  | cons p l ih =>
    have hp := h p List.mem_cons_self
    simp only [List.map_cons, tryInsertAll, hp, bind, Except.bind]
    exact ih (fun q hq => h q (List.mem_cons_of_mem _ hq)) _

theorem tryInsertAll_congr {μ ε : Type} {conv₁ conv₂ : κ → ν → Except ε μ} {l : List (κ × ν)}
    (h : ∀ p ∈ l, conv₁ p.1 p.2 = conv₂ p.1 p.2) (acc : Finmap fun _ : κ => μ) :
    tryInsertAll conv₁ l acc = tryInsertAll conv₂ l acc := by
  induction l generalizing acc with
  | nil => rfl
  | cons p l ih =>
    obtain ⟨k, a⟩ := p
    simp only [tryInsertAll, h (k, a) List.mem_cons_self,
      ih (fun q hq => h q (List.mem_cons_of_mem _ hq))]

/-- What holds of every converted value holds of every value the loop inserts. -/
theorem tryInsertAll_forall {μ ε : Type} {conv : κ → ν → Except ε μ} {P : μ → Prop}
    (hconv : ∀ k a b, conv k a = .ok b → P b) {l : List (κ × ν)} {acc m : Finmap fun _ : κ => μ}
    (hacc : ∀ k b, acc.lookup k = some b → P b) (h : tryInsertAll conv l acc = .ok m) :
    ∀ k b, m.lookup k = some b → P b := by
  induction l generalizing acc with
  | nil =>
    cases h
    exact hacc
  | cons p l ih =>
    obtain ⟨k, a⟩ := p
    obtain ⟨b, hb, h⟩ := Steps.bind_eq_ok h
    refine ih (fun k' b' hb' => ?_) h
    by_cases hk : k' = k
    · subst hk
      rw [Finmap.lookup_insert] at hb'
      cases hb'
      exact hconv _ _ _ hb
    · rw [Finmap.lookup_insert_of_ne _ hk] at hb'
      exact hacc k' b' hb'

/-- Entries with distinct keys, converted and inserted in two orders: one loop succeeds exactly when
the other does, with the same map. Which error a failing loop returns depends on the order. -/
theorem tryInsertAll_perm {μ ε : Type} {conv : κ → ν → Except ε μ} {l₁ l₂ : List (κ × ν)}
    (hp : l₁.Perm l₂) (hnd : (l₁.map Prod.fst).Nodup) (acc m : Finmap fun _ : κ => μ) :
    tryInsertAll conv l₁ acc = .ok m ↔ tryInsertAll conv l₂ acc = .ok m := by
  induction hp generalizing acc with
  | nil => exact Iff.rfl
  | cons p hp ih =>
    obtain ⟨k, a⟩ := p
    simp only [List.map_cons, List.nodup_cons] at hnd
    simp only [tryInsertAll]
    cases conv k a with
    | error e => simp [bind, Except.bind]
    | ok b => exact ih hnd.2 _
  | swap p q l =>
    obtain ⟨k, a⟩ := p
    obtain ⟨k', a'⟩ := q
    simp only [List.map_cons, List.nodup_cons, List.mem_cons, not_or] at hnd
    -- both conversions succeed on either side, and the two inserts commute
    cases hb : conv k a <;> cases hb' : conv k' a' <;>
      simp [tryInsertAll, hb, hb', bind, Except.bind, Finmap.insert_insert_of_ne _ hnd.1.1]
  | trans h₁₂ _ ih₁₂ ih₂₃ =>
    exact (ih₁₂ hnd acc).trans (ih₂₃ ((h₁₂.map Prod.fst).nodup_iff.mp hnd) acc)

end HashMap

/-- A map of string keys written as a table. -/
def serMap {ν : Type} (ser : ν → Value) (m : Finmap fun _ : String => ν) : Table :=
  (entries m).map fun p => (p.1, ser p.2)

theorem Table.Canonical.serMap {ν : Type} {ser : ν → Value} (hser : ∀ a, (ser a).Canonical)
    (m : Finmap fun _ : String => ν) : (Serde.serMap ser m).Canonical := by
  refine Table.canonical_iff.mpr ⟨?_, ?_⟩
  · exact List.pairwise_map.mpr (entries_pairwise m)
  · intro p hp
    obtain ⟨q, -, rfl⟩ := List.mem_map.mp hp
    exact hser q.2

/-- A `HashMap` field: a table whose values are deserialized, inserted into a map. -/
def deMap {ν : Type} (de : Value → Except DeError ν) (v : Value) :
    Except DeError (Finmap fun _ : String => ν) := do
  let t ← deTable "a map" v
  let l ← deEntries de t
  pure (insertAll l ∅)

theorem deEntries_map {ν : Type} {de : Value → Except DeError ν} {ser : ν → Value}
    (hde : ∀ a, de (ser a) = .ok a) (l : List (String × ν)) :
    deEntries de (l.map fun p => (p.1, ser p.2)) = .ok l := by
  induction l with
  | nil => rfl
  | cons p l ih =>
    simp only [List.map_cons, deEntries, hde, ih]
    rfl

theorem deMap_serMap {ν : Type} {de : Value → Except DeError ν} {ser : ν → Value}
    (hde : ∀ a, de (ser a) = .ok a) (m : Finmap fun _ : String => ν) :
    deMap de (.table (serMap ser m)) = .ok m := by
  simp only [deMap, deTable, serMap, deEntries_map hde, bind, Except.bind, pure, Except.pure,
    insertAll_perm_entries (List.Perm.refl _)]

/-- A deserializer that accepts whatever another accepts, with the same result, does so for an
`Option` field. -/
theorem deOption_mono {α : Type} {de₁ de₂ : Value → Except DeError α}
    (hde : ∀ v a, de₁ v = .ok a → de₂ v = .ok a) {t : Table} {name : String} {o : Option α}
    (h : deOption de₁ t name = .ok o) : deOption de₂ t name = .ok o := by
  unfold deOption at h ⊢
  cases hl : t.lookup name with
  | none =>
    rw [hl] at h
    exact h
  | some v =>
    simp only [hl] at h ⊢
    obtain ⟨a, ha, rfl⟩ := Steps.map_eq_ok h
    rw [hde v a ha]
    rfl

theorem deEntries_mono {α : Type} {de₁ de₂ : Value → Except DeError α}
    (hde : ∀ v a, de₁ v = .ok a → de₂ v = .ok a) :
    ∀ {t : Table} {l : List (String × α)}, deEntries de₁ t = .ok l → deEntries de₂ t = .ok l
  | [], _, h => h
  | (k, v) :: t, l, h => by
    rw [deEntries] at h ⊢
    obtain ⟨a, ha, h⟩ := Steps.bind_eq_ok h
    obtain ⟨rest, hrest, h⟩ := Steps.bind_eq_ok h
    rw [hde v a ha, deEntries_mono hde hrest]
    exact h

theorem deMap_mono {α : Type} {de₁ de₂ : Value → Except DeError α}
    (hde : ∀ v a, de₁ v = .ok a → de₂ v = .ok a) {v : Value} {m : Finmap fun _ : String => α}
    (h : deMap de₁ v = .ok m) : deMap de₂ v = .ok m := by
  rw [deMap] at h ⊢
  obtain ⟨t, ht, h⟩ := Steps.bind_eq_ok h
  obtain ⟨l, hl, h⟩ := Steps.bind_eq_ok h
  rw [ht]
  show (deEntries de₂ t >>= fun l => pure (insertAll l ∅)) = _
  rw [deEntries_mono hde hl]
  exact h

/-! ## A text format that parses back what it prints -/

section Text

/-- A string as its characters, each after a `+`, then a `.`. -/
def encodeString (cs : List Char) : List Char :=
  cs.flatMap (fun c => ['+', c]) ++ ['.']

mutual
/-- A prefix code for values. -/
def encode : Value → List Char
  | .string s => 's' :: encodeString s.toList
  | .boolean b => [if b then 't' else 'f']
  | .table es => 'T' :: encodeEntries es
  | .other => ['o']

def encodeEntries : List (String × Value) → List Char
  | [] => ['.']
  | (k, v) :: es => '+' :: (encodeString k.toList ++ (encode v ++ encodeEntries es))
end

def decodeString : List Char → Option (List Char × List Char)
  | '+' :: c :: rest => (decodeString rest).map fun (cs, r) => (c :: cs, r)
  | '.' :: rest => some ([], rest)
  | _ => none

mutual
/-- Reads a value, with fuel for the nesting. -/
def decode : Nat → List Char → Option (Value × List Char)
  | 0, _ => none
  | _ + 1, 's' :: r => (decodeString r).map fun (cs, r) => (.string (String.ofList cs), r)
  | _ + 1, 't' :: r => some (.boolean true, r)
  | _ + 1, 'f' :: r => some (.boolean false, r)
  | n + 1, 'T' :: r => (decodeEntries n r).map fun (es, r) => (.table es, r)
  | _ + 1, 'o' :: r => some (.other, r)
  | _ + 1, _ => none

def decodeEntries : Nat → List Char → Option (List (String × Value) × List Char)
  | 0, _ => none
  | _ + 1, '.' :: r => some ([], r)
  | n + 1, '+' :: r => do
    let (k, r) ← decodeString r
    let (v, r) ← decode n r
    let (es, r) ← decodeEntries n r
    pure ((String.ofList k, v) :: es, r)
  | _ + 1, _ => none
end

theorem decodeString_encodeString (cs rest : List Char) :
    decodeString (encodeString cs ++ rest) = some (cs, rest) := by
  induction cs with
  | nil => rfl
  | cons c cs ih =>
    simp only [encodeString, List.flatMap_cons, List.cons_append, List.nil_append,
      List.append_assoc] at ih ⊢
    simp [decodeString, ih]

/-- With as much fuel as the encoding is long, decoding reads a value and its entries back. -/
theorem decode_encode_aux (n : Nat) :
    (∀ v rest, (encode v).length ≤ n → decode n (encode v ++ rest) = some (v, rest)) ∧
      ∀ es rest, (encodeEntries es).length ≤ n →
        decodeEntries n (encodeEntries es ++ rest) = some (es, rest) := by
  induction n with
  | zero =>
    constructor
    · intro v _ h
      cases v <;> simp [encode] at h
    · intro es _ h
      cases es <;> simp [encodeEntries] at h
  | succ n ih =>
    obtain ⟨ihv, ihes⟩ := ih
    constructor
    · intro v rest h
      cases v with
      | string s => simp [encode, decode, decodeString_encodeString]
      | boolean b => cases b <;> rfl
      | table es =>
        simp only [encode, List.length_cons, Nat.add_le_add_iff_right] at h
        simp [encode, decode, ihes es rest h]
      | other => rfl
    · intro es rest h
      cases es with
      | nil => rfl
      | cons p es =>
        obtain ⟨k, v⟩ := p
        simp only [encodeEntries, List.length_cons, List.length_append,
          Nat.add_le_add_iff_right] at h
        -- the key, then the value and the rest, each shorter than the fuel left
        have hv := ihv v (encodeEntries es ++ rest) (by omega)
        have hes := ihes es rest (by omega)
        simp [encodeEntries, decodeEntries, List.append_assoc, decodeString_encodeString, hv, hes]

theorem decode_encode (v : Value) (rest : List Char) :
    decode (encode v).length (encode v ++ rest) = some (v, rest) :=
  (decode_encode_aux _).1 v rest le_rfl

end Text

end Serde
