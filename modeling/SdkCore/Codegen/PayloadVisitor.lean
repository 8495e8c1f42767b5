import SdkCore.Maps

/-!
# The payload-visitor generator

`PayloadVisitorGenerator` of `crates/common/build.rs` reads the proto descriptors and decides
which messages contain a `Payload`, so that the build emits a `PayloadVisitable` impl for each:
`collect_messages` gathers every message under its full name, `check_contains_payload` searches
the message-typed fields depth first, and `build_field_info` lists the fields of a
payload-containing message whose type contains one.

The search memoises both of its answers. A message whose search finds no payload is put in
`not_payload_containing` for good, even when one of its fields led back to a message still being
searched, for which the search answered `false` to break the cycle. So the answer for a message on
a cycle depends on where the search entered the cycle: with `A { B b; Payload p }` and
`B { A a }`, searching `A` first leaves `B` out although `B` reaches a payload through `A`
(`processDescriptors_misses_cycle`). What the search does record is sound, for every descriptor
set and every order of the names: each message in `payload_containing` reaches a payload
(`processDescriptors_sound`).
-/

namespace SdkCore.Codegen

/-! ## Descriptors -/

/-- `MessageOptions`, the field the generator reads. -/
structure MessageOptions where
  mapEntry : Option Bool
  deriving Repr, DecidableEq

/-- `FieldDescriptorProto`, the fields the generator reads; `label` and `type` hold the enum
values as `i32`. -/
structure FieldDescriptorProto where
  name : Option String
  label : Option Int
  type : Option Int
  typeName : Option String
  oneofIndex : Option Int
  deriving Repr, DecidableEq

/-- `OneofDescriptorProto`. -/
structure OneofDescriptorProto where
  name : Option String
  deriving Repr, DecidableEq

/-- `DescriptorProto`, the fields the generator reads. -/
structure DescriptorProto where
  name : Option String
  field : List FieldDescriptorProto
  nestedType : List DescriptorProto
  options : Option MessageOptions
  oneofDecl : List OneofDescriptorProto
  deriving Repr

/-- `FileDescriptorProto`, the fields the generator reads. -/
structure FileDescriptorProto where
  package : Option String
  messageType : List DescriptorProto
  deriving Repr

/-- `FileDescriptorSet`. -/
structure FileDescriptorSet where
  file : List FileDescriptorProto
  deriving Repr

/-- `Type::Message as i32`. -/
def typeMessage : Int := 11

/-- `Label::Repeated as i32`. -/
def labelRepeated : Int := 3

/-- The full name of `Payload`. -/
def payloadName : String := "temporal.api.common.v1.Payload"

/-- The full name of `Payloads`. -/
def payloadsName : String := "temporal.api.common.v1.Payloads"

/-- `is_message_type`. -/
def isMessageType (field : FieldDescriptorProto) : Bool :=
  field.type == some typeMessage

/-- `is_repeated`. -/
def isRepeated (field : FieldDescriptorProto) : Bool :=
  field.label == some labelRepeated

/-- `is_map_entry`. -/
def isMapEntry (options : Option MessageOptions) : Bool :=
  options.any fun o => o.mapEntry.getD false

/-- `str::trim_start_matches('.')`. -/
def trimStartMatchesDot (s : String) : String :=
  String.ofList (s.toList.dropWhile (· == '.'))

/-- The type name of a field, as the generator reads it:
`type_name.as_deref().unwrap_or("").trim_start_matches('.')`. -/
def FieldDescriptorProto.trimmedTypeName (field : FieldDescriptorProto) : String :=
  trimStartMatchesDot (field.typeName.getD "")

/-- `PayloadVisitorGenerator::to_map_entry_name`: `snake_case` to `UpperCamelCase`, then
`Entry`. -/
def toMapEntryName (fieldName : String) : String :=
  let step := fun (acc : List Char × Bool) (c : Char) =>
    if c == '_' then (acc.1, true)
    else if acc.2 then (acc.1 ++ [c.toUpper], false)
    else (acc.1 ++ [c], false)
  String.ofList ((fieldName.toList.foldl step ([], true)).1 ++ "Entry".toList)

example : toMapEntryName "indexed_fields" = "IndexedFieldsEntry" := by decide

/-- The map entry type of a field: the nested map entry named after it. -/
def mapEntryOf (msg : DescriptorProto) (field : FieldDescriptorProto) : Option DescriptorProto :=
  msg.nestedType.find? fun n =>
    isMapEntry n.options && n.name == some (toMapEntryName (field.name.getD ""))

/-- The `value` field of a map entry. -/
def valueField (entry : DescriptorProto) : Option FieldDescriptorProto :=
  entry.field.find? fun f => f.name == some "value"

/-! ## The generator -/

/-- `OneofVariant`. -/
structure OneofVariant where
  name : String
  deriving Repr, DecidableEq

/-- `PayloadFieldKind`. -/
inductive PayloadFieldKind where
  | singlePayload
  | repeatedPayload
  | payloadsMessage
  | mapPayload
  | mapNestedMessage
  | nestedMessage
  | oneof (oneofName : String) (variants : List OneofVariant) (totalVariants : Nat)
  deriving Repr, DecidableEq

/-- `PayloadFieldInfo`. -/
structure PayloadFieldInfo where
  name : String
  protoPath : String
  kind : PayloadFieldKind
  deriving Repr, DecidableEq

/-- `PayloadVisitorGenerator`; a `HashSet` is a list without repeats. -/
structure PayloadVisitorGenerator where
  messages : Maps.Map String DescriptorProto
  payloadContaining : List String
  checking : List String
  notPayloadContaining : List String
  messageFields : Maps.Map String (List PayloadFieldInfo)

namespace PayloadVisitorGenerator

/-- `PayloadVisitorGenerator::new`. -/
def new : PayloadVisitorGenerator :=
  { messages := ∅, payloadContaining := [], checking := [], notPayloadContaining := [],
    messageFields := ∅ }

mutual

/-- `collect_messages`: a message under its full name, then its nested types but map entries. -/
def collectMessages (package : String) :
    DescriptorProto → Maps.Map String DescriptorProto → Maps.Map String DescriptorProto
  | msg@⟨name, _, nestedType, _, _⟩, messages =>
    let name := name.getD ""
    let fullName := if package.isEmpty then name else package ++ "." ++ name
    collectNested fullName nestedType (messages.insert fullName msg)

/-- The loop of `collect_messages` over the nested types. -/
def collectNested (fullName : String) :
    List DescriptorProto → Maps.Map String DescriptorProto → Maps.Map String DescriptorProto
  | [], messages => messages
  | nested :: rest, messages =>
    collectNested fullName rest
      (if isMapEntry nested.options then messages else collectMessages fullName nested messages)

end

/-- The first pass of `process_descriptors`: every message of every file. -/
def collectAll (descriptorSet : FileDescriptorSet) : Maps.Map String DescriptorProto :=
  descriptorSet.file.foldl
    (fun messages file =>
      file.messageType.foldl (fun messages msg => collectMessages (file.package.getD "") msg messages)
        messages)
    ∅

/-- `field_contains_payload`, with the search `check` it calls on the field's type. -/
def fieldContainsPayload
    (check : PayloadVisitorGenerator → String → Bool × PayloadVisitorGenerator)
    (g : PayloadVisitorGenerator) (msg : DescriptorProto) (field : FieldDescriptorProto) :
    Bool × PayloadVisitorGenerator :=
  if isMessageType field then
    match (mapEntryOf msg field).bind valueField with
    | some valueField => check g valueField.trimmedTypeName
    | none => check g field.trimmedTypeName
  else (false, g)

/-- The loop of `check_contains_payload` over the fields: whether a field contains a payload. -/
def checkFields (check : PayloadVisitorGenerator → String → Bool × PayloadVisitorGenerator)
    (msg : DescriptorProto) :
    List FieldDescriptorProto → PayloadVisitorGenerator → Bool × PayloadVisitorGenerator
  | [], g => (false, g)
  | field :: rest, g =>
    let (found, g) := fieldContainsPayload check g msg field
    if found then (true, g) else checkFields check msg rest g

/-- `check_contains_payload`. A search from `name` nests at most once per message, each entry
putting a new message in `checking`, so the number of messages plus one is fuel enough. -/
def checkContainsPayload : Nat → PayloadVisitorGenerator → String → Bool × PayloadVisitorGenerator
  | 0, g, _ => (false, g)
  | fuel + 1, g, name =>
    if g.payloadContaining.contains name then (true, g)
    else if g.notPayloadContaining.contains name then (false, g)
    else if g.checking.contains name then (false, g)
    else if name == payloadName then
      (true, { g with payloadContaining := g.payloadContaining.insert name })
    else if name == payloadsName then
      (true, { g with payloadContaining := g.payloadContaining.insert name })
    else
      match g.messages.lookup name with
      | none => (false, g)
      | some msg =>
        let (found, g) := checkFields (checkContainsPayload fuel) msg msg.field
          { g with checking := g.checking.insert name }
        if found then
          (true, { g with checking := g.checking.erase name,
                          payloadContaining := g.payloadContaining.insert name })
        else
          (false, { g with checking := g.checking.erase name,
                           notPayloadContaining := g.notPayloadContaining.insert name })

/-- `build_single_field_info`. -/
def buildSingleFieldInfo (g : PayloadVisitorGenerator) (parentName : String)
    (parentMsg : DescriptorProto) (field : FieldDescriptorProto) : Option PayloadFieldInfo :=
  let fieldName := field.name.getD ""
  let protoPath := parentName ++ "." ++ fieldName
  if !isMessageType field then none
  else
    let typeName := field.trimmedTypeName
    match mapEntryOf parentMsg field with
    | some nested =>
      (valueField nested).bind fun valueField =>
        let valueType := valueField.trimmedTypeName
        if !g.payloadContaining.contains valueType then none
        else if valueType == payloadName then some ⟨fieldName, protoPath, .mapPayload⟩
        else some ⟨fieldName, protoPath, .mapNestedMessage⟩
    | none =>
      if !g.payloadContaining.contains typeName then none
      else if typeName == payloadName then
        some ⟨fieldName, protoPath, if isRepeated field then .repeatedPayload else .singlePayload⟩
      else if typeName == payloadsName then some ⟨fieldName, protoPath, .payloadsMessage⟩
      else some ⟨fieldName, protoPath, .nestedMessage⟩

/-- The fields of a message grouped by `oneof_index`, each oneof in the order it first appears. -/
def oneofGroups (fields : List FieldDescriptorProto) : List (Int × List FieldDescriptorProto) :=
  fields.foldl
    (fun groups field =>
      match field.oneofIndex with
      | none => groups
      | some i =>
        if groups.any (·.1 == i) then
          groups.map fun group => if group.1 == i then (group.1, group.2 ++ [field]) else group
        else groups ++ [(i, [field])])
    []

/-- The entry of one oneof in `build_field_info`; `none` where `oneof_decl[oneof_index as usize]`
panics. -/
def oneofFieldInfo (g : PayloadVisitorGenerator) (name : String) (msg : DescriptorProto)
    (oneofIndex : Int) (oneofFieldList : List FieldDescriptorProto) :
    Option (Option PayloadFieldInfo) :=
  let oneofDesc? := if oneofIndex < 0 then none else msg.oneofDecl[oneofIndex.toNat]?
  oneofDesc?.map fun oneofDesc =>
    let oneofName := oneofDesc.name.getD ""
    let variants := oneofFieldList.filterMap fun field =>
      if isMessageType field && g.payloadContaining.contains field.trimmedTypeName then
        some ⟨field.name.getD ""⟩
      else none
    if variants.isEmpty then none
    else some ⟨oneofName, name ++ "." ++ oneofName,
      .oneof oneofName variants oneofFieldList.length⟩

/-- `build_field_info`; `none` where it panics. -/
def buildFieldInfo (g : PayloadVisitorGenerator) (name : String) :
    Option PayloadVisitorGenerator :=
  if (g.messageFields.lookup name).isSome then some g
  else if name == payloadName || name == payloadsName then some g
  else
    match g.messages.lookup name with
    | none => some g
    | some msg =>
      let fields := (msg.field.filter (·.oneofIndex.isNone)).filterMap
        (buildSingleFieldInfo g name msg)
      ((oneofGroups msg.field).mapM fun group => oneofFieldInfo g name msg group.1 group.2).map
        fun oneofs =>
          { g with messageFields := g.messageFields.insert name (fields ++ oneofs.filterMap id) }

end PayloadVisitorGenerator

/-! ## What the search is for -/

/-- The message a field leads to, where `field_contains_payload` looks: the value type of a map,
or the field's own type. -/
def fieldTarget (msg : DescriptorProto) (field : FieldDescriptorProto) : Option String :=
  if isMessageType field then
    some (match (mapEntryOf msg field).bind valueField with
      | some valueField => valueField.trimmedTypeName
      | none => field.trimmedTypeName)
  else none

/-- The names from which `Payload` or `Payloads` is reached through message-typed fields, map
values and oneof members (a oneof member is a field of the message). -/
inductive Reaches (messages : Maps.Map String DescriptorProto) : String → Prop
  | payload : Reaches messages payloadName
  | payloads : Reaches messages payloadsName
  | field {name target : String} {msg : DescriptorProto} {field : FieldDescriptorProto} :
      messages.lookup name = some msg → field ∈ msg.field → fieldTarget msg field = some target →
      Reaches messages target → Reaches messages name

namespace PayloadVisitorGenerator

/-- Every message recorded as containing a payload reaches one. -/
def Sound (g : PayloadVisitorGenerator) : Prop :=
  ∀ n ∈ g.payloadContaining, Reaches g.messages n

/-- A search that keeps the messages and soundness, and answers `true` only for a name that
reaches a payload. -/
def SoundSearch (check : PayloadVisitorGenerator → String → Bool × PayloadVisitorGenerator) :
    Prop :=
  ∀ g name, g.Sound → (check g name).2.messages = g.messages ∧ (check g name).2.Sound ∧
    ((check g name).1 = true → Reaches g.messages name)

theorem Sound.insert {g : PayloadVisitorGenerator} (hg : g.Sound) {name : String}
    (hn : Reaches g.messages name) :
    { g with payloadContaining := g.payloadContaining.insert name }.Sound := by
  intro n hmem
  rcases List.mem_insert_iff.mp hmem with rfl | hmem
  · exact hn
  · exact hg n hmem

theorem fieldContainsPayload_eq
    (check : PayloadVisitorGenerator → String → Bool × PayloadVisitorGenerator)
    (g : PayloadVisitorGenerator) (msg : DescriptorProto) (field : FieldDescriptorProto) :
    fieldContainsPayload check g msg field =
      match fieldTarget msg field with
      | some target => check g target
      | none => (false, g) := by
  unfold fieldContainsPayload fieldTarget
  cases isMessageType field with
  | false => rfl
  | true => cases (mapEntryOf msg field).bind valueField <;> rfl

section Search

variable {check : PayloadVisitorGenerator → String → Bool × PayloadVisitorGenerator}

theorem fieldContainsPayload_sound (hc : SoundSearch check) {g : PayloadVisitorGenerator}
    (hg : g.Sound) (msg : DescriptorProto) (field : FieldDescriptorProto) :
    (fieldContainsPayload check g msg field).2.messages = g.messages ∧
      (fieldContainsPayload check g msg field).2.Sound ∧
      ((fieldContainsPayload check g msg field).1 = true →
        ∃ target, fieldTarget msg field = some target ∧ Reaches g.messages target) := by
  rw [fieldContainsPayload_eq]
  cases ht : fieldTarget msg field with
  | none => exact ⟨rfl, hg, fun h => by cases h⟩
  | some target =>
    obtain ⟨hm, hs, hr⟩ := hc g target hg
    exact ⟨hm, hs, fun h => ⟨target, rfl, hr h⟩⟩

theorem checkFields_sound (hc : SoundSearch check) (msg : DescriptorProto) :
    ∀ (fields : List FieldDescriptorProto) (g : PayloadVisitorGenerator), g.Sound →
      (checkFields check msg fields g).2.messages = g.messages ∧
      (checkFields check msg fields g).2.Sound ∧
      ((checkFields check msg fields g).1 = true →
        ∃ field ∈ fields, ∃ target, fieldTarget msg field = some target ∧
          Reaches g.messages target)
  | [], g, hg => ⟨rfl, hg, fun h => by cases h⟩
  | field :: rest, g, hg => by
    obtain ⟨hm, hs, hr⟩ := fieldContainsPayload_sound hc hg msg field
    simp only [checkFields]
    cases hf : (fieldContainsPayload check g msg field).1 with
    | true =>
      obtain ⟨target, ht, hreach⟩ := hr hf
      exact ⟨hm, hs, fun _ => ⟨field, List.mem_cons_self .., target, ht, hreach⟩⟩
    | false =>
      obtain ⟨hm', hs', hr'⟩ := checkFields_sound hc msg rest _ hs
      refine ⟨hm'.trans hm, hs', fun h => ?_⟩
      obtain ⟨f, hmem, target, ht, hreach⟩ := hr' h
      exact ⟨f, List.mem_cons_of_mem _ hmem, target, ht, hm ▸ hreach⟩

end Search

/-- The search is sound at every fuel: by induction on the fuel, the nested searches of a
message's fields being sound by the hypothesis. -/
theorem checkContainsPayload_sound (fuel : Nat) : SoundSearch (checkContainsPayload fuel) := by
  induction fuel with
  | zero => intro g name hg; exact ⟨rfl, hg, fun h => by cases h⟩
  | succ fuel ih =>
    intro g name hg
    -- an answer that records nothing keeps the state
    have hkeep : ∀ b, checkContainsPayload (fuel + 1) g name = (false, g) ∨
        (checkContainsPayload (fuel + 1) g name = (b, g) ∧ name ∈ g.payloadContaining) →
        (checkContainsPayload (fuel + 1) g name).2.messages = g.messages ∧
        (checkContainsPayload (fuel + 1) g name).2.Sound ∧
        ((checkContainsPayload (fuel + 1) g name).1 = true → Reaches g.messages name) := by
      rintro b (hval | ⟨hval, hmem⟩) <;> rw [hval]
      · exact ⟨rfl, hg, fun h => by cases h⟩
      · exact ⟨rfl, hg, fun _ => hg name hmem⟩
    by_cases h1 : name ∈ g.payloadContaining
    · exact hkeep true (.inr ⟨by simp [checkContainsPayload, h1], h1⟩)
    by_cases h2 : name ∈ g.notPayloadContaining
    · exact hkeep true (.inl (by simp [checkContainsPayload, h1, h2]))
    by_cases h3 : name ∈ g.checking
    · exact hkeep true (.inl (by simp [checkContainsPayload, h1, h2, h3]))
    -- the two leaf types
    have hleaf : Reaches g.messages name →
        checkContainsPayload (fuel + 1) g name =
          (true, { g with payloadContaining := g.payloadContaining.insert name }) →
        (checkContainsPayload (fuel + 1) g name).2.messages = g.messages ∧
        (checkContainsPayload (fuel + 1) g name).2.Sound ∧
        ((checkContainsPayload (fuel + 1) g name).1 = true → Reaches g.messages name) := by
      intro hn hval
      rw [hval]
      exact ⟨rfl, hg.insert hn, fun _ => hn⟩
    by_cases h4 : name = payloadName
    · subst h4
      exact hleaf .payload (by simp [checkContainsPayload, h1, h2, h3])
    by_cases h5 : name = payloadsName
    · subst h5
      exact hleaf .payloads (by simp [checkContainsPayload, h1, h2, h3, h4])
    cases hl : g.messages.lookup name with
    | none => exact hkeep true (.inl (by simp [checkContainsPayload, h1, h2, h3, h4, h5, hl]))
    | some msg =>
      have hval : checkContainsPayload (fuel + 1) g name =
          let r := checkFields (checkContainsPayload fuel) msg msg.field
            { g with checking := g.checking.insert name }
          if r.1 then
            (true, { r.2 with checking := r.2.checking.erase name,
                              payloadContaining := r.2.payloadContaining.insert name })
          else
            (false, { r.2 with checking := r.2.checking.erase name,
                               notPayloadContaining := r.2.notPayloadContaining.insert name }) := by
        simp [checkContainsPayload, h1, h2, h3, h4, h5, hl]
      rw [hval]
      obtain ⟨hm, hs, hr⟩ := checkFields_sound ih msg msg.field
        { g with checking := g.checking.insert name } hg
      cases hf : (checkFields (checkContainsPayload fuel) msg msg.field
          { g with checking := g.checking.insert name }).1 with
      | true =>
        -- the field that found a payload makes `name` reach it
        obtain ⟨field, hmem, target, ht, hreach⟩ := hr hf
        have hname : Reaches g.messages name := .field hl hmem ht hreach
        have hname' : Reaches (checkFields (checkContainsPayload fuel) msg msg.field
            { g with checking := g.checking.insert name }).2.messages name := by
          rw [hm]
          exact hname
        simp only [hf, if_true]
        exact ⟨hm, Sound.insert hs hname', fun _ => hname⟩
      | false =>
        simp only [hf, Bool.false_eq_true, if_false]
        exact ⟨hm, hs, fun h => by cases h⟩

end PayloadVisitorGenerator

open PayloadVisitorGenerator

/-- `process_descriptors`, where `allNames` is the order in which `messages.keys()` lists the
names; `none` where it panics. -/
def processDescriptors (descriptorSet : FileDescriptorSet) (allNames : List String) :
    Option PayloadVisitorGenerator :=
  let messages := collectAll descriptorSet
  let fuel := messages.keys.length + 1
  let g := allNames.foldl (fun g name => (checkContainsPayload fuel g name).2)
    { PayloadVisitorGenerator.new with messages }
  g.payloadContaining.foldlM buildFieldInfo g

/-! ## Runs of the generator -/

/-- `build_field_info` writes only `message_fields`. -/
theorem buildFieldInfo_frame {g g' : PayloadVisitorGenerator} {name : String}
    (h : g.buildFieldInfo name = some g') :
    g'.messages = g.messages ∧ g'.payloadContaining = g.payloadContaining := by
  unfold buildFieldInfo at h
  by_cases c1 : (g.messageFields.lookup name).isSome = true
  · simp only [c1, if_true, Option.some.injEq] at h
    exact h ▸ ⟨rfl, rfl⟩
  by_cases c2 : (name == payloadName || name == payloadsName) = true
  · simp only [c1, c2, if_true, if_false, Bool.false_eq_true, Option.some.injEq] at h
    exact h ▸ ⟨rfl, rfl⟩
  simp only [c1, c2, if_false, Bool.false_eq_true] at h
  cases hl : g.messages.lookup name with
  | none =>
    simp only [hl, Option.some.injEq] at h
    exact h ▸ ⟨rfl, rfl⟩
  | some msg =>
    simp only [hl, Option.map_eq_some_iff] at h
    obtain ⟨_, -, rfl⟩ := h
    exact ⟨rfl, rfl⟩

/-- The third pass writes only `message_fields`. -/
theorem foldlM_buildFieldInfo_frame :
    ∀ (names : List String) (g g' : PayloadVisitorGenerator),
      names.foldlM buildFieldInfo g = some g' →
      g'.messages = g.messages ∧ g'.payloadContaining = g.payloadContaining
  | [], g, g', h => by
    simp only [List.foldlM_nil] at h
    cases h
    exact ⟨rfl, rfl⟩
  | name :: names, g, g', h => by
    simp only [List.foldlM_cons] at h
    obtain ⟨g₁, h₁, h₂⟩ := Option.bind_eq_some_iff.mp h
    obtain ⟨hm₁, hp₁⟩ := buildFieldInfo_frame h₁
    obtain ⟨hm₂, hp₂⟩ := foldlM_buildFieldInfo_frame names g₁ g' h₂
    exact ⟨hm₂.trans hm₁, hp₂.trans hp₁⟩

/-- The second pass keeps the messages and soundness. -/
theorem foldl_checkContainsPayload_sound (fuel : Nat) :
    ∀ (names : List String) (g : PayloadVisitorGenerator), g.Sound →
      (names.foldl (fun g name => (checkContainsPayload fuel g name).2) g).messages =
          g.messages ∧
        (names.foldl (fun g name => (checkContainsPayload fuel g name).2) g).Sound
  | [], g, hg => ⟨rfl, hg⟩
  | name :: names, g, hg => by
    obtain ⟨hm, hs, -⟩ := checkContainsPayload_sound fuel g name hg
    obtain ⟨hm', hs'⟩ := foldl_checkContainsPayload_sound fuel names _ hs
    exact ⟨hm'.trans hm, hs'⟩

/-- For every descriptor set and every order of the names, each message `process_descriptors`
records as containing a payload reaches one. -/
theorem processDescriptors_sound {descriptorSet : FileDescriptorSet} {allNames : List String}
    {g : PayloadVisitorGenerator} (h : processDescriptors descriptorSet allNames = some g) :
    ∀ name ∈ g.payloadContaining, Reaches g.messages name := by
  unfold processDescriptors at h
  obtain ⟨hm, hp⟩ := foldlM_buildFieldInfo_frame _ _ _ h
  obtain ⟨-, hs⟩ := foldl_checkContainsPayload_sound ((collectAll descriptorSet).keys.length + 1)
    allNames { PayloadVisitorGenerator.new with messages := collectAll descriptorSet }
    (fun _ hn => by cases hn)
  intro name hn
  rw [hm]
  exact hs name (hp ▸ hn)

/-! ## A cycle the search leaves half-recorded -/

/-- An optional message-typed field. -/
def messageField (name typeName : String) : FieldDescriptorProto :=
  ⟨some name, some 1, some typeMessage, some typeName, none⟩

/-- `message A { B b = 1; temporal.api.common.v1.Payload p = 2; }`. -/
def cycleA : DescriptorProto :=
  ⟨some "A", [messageField "b" ".x.B", messageField "p" ".temporal.api.common.v1.Payload"], [],
    none, []⟩

/-- `message B { A a = 1; }`. -/
def cycleB : DescriptorProto :=
  ⟨some "B", [messageField "a" ".x.A"], [], none, []⟩

/-- Both, in a file of package `x`. -/
def cycleDescriptors : FileDescriptorSet :=
  ⟨[⟨some "x", [cycleA, cycleB]⟩]⟩

theorem processDescriptors_sound_cycle :
    ∃ g, processDescriptors cycleDescriptors ["x.A", "x.B"] = some g ∧
      ∀ name ∈ g.payloadContaining, Reaches g.messages name :=
  ⟨_, rfl, @processDescriptors_sound cycleDescriptors ["x.A", "x.B"] _ rfl⟩

/-- Searching `x.A` first, `x.B` is recorded as holding no payload, although it
reaches one through `x.A`, and the fields of `x.A` leave out `b`; searching
`x.B` first records both, with both fields of `x.A`. -/
theorem processDescriptors_misses_cycle :
    (collectAll cycleDescriptors).keys.Perm ["x.A", "x.B"] ∧
      Reaches (collectAll cycleDescriptors) "x.B" ∧
      (processDescriptors cycleDescriptors ["x.A", "x.B"]).map
          (fun g => (g.payloadContaining.contains "x.B",
            (g.messageFields.lookup "x.A").map (·.map PayloadFieldInfo.name))) =
        some (false, some ["p"]) ∧
      (processDescriptors cycleDescriptors ["x.B", "x.A"]).map
          (fun g => (g.payloadContaining.contains "x.B",
            (g.messageFields.lookup "x.A").map (·.map PayloadFieldInfo.name))) =
        some (true, some ["b", "p"]) := by
  refine ⟨by decide, ?_, by decide, by decide⟩
  -- `x.B.a` leads to `x.A`, whose field `p` is a payload
  have hA : Reaches (collectAll cycleDescriptors) "x.A" :=
    @Reaches.field _ "x.A" payloadName cycleA
      (messageField "p" ".temporal.api.common.v1.Payload") rfl (by decide) rfl .payload
  exact @Reaches.field _ "x.B" "x.A" cycleB (messageField "a" ".x.A") rfl (by decide) rfl hA

end SdkCore.Codegen
