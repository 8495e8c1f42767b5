import SdkCore.Protos

/-!
# Applying a codec to the payloads of a message

`crates/common/src/payload_visitor.rs`: `visit_payloads_mut` hands each payload field of a message
to a visitor, which may replace the field's data. `EncodeVisitor` runs the codec's `encode` on
every field but those under a `SearchAttributes.indexed_fields` path, which must stay readable by
the server; `DecodeVisitor` runs `decode` on every field. On a single payload both hand the codec
a list of one and keep the first payload it returns, or the default payload if it returns none.

Decoding after encoding gives the message back field by field when the path is not a search
attribute one and, for a single payload, the codec keeps one payload one
(`decodeVisit_encodeVisit`). It does not in general (`decodePayloads_encodePayloads_ne`): with a
codec whose `decode` undoes `encode` on every list, a search attribute is decoded although it was
never encoded, and a single payload the codec encodes into two comes back as the default payload.
-/

namespace SdkCore

/-- `PayloadCodec`; `κ` is `SerializationContextData`, which the visitors only pass on. The
futures it returns are modelled by their results. -/
structure PayloadCodec (κ : Type) where
  encode : κ → List Payload → List Payload
  decode : κ → List Payload → List Payload

/-- `PayloadFieldData`: the payloads of a field, by the shape of the field. -/
inductive PayloadFieldData where
  | single (payload : Payload)
  | repeated (payloads : List Payload)
  | payloads (payloadsMsg : Payloads)
  deriving Repr, DecidableEq

/-- `PayloadField`. -/
structure PayloadField where
  path : String
  data : PayloadFieldData
  deriving Repr, DecidableEq

/-- `str::contains` with a string pattern, on the characters. -/
def infixOf (pat : List Char) : List Char → Bool
  | [] => pat.isEmpty
  | s@(_ :: cs) => pat.isPrefixOf s || infixOf pat cs

theorem infixOf_iff (pat : List Char) : ∀ s, infixOf pat s = true ↔ pat <:+: s
  | [] => by simp [infixOf]
  | c :: cs => by
    rw [infixOf, Bool.or_eq_true, List.isPrefixOf_iff_prefix, infixOf_iff pat cs,
      List.infix_cons_iff]

/-- `is_search_attributes_path`. -/
def isSearchAttributesPath (path : String) : Bool :=
  infixOf "SearchAttributes.indexed_fields".toList path.toList

theorem isSearchAttributesPath_iff (path : String) :
    isSearchAttributesPath path = true ↔ "SearchAttributes.indexed_fields".toList <:+: path.toList :=
  infixOf_iff _ _

/-- `should_encode`. -/
def shouldEncode (path : String) : Bool :=
  !isSearchAttributesPath path

/-- The codec on a field: a single payload goes as a list of one, and the first payload returned
replaces it (`std::mem::take` left the default payload in its place). -/
def applyCodec (f : List Payload → List Payload) : PayloadFieldData → PayloadFieldData
  | .single payload => .single (((f [payload]).head?).getD default)
  | .repeated payloads => .repeated (f payloads)
  | .payloads payloadsMsg => .payloads (f payloadsMsg)

/-- `EncodeVisitor::visit`: the data of the field afterwards. -/
def encodeVisit {κ : Type} (codec : PayloadCodec κ) (context : κ) (field : PayloadField) :
    PayloadFieldData :=
  if !shouldEncode field.path then field.data
  else applyCodec (codec.encode context) field.data

/-- `DecodeVisitor::visit`: the data of the field afterwards. -/
def decodeVisit {κ : Type} (codec : PayloadCodec κ) (context : κ) (field : PayloadField) :
    PayloadFieldData :=
  applyCodec (codec.decode context) field.data

/-- `PayloadVisitable`: `visitPayloadsMut m visit` is `m` after `visit_payloads_mut`, which hands
each payload field to `visit` and writes back the data `visit` returns. -/
class PayloadVisitable (μ : Type) where
  visitPayloadsMut : μ → (PayloadField → PayloadFieldData) → μ

/-- `encode_payloads`. -/
def encodePayloads {κ μ : Type} [PayloadVisitable μ] (msg : μ) (codec : PayloadCodec κ)
    (context : κ) : μ :=
  PayloadVisitable.visitPayloadsMut msg (encodeVisit codec context)

/-- `decode_payloads`. -/
def decodePayloads {κ μ : Type} [PayloadVisitable μ] (msg : μ) (codec : PayloadCodec κ)
    (context : κ) : μ :=
  PayloadVisitable.visitPayloadsMut msg (decodeVisit codec context)

/-- A visitor's answer written back into a single payload; a visitor that answers with another
shape, which neither codec visitor does, leaves it as it was. -/
def PayloadFieldData.writeSingle (payload : Payload) : PayloadFieldData → Payload
  | .single p => p
  | _ => payload

/-- A visitor's answer written back into a `Payloads` message. -/
def PayloadFieldData.writePayloads (payloadsMsg : Payloads) : PayloadFieldData → Payloads
  | .payloads ps => ps
  | _ => payloadsMsg

/-- The manual impl for `Payload`: it visits itself as a single payload. -/
instance : PayloadVisitable Payload where
  visitPayloadsMut p visit :=
    (visit ⟨"temporal.api.common.v1.Payload", .single p⟩).writeSingle p

/-- The manual impl for `Payloads`: it visits itself as a `Payloads` field. -/
instance : PayloadVisitable Payloads where
  visitPayloadsMut ps visit :=
    (visit ⟨"temporal.api.common.v1.Payloads", .payloads ps⟩).writePayloads ps

/-- `temporal.api.common.v1.SearchAttributes`; the map is a list of entries. -/
structure SearchAttributes where
  indexedFields : List (String × Payload)
  deriving Repr, DecidableEq

/-- The generated impl for `SearchAttributes`: `indexed_fields` is a map of payloads, each value
visited as a single payload under the field's path. -/
instance : PayloadVisitable SearchAttributes where
  visitPayloadsMut sa visit :=
    ⟨sa.indexedFields.map fun (k, p) =>
      (k, (visit ⟨"temporal.api.common.v1.SearchAttributes.indexed_fields", .single p⟩).writeSingle
        p)⟩

/-! ## One field -/

section Field

variable {κ : Type} (codec : PayloadCodec κ) (context : κ)

/-- `decode` undoes `encode` on every list. -/
def PayloadCodec.LeftInverse : Prop :=
  ∀ ps, codec.decode context (codec.encode context ps) = ps

/-- `encode` turns one payload into one. -/
def PayloadCodec.KeepsSingle : Prop :=
  ∀ p, (codec.encode context [p]).length = 1

theorem encodeVisit_of_searchAttributes {field : PayloadField}
    (h : isSearchAttributesPath field.path = true) :
    encodeVisit codec context field = field.data := by
  simp [encodeVisit, shouldEncode, h]

/-- Decoding a field after encoding it restores its data, off search attribute paths, for a codec
whose `decode` undoes `encode` and that keeps one payload one. -/
theorem decodeVisit_encodeVisit (hinv : codec.LeftInverse context) {field : PayloadField}
    (hsingle : ∀ p, field.data = .single p → (codec.encode context [p]).length = 1)
    (hpath : isSearchAttributesPath field.path = false) :
    decodeVisit codec context ⟨field.path, encodeVisit codec context field⟩ = field.data := by
  simp only [decodeVisit, encodeVisit, shouldEncode, hpath, Bool.not_false, Bool.not_true,
    Bool.false_eq_true, if_false]
  cases hdata : field.data with
  | repeated ps => simp [applyCodec, hinv ps]
  | payloads ps => simp [applyCodec, hinv ps]
  | single p =>
    -- the one payload the codec returns is what `decode` is then given
    obtain ⟨q, hq⟩ : ∃ q, codec.encode context [p] = [q] :=
      List.length_eq_one_iff.mp (hsingle p hdata)
    have hdec : codec.decode context [q] = [p] := hq ▸ hinv [p]
    simp [applyCodec, hq, hdec]

/-- The manual impl for `Payloads` round-trips for a codec whose `decode` undoes `encode`. -/
theorem decodePayloads_encodePayloads_payloads (hinv : codec.LeftInverse context)
    (ps : Payloads) : decodePayloads (encodePayloads ps codec context) codec context = ps := by
  have hpath : isSearchAttributesPath "temporal.api.common.v1.Payloads" = false := by decide
  have henc : encodeVisit codec context ⟨"temporal.api.common.v1.Payloads", .payloads ps⟩ =
      .payloads (codec.encode context ps) := by
    simp [encodeVisit, shouldEncode, hpath, applyCodec]
  have hround : decodeVisit codec context ⟨"temporal.api.common.v1.Payloads",
      .payloads (codec.encode context ps)⟩ = .payloads ps :=
    henc ▸ decodeVisit_encodeVisit codec context hinv (fun _ h => by cases h) hpath
  simp only [decodePayloads, encodePayloads, PayloadVisitable.visitPayloadsMut, henc,
    PayloadFieldData.writePayloads, hround]

/-- The manual impl for `Payload` round-trips for such a codec that also keeps one payload one. -/
theorem decodePayloads_encodePayloads_payload (hinv : codec.LeftInverse context)
    (hsingle : codec.KeepsSingle context) (p : Payload) :
    decodePayloads (encodePayloads p codec context) codec context = p := by
  have hpath : isSearchAttributesPath "temporal.api.common.v1.Payload" = false := by decide
  obtain ⟨q, hq⟩ : ∃ q, codec.encode context [p] = [q] := List.length_eq_one_iff.mp (hsingle p)
  have henc : encodeVisit codec context ⟨"temporal.api.common.v1.Payload", .single p⟩ =
      .single q := by
    simp [encodeVisit, shouldEncode, hpath, applyCodec, hq]
  have hround : decodeVisit codec context ⟨"temporal.api.common.v1.Payload", .single q⟩ =
      .single p :=
    henc ▸ decodeVisit_encodeVisit codec context hinv (fun p' _ => hsingle p') hpath
  simp only [decodePayloads, encodePayloads, PayloadVisitable.visitPayloadsMut, henc,
    PayloadFieldData.writeSingle, hround]

end Field

/-! ## Where decoding does not undo encoding -/

/-- A codec that marks the data with a leading zero byte, and strips it. -/
def markCodec : PayloadCodec Unit where
  encode _ ps := ps.map fun p => { p with data := 0 :: p.data }
  decode _ ps := ps.map fun p => { p with data := p.data.tail }

/-- A codec that doubles the list, and keeps the first half. -/
def doublingCodec : PayloadCodec Unit where
  encode _ ps := ps ++ ps
  decode _ ps := ps.take (ps.length / 2)

theorem markCodec_leftInverse : markCodec.LeftInverse () := by
  intro ps
  simp [markCodec, Function.comp_def]

theorem doublingCodec_leftInverse : doublingCodec.LeftInverse () := by
  intro ps
  have hhalf : (ps.length + ps.length) / 2 = ps.length := by omega
  simp [doublingCodec, hhalf]

/-- Both codecs' `decode` undoes `encode` on every list, yet: a search attribute value, left alone
by the encoder, loses its first byte to the decoder; and a payload that the doubling codec turns
into two is written back as the first of them, which the codec then decodes to nothing, so the
payload comes back as the default one. -/
theorem decodePayloads_encodePayloads_ne :
    markCodec.LeftInverse () ∧ doublingCodec.LeftInverse () ∧
      decodePayloads (encodePayloads (⟨[("k", ⟨[], [1]⟩)]⟩ : SearchAttributes) markCodec ())
          markCodec () = ⟨[("k", ⟨[], []⟩)]⟩ ∧
      decodePayloads (encodePayloads (⟨[], [1]⟩ : Payload) doublingCodec ()) doublingCodec () =
        default :=
  ⟨markCodec_leftInverse, doublingCodec_leftInverse, by decide, by decide⟩

end SdkCore
