import PingPost.Auction.Bid
import PingPost.Buyer.Basic
import PingPost.Lead.Basic
import PingPost.Proofs.Codecs

/-!
The documents of the exchange keep what they say.

Every type of documents is built from lossless parts in the shape of its definition, so what was
read from any document, with its defaults filled in, reads as the same value after it was written
(`DocumentType.decode_encode`): a document that was read and written again is not changed by a
second time. Credentials stand apart, as their kind decides which other fields they have.
-/

namespace PingPost

/-! ### Leads -/

theorem Geo.codec_lossless : Geo.codec.Lossless :=
  .record
    (.via
      (.and (.nullable .number) <| .and (.nullable .number) <| .and (.nullable .text) <|
        .one (.nullable .text))
      fun _ => rfl)
    (by decide)

theorem Attribution.codec_lossless : Attribution.codec.Lossless :=
  .record
    (.via
      (.and (.nullable .text) <| .and (.nullable .text) <| .and (.nullable .text) <|
        .and (.nullable .text) <| .and (.nullable .text) <| .and (.nullable .text) <|
        .and (.nullable .text) <| .and (.nullable .text) <| .one (.nullable .text))
      fun _ => rfl)
    (by decide)

theorem Compliance.codec_lossless : Compliance.codec.Lossless :=
  .record
    (.via
      (.and (.nullable .text) <|
        .and (.nullable .text) <|
        .and (.nullable .text) <|
        .and (.withDefault .bool rfl) <|
        .and (.nullable .text) <|
        .and (.nullable .text) <|
        .and (.nullable .text) <|
        .and (.nullable .instant) <|
        .and (.nullable Geo.codec_lossless) <|
        .one (.withDefault Attribution.codec_lossless rfl))
      fun _ => rfl)
    (by decide)

theorem Lead.codec_lossless : Lead.codec.Lossless :=
  .record
    (.via
      (.and (.required .text) <|
        .and (.required .text) <|
        .and (.withDefault .fields rfl) <|
        .and (.required .text) <|
        .and (.withDefault .bool rfl) <|
        .and (.withDefault .text rfl) <|
        .and (.optional .text) <|
        .and (.required .instant) <|
        .one (.optional Compliance.codec_lossless))
      fun _ => rfl)
    (by decide)

/-! ### Calls -/

theorem RetryPolicy.codec_lossless : RetryPolicy.codec.Lossless :=
  .record
    (.via
      (.and (.required (.word 32)) <|
        .and (.required (.names (by decide))) <|
        .and (.required (.word 64)) <|
        .one (.required (.word 64)))
      fun _ => rfl)
    (by decide)

theorem Settings.codec_lossless : Settings.codec.Lossless :=
  .record
    (.via
      (.and (.withDefault (.word 64) (by decide)) <|
        .and (.withDefault .bool rfl) <|
        .and (.withDefault (.word 32) (by decide)) <|
        .and (.withDefault (.word 64) (by decide)) <|
        .one (.withDefault .bool rfl))
      fun _ => rfl)
    (by decide)

theorem Endpoints.codec_lossless : Endpoints.codec.Lossless :=
  .record
    (.via
      (.and (.required .text) <|
        .and (.required .text) <|
        .and (.withDefault (.word 64) (by decide)) <|
        .and (.withDefault (.word 64) (by decide)) <|
        .one (.withDefault RetryPolicy.codec_lossless (by decide)))
      fun _ => rfl)
    (by decide)

theorem Restrictions.codec_lossless : Restrictions.codec.Lossless :=
  .record
    (.via
      (.and (.texts) <|
        .and (.withDefault .bool rfl) <|
        .and (.withDefault .bool rfl) <|
        .one (.withDefault .bool rfl))
      fun _ => rfl)
    (by decide)

/-! ### Credentials -/

namespace Auth

theorem apiKeyRecord_lossless : apiKeyRecord.Lossless ["header", "key"] :=
  .and (.withDefault .text rfl) <| .one (.required .text)

theorem bearerRecord_lossless : bearerRecord.Lossless ["token"] := .one (.required .text)

theorem basicRecord_lossless : basicRecord.Lossless ["username", "password"] :=
  .and (.required .text) <| .one (.required .text)

theorem oauthRecord_lossless : oauthRecord.Lossless ["accessToken", "tokenType"] :=
  .and (.required .text) <| .one (.withDefault .text rfl)

/-- Whether the fields of the credentials are read from every object that shows them. -/
def Kept : Auth → Prop
  | .none => True
  | .apiKey header key => apiKeyRecord.Kept (header, key)
  | .bearer token => bearerRecord.Kept token
  | .basic username password => basicRecord.Kept (username, password)
  | .oauth accessToken tokenType => oauthRecord.Kept (accessToken, tokenType)

/-- Reading any kind of credentials keeps them, if reading the records does. -/
theorem kept_of_ofKind? {kind : String} {isBare : Bool}
    {read : {α : Type} → Record α → Option α} {a : Auth}
    (hread : ∀ {α : Type} {r : Record α} {names : List String} {x : α}, r.Lossless names →
      read r = some x → r.Kept x)
    (h : ofKind? kind isBare read = some a) : a.Kept := by
  unfold ofKind? at h
  split at h
  · split at h <;> cases h
    trivial
  split at h
  · obtain ⟨⟨header, key⟩, hx, rfl⟩ := Option.map_eq_some_iff.mp h
    exact hread apiKeyRecord_lossless hx
  split at h
  · obtain ⟨token, hx, rfl⟩ := Option.map_eq_some_iff.mp h
    exact hread bearerRecord_lossless hx
  split at h
  · obtain ⟨⟨username, password⟩, hx, rfl⟩ := Option.map_eq_some_iff.mp h
    exact hread basicRecord_lossless hx
  split at h
  · obtain ⟨⟨accessToken, tokenType⟩, hx, rfl⟩ := Option.map_eq_some_iff.mp h
    exact hread oauthRecord_lossless hx
  · cases h

theorem kept_of_decode? {v : Json} {a : Auth} (h : decode? v = some a) : a.Kept := by
  unfold decode? at h
  split at h
  · split at h
    · exact kept_of_ofKind? (fun hr hx => hr.fields hx) h
    · cases h
  · refine kept_of_ofKind? (fun hr hx => ?_) h
    simp only [Record.ofAllItems?] at hx
    split at hx
    · cases hx
      exact hr.items ‹_›
    · cases hx
  · cases h

/-- The kind stands apart from the other fields. -/
theorem shown_tagged {α : Type} {r : Record α} {names : List String} (hr : r.Lossless names)
    (hnames : ("type" :: names).Nodup) (kind : String) (x : α) :
    let fields := Table.ofList (("type", Json.text kind) :: r.write x)
    fields.filter (fun e => e.1 == "type") = [("type", .text kind)] ∧
      r.Shown (fields.filter fun e => e.1 != "type") x := by
  have hkeys : (Table.keys (("type", Json.text kind) :: r.write x)).Nodup := by
    rwa [Table.keys, List.map_cons, ← Table.keys, hr.keys_write]
  refine ⟨Table.filter_ofList hkeys List.mem_cons_self, fun e he => ?_⟩
  have hother : e.1 ≠ "type" := by
    rintro heq
    exact (List.nodup_cons.mp hkeys).1 (heq ▸ (List.mem_map_of_mem he : e.1 ∈ Table.keys _))
  rw [List.filter_filter, ← Table.filter_ofList hkeys (List.mem_cons_of_mem _ he)]
  refine List.filter_congr fun e' _ => ?_
  by_cases heq : e'.1 = e.1 <;> simp [heq, hother]

theorem decode?_object {fields : List (String × Json)} {kind : String}
    (h : fields.filter (fun e => e.1 == "type") = [("type", .text kind)]) :
    decode? (.object fields) =
      ofKind? kind true fun r => r.ofFields? (fields.filter fun e => e.1 != "type") := by
  simp only [decode?, h]

theorem Kept.decode?_encode {a : Auth} (h : a.Kept) : decode? (codec.encode a) = some a := by
  cases a with
  | none => rfl
  | apiKey header key =>
    obtain ⟨hkind, hshown⟩ :=
      shown_tagged apiKeyRecord_lossless (by decide) "apiKey" (header, key)
    simp [codec, parts, decode?_object hkind, ofKind?, h _ hshown]
  | bearer token =>
    obtain ⟨hkind, hshown⟩ := shown_tagged bearerRecord_lossless (by decide) "bearer" token
    simp [codec, parts, decode?_object hkind, ofKind?, h _ hshown]
  | basic username password =>
    obtain ⟨hkind, hshown⟩ :=
      shown_tagged basicRecord_lossless (by decide) "basic" (username, password)
    simp [codec, parts, decode?_object hkind, ofKind?, h _ hshown]
  | oauth accessToken tokenType =>
    obtain ⟨hkind, hshown⟩ :=
      shown_tagged oauthRecord_lossless (by decide) "oauth" (accessToken, tokenType)
    simp [codec, parts, decode?_object hkind, ofKind?, h _ hshown]

theorem codec_lossless : codec.Lossless where
  stable _ _ h := (kept_of_decode? h).decode?_encode
  null _ _ _ h := by cases h

end Auth

/-! ### Prices -/

theorem Adjustment.codec_lossless : Adjustment.codec.Lossless :=
  .record
    (.via (.and (.required (.names (by decide))) <| .one (.required .number))
      fun x => by obtain ⟨_ | _, x⟩ := x <;> rfl)
    (by decide)

theorem PriceModifier.codec_lossless : PriceModifier.record.codec.Lossless :=
  .record
    (.via
      (.and (.required .text) <|
        .and (.required (.names (by decide))) <|
        .and (.withDefault .value rfl) <|
        .one (.required Adjustment.codec_lossless))
      fun _ => rfl)
    (by decide)

theorem Pricing.codec_lossless : Pricing.codec.Lossless :=
  .record
    (.via
      (.and (.withDefault .number rfl) <|
        .and (.optional .number) <|
        .and (.optional .number) <|
        .one (.withDefault (.list PriceModifier.codec_lossless) rfl))
      fun _ => rfl)
    (by decide)

/-! ### Templates -/

theorem TransformSpec.codec_lossless : TransformSpec.codec.Lossless where
  stable v spec h := by
    have hrecord : record.Lossless ["name", "args"] :=
      .and (.required .text) <| .one (.withDefault (.list .value) rfl)
    simp only [codec] at h
    split at h
    · cases h
      rfl
    · obtain ⟨⟨name, args⟩, hx, rfl⟩ := Option.map_eq_some_iff.mp h
      have hread := hrecord.fields hx _ (hrecord.shown_toFields (by decide) (name, args))
      simp only [codec, hread, Option.map_some]
    · cases h
  null v spec h hnull := by cases spec <;> cases hnull

theorem Rule.codec_lossless : Rule.codec.Lossless :=
  .record
    (.via
      (.and (.optional (.names (by decide))) <|
        .and (.optional (.word 64)) <|
        .and (.optional (.word 64)) <|
        .and (.optional .number) <|
        .and (.optional .number) <|
        .and (.optional .text) <|
        .one (.optional (.list .value)))
      fun _ => rfl)
    (by decide)

theorem Mapping.codec_lossless : Mapping.codec.Lossless :=
  .record
    (.via
      (.and (.required .text) <|
        .and (.required .text) <|
        .and (.optional TransformSpec.codec_lossless) <|
        .and (.withDefault .bool rfl) <|
        .and (.optional .value) <|
        .and (.optional Rule.codec_lossless) <|
        .one (.optional (.textTable .text)))
      fun _ => rfl)
    (by decide)

theorem Template.codec_lossless : Template.codec.Lossless :=
  .record
    (.via
      (.and (.withDefault (.list Mapping.codec_lossless) rfl) <|
        .and (.withDefault .fields rfl) <|
        .one (.optional (.word 64)))
      fun _ => rfl)
    (by decide)

theorem GeoAliases.codec_lossless : GeoAliases.codec.Lossless :=
  .record
    (.via
      (.and (.texts) <|
        .and (.texts) <|
        .and (.texts) <|
        .one (.texts))
      fun _ => rfl)
    (by decide)

theorem Aliases.codec_lossless : Aliases.codec.Lossless :=
  .record
    (.via
      (.and (.texts) <|
        .and (.texts) <|
        .and (.texts) <|
        .and (.texts) <|
        .and (.texts) <|
        .and (.texts) <|
        .and (.texts) <|
        .and (.texts) <|
        .and (.withDefault GeoAliases.codec_lossless rfl) <|
        .one (.withDefault (.textTable (.list .text)) (by decide)))
      fun _ => rfl)
    (by decide)

/-! ### Vocabularies -/

theorem Indicator.codec_lossless : Indicator.codec.Lossless :=
  .record (.via (.and (.required .text) <| .one (.required .value)) fun _ => rfl) (by decide)

namespace Vocabulary

/-- A code is read from its own digits only. -/
theorem codeOfText?_toString {s : String} {code : Nat} (h : codeOfText? s = some code) :
    codeOfText? (toString code) = some code := by
  have htext : toString code = s := by
    simp only [codeOfText?, Option.ite_none_right_eq_some, Bool.and_eq_true, beq_iff_eq,
      Option.some.injEq] at h
    obtain ⟨⟨⟨-, htext⟩, -⟩, rfl⟩ := h
    exact htext
  rw [htext, h]

theorem actionsCodec_lossless : actionsCodec.Lossless :=
  .table (.names (by decide)) fun _ _ => codeOfText?_toString

theorem codec_lossless : codec.Lossless :=
  .record
    (.via
      (.and (.withDefault .text rfl) <|
        .and (.withDefault .text rfl) <|
        .and .texts <|
        .and .texts <|
        .and .texts <|
        .and .texts <|
        .and .texts <|
        .and .texts <|
        .and .texts <|
        .and .texts <|
        .and .texts <|
        .and .texts <|
        .and (.withDefault actionsCodec_lossless (by decide)) <|
        .one (.withDefault (.list Indicator.codec_lossless) rfl))
      fun _ => rfl)
    (by decide)

end Vocabulary

/-! ### Buyers -/

theorem Service.codec_lossless : Service.codec.Lossless :=
  .record
    (.via
      (.and (.required .text) <|
        .and (.withDefault .bool rfl) <|
        .and (.withDefault (.word 32) (by decide)) <|
        .and (.withDefault Pricing.codec_lossless rfl) <|
        .and (.required Template.codec_lossless) <|
        .and (.required Template.codec_lossless) <|
        .and (.required Endpoints.codec_lossless) <|
        .one (.optional Restrictions.codec_lossless))
      fun _ => rfl)
    (by decide)

theorem Buyer.codec_lossless : Buyer.codec.Lossless :=
  .record
    (.via
      (.and (.required .text) <|
        .and (.required .text) <|
        .and (.withDefault .text rfl) <|
        .and (.withDefault .bool rfl) <|
        .and (.withDefault Auth.codec_lossless rfl) <|
        .and (.withDefault Settings.codec_lossless (by decide)) <|
        .and (.withDefault Aliases.codec_lossless
          (Aliases.codec_lossless.stable (.object []) _ rfl)) <|
        .and (.optional Vocabulary.codec_lossless) <|
        .one (.withDefault (.list Service.codec_lossless) rfl))
      fun _ => rfl)
    (by decide)

/-! ### Bids -/

theorem Bid.codec_lossless : Bid.codec.Lossless :=
  .record
    (.via
      (.and (.required .text) <|
        .and (.required .text) <|
        .and (.required .bool) <|
        .and (.nullable .amount) <|
        .and (.required (.word 64)) <|
        .and (.required (.word 32)) <|
        .and (.nullable .text) <|
        .and (.nullable .text) <|
        .one (.withDefault .bool rfl))
      fun _ => rfl)
    (by decide)

/-! ### All documents -/

/-- The types of documents. -/
inductive DocumentType where
  | lead
  | compliance
  | buyer
  | auth
  | settings
  | service
  | restrictions
  | pricing
  | endpoints
  | retryPolicy
  | aliases
  | template
  | mapping
  | rule
  | bid
  | vocabulary
  deriving DecidableEq, Repr

namespace DocumentType

/-- What the documents of a type stand for. -/
def Value : DocumentType → Type
  | lead => Lead
  | compliance => Compliance
  | buyer => Buyer
  | auth => Auth
  | settings => Settings
  | service => Service
  | restrictions => Restrictions
  | pricing => Pricing
  | endpoints => Endpoints
  | retryPolicy => RetryPolicy
  | aliases => Aliases
  | template => Template
  | mapping => Mapping
  | rule => Rule
  | bid => Bid
  | vocabulary => Vocabulary

/-- How the documents of a type are read and written. -/
def codec : (d : DocumentType) → Codec d.Value
  | lead => Lead.codec
  | compliance => Compliance.codec
  | buyer => Buyer.codec
  | auth => Auth.codec
  | settings => Settings.codec
  | service => Service.codec
  | restrictions => Restrictions.codec
  | pricing => Pricing.codec
  | endpoints => Endpoints.codec
  | retryPolicy => RetryPolicy.codec
  | aliases => Aliases.codec
  | template => Template.codec
  | mapping => Mapping.codec
  | rule => Rule.codec
  | bid => Bid.codec
  | vocabulary => Vocabulary.codec

/-- The document that is written for what was read from a document. -/
def rewrite? (d : DocumentType) (v : Json) : Option Json := (d.codec.decode? v).map d.codec.encode

theorem codec_lossless : (d : DocumentType) → d.codec.Lossless
  | lead => Lead.codec_lossless
  | compliance => Compliance.codec_lossless
  | buyer => Buyer.codec_lossless
  | auth => Auth.codec_lossless
  | settings => Settings.codec_lossless
  | service => Service.codec_lossless
  | restrictions => Restrictions.codec_lossless
  | pricing => Pricing.codec_lossless
  | endpoints => Endpoints.codec_lossless
  | retryPolicy => RetryPolicy.codec_lossless
  | aliases => Aliases.codec_lossless
  | template => Template.codec_lossless
  | mapping => Mapping.codec_lossless
  | rule => Rule.codec_lossless
  | bid => Bid.codec_lossless
  | vocabulary => Vocabulary.codec_lossless

/-- **What was read reads as the same value after it was written.** So an accepted document that was
read and written again is accepted, and stays as it is when that is done once more. -/
theorem decode_encode (d : DocumentType) (v : Json) (x : d.Value) (h : d.codec.decode? v = some x) :
    d.codec.decode? (d.codec.encode x) = some x ∧
      ∃ w, d.rewrite? v = some w ∧ d.rewrite? w = some w := by
  have hback := d.codec_lossless.stable v x h
  exact ⟨hback, d.codec.encode x, by rw [rewrite?, h, Option.map_some],
    by rw [rewrite?, hback, Option.map_some]⟩

/-- Credentials with a field too many and one too few. -/
theorem decode_encode_sample :
    let document : Json := .object [("key", .text "k"), ("note", .null), ("type", .text "apiKey")]
    let credentials : Auth := .apiKey "X-API-Key" "k"
    Auth.codec.decode? document = some credentials ∧
      Auth.codec.decode? (Auth.codec.encode credentials) = some credentials := by
  have h : Auth.codec.decode?
      (.object [("key", .text "k"), ("note", .null), ("type", .text "apiKey")]) =
        some (.apiKey "X-API-Key" "k") := by decide
  exact ⟨h, (decode_encode .auth _ _ h).1⟩

end DocumentType

end PingPost
