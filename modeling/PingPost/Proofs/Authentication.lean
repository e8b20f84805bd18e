import Mathlib.Algebra.Order.Group.Unbundled.Int
import PingPost.Proofs.Pieces
import PingPost.Webhook.Signature

/-!
Which webhooks are accepted.

A webhook is accepted just when it is authentic and fresh (`Verifier.Authentic`, `Verifier.Fresh`):
its header carries the digits of the code of the body under the buyer's secret, and the second in
which it says it was sent is near enough. Any other webhook is turned away for the first of its
faults (`Verifier.IsFirstFault`) in the order in which they are looked for.
-/

namespace PingPost

namespace Text

/-! ### Hexadecimal digits -/

theorem forall_ascii {P : Char → Prop} (h : ∀ k < 128, P (Char.ofNat k)) {c : Char}
    (hc : c.toNat < 128) : P c := by
  have hchar := h c.toNat hc
  rwa [Char.ofNat_toNat] at hchar

theorem toNat_lt_of_hexValue? {c : Char} {n : Nat} (h : hexValue? c = some n) : c.toNat < 128 := by
  have hbelow {d : Char} (hd : d.toNat < 128) (hle : c ≤ d) : c.toNat < 128 :=
    Nat.lt_of_le_of_lt hle hd
  unfold hexValue? at h
  split at h
  · rename_i hdigit
    simp only [Char.isDigit, Bool.and_eq_true, decide_eq_true_eq] at hdigit
    exact hbelow (d := '9') (by decide) hdigit.2
  split at h
  · exact hbelow (d := 'f') (by decide) (And.right ‹_›)
  split at h
  · exact hbelow (d := 'F') (by decide) (And.right ‹_›)
  · cases h

theorem toNat_lt_of_asciiLower {c : Char} {n : Nat} (hn : n < 16)
    (h : asciiLower c = Nat.digitChar n) : c.toNat < 128 := by
  have hdigit : ∀ n < 16, (Nat.digitChar n).toNat < 128 := by decide
  unfold asciiLower at h
  split at h
  · exact Nat.lt_of_le_of_lt (And.right ‹_› : c ≤ 'Z') (by decide)
  · exact h ▸ hdigit n hn

/-- A hexadecimal digit is one of the sixteen, of either case. -/
theorem hexValue?_eq_some_iff {c : Char} {n : Nat} :
    hexValue? c = some n ↔ n < 16 ∧ asciiLower c = Nat.digitChar n := by
  have hascii : c.toNat < 128 → (hexValue? c).all (· < 16) = true ∧
      ∀ n < 16, hexValue? c = some n ↔ asciiLower c = Nat.digitChar n :=
    forall_ascii (P := fun c => (hexValue? c).all (· < 16) = true ∧
      ∀ n < 16, hexValue? c = some n ↔ asciiLower c = Nat.digitChar n) (by decide)
  constructor
  · intro h
    obtain ⟨hsmall, hdigit⟩ := hascii (toNat_lt_of_hexValue? h)
    rw [h, Option.all_some, decide_eq_true_eq] at hsmall
    exact ⟨hsmall, (hdigit n hsmall).mp h⟩
  · rintro ⟨hn, h⟩
    exact ((hascii (toNat_lt_of_asciiLower hn h)).2 n hn).mpr h

theorem not_isBlank_of_hexValue? {c : Char} {n : Nat} (h : hexValue? c = some n) :
    isBlank c = false :=
  forall_ascii (P := fun c => (hexValue? c).isSome = true → isBlank c = false) (by decide)
    (toNat_lt_of_hexValue? h) (by rw [h]; rfl)

/-- A text is read as some bytes just when it is their text in some case. -/
theorem ofHexChars?_eq_some_iff {cs : List Char} {bytes : List UInt8} :
    ofHexChars? cs = some bytes ↔ cs.map asciiLower = (toHex bytes).toList := by
  rw [toHex, String.toList_ofList]
  fun_induction ofHexChars? cs generalizing bytes with
  | case1 => cases bytes <;> simp
  | case2 c => cases bytes <;> simp
  | case3 a b rest ih =>
    cases bytes with
    | nil => simp [Option.bind_eq_some_iff]
    | cons byte bytes =>
      have hbyte : byte.toNat < 256 := byte.toNat_lt_size
      simp only [Option.bind_eq_bind, Option.bind_eq_some_iff, Option.pure_def, Option.some.injEq,
        List.cons.injEq, List.map_cons, List.flatMap_cons, List.cons_append, List.nil_append]
      constructor
      · rintro ⟨high, hhigh, low, hlow, bytes', hbytes, rfl, rfl⟩
        obtain ⟨hhigh16, hhigh⟩ := hexValue?_eq_some_iff.mp hhigh
        obtain ⟨hlow16, hlow⟩ := hexValue?_eq_some_iff.mp hlow
        have hvalue : (UInt8.ofNat (16 * high + low)).toNat = 16 * high + low :=
          UInt8.toNat_ofNat_of_lt' (by simp only [UInt8.size]; omega)
        rw [hvalue, show (16 * high + low) / 16 = high by omega,
          show (16 * high + low) % 16 = low by omega]
        exact ⟨hhigh, hlow, ih.mp hbytes⟩
      · rintro ⟨hhigh, hlow, hbytes⟩
        refine ⟨_, hexValue?_eq_some_iff.mpr ⟨by omega, hhigh⟩, _,
          hexValue?_eq_some_iff.mpr ⟨by omega, hlow⟩, bytes, ih.mpr hbytes, ?_, rfl⟩
        rw [show 16 * (byte.toNat / 16) + byte.toNat % 16 = byte.toNat by omega,
          UInt8.ofNat_toNat]

theorem not_isBlank_of_ofHexChars? {cs : List Char} {bytes : List UInt8}
    (h : ofHexChars? cs = some bytes) : ∀ c ∈ cs, isBlank c = false := by
  fun_induction ofHexChars? cs generalizing bytes with
  | case1 => simp
  | case2 => cases h
  | case3 a b rest ih =>
    simp only [Option.bind_eq_bind, Option.bind_eq_some_iff] at h
    obtain ⟨high, hhigh, low, hlow, bytes', hbytes, -⟩ := h
    rw [List.forall_mem_cons, List.forall_mem_cons]
    exact ⟨not_isBlank_of_hexValue? hhigh, not_isBlank_of_hexValue? hlow, ih hbytes⟩

end Text

/-! ### The code of a body -/

namespace Sha256

@[simp] theorem length_bigEndian (width n : Nat) : (bigEndian width n).length = width := by
  induction width with
  | zero => rfl
  | succ width ih => rw [bigEndian, List.length_cons, ih]

theorem length_hash (message : List UInt8) : (hash message).length = 32 := by
  simp [hash, State.bytes]

end Sha256

namespace Webhook

variable {secret : String} {body : List UInt8} {cs digits : List Char}

theorem code_ne_nil (secret : String) (body : List UInt8) : code secret body ≠ [] :=
  List.ne_nil_of_length_pos (by rw [code, Hmac.code, Sha256.length_hash]; decide)

/-- Whether some digits are those of the signature of a body, in either case. -/
def Digits (secret : String) (body : List UInt8) (digits : List Char) : Prop :=
  digits.map Text.asciiLower = (sign secret body).toList

/-- Whether a header carries the signature of a body, with or without the scheme in front, and
perhaps between blanks. -/
def Carries (secret : String) (body : List UInt8) (header : String) : Prop :=
  ∃ digits, Digits secret body digits ∧
    (Text.trimChars header.toList = digits ∨
      Text.trimChars header.toList = scheme.toList ++ digits)

theorem digits_iff :
    Digits secret body digits ↔ Text.ofHexChars? digits = some (code secret body) :=
  Text.ofHexChars?_eq_some_iff.symm

/-- The signature itself is in lower case. -/
theorem digits_sign (secret : String) (body : List UInt8) :
    Digits secret body (sign secret body).toList := by
  have hlower : ∀ n < 16, Text.asciiLower (Nat.digitChar n) = Nat.digitChar n := by decide
  have hpair (b : UInt8) : b.toNat / 16 < 16 ∧ b.toNat % 16 < 16 := by
    have := b.toNat_lt_size
    simp only [UInt8.size] at this
    omega
  rw [Digits, sign, Text.toHex, String.toList_ofList, List.map_flatMap]
  congr 1
  funext b
  rw [List.map_cons, List.map_singleton, hlower _ (hpair b).1, hlower _ (hpair b).2]

theorem Digits.ne_nil (h : Digits secret body digits) : digits ≠ [] := by
  rintro rfl
  exact code_ne_nil secret body (Option.some.inj (digits_iff.mp h)).symm

/-- The scheme is no beginning of any digits. -/
theorem Digits.not_scheme (h : Digits secret body digits) : ¬scheme.toList <+: digits := by
  rintro ⟨rest, rfl⟩
  have hnone : Text.ofHexChars? (scheme.toList ++ rest) = none := rfl
  rw [digits_iff, hnone] at h
  cases h

theorem dropScheme_append (cs : List Char) : dropScheme (scheme.toList ++ cs) = cs := by
  rw [dropScheme, if_pos (List.isPrefixOf_iff_prefix.mpr (List.prefix_append _ _))]
  exact List.drop_left

/-- What a header stands for is the code of the body just when it carries the signature. -/
theorem signedCode?_eq_some_iff : signedCode? cs = some (code secret body) ↔
    ∃ digits, Digits secret body digits ∧ (cs = digits ∨ cs = scheme.toList ++ digits) := by
  rw [signedCode?]
  constructor
  · intro h
    refine ⟨dropScheme cs, digits_iff.mpr h, ?_⟩
    unfold dropScheme
    split
    · obtain ⟨rest, rfl⟩ := List.isPrefixOf_iff_prefix.mp ‹_›
      exact .inr (congrArg _ List.drop_left.symm)
    · exact .inl rfl
  · rintro ⟨digits, hdigits, rfl | rfl⟩
    · rw [dropScheme,
        if_neg fun hfront => hdigits.not_scheme (List.isPrefixOf_iff_prefix.mp hfront)]
      exact digits_iff.mp hdigits
    · rw [dropScheme_append]
      exact digits_iff.mp hdigits

theorem Carries.not_isBlankText {header : String} (h : Carries secret body header) :
    Text.isBlankText header = false := by
  obtain ⟨digits, hdigits, heq⟩ := h
  rw [Text.isBlankText, ← Bool.not_eq_true, ← Text.trimChars_eq_nil_iff]
  rcases heq with heq | heq
  · exact heq ▸ hdigits.ne_nil
  · rw [heq]
    exact List.append_ne_nil_of_left_ne_nil (by decide) _

/-- Digits are no blanks, so they may stand in a header as they are. -/
theorem Digits.carries (h : Digits secret body digits) {front : String}
    (hfront : front = "" ∨ front = scheme) :
    Carries secret body (front ++ String.ofList digits) := by
  have hdigits := Text.not_isBlank_of_ofHexChars? (digits_iff.mp h)
  have hscheme : ∀ c ∈ scheme.toList, Text.isBlank c = false := by
    have hall : (scheme.toList.all fun c => Text.isBlank c == false) = true := by decide
    simpa only [List.all_eq_true, beq_iff_eq] using hall
  refine ⟨digits, h, ?_⟩
  rw [String.toList_append, String.toList_ofList]
  rcases hfront with rfl | rfl
  · exact .inl (Text.trimChars_eq_self hdigits)
  · exact .inr (Text.trimChars_eq_self (List.forall_mem_append.mpr ⟨hscheme, hdigits⟩))

theorem signatureText?_eq_none_iff {header : Option String} :
    signatureText? header = none ↔ ∀ s ∈ header, Text.isBlankText s = true := by
  cases header <;> simp [signatureText?, Text.isBlankText, Text.trimChars_eq_nil_iff]

theorem signatureText?_eq_some {header : Option String} (h : signatureText? header = some cs) :
    ∃ s ∈ header, Text.trimChars s.toList = cs := by
  rw [signatureText?, Option.filter_eq_some_iff, Option.map_eq_some_iff] at h
  exact h.1

/-! ### The time of a webhook -/

theorem sentAt?_eq_none_iff {header : Option String} :
    sentAt? header = none ↔ ∀ s ∈ header, Text.signedWord? (Text.trimChars s.toList) = none :=
  Option.bind_eq_none_iff

theorem sentAt?_eq_some_iff {header : Option String} {sentAt : Int} :
    sentAt? header = some sentAt ↔
      ∃ s ∈ header, Text.signedWord? (Text.trimChars s.toList) = some sentAt :=
  Option.bind_eq_some_iff

/-- Up to the greatest age that a signed 64-bit word can hold, ages are compared exactly. -/
theorem isFresh_iff {maxAge : Nat} (hmax : maxAge < Nat.pow 2 63) {now sentAt : Int} :
    isFresh maxAge now sentAt = true ↔ |now - sentAt| ≤ maxAge := by
  have hpow : Nat.pow 2 63 = 9223372036854775808 := rfl
  rw [hpow] at hmax
  rw [isFresh, age?, hpow, Int.abs_eq_natAbs]
  split
  · simp only [Option.any_some, decide_eq_true_eq]
    omega
  · simp only [Option.any_none, Bool.false_eq_true, false_iff]
    omega

end Webhook

/-! ### Verification -/

namespace Verifier

open Webhook

/-- Whether a webhook carries the signature of its buyer. -/
def Authentic (v : Verifier) (buyerId : String) (signature : Option String)
    (body : List UInt8) : Prop :=
  ∃ secret ∈ v.secrets.get? buyerId, ∃ header ∈ signature, Carries secret body header

/-- Whether a webhook says when it was sent, and that was not too long before or after now. -/
def Fresh (v : Verifier) (timestamp : Option String) (now : Int) : Prop :=
  ∃ text ∈ timestamp, ∃ sentAt ∈ Text.signedWord? (Text.trimChars text.toList),
    |now - sentAt| ≤ v.maxAgeSecs

/-- Whether a webhook has a fault. -/
def HasFault (v : Verifier) (buyerId : String) (signature timestamp : Option String)
    (body : List UInt8) (now : Int) : WebhookError → Prop
  | .unknownBuyer id => id = buyerId ∧ v.secrets.get? buyerId = none
  | .missingSignature => ∀ header ∈ signature, Text.isBlankText header = true
  | .missingTimestamp =>
    ∀ text ∈ timestamp, Text.signedWord? (Text.trimChars text.toList) = none
  | .expired maxAgeSecs => maxAgeSecs = v.maxAgeSecs ∧ ¬v.Fresh timestamp now
  | .invalidSignature => ¬v.Authentic buyerId signature body

/-- The faults in the order in which they are looked for. -/
def faults (v : Verifier) (buyerId : String) : List WebhookError :=
  [.unknownBuyer buyerId, .missingSignature, .missingTimestamp, .expired v.maxAgeSecs,
    .invalidSignature]

/-- Whether a fault is the first one of a webhook. -/
def IsFirstFault (v : Verifier) (buyerId : String) (signature timestamp : Option String)
    (body : List UInt8) (now : Int) (e : WebhookError) : Prop :=
  ∃ before after, v.faults buyerId = before ++ e :: after ∧
    v.HasFault buyerId signature timestamp body now e ∧
    ∀ e' ∈ before, ¬v.HasFault buyerId signature timestamp body now e'

variable {v : Verifier} {buyerId : String} {signature timestamp : Option String}
  {body : List UInt8} {now : Int} {e e' : WebhookError}

/-- There is one first fault at most. -/
theorem IsFirstFault.unique (h : v.IsFirstFault buyerId signature timestamp body now e)
    (h' : v.IsFirstFault buyerId signature timestamp body now e') : e = e' := by
  obtain ⟨before, after, heq, hfault, hnone⟩ := h
  obtain ⟨before', after', heq', hfault', hnone'⟩ := h'
  rw [heq] at heq'
  rcases List.append_eq_append_iff.mp heq' with ⟨as, rfl, has⟩ | ⟨as, rfl, has⟩
  · cases as with
    | nil => exact (List.cons.inj has).1
    | cons a as =>
      obtain ⟨rfl, -⟩ := List.cons.inj has
      exact (hnone' e (by simp) hfault).elim
  · cases as with
    | nil => exact (List.cons.inj has).1.symm
    | cons a as =>
      obtain ⟨rfl, -⟩ := List.cons.inj has
      exact (hnone e' (by simp) hfault').elim

/-- For what a webhook is accepted or turned away. -/
theorem verify_cases (hmax : v.maxAgeSecs < Nat.pow 2 63) :
    (v.verify buyerId signature timestamp body now = .ok () ∧
        v.Authentic buyerId signature body ∧ v.Fresh timestamp now) ∨
      ∃ e, v.verify buyerId signature timestamp body now = .error e ∧
        v.IsFirstFault buyerId signature timestamp body now e := by
  unfold verify
  split
  · rename_i hsecret
    exact .inr ⟨_, rfl, [], _, rfl, ⟨rfl, hsecret⟩, by simp⟩
  rename_i secret hsecret
  have hunknown : ¬v.HasFault buyerId signature timestamp body now (.unknownBuyer buyerId) := by
    simp [HasFault, hsecret]
  split
  · rename_i hnone
    exact .inr ⟨_, rfl, [_], _, rfl, signatureText?_eq_none_iff.mp hnone, by simpa using hunknown⟩
  rename_i cs hcs
  have hsignature : ¬v.HasFault buyerId signature timestamp body now .missingSignature :=
    fun h => by simp [signatureText?_eq_none_iff.mpr h] at hcs
  split
  · rename_i hnone
    exact .inr ⟨_, rfl, [_, _], _, rfl, sentAt?_eq_none_iff.mp hnone, by simp [*]⟩
  rename_i sentAt hsentAt
  have htimestamp : ¬v.HasFault buyerId signature timestamp body now .missingTimestamp :=
    fun h => by simp [sentAt?_eq_none_iff.mpr h] at hsentAt
  split
  · rename_i hstale
    refine .inr ⟨_, rfl, [_, _, _], _, rfl, ⟨rfl, ?_⟩, by simp [*]⟩
    rintro ⟨text, htext, sentAt', hread, hage⟩
    cases hsentAt.symm.trans (sentAt?_eq_some_iff.mpr ⟨text, htext, hread⟩)
    simp [(isFresh_iff hmax).mpr hage] at hstale
  rename_i hfresh
  have hage : |now - sentAt| ≤ v.maxAgeSecs := (isFresh_iff hmax).mp (by simpa using hfresh)
  obtain ⟨text, htext, hread⟩ := sentAt?_eq_some_iff.mp hsentAt
  have hexpired : ¬v.HasFault buyerId signature timestamp body now (.expired v.maxAgeSecs) :=
    fun h => h.2 ⟨text, htext, sentAt, hread, hage⟩
  obtain ⟨header, hheader, rfl⟩ := signatureText?_eq_some hcs
  split
  · rename_i hcode
    exact .inl ⟨rfl, ⟨secret, hsecret, header, hheader, signedCode?_eq_some_iff.mp hcode⟩,
      text, htext, sentAt, hread, hage⟩
  · rename_i hcode
    refine .inr ⟨_, rfl, [_, _, _, _], _, rfl, ?_, by simp [*]⟩
    rintro ⟨secret', hsecret', header', hheader', hcarries⟩
    cases hsecret.symm.trans hsecret'
    cases hheader.symm.trans hheader'
    exact hcode (signedCode?_eq_some_iff.mpr hcarries)

/-- What is authentic and fresh has no fault. -/
theorem not_hasFault (hauthentic : v.Authentic buyerId signature body)
    (hfresh : v.Fresh timestamp now) (he : e ∈ v.faults buyerId) :
    ¬v.HasFault buyerId signature timestamp body now e := by
  obtain ⟨secret, hsecret, header, hheader, hcarries⟩ := hauthentic
  obtain ⟨text, htext, sentAt, hread, hage⟩ := hfresh
  simp only [faults, List.mem_cons, List.not_mem_nil, or_false] at he
  rcases he with rfl | rfl | rfl | rfl | rfl
  · rintro ⟨-, hnone⟩
    cases hsecret.symm.trans hnone
  · intro hblank
    cases hcarries.not_isBlankText.symm.trans (hblank header hheader)
  · intro hnone
    cases hread.symm.trans (hnone text htext)
  · exact fun h => h.2 ⟨text, htext, sentAt, hread, hage⟩
  · exact fun h => h ⟨secret, hsecret, header, hheader, hcarries⟩

theorem not_isFirstFault (hauthentic : v.Authentic buyerId signature body)
    (hfresh : v.Fresh timestamp now) (e : WebhookError) :
    ¬v.IsFirstFault buyerId signature timestamp body now e := by
  rintro ⟨before, after, hfaults, hfault, -⟩
  exact not_hasFault hauthentic hfresh (by simp [hfaults]) hfault

/-- **A webhook is accepted just when it is authentic and fresh**, and is turned away for the first
of its faults else. The digits of the signature of a body may stand in the header in either case,
with or without the scheme in front. -/
theorem verify_spec (v : Verifier) (hmax : v.maxAgeSecs < Nat.pow 2 63) (buyerId : String)
    (signature timestamp : Option String) (body : List UInt8) (now : Int) :
    (v.verify buyerId signature timestamp body now = .ok () ↔
      v.Authentic buyerId signature body ∧ v.Fresh timestamp now) ∧
    (∀ e, v.verify buyerId signature timestamp body now = .error e ↔
      v.IsFirstFault buyerId signature timestamp body now e) ∧
    ∀ secret ∈ v.secrets.get? buyerId, ∀ digits, Digits secret body digits →
      v.Fresh timestamp now → ∀ front, front = "" ∨ front = scheme →
        v.verify buyerId (some (front ++ String.ofList digits)) timestamp body now = .ok () := by
  have hok {signature : Option String} (hauthentic : v.Authentic buyerId signature body)
      (hfresh : v.Fresh timestamp now) :
      v.verify buyerId signature timestamp body now = .ok () := by
    rcases verify_cases hmax with ⟨hverify, -⟩ | ⟨e, -, hfirst⟩
    · exact hverify
    · exact (not_isFirstFault hauthentic hfresh e hfirst).elim
  have hcases := @verify_cases v buyerId signature timestamp body now hmax
  refine ⟨⟨fun hverify => ?_, fun h => hok h.1 h.2⟩, fun e => ⟨fun hverify => ?_, fun hfirst => ?_⟩,
    fun secret hsecret digits hdigits hfresh front hfront => ?_⟩
  · rcases hcases with ⟨-, h⟩ | ⟨e, herror, -⟩
    · exact h
    · cases hverify.symm.trans herror
  · rcases hcases with ⟨hok, -⟩ | ⟨e', herror, hfirst⟩
    · cases hverify.symm.trans hok
    · cases hverify.symm.trans herror
      exact hfirst
  · rcases hcases with ⟨-, hauthentic, hfresh⟩ | ⟨e', herror, hfirst'⟩
    · exact (not_isFirstFault hauthentic hfresh e hfirst).elim
    · exact hfirst.unique hfirst' ▸ herror
  · exact hok ⟨secret, hsecret, _, rfl, hdigits.carries hfront⟩ hfresh

end Verifier

namespace Sample

/-- A verifier for one buyer. -/
def verifier : Verifier := ⟨[("alpha", "secret")], 300⟩

/-- The body of a webhook. -/
def body : List UInt8 := Text.toBytes "\x7b\"status\": \"sold\"\x7d"

end Sample

open Sample Webhook in
/-- The signature of the body is accepted up to the greatest age, with the scheme in front; without
a signature and a time, the signature is what is missed. -/
theorem Verifier.verify_spec_sample :
    verifier.maxAgeSecs < Nat.pow 2 63 ∧
      verifier.verify "alpha" (some (scheme ++ sign "secret" body)) (some " +100 ") body 400 =
        .ok () ∧
      verifier.verify "alpha" (some " ") none body 400 = .error .missingSignature := by
  have hmax : verifier.maxAgeSecs < Nat.pow 2 63 := by decide
  obtain ⟨-, -, hsigned⟩ := verify_spec verifier hmax "alpha" none (some " +100 ") body 400
  obtain ⟨-, hfirst, -⟩ := verify_spec verifier hmax "alpha" (some " ") none body 400
  have hfresh : verifier.Fresh (some " +100 ") 400 :=
    ⟨" +100 ", rfl, 100, by decide, by decide⟩
  refine ⟨hmax, ?_, (hfirst _).mpr ⟨[_], _, rfl, ?_, ?_⟩⟩
  · have hok := hsigned "secret" rfl _ (digits_sign "secret" body) hfresh scheme (.inr rfl)
    rwa [String.ofList_toList] at hok
  · rintro _ ⟨⟩
    decide
  · simp [HasFault, verifier, Table.get?]

end PingPost
