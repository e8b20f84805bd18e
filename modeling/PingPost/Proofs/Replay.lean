import PingPost.Proofs.Authentication
import PingPost.Proofs.Numerals
import PingPost.Proofs.Timestamps

/-!
Webhooks that arrive again.

The signature of a webhook covers its body and nothing else, so the time in the other header is the
one part that anybody can make up. A webhook that was accepted once is turned away with the same
time when twice the greatest age has gone by; with another time it is accepted whenever that one is
near enough (`Verifier.verify_again`).
-/

namespace PingPost

namespace Text

/-! ### The text of a second -/

theorem natBelow?_digits {bound : Nat} {ds : List Char} (hne : ds ≠ [])
    (hdigit : ∀ c ∈ ds, c.isDigit = true) (hlt : digitsValue ds < bound) :
    natBelow? bound ds = some (digitsValue ds) :=
  natBelow?_eq_some_iff.mpr ⟨ds, .inl rfl, hne, hdigit, rfl, hlt⟩

theorem toList_toString_int (n : Int) :
    (toString n).toList = (if n < 0 then ['-'] else []) ++ Nat.toDigits 10 n.natAbs := by
  cases n with
  | ofNat n =>
    rw [if_neg (by simp)]
    exact Nat.toList_repr
  | negSucc n =>
    have htext : toString (Int.negSucc n) = "-" ++ toString (n + 1) := rfl
    rw [if_pos (Int.negSucc_lt_zero n), htext, String.toList_append]
    exact congrArg _ Nat.toList_repr

/-- An integer that a signed 64-bit word can hold is read back from its text. -/
theorem signedWord?_toString {n : Int} (hlow : -Nat.pow 2 63 ≤ n) (hhigh : n < Nat.pow 2 63) :
    signedWord? (toString n).toList = some n := by
  have hdigit : ∀ c ∈ Nat.toDigits 10 n.natAbs, c.isDigit = true := fun c hc =>
    Nat.isDigit_of_mem_toDigits (by decide) (by decide) hc
  have hvalue : digitsValue (Nat.toDigits 10 n.natAbs) = n.natAbs := Nat.ofDigitChars_ten_toDigits
  rw [toList_toString_int]
  by_cases hneg : n < 0
  · have hn : -(n.natAbs : Int) = n := by omega
    rw [if_pos hneg, List.singleton_append, signedWord?,
      if_pos ⟨Nat.toDigits_ne_nil, List.all_eq_true.mpr hdigit⟩, hvalue, hn]
    exact Option.filter_eq_some_iff.mpr ⟨rfl, by simpa using hlow⟩
  · have hn : (n.natAbs : Int) = n := by omega
    rw [if_neg hneg, List.nil_append]
    unfold signedWord?
    split
    · rename_i rest hminus
      cases hdigit '-' (hminus ▸ List.mem_cons_self)
    · rw [natBelow?_digits Nat.toDigits_ne_nil hdigit (by omega), hvalue, Option.map_some]
      exact congrArg some hn

theorem trimChars_toString_int (n : Int) : trimChars (toString n).toList = (toString n).toList := by
  apply trimChars_eq_self
  intro c hc
  rw [toList_toString_int] at hc
  rcases List.mem_append.mp hc with hc | hc
  · split at hc
    · cases List.mem_singleton.mp hc
      decide
    · cases hc
  · exact TimeText.not_isBlank_of_isDigit
      (Nat.isDigit_of_mem_toDigits (by decide) (by decide) hc)

end Text

namespace Webhook

/-- A webhook is fresh if it is near enough and the distance can be computed. -/
theorem isFresh_eq_true_iff {maxAge : Nat} {now sentAt : Int} :
    isFresh maxAge now sentAt = true ↔ |now - sentAt| ≤ maxAge ∧
      -Nat.pow 2 63 ≤ now - sentAt ∧ now - sentAt < Nat.pow 2 63 := by
  rw [isFresh, age?, Int.abs_eq_natAbs]
  split
  · rename_i hfits
    simp only [Option.any_some, decide_eq_true_eq, Int.ofNat_le, hfits, and_self, and_true]
  · rename_i hfits
    simp only [Option.any_none, Bool.false_eq_true, hfits, and_false]

end Webhook

namespace Verifier

open Webhook

/-- Whether a header names a second that is near enough to now, and the distance of the two fits a
signed 64-bit word. -/
def Timely (v : Verifier) (timestamp : Option String) (now : Int) : Prop :=
  ∃ text ∈ timestamp, ∃ sentAt ∈ Text.signedWord? (Text.trimChars text.toList),
    |now - sentAt| ≤ v.maxAgeSecs ∧ -Nat.pow 2 63 ≤ now - sentAt ∧ now - sentAt < Nat.pow 2 63

variable {v : Verifier} {buyerId : String} {signature timestamp : Option String}
  {body : List UInt8} {now : Int}

theorem authentic_iff : v.Authentic buyerId signature body ↔
    ∃ secret, v.secrets.get? buyerId = some secret ∧ ∃ cs, signatureText? signature = some cs ∧
      signedCode? cs = some (code secret body) := by
  constructor
  · rintro ⟨secret, hsecret, header, hheader, hcarries⟩
    refine ⟨secret, hsecret, Text.trimChars header.toList, ?_, signedCode?_eq_some_iff.mpr hcarries⟩
    cases hcs : signatureText? signature with
    | none =>
      have hblank := signatureText?_eq_none_iff.mp hcs header hheader
      cases hcarries.not_isBlankText.symm.trans hblank
    | some cs =>
      obtain ⟨header', hheader', rfl⟩ := signatureText?_eq_some hcs
      cases hheader.symm.trans hheader'
      rfl
  · rintro ⟨secret, hsecret, cs, hcs, hcode⟩
    obtain ⟨header, hheader, rfl⟩ := signatureText?_eq_some hcs
    exact ⟨secret, hsecret, header, hheader, signedCode?_eq_some_iff.mp hcode⟩

theorem timely_iff : v.Timely timestamp now ↔
    ∃ sentAt, sentAt? timestamp = some sentAt ∧ isFresh v.maxAgeSecs now sentAt = true := by
  simp only [isFresh_eq_true_iff, sentAt?_eq_some_iff]
  constructor
  · rintro ⟨text, htext, sentAt, hread, hnear⟩
    exact ⟨sentAt, ⟨text, htext, hread⟩, hnear⟩
  · rintro ⟨sentAt, ⟨text, htext, hread⟩, hnear⟩
    exact ⟨text, htext, sentAt, hread, hnear⟩

/-- The two headers are judged apart from each other, whatever the greatest age. -/
theorem verify_eq_ok_iff : v.verify buyerId signature timestamp body now = .ok () ↔
    v.Authentic buyerId signature body ∧ v.Timely timestamp now := by
  rw [authentic_iff, timely_iff]
  unfold verify
  cases v.secrets.get? buyerId with
  | none => simp
  | some secret =>
    cases signatureText? signature with
    | none => simp
    | some cs =>
      cases sentAt? timestamp with
      | none => simp
      | some sentAt =>
        by_cases hfresh : isFresh v.maxAgeSecs now sentAt = true <;>
          by_cases hcode : signedCode? cs = some (code secret body) <;> simp [hfresh, hcode]

/-- What is authentic and names a second is turned away for its age alone. -/
theorem verify_eq_expired (hauthentic : v.Authentic buyerId signature body) {sentAt : Int}
    (hsentAt : sentAt? timestamp = some sentAt) (hstale : isFresh v.maxAgeSecs now sentAt = false) :
    v.verify buyerId signature timestamp body now = .error (.expired v.maxAgeSecs) := by
  obtain ⟨secret, hsecret, cs, hcs, -⟩ := authentic_iff.mp hauthentic
  simp [verify, hsecret, hcs, hsentAt, hstale]

theorem timely_now (v : Verifier) (hlow : -Nat.pow 2 63 ≤ now) (hhigh : now < Nat.pow 2 63) :
    v.Timely (some (toString now)) now := by
  refine ⟨_, rfl, now, ?_, ?_⟩
  · rw [Text.trimChars_toString_int]
    exact Text.signedWord?_toString hlow hhigh
  · rw [Int.sub_self]
    exact ⟨by simp, by decide, by decide⟩

/-- **A webhook that was accepted can be used again, but only with another time.** With its own time
it is turned away when twice the greatest age has gone by. With any other time it is accepted just
when that is near enough to the second in which it arrives, and that second itself always is. -/
theorem verify_again (v : Verifier) (buyerId : String) (signature timestamp : Option String)
    (body : List UInt8) (now : Int)
    (haccepted : v.verify buyerId signature timestamp body now = .ok ()) (later : Int) :
    (now + 2 * v.maxAgeSecs < later →
      v.verify buyerId signature timestamp body later = .error (.expired v.maxAgeSecs)) ∧
    (∀ timestamp', v.verify buyerId signature timestamp' body later = .ok () ↔
      v.Timely timestamp' later) ∧
    (-Nat.pow 2 63 ≤ later → later < Nat.pow 2 63 →
      v.verify buyerId signature (some (toString later)) body later = .ok ()) := by
  obtain ⟨hauthentic, htimely⟩ := verify_eq_ok_iff.mp haccepted
  refine ⟨?_, ?_, ?_⟩
  · intro hlate
    obtain ⟨sentAt, hsentAt, hfresh⟩ := timely_iff.mp htimely
    refine verify_eq_expired hauthentic hsentAt (Bool.eq_false_iff.mpr fun hfresh' => ?_)
    -- Both seconds of arrival would be within the greatest age of the same second.
    have hthen := (isFresh_eq_true_iff.mp hfresh).1
    have hlater := (isFresh_eq_true_iff.mp hfresh').1
    rw [Int.abs_eq_natAbs] at hthen hlater
    omega
  · intro timestamp'
    exact verify_eq_ok_iff.trans (and_iff_right hauthentic)
  · intro hlow hhigh
    exact verify_eq_ok_iff.mpr ⟨hauthentic, v.timely_now hlow hhigh⟩

end Verifier

namespace Sample

open Webhook

/-- The signature of the body, as its buyer sends it. -/
def signature : Option String := some (sign "secret" body)

theorem signature_authentic : verifier.Authentic "alpha" signature body := by
  have hcarries : Carries "secret" body ("" ++ String.ofList (sign "secret" body).toList) :=
    (digits_sign "secret" body).carries (.inl rfl)
  rw [String.ofList_toList, String.empty_append] at hcarries
  exact ⟨"secret", rfl, _, rfl, hcarries⟩

end Sample

open Sample in
/-- Sent at second 100 and accepted at 400, the webhook is too old at 2000, and accepted there with
the time of 2000 in place of its own. -/
theorem Verifier.verify_again_sample :
    verifier.verify "alpha" signature (some "100") body 400 = .ok () ∧
      400 + 2 * verifier.maxAgeSecs < 2000 ∧
      verifier.verify "alpha" signature (some "100") body 2000 = .error (.expired 300) ∧
      verifier.verify "alpha" signature (some "2000") body 2000 = .ok () := by
  have haccepted : verifier.verify "alpha" signature (some "100") body 400 = .ok () :=
    verify_eq_ok_iff.mpr ⟨signature_authentic, "100", rfl, 100, by decide, by decide⟩
  obtain ⟨hold, -, hnew⟩ := verify_again verifier "alpha" signature (some "100") body 400 haccepted
    2000
  exact ⟨haccepted, by decide, hold (by decide), hnew (by decide) (by decide)⟩

open Sample in
/-- The greatest age does not keep a webhook from being used again: what was accepted at second 400
is accepted at 2000, with the time of then. -/
theorem Verifier.accepted_after_maxAge :
    verifier.verify "alpha" signature (some "400") body 400 = .ok () ∧
      400 + 2 * verifier.maxAgeSecs < 2000 ∧
      ∃ timestamp, verifier.verify "alpha" signature timestamp body 2000 = .ok () := by
  have hnow (now : Int) (hlow : -Nat.pow 2 63 ≤ now) (hhigh : now < Nat.pow 2 63) :
      verifier.verify "alpha" signature (some (toString now)) body now = .ok () :=
    verify_eq_ok_iff.mpr ⟨signature_authentic, verifier.timely_now hlow hhigh⟩
  exact ⟨hnow 400 (by decide) (by decide), by decide, _,
    hnow 2000 (by decide) (by decide)⟩

end PingPost
