import Mathlib.Data.List.TakeDrop
import Mathlib.Data.List.TakeWhile
import PingPost.Proofs.Constraints
import PingPost.Proofs.Sample
import PingPost.Transform.Catalogue
import PingPost.Validation.Form

/-!
Zip codes, checked and formatted.

The check of a zip code asks for decimal digits of any script (`ZipForm`), and leads and values pass
it alike. The transform that formats one takes its ASCII digits only. So the first five characters
of a checked zip code are what it is formatted as (`ZipFormatted`) just when they are ASCII digits.
-/

namespace PingPost

open Text

/-! ### Digits and blanks -/

theorem Text.filter_dropWhile_of_disjoint {p q : Char → Bool} (h : ∀ c, q c = true → p c = false)
    (cs : List Char) : (cs.dropWhile q).filter p = cs.filter p := by
  induction cs with
  | nil => rfl
  | cons c cs ih =>
    rw [List.dropWhile_cons]
    split
    · rename_i hq
      rw [ih, List.filter_cons_of_neg (by simp [h c hq])]
    · rfl

theorem Text.isDigit_of_isBlank {c : Char} (h : isBlank c = true) : c.isDigit = false := by
  simp only [isBlank, Bool.or_eq_true, Bool.and_eq_true, decide_eq_true_eq, beq_iff_eq] at h
  simp only [Char.isDigit, Bool.and_eq_false_iff, decide_eq_false_iff_not, ge_iff_le,
    UInt32.le_iff_toNat_le]
  simp only [Char.toNat] at h
  change ¬48 ≤ c.val.toNat ∨ ¬c.val.toNat ≤ 57
  omega

/-- Trimming a text does not touch its digits. -/
theorem Text.asciiDigits_trim (s : String) : asciiDigits (trim s) = asciiDigits s := by
  have hblank (cs : List Char) : (cs.dropWhile isBlank).filter Char.isDigit =
      cs.filter Char.isDigit :=
    filter_dropWhile_of_disjoint (fun _ => isDigit_of_isBlank) cs
  rw [asciiDigits, trim, String.toList_ofList, trimChars, List.filter_reverse, hblank,
    List.filter_reverse, List.reverse_reverse, hblank, asciiDigits]

/-! ### The form of a zip code -/

/-- The forms of a zip code: five decimal digits, or five and four with a hyphen between. -/
inductive ZipForm : List Char → Prop where
  | short {five : List Char} :
      five.length = 5 → (∀ c ∈ five, isDecimalDigit c = true) → ZipForm five
  | long {five four : List Char} :
      five.length = 5 → (∀ c ∈ five, isDecimalDigit c = true) →
      four.length = 4 → (∀ c ∈ four, isDecimalDigit c = true) → ZipForm (five ++ '-' :: four)

theorem span_isDecimalDigit {five rest : List Char} (h : ∀ c ∈ five, isDecimalDigit c = true)
    (hrest : ∀ c ∈ rest.head?, isDecimalDigit c = false) :
    (five ++ rest).span isDecimalDigit = (five, rest) := by
  have hnone : rest.takeWhile isDecimalDigit = [] ∧ rest.dropWhile isDecimalDigit = rest := by
    cases rest with
    | nil => exact ⟨rfl, rfl⟩
    | cons c rest => simp [hrest c rfl]
  rw [List.span_eq_takeWhile_dropWhile, List.takeWhile_append_of_pos h,
    List.dropWhile_append_of_pos h, hnone.1, hnone.2, List.append_nil]

theorem isZipCode_iff {s : String} : isZipCode s = true ↔ ZipForm s.toList := by
  constructor
  · intro h
    have hsplit := List.takeWhile_append_dropWhile (p := isDecimalDigit) (l := s.toList)
    have hdigits : ∀ c ∈ s.toList.takeWhile isDecimalDigit, isDecimalDigit c = true :=
      fun c hc => List.mem_takeWhile_imp hc
    rw [isZipCode, List.span_eq_takeWhile_dropWhile] at h
    rw [← hsplit]
    split at h
    · rename_i five heq
      obtain ⟨rfl, hnone⟩ := Prod.mk.inj heq
      rw [hnone, List.append_nil]
      exact .short (by simpa using h) hdigits
    · rename_i five c rest heq
      obtain ⟨rfl, hrest⟩ := Prod.mk.inj heq
      simp only [Bool.and_eq_true, beq_iff_eq, List.all_eq_true] at h
      obtain ⟨⟨⟨hfive, rfl⟩, hfour⟩, hrest'⟩ := h
      rw [hrest]
      exact .long hfive hdigits hfour hrest'
  · intro h
    have hhyphen : isDecimalDigit '-' = false := by decide
    rw [isZipCode]
    generalize s.toList = cs at h ⊢
    cases h with
    | short hfive hdigits =>
      have hspan : (cs ++ []).span isDecimalDigit = (cs, []) :=
        span_isDecimalDigit hdigits (by simp)
      rw [List.append_nil] at hspan
      rw [hspan]
      simpa using hfive
    | @long five four hfive hdigits hfour hdigits' =>
      rw [span_isDecimalDigit hdigits (by simp [hhyphen])]
      simpa [hfive, hfour] using hdigits'

theorem ZipForm.five_le_length {cs : List Char} (h : ZipForm cs) : 5 ≤ cs.length := by
  cases h with
  | short hfive => exact hfive.ge
  | long hfive => simp [hfive]

/-! ### The format of a zip code -/

theorem Catalogue.apply_of_get? {name : String} {f : Transform}
    (hget : Table.get? name standard = some f) {spec : TransformSpec} (h : spec.name = name)
    (v : Json) : standard.apply spec v = (f v spec.args).mapError (.ofFault name) := by
  rw [apply, h, hget]

theorem Catalogue.apply_zip5 {spec : TransformSpec} (h : spec.name = "address.zip5") (v : Json) :
    standard.apply spec v = (Transform.zip5 v spec.args).mapError (.ofFault "address.zip5") :=
  apply_of_get? ((Table.get?_ofList ..).trans rfl) h v

theorem Transform.zip5_eq_ok_iff {v : Json} {args : List Json} {w : Json} :
    zip5 v args = .ok w ↔ ((asciiDigits v.asText).take 5).length = 5 ∧
      w = .text (String.ofList ((asciiDigits v.asText).take 5)) := by
  unfold zip5
  dsimp only
  split
  · rename_i hlength
    rw [Except.ok.injEq, eq_comm]
    exact (and_iff_right hlength).symm
  · rename_i hlength
    refine ⟨fun h => ?_, fun h => absurd h.1 hlength⟩
    cases h

/-- Whether a zip code is formatted as the first five characters of the trimmed text, and these are
ASCII digits. -/
def ZipFormatted (v : Json) : Prop :=
  ∃ five : List Char, five.length = 5 ∧ (∀ c ∈ five, c.isDigit = true) ∧
    five <+: (trim v.asText).toList ∧
    ∀ spec : TransformSpec, spec.name = "address.zip5" →
      Catalogue.standard.apply spec v = .ok (.text (String.ofList five))

theorem ZipForm.formatted_iff {v : Json} (h : ZipForm (trim v.asText).toList) :
    ZipFormatted v ↔ ∀ c ∈ (trim v.asText).toList.take 5, c.isDigit = true := by
  have hlength : ((trim v.asText).toList.take 5).length = 5 :=
    List.length_take_of_le h.five_le_length
  constructor
  · rintro ⟨five, hfive, hdigits, hfront, -⟩
    rwa [← hfive, ← List.prefix_iff_eq_take.mp hfront]
  · intro hdigits
    -- The first five ASCII digits are the first five characters.
    have htake : (asciiDigits v.asText).take 5 = (trim v.asText).toList.take 5 := by
      rw [← asciiDigits_trim, asciiDigits]
      have hsplit := List.take_append_drop 5 (trim v.asText).toList
      have hfilter := congrArg (List.filter Char.isDigit) hsplit
      rw [List.filter_append, List.filter_eq_self.mpr hdigits] at hfilter
      rw [← hfilter]
      exact List.take_left' hlength
    refine ⟨_, hlength, hdigits, List.take_prefix 5 _, fun spec hspec => ?_⟩
    have hok : Transform.zip5 v spec.args =
        .ok (.text (String.ofList ((trim v.asText).toList.take 5))) :=
      Transform.zip5_eq_ok_iff.mpr ⟨by rw [htake, hlength], by rw [htake]⟩
    rw [Catalogue.apply_zip5 hspec, hok, Except.mapError]

/-! ### What was checked -/

theorem Lead.zipForm_of_check {lead : Lead} (h : lead.check = .ok ()) :
    ZipForm (trim lead.zipCode).toList := by
  unfold check at h
  split at h
  · cases h
  split at h
  · cases h
  split at h
  · cases h
  · rename_i hzip
    exact isZipCode_iff.mp (by simpa using hzip)

theorem Rule.holds_of_check {rule : Rule} {field : String} {v : Json} {kind : ValueKind}
    (hkind : rule.kind = some kind) (h : rule.check field v = .ok ()) : kind.holds v = true :=
  check_eq_ok_iff.mp h .kind kind hkind

/-- **A checked zip code is formatted just when its first five characters are ASCII digits**, be it
a lead's or a value under a rule. -/
theorem checked_zip_formatted_iff (lead : Lead) (rule : Rule) (field : String) (v : Json) :
    (lead.check = .ok () →
      (ZipFormatted (.text lead.zipCode) ↔
        ∀ c ∈ (trim lead.zipCode).toList.take 5, c.isDigit = true)) ∧
    (rule.kind = some .zipCode → rule.check field v = .ok () →
      (ZipFormatted v ↔ ∀ c ∈ (trim v.asText).toList.take 5, c.isDigit = true)) := by
  refine ⟨fun hcheck => ?_, fun hkind hcheck => ?_⟩
  · have htext : (Json.text lead.zipCode).asText = lead.zipCode := rfl
    rw [← htext]
    exact ZipForm.formatted_iff (htext.symm ▸ Lead.zipForm_of_check hcheck)
  · have hzip : ValueKind.zipCode.holds v = true := Rule.holds_of_check hkind hcheck
    exact ZipForm.formatted_iff (isZipCode_iff.mp hzip)

namespace Sample

/-- A rule for zip codes. -/
def zipRule : Rule := ⟨some .zipCode, none, none, none, none, none, none⟩

/-- A lead whose zip code is written in Arabic digits. -/
def foreignLead : Lead := { lead with zipCode := "١٢٣٤٥" }

end Sample

open Sample in
set_option maxRecDepth 10000 in
/-- A zip code of nine digits between blanks is formatted. -/
theorem checked_zip_formatted_sample :
    lead.check = .ok () ∧ ZipFormatted (.text lead.zipCode) ∧
      zipRule.check "zip" (.text " 94107-1234 ") = .ok () ∧
      ZipFormatted (.text " 94107-1234 ") := by
  have hlead : lead.check = .ok () := by decide
  have hvalue : zipRule.check "zip" (.text " 94107-1234 ") = .ok () := by decide
  obtain ⟨hofLead, hofValue⟩ := checked_zip_formatted_iff lead zipRule "zip" (.text " 94107-1234 ")
  refine ⟨hlead, (hofLead hlead).mpr ?_, hvalue, (hofValue rfl hvalue).mpr ?_⟩
  · exact List.all_eq_true.mp (by decide)
  · exact List.all_eq_true.mp (by decide)

open Sample in
set_option maxRecDepth 10000 in
/-- A zip code in other digits passes the check and cannot be formatted. -/
theorem checked_zip_refused :
    foreignLead.check = .ok () ∧
      Catalogue.standard.apply (.named "address.zip5") (.text foreignLead.zipCode) =
        .error (.invalid "address.zip5" "zip code needs 5 digits") := by
  have hfew : ((asciiDigits foreignLead.zipCode).take 5).length ≠ 5 := by decide
  refine ⟨by decide, ?_⟩
  rw [Catalogue.apply_zip5 rfl, Transform.zip5]
  exact congrArg (Except.mapError (TransformError.ofFault "address.zip5")) (if_neg hfew)

end PingPost
