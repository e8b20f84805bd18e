import PingPost.Proofs.LetterCase
import PingPost.Proofs.Quoting
import PingPost.Proofs.Verdicts

/-!
Normal forms of status words.

A normal form has no blank, no hyphen and no character that lower case would change
(`Vocabulary.IsNormal`), and such a text is its own normal form. The lists of words of a
vocabulary are only ever compared by normal forms, so vocabularies that spell their words
differently read all answers alike (`Vocabulary.Respelled`), and answers that spell their status
differently are read alike (`Vocabulary.normalForm_decides`).
-/

namespace PingPost.Vocabulary

open Text

/-! ### Normal forms -/

/-- Whether a character stands between the words of a status. -/
def isGap (c : Char) : Bool := isBlank c || c == '-'

/-- A text without gaps that lower case would not change. -/
def IsNormal (form : String) : Prop := ∀ c ∈ form.toList, isGap c = false ∧ IsLower c

theorem normalForm_eq (word : String) :
    normalForm word = "_".intercalate
      ((runsBetween isGap (lowerChars (trimChars word.toList))).map String.ofList) := rfl

theorem isNormal_normalForm (word : String) : IsNormal (normalForm word) := by
  intro c hc
  rw [normalForm_eq, String.toList_intercalate] at hc
  rcases mem_of_mem_intercalate hc with hc | ⟨run, hrun, hc⟩
  · rw [List.mem_singleton.mp hc]
    decide
  · obtain ⟨text, htext, rfl⟩ := List.mem_map.mp hrun
    obtain ⟨piece, hpiece, rfl⟩ := List.mem_map.mp htext
    rw [String.toList_ofList] at hc
    obtain ⟨hmem, hgap⟩ := plain_of_mem_splitOnP (List.mem_filter.mp hpiece).1 hc
    exact ⟨hgap, isLower_of_mem_lowerChars hmem⟩

theorem IsNormal.lower_eq {form : String} (h : IsNormal form) : lower form = form := by
  rw [lower, lowerChars_of_isLower fun c hc => (h c hc).2, String.ofList_toList]

/-- A text in normal form is its own normal form. -/
theorem IsNormal.normalForm_eq {form : String} (h : IsNormal form) : normalForm form = form := by
  have hblank : ∀ c ∈ form.toList, isBlank c = false := fun c hc =>
    (Bool.or_eq_false_iff.mp (h c hc).1).1
  have hone : form.toList.splitOnP isGap = [form.toList] :=
    List.splitOnP_eq_singleton fun c hc => (h c hc).1
  rw [Vocabulary.normalForm_eq, trimChars_eq_self hblank,
    lowerChars_of_isLower fun c hc => (h c hc).2, runsBetween, hone]
  by_cases hnil : form.toList = []
  · rw [String.toList_eq_nil_iff.mp hnil]
    rfl
  · rw [List.filter_cons_of_pos (by simpa using hnil), List.filter_nil, List.map_singleton,
      String.intercalate_singleton, String.ofList_toList]

theorem normalForm_padded {front back : String} (hfront : isBlankText front = true)
    (hback : isBlankText back = true) (word : String) :
    normalForm (front ++ word ++ back) = normalForm word := by
  rw [normalForm_eq, normalForm_eq, String.toList_append, String.toList_append,
    trimChars_padded (List.all_eq_true.mp hfront) (List.all_eq_true.mp hback)]

/-! ### Vocabularies -/

/-- A vocabulary without its words. -/
def wordless (w : Vocabulary) : Vocabulary :=
  { w with
    accepted := [], rejected := [], errors := [], delivered := [], failed := [], duplicate := []
    invalid := [] }

/-- Two vocabularies have the same words in the same order, up to their spelling, and nothing else
in which they differ. -/
structure Respelled (w w' : Vocabulary) : Prop where
  wordless : w.wordless = w'.wordless
  accepted : w.accepted.map normalForm = w'.accepted.map normalForm
  rejected : w.rejected.map normalForm = w'.rejected.map normalForm
  errors : w.errors.map normalForm = w'.errors.map normalForm
  delivered : w.delivered.map normalForm = w'.delivered.map normalForm
  failed : w.failed.map normalForm = w'.failed.map normalForm
  duplicate : w.duplicate.map normalForm = w'.duplicate.map normalForm
  invalid : w.invalid.map normalForm = w'.invalid.map normalForm

theorem hasWord_congr {words words' : List String}
    (h : words.map normalForm = words'.map normalForm) (form : String) :
    hasWord words form = hasWord words' form := by
  have hany (words : List String) :
      hasWord words form = (words.map normalForm).any (· == form) := by
    rw [List.any_map]
    rfl
  rw [hany, hany, h]

namespace Respelled

variable {w w' : Vocabulary}

theorem action (h : w.Respelled w') : w.action = w'.action := by
  change w.wordless.action = w'.wordless.action
  rw [h.wordless]

theorem pingStatusOfWord (h : w.Respelled w') (form : String) :
    w.pingStatusOfWord form = w'.pingStatusOfWord form := by
  unfold Vocabulary.pingStatusOfWord
  rw [hasWord_congr h.accepted, hasWord_congr h.rejected, hasWord_congr h.errors]

theorem postStatusOfWord (h : w.Respelled w') (form : String) :
    w.postStatusOfWord form = w'.postStatusOfWord form := by
  unfold Vocabulary.postStatusOfWord
  rw [hasWord_congr h.delivered, hasWord_congr h.failed, hasWord_congr h.duplicate,
    hasWord_congr h.invalid]

theorem readPing (h : w.Respelled w') (code : Nat) (text : String) :
    w.readPing code text = w'.readPing code text := by
  have haction : w.action = w'.action := h.action
  have hpath : w.pingStatusPath = w'.pingStatusPath := congrArg (·.pingStatusPath) h.wordless
  have hamounts : w.amountPaths = w'.amountPaths := congrArg (·.amountPaths) h.wordless
  have hreasons : w.reasonPaths = w'.reasonPaths := congrArg (·.reasonPaths) h.wordless
  have hindicators : w.indicators = w'.indicators := congrArg (·.indicators) h.wordless
  have hbody (body : Json) : w.pingStatusOfBody body = w'.pingStatusOfBody body := by
    unfold pingStatusOfBody
    rw [hpath, hindicators, hamounts]
    simp only [h.pingStatusOfWord]
  unfold Vocabulary.readPing
  rw [haction, hreasons, hamounts, hpath]
  simp only [hbody]

theorem readPost (h : w.Respelled w') (code : Nat) (text : String) :
    w.readPost code text = w'.readPost code text := by
  have haction : w.action = w'.action := h.action
  have hpath : w.postStatusPath = w'.postStatusPath := congrArg (·.postStatusPath) h.wordless
  have hids : w.leadIdPaths = w'.leadIdPaths := congrArg (·.leadIdPaths) h.wordless
  have hreasons : w.reasonPaths = w'.reasonPaths := congrArg (·.reasonPaths) h.wordless
  have hindicators : w.indicators = w'.indicators := congrArg (·.indicators) h.wordless
  have hbody (body : Json) : w.postStatusOfBody body = w'.postStatusOfBody body := by
    unfold postStatusOfBody
    rw [hpath, hindicators]
    simp only [h.postStatusOfWord]
  unfold Vocabulary.readPost
  rw [haction, hreasons, hids, hpath]
  simp only [hbody]

end Respelled

/-! ### Answers with nothing but a status -/

/-- The body that has a status and nothing else. -/
def statusBody (word : String) : Json := .object [("status", .text word)]

theorem readBody_statusBody (word : String) :
    readBody (statusBody word).render = statusBody word := by
  obtain ⟨cs, hcs⟩ : ∃ cs, (statusBody word).render.toList =
      Char.ofNat 0x7b :: (cs ++ [Char.ofNat 0x7d]) := by
    rw [statusBody, Json.toList_oneText]
    exact ⟨(Json.quote "status").toList ++ ':' :: (Json.quote word).toList, by simp⟩
  have htrim : trim (statusBody word).render = (statusBody word).render := by
    rw [trim, hcs, trimChars_between (by decide) (by decide), ← hcs, String.ofList_toList]
  have hread : Json.read? (statusBody word).render = some (statusBody word) :=
    Json.read?_oneText "status" word
  have hne : (statusBody word).render ≠ "" := fun hempty => by
    rw [hempty] at hcs
    cases hcs
  simp [readBody, htrim, hread, hne]

section

variable {w : Vocabulary} {word text : String} (h : isBlankText word = false)
  (htext : readBody text = statusBody word)
include h

theorem statusWord?_statusBody : statusWord? (statusBody word) "status" = some word := by
  simp [statusWord?, statusBody, Json.lookup?, Table.get?, scalarText?, Json.asText, h]

include htext

/-- The verdict on a PING depends on the normal form of the status. -/
theorem readPing_status (hpath : w.pingStatusPath = "status") (code : Nat) :
    (w.readPing code text).status =
      if w.action code = .success then w.pingStatusOfWord (normalForm word)
      else pingStatusOfAction (w.action code) := by
  split
  · rename_i hcode
    rw [readPing_of_success hcode, htext, pingStatusOfBody, hpath, statusWord?_statusBody h]
  · rename_i hcode
    rw [readPing_of_not_success hcode]

/-- The verdict on a POST depends on the normal form of the status. -/
theorem readPost_status (hpath : w.postStatusPath = "status") (code : Nat) :
    (w.readPost code text).status =
      if w.action code = .success then w.postStatusOfWord (normalForm word)
      else postStatusOfAction (w.action code) := by
  split
  · rename_i hcode
    rw [readPost_of_success hcode, htext, postStatusOfBody, hpath, statusWord?_statusBody h]
  · rename_i hcode
    rw [readPost_of_not_success hcode]

end

/-- **Words are told apart by their normal forms only.** A normal form has no blank, no hyphen and
nothing that lower case would change, and is its own normal form; blanks at the ends of a word make
no difference to it. Vocabularies that differ in the spelling of their words only read all answers
alike, and so do bodies that differ in the spelling of their status only, however they are
written. -/
theorem normalForm_decides :
    (∀ word, normalForm (normalForm word) = normalForm word ∧
      lower (normalForm word) = normalForm word ∧
      ∀ c ∈ (normalForm word).toList, isBlank c = false ∧ c ≠ '-') ∧
    (∀ front word back, isBlankText front = true → isBlankText back = true →
      normalForm (front ++ word ++ back) = normalForm word) ∧
    (∀ w w' : Vocabulary, w.Respelled w' → ∀ code text,
      w.readPing code text = w'.readPing code text ∧
        w.readPost code text = w'.readPost code text) ∧
    (∀ word word', isBlankText word = false → isBlankText word' = false →
      normalForm word = normalForm word' → ∀ code text text',
        readBody text = statusBody word → readBody text' = statusBody word' →
          (standard.readPing code text).status = (standard.readPing code text').status ∧
            (standard.readPost code text).status = (standard.readPost code text').status) ∧
    ∀ word, readBody (statusBody word).render = statusBody word := by
  refine ⟨fun word => ?_, fun front word back hfront hback => normalForm_padded hfront hback word,
    fun w w' h code text => ⟨h.readPing code text, h.readPost code text⟩,
    fun word word' h h' hforms code text text' htext htext' => ?_, readBody_statusBody⟩
  · have hnormal := isNormal_normalForm word
    refine ⟨hnormal.normalForm_eq, hnormal.lower_eq, fun c hc => ?_⟩
    simpa [isGap] using (hnormal c hc).1
  · rw [readPing_status h htext rfl, readPing_status h' htext' rfl, readPost_status h htext rfl,
      readPost_status h' htext' rfl, hforms]
    exact ⟨rfl, rfl⟩

theorem normalForm_decides_sample :
    let loud := { standard with accepted := ["Will Buy", "OK"] }
    let quiet := { standard with accepted := ["will-buy", " ok"] }
    loud.Respelled quiet ∧ loud.readPing 200 "Will--buy" = quiet.readPing 200 "Will--buy" ∧
      isBlankText "\t" = true ∧ normalForm ("\t" ++ "No Bid" ++ "\t") = normalForm "No Bid" ∧
      isBlankText "No Bid" = false ∧ isBlankText "no-BID" = false ∧
      normalForm "No Bid" = normalForm "no-BID" ∧
      (standard.readPost 200 (statusBody "No Bid").render).status =
        (standard.readPost 200 (statusBody "no-BID").render).status := by
  intro loud quiet
  have hrespelled : loud.Respelled quiet :=
    ⟨rfl, by decide, rfl, rfl, rfl, rfl, rfl, rfl⟩
  have htab : isBlankText "\t" = true := by decide
  have hblank : isBlankText "No Bid" = false := by decide
  have hblank' : isBlankText "no-BID" = false := by decide
  have hforms : normalForm "No Bid" = normalForm "no-BID" := by decide
  obtain ⟨-, hpadded, hread, hstatus, hbody⟩ := normalForm_decides
  exact ⟨hrespelled, (hread loud quiet hrespelled 200 _).1, htab, hpadded _ _ _ htab htab, hblank,
    hblank', hforms, (hstatus _ _ hblank hblank' hforms 200 _ _ (hbody _) (hbody _)).2⟩

end PingPost.Vocabulary
