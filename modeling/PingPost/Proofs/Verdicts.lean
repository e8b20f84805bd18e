import PingPost.Vocabulary.Reading
import PingPost.Vocabulary.Standard
import PingPost.Proofs.Paths

/-!
What the answers of buyers are read as.

The status code of an answer is judged first, and where it does not mean success the verdict is
that of the code alone (`Vocabulary.readPing_of_not_success`). Otherwise the body has the word, and
every way in which it may say yes is listed (`Vocabulary.acceptance_not_invented`): a PING is
accepted for a word of the vocabulary, for an indicator, or for an amount where nothing else is
said, and a POST is delivered for a word of the vocabulary, or where nothing speaks against it.

A body that is nothing but a number, a truth value or `null` says nothing in this sense, whatever
the vocabulary makes of its text: `false` is read as a delivery
(`Vocabulary.false_read_as_delivered`), and a bare refusal is understood just when it is a text
(`Vocabulary.bareRefusal_understood`).
-/

namespace PingPost.Vocabulary

variable {w : Vocabulary} {code : Nat} {text : String} {body : Json}

/-- One of some words has the normal form of a word. -/
def Names (words : List String) (word : String) : Prop :=
  ∃ v ∈ words, normalForm v = normalForm word

instance (words : List String) (word : String) : Decidable (Names words word) :=
  inferInstanceAs (Decidable (∃ v ∈ words, normalForm v = normalForm word))

theorem hasWord_iff {words : List String} {word : String} :
    hasWord words (normalForm word) = true ↔ Names words word := by
  simp [hasWord, Names]

/-- A body has the field of an indicator. -/
def ShowsIndicator (w : Vocabulary) (body : Json) : Prop :=
  ∃ i ∈ w.indicators, ∃ v, body.lookup? i.field = some v

/-- A body has the field of an indicator with the value it waits for. -/
def MeetsIndicator (w : Vocabulary) (body : Json) : Prop :=
  ∃ i ∈ w.indicators, ∃ v, body.lookup? i.field = some v ∧ Indicator.isMet i v = true

theorem indicated?_eq_none_iff :
    indicated? body w.indicators = none ↔ ¬ShowsIndicator w body := by
  have hempty : ∀ found : List Bool,
      (if found.isEmpty then none else some (found.any id)) = none ↔ found = [] := by
    intro found
    cases found <;> simp
  rw [indicated?, hempty, List.filterMap_eq_nil_iff]
  simp [ShowsIndicator, Option.eq_none_iff_forall_ne_some]

theorem indicated?_eq_true_iff :
    indicated? body w.indicators = some true ↔ MeetsIndicator w body := by
  have hany : ∀ found : List Bool,
      (if found.isEmpty then none else some (found.any id)) = some true ↔ true ∈ found := by
    intro found
    cases found <;> simp
  rw [indicated?, hany, List.mem_filterMap]
  simp [MeetsIndicator]

theorem indicated?_eq_false_iff :
    indicated? body w.indicators = some false ↔
      ShowsIndicator w body ∧ ¬MeetsIndicator w body := by
  have hshows : indicated? body w.indicators = none ↔ _ := indicated?_eq_none_iff
  have hmeets : indicated? body w.indicators = some true ↔ _ := indicated?_eq_true_iff
  rcases hverdict : indicated? body w.indicators with _ | _ | _ <;> simp_all

/-- The amounts that are read are positive. -/
theorem amountAt?_eq_some {paths : List String} {x : Float} (h : amountAt? body paths = some x) :
    x.isFinite = true ∧ 0 < x := by
  obtain ⟨path, -, hpath⟩ := List.exists_of_findSome?_eq_some h
  obtain ⟨-, hx⟩ := Option.filter_eq_some_iff.mp hpath
  simpa using hx

/-! ### The two verdicts of a body -/

theorem pingStatusOfWord_eq_accepted_iff {word : String} :
    w.pingStatusOfWord (normalForm word) = .accepted ↔ Names w.accepted word := by
  rw [← hasWord_iff, pingStatusOfWord]
  grind

theorem postStatusOfWord_eq_delivered_iff {word : String} :
    w.postStatusOfWord (normalForm word) = .delivered ↔ Names w.delivered word := by
  rw [← hasWord_iff, postStatusOfWord]
  grind

/-- A body accepts by its word, or without one by an indicator or, without those, by an amount. -/
theorem pingStatusOfBody_eq_accepted_iff :
    w.pingStatusOfBody body = .accepted ↔
      (∃ word, statusWord? body w.pingStatusPath = some word ∧ Names w.accepted word) ∨
        statusWord? body w.pingStatusPath = none ∧ (MeetsIndicator w body ∨
          ¬ShowsIndicator w body ∧ ∃ x, amountAt? body w.amountPaths = some x) := by
  unfold pingStatusOfBody
  cases hword : statusWord? body w.pingStatusPath with
  | some word => simp [pingStatusOfWord_eq_accepted_iff]
  | none =>
    rw [← indicated?_eq_none_iff, ← indicated?_eq_true_iff]
    rcases indicated? body w.indicators with _ | _ | _ <;> simp [Option.isSome_iff_exists]

/-- A body delivers by its word, or without one unless there are indicators and none is met. -/
theorem postStatusOfBody_eq_delivered_iff :
    w.postStatusOfBody body = .delivered ↔
      (∃ word, statusWord? body w.postStatusPath = some word ∧ Names w.delivered word) ∨
        statusWord? body w.postStatusPath = none ∧
          ¬(ShowsIndicator w body ∧ ¬MeetsIndicator w body) := by
  unfold postStatusOfBody
  cases hword : statusWord? body w.postStatusPath with
  | some word => simp [postStatusOfWord_eq_delivered_iff]
  | none =>
    rw [← indicated?_eq_false_iff]
    simp

/-! ### Answers -/

/-- Verdict on a PING whose status code does not mean success. -/
def pingStatusOfAction : HttpAction → PingStatus
  | .retry | .error => .error
  | _ => .rejected

/-- Verdict on a POST whose status code does not mean success. -/
def postStatusOfAction : HttpAction → PostStatus
  | .duplicate => .duplicate
  | .invalid => .invalid
  | _ => .failed

theorem readPing_of_success (h : w.action code = .success) :
    w.readPing code text =
      { status := w.pingStatusOfBody (readBody text)
        amount := if w.pingStatusOfBody (readBody text) = .accepted
          then amountAt? (readBody text) w.amountPaths else none
        shouldRetry := false
        rawStatus := statusWord? (readBody text) w.pingStatusPath
        reason := textAt? (readBody text) w.reasonPaths } := by
  simp [readPing, h]

/-- Without success the body gives the reason and nothing else. -/
theorem readPing_of_not_success (h : w.action code ≠ .success) :
    w.readPing code text =
      { status := pingStatusOfAction (w.action code)
        amount := none
        shouldRetry := w.action code = .retry
        rawStatus := some (toString code)
        reason := textAt? (readBody text) w.reasonPaths } := by
  unfold readPing
  cases haction : w.action code <;> simp_all [pingStatusOfAction]

theorem readPost_of_success (h : w.action code = .success) :
    w.readPost code text =
      { status := w.postStatusOfBody (readBody text)
        reason := textAt? (readBody text) w.reasonPaths
        leadId := if w.postStatusOfBody (readBody text) = .delivered
          then textAt? (readBody text) w.leadIdPaths else none
        shouldRetry := false
        rawStatus := statusWord? (readBody text) w.postStatusPath } := by
  simp [readPost, h]

/-- Without success the body gives the reason and nothing else. -/
theorem readPost_of_not_success (h : w.action code ≠ .success) :
    w.readPost code text =
      { status := postStatusOfAction (w.action code)
        reason := textAt? (readBody text) w.reasonPaths
        leadId := none
        shouldRetry := w.action code = .retry
        rawStatus := some (toString code) } := by
  unfold readPost
  cases haction : w.action code <;> simp_all [postStatusOfAction]

/-- What the reading `a` of a PING's answer tells. -/
structure FaithfulPing (w : Vocabulary) (code : Nat) (text : String) (a : PingAnswer) : Prop where
  /-- The ways of an acceptance. -/
  accepted : a.status = .accepted ↔ w.action code = .success ∧
    ((∃ word, statusWord? (readBody text) w.pingStatusPath = some word ∧ Names w.accepted word) ∨
      statusWord? (readBody text) w.pingStatusPath = none ∧ (MeetsIndicator w (readBody text) ∨
        ¬ShowsIndicator w (readBody text) ∧
          ∃ x, amountAt? (readBody text) w.amountPaths = some x))
  amount : ∀ x, a.amount = some x → a.status = .accepted ∧ x.isFinite = true ∧ 0 < x
  /-- A word that is not understood is a refusal. -/
  unknown : w.action code = .success → ∀ word,
    statusWord? (readBody text) w.pingStatusPath = some word → ¬Names w.accepted word →
      ¬Names w.rejected word → ¬Names w.errors word → a.status = .rejected
  shouldRetry : a.shouldRetry = true ↔ w.action code = .retry
  /-- Without success no other body would have told anything else, but for the reason. -/
  codeAlone : w.action code ≠ .success → ∀ other,
    { w.readPing code other with reason := none } = { a with reason := none }

/-- What the reading `a` of a POST's answer tells. -/
structure FaithfulPost (w : Vocabulary) (code : Nat) (text : String) (a : PostAnswer) : Prop where
  /-- The ways of a delivery. -/
  delivered : a.status = .delivered ↔ w.action code = .success ∧
    ((∃ word, statusWord? (readBody text) w.postStatusPath = some word ∧ Names w.delivered word) ∨
      statusWord? (readBody text) w.postStatusPath = none ∧
        ¬(ShowsIndicator w (readBody text) ∧ ¬MeetsIndicator w (readBody text)))
  /-- A word that is not understood is a failure. -/
  unknown : w.action code = .success → ∀ word,
    statusWord? (readBody text) w.postStatusPath = some word → ¬Names w.delivered word →
      ¬Names w.failed word → ¬Names w.duplicate word → ¬Names w.invalid word → a.status = .failed
  shouldRetry : a.shouldRetry = true ↔ w.action code = .retry
  /-- Without success no other body would have told anything else, but for the reason. -/
  codeAlone : w.action code ≠ .success → ∀ other,
    { w.readPost code other with reason := none } = { a with reason := none }

theorem faithfulPing_readPing : FaithfulPing w code text (w.readPing code text) := by
  by_cases hcode : w.action code = .success
  case neg =>
    rw [readPing_of_not_success hcode]
    refine ⟨?_, by simp, fun h => (hcode h).elim, by simp, fun _ other => ?_⟩
    · cases haction : w.action code <;> simp_all [pingStatusOfAction]
    · rw [readPing_of_not_success hcode]
  rw [readPing_of_success hcode]
  refine ⟨?_, fun x hx => ?_, fun _ word hword haccepted hrejected herrors => ?_, by simp [hcode],
    fun h => (h hcode).elim⟩
  · simp only [hcode, true_and, pingStatusOfBody_eq_accepted_iff]
  · simp only [Option.ite_none_right_eq_some] at hx ⊢
    exact ⟨hx.1, amountAt?_eq_some hx.2⟩
  · rw [← hasWord_iff] at haccepted hrejected herrors
    simp [pingStatusOfBody, hword, pingStatusOfWord, haccepted, hrejected, herrors]

theorem faithfulPost_readPost : FaithfulPost w code text (w.readPost code text) := by
  by_cases hcode : w.action code = .success
  case neg =>
    rw [readPost_of_not_success hcode]
    refine ⟨?_, fun h => (hcode h).elim, by simp, fun _ other => ?_⟩
    · cases haction : w.action code <;> simp_all [postStatusOfAction]
    · rw [readPost_of_not_success hcode]
  rw [readPost_of_success hcode]
  refine ⟨?_, fun _ word hword hdelivered hfailed hduplicate hinvalid => ?_, by simp [hcode],
    fun h => (h hcode).elim⟩
  · simp only [hcode, true_and, postStatusOfBody_eq_delivered_iff]
  · rw [← hasWord_iff] at hdelivered hfailed hduplicate hinvalid
    simp [postStatusOfBody, hword, postStatusOfWord, hdelivered, hfailed, hduplicate, hinvalid]

/-- **Acceptance is never invented**, nor is a delivery. -/
theorem acceptance_not_invented (w : Vocabulary) (code : Nat) (text : String) :
    FaithfulPing w code text (w.readPing code text) ∧
      FaithfulPost w code text (w.readPost code text) :=
  ⟨faithfulPing_readPing, faithfulPost_readPost⟩

/-! ### Bare answers -/

/-- Whether a value is neither a list nor an object. -/
def isBare : Json → Bool
  | .list _ | .object _ => false
  | _ => true

/-- Whether a value is a text that is not blank. -/
def isWord : Json → Bool
  | .text s => !Text.isBlankText s
  | _ => false

/-- There is nothing at any path of a bare value. -/
theorem lookup?_of_isBare (hbare : isBare body = true) (path : String) :
    body.lookup? path = none := by
  obtain ⟨s, rest, hsegments⟩ := List.exists_cons_of_ne_nil (Json.segments_ne_nil path)
  cases body with
  | list items => cases hbare
  | object fields => cases hbare
  | _ => simp [Json.lookup?, Json.walk?, hsegments, Json.child?]

theorem statusWord?_of_isBare (hbare : isBare body = true) (path : String) :
    statusWord? body path = if isWord body then some body.asText else none := by
  unfold statusWord?
  cases body with
  | text s =>
    by_cases hblank : Text.isBlankText s <;> simp [scalarText?, Json.asText, isWord, hblank]
  | list items => cases hbare
  | object fields => cases hbare
  | _ => simp [lookup?_of_isBare hbare, isWord]

/-- A word means a refusal. -/
def IsRefusal (w : Vocabulary) (word : String) : Prop :=
  (Names w.failed word ∨ Names w.duplicate word ∨ Names w.invalid word) ∧ ¬Names w.delivered word

instance (w : Vocabulary) (word : String) : Decidable (IsRefusal w word) :=
  inferInstanceAs (Decidable (_ ∧ _))

/-- **A bare refusal is understood just when it is a text**: any other bare value has no status
word, nor any indicator that could speak against a delivery, and is read as one whatever it says. -/
theorem bareRefusal_understood (w : Vocabulary) (code : Nat) (text : String)
    (hcode : w.action code = .success) (hbare : isBare (readBody text) = true) :
    (isWord (readBody text) = true → IsRefusal w (readBody text).asText →
      (w.readPost code text).status ≠ .delivered) ∧
    (isWord (readBody text) = false → (w.readPost code text).status = .delivered) := by
  have hsilent : ¬ShowsIndicator w (readBody text) := by
    rintro ⟨i, -, v, hv⟩
    rw [lookup?_of_isBare hbare] at hv
    cases hv
  rw [ne_eq, faithfulPost_readPost.delivered, statusWord?_of_isBare hbare]
  refine ⟨fun hword hrefusal => ?_, fun hword => ?_⟩
  · simp [hword, hrefusal.2]
  · simp [hcode, hword, hsilent]

theorem bareRefusal_understood_sample :
    (standard.readPost 200 " Duplicate ").status ≠ .delivered ∧
      (standard.readPost 200 "0").status = .delivered :=
  ⟨(bareRefusal_understood standard 200 " Duplicate " (by decide)
      (by decide)).1 (by decide) (by decide +kernel),
    (bareRefusal_understood standard 200 "0" (by decide)
      (by decide)).2 (by decide)⟩

/-- The truth value `false` is a word for a failure, and read as a delivery. -/
theorem false_read_as_delivered :
    standard.action 200 = .success ∧ isBare (readBody "false") = true ∧
      IsRefusal standard (readBody "false").asText ∧
        (standard.readPost 200 "false").status = .delivered := by
  decide

end PingPost.Vocabulary
