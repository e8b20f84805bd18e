import PingPost.Proofs.LetterCase
import PingPost.Proofs.Payload
import PingPost.Proofs.ZipCodes

/-!
What a rule accepts can be transformed, and what was transformed has a form that stays.

The rules and the transforms read mail addresses, telephone numbers, truth values and numbers
apart from each other. A mail address in lower case is still one (`Net.Email.isValid_lower`), and
holds no blank and no capital, so it is its own normal form. The three telephone forms hold the
same ten digits (`Transform.PhoneForm`), and the words of the truth forms are read as the value
they were written for (`Transform.TruthForm`).
-/

namespace PingPost

open Text

/-! ### Sizes of texts -/

namespace Text

theorem byteSize_of_ascii {cs : List Char} (h : ∀ c ∈ cs, c.toNat < 128) :
    (String.ofList cs).utf8ByteSize = cs.length := by
  induction cs with
  | nil => rfl
  | cons c cs ih =>
    obtain ⟨hc, hcs⟩ := List.forall_mem_cons.mp h
    have hone : c.utf8Size = 1 := Char.utf8Size_eq_one_iff.mpr (Nat.lt_succ_iff.mp hc)
    rw [String.ofList_cons, String.utf8ByteSize_append, String.utf8ByteSize_singleton, hone, ih hcs,
      List.length_cons, Nat.add_comm]

end Text

/-! ### Mail addresses -/

namespace Net.Email

/-- Characters of mail addresses. -/
def IsPlain (c : Char) : Prop := c.toNat < 128 ∧ isBlank c = false

theorem toNat_lt_of_isAlphanum {c : Char} (h : c.isAlphanum = true) : c.toNat < 128 := by
  have hranges : ((decide (c.val ≥ 'A'.val ∧ c.val ≤ 'Z'.val) ||
      decide (c.val ≥ 'a'.val) && decide (c.val ≤ 'z'.val)) ||
      decide (c.val ≥ '0'.val) && decide (c.val ≤ '9'.val)) = true := h
  simp only [Bool.or_eq_true, Bool.and_eq_true, decide_eq_true_eq] at hranges
  rcases hranges with (⟨-, hlast⟩ | ⟨-, hlast⟩) | ⟨-, hlast⟩
  all_goals exact Nat.lt_of_le_of_lt (UInt32.le_iff_toNat_le.mp hlast) (by decide)

theorem toNat_lt_of_isLocalChar {c : Char} (h : isLocalChar c = true) : c.toNat < 128 := by
  rw [isLocalChar, Bool.or_eq_true] at h
  rcases h with h | h
  · exact toNat_lt_of_isAlphanum h
  · have hmarks : (".!#$%&'*+/=?^_`\x7b|\x7d~-".toList.all fun d => d.toNat < 128) = true := by
      decide
    exact of_decide_eq_true (List.all_eq_true.mp hmarks c (List.contains_iff_mem.mp h))

/-- The characters of a label. -/
def isLabelChar (c : Char) : Bool := c.isAlphanum || c == '-'

theorem toNat_lt_of_isLabelChar {c : Char} (h : isLabelChar c = true) : c.toNat < 128 := by
  rw [isLabelChar, Bool.or_eq_true, beq_iff_eq] at h
  rcases h with h | rfl
  · exact toNat_lt_of_isAlphanum h
  · decide

theorem not_isBlank_of_isLocalChar {c : Char} (h : isLocalChar c = true) : isBlank c = false :=
  forall_ascii (P := fun c => isLocalChar c = true → isBlank c = false) (by decide +kernel)
    (toNat_lt_of_isLocalChar h) h

theorem not_isBlank_of_isLabelChar {c : Char} (h : isLabelChar c = true) : isBlank c = false := by
  rw [isLabelChar, Bool.or_eq_true, beq_iff_eq] at h
  rcases h with h | rfl
  · exact not_isBlank_of_isLocalChar (by rw [isLocalChar, h, Bool.true_or])
  · decide

theorem isAlphanum_asciiLower {c : Char} (hc : c.toNat < 128) :
    (asciiLower c).isAlphanum = c.isAlphanum :=
  forall_ascii (P := fun c => (asciiLower c).isAlphanum = c.isAlphanum) (by decide) hc

theorem isLocalChar_asciiLower {c : Char} (h : isLocalChar c = true) :
    isLocalChar (asciiLower c) = true :=
  forall_ascii (P := fun c => isLocalChar c = true → isLocalChar (asciiLower c) = true)
    (by decide +kernel) (toNat_lt_of_isLocalChar h) h

theorem isLabelChar_asciiLower {c : Char} (h : isLabelChar c = true) :
    isLabelChar (asciiLower c) = true := by
  have hascii := toNat_lt_of_isLabelChar h
  rw [isLabelChar, Bool.or_eq_true, beq_iff_eq] at h ⊢
  rcases h with h | rfl
  · exact .inl ((isAlphanum_asciiLower hascii).trans h)
  · exact .inr (by decide)

theorem isLabel_lower {cs : List Char} (h : isLabel cs = true) :
    isLabel (cs.map asciiLower) = true := by
  simp only [isLabel, Bool.and_eq_true, decide_eq_true_eq, List.all_eq_true] at h
  obtain ⟨⟨⟨hlength, hall⟩, hhead⟩, hlast⟩ := h
  have hascii : ∀ c ∈ cs, c.toNat < 128 := fun c hc => toNat_lt_of_isLabelChar (hall c hc)
  have hends (o : Option Char) (ho : ∀ c ∈ o, c ∈ cs) (h : o.any Char.isAlphanum = true) :
      (o.map asciiLower).any Char.isAlphanum = true := by
    cases o with
    | none => cases h
    | some c =>
      rw [Option.map_some, Option.any_some, isAlphanum_asciiLower (hascii c (ho c rfl))]
      exact h
  simp only [isLabel, Bool.and_eq_true, decide_eq_true_eq, List.all_eq_true, List.length_map,
    List.head?_map, List.getLast?_map]
  refine ⟨⟨⟨hlength, ?_⟩, hends _ (fun c hc => List.mem_of_mem_head? hc) hhead⟩,
    hends _ (fun c hc => List.mem_of_mem_getLast? hc) hlast⟩
  intro d hd
  obtain ⟨c, hc, rfl⟩ := List.mem_map.mp hd
  exact isLabelChar_asciiLower (hall c hc)

theorem isDomain_lower {cs : List Char} (h : isDomain cs = true) :
    isDomain (cs.map asciiLower) = true := by
  have hdot (c : Char) : (asciiLower c == '.') = (c == '.') :=
    beq_eq_beq.mpr (asciiLower_eq_iff (by decide) (by decide))
  simp only [isDomain, List.splitOn, splitOnP_map (f := asciiLower) (p := (· == '.')) hdot,
    List.length_map, Bool.and_eq_true, List.all_eq_true] at h ⊢
  refine ⟨h.1, ?_⟩
  intro label hlabel
  obtain ⟨label', hlabel', rfl⟩ := List.mem_map.mp hlabel
  exact isLabel_lower (h.2 label' hlabel')

theorem isPlain_of_isDomain {cs : List Char} (h : isDomain cs = true) : ∀ c ∈ cs, IsPlain c := by
  simp only [isDomain, Bool.and_eq_true, List.all_eq_true] at h
  intro c hc
  rcases mem_splitOnP (p := (· == '.')) hc with hdot | ⟨label, hlabel, hc⟩
  · rw [beq_iff_eq.mp hdot]
    exact ⟨by decide, by decide⟩
  · have hlabel' := h.2 label hlabel
    simp only [isLabel, Bool.and_eq_true, List.all_eq_true] at hlabel'
    have hchar : isLabelChar c = true := hlabel'.1.1.2 c hc
    exact ⟨toNat_lt_of_isLabelChar hchar, not_isBlank_of_isLabelChar hchar⟩

theorem isValid_iff {s : String} : isValid s = true ↔ ∃ name domain,
    splitFirst? '@' s.toList = some (name, domain) ∧ 5 ≤ s.utf8ByteSize ∧ name ≠ [] ∧
      (∀ c ∈ name, isLocalChar c = true) ∧ isDomain domain = true := by
  unfold isValid
  split
  · rename_i name domain hsplit
    simp [hsplit, and_assoc]
  · rename_i hsplit
    simp [hsplit]

/-- **A mail address is in ASCII and holds no blank.** -/
theorem isPlain_of_isValid {s : String} (h : isValid s = true) : ∀ c ∈ s.toList, IsPlain c := by
  obtain ⟨name, domain, hsplit, -, -, hname, hdomain⟩ := isValid_iff.mp h
  rw [of_splitFirst? hsplit]
  intro c hc
  rcases List.mem_append.mp hc with hc | hc
  · exact ⟨toNat_lt_of_isLocalChar (hname c hc), not_isBlank_of_isLocalChar (hname c hc)⟩
  rcases List.mem_cons.mp hc with rfl | hc
  · exact ⟨by decide, by decide⟩
  · exact isPlain_of_isDomain hdomain c hc

/-- **A mail address in lower case is a mail address.** -/
theorem isValid_lower {s : String} (h : isValid s = true) : isValid (lower s) = true := by
  have hascii : ∀ c ∈ s.toList, c.toNat < 128 := fun c hc => (isPlain_of_isValid h c hc).1
  have hascii' : ∀ c ∈ s.toList.map asciiLower, c.toNat < 128 := by
    intro d hd
    obtain ⟨c, hc, rfl⟩ := List.mem_map.mp hd
    exact toNat_asciiLower_lt (hascii c hc)
  obtain ⟨name, domain, hsplit, hsize, hne, hname, hdomain⟩ := isValid_iff.mp h
  rw [lower, lowerChars_of_ascii hascii]
  apply isValid_iff.mpr
  refine ⟨name.map asciiLower, domain.map asciiLower, ?_, ?_, ?_, ?_, isDomain_lower hdomain⟩
  · rw [String.toList_ofList, splitFirst?_map (fun c => asciiLower_eq_iff (by decide) (by decide)),
      hsplit]
    rfl
  · rw [byteSize_of_ascii hascii', List.length_map, ← byteSize_of_ascii hascii,
      String.ofList_toList]
    exact hsize
  · simpa using hne
  · intro d hd
    obtain ⟨c, hc, rfl⟩ := List.mem_map.mp hd
    exact isLocalChar_asciiLower (hname c hc)

end Net.Email

/-! ### The catalogue -/

namespace Transform

open Catalogue (standard)

variable {α : Type} {spec a b : TransformSpec} {v w : Json}

/-- The transform of a name writes what is read from a value. -/
structure Form (name : String) (read : Json → Except String α) (write : α → Json) : Prop where
  apply_eq : ∀ spec v, spec.name = name →
    standard.apply spec v = ((read v).map write).mapError (.invalid name)

namespace Form

variable {name name' : String} {read : Json → Except String α} {write write' : α → Json}

theorem of_get? {f : Transform} (hget : Table.get? name standard = some f)
    (hf : ∀ v args, f v args = (do return write (← read v : α))) : Form name read write where
  apply_eq spec v hspec := by
    rw [Catalogue.apply_of_get? hget hspec, hf]
    cases read v <;> rfl

theorem eq_ok_iff (h : Form name read write) (hspec : spec.name = name) :
    standard.apply spec v = .ok w ↔ ∃ x, read v = .ok x ∧ w = write x := by
  rw [h.apply_eq spec v hspec, mapError_eq_ok_iff]
  cases read v <;> simp [Except.map, eq_comm]

/-- Two forms of what is read are made of the same values, and the second is made of the first if
the same is read from it again. -/
theorem agree (h : Form name read write) (h' : Form name' read write') (ha : a.name = name)
    (hb : b.name = name') (hagain : ∀ x, read v = .ok x → read (write x) = .ok x) :
    ((∃ w, standard.apply a v = .ok w) ↔ ∃ w, standard.apply b v = .ok w) ∧
      ∀ w, standard.apply a v = .ok w → standard.apply b w = standard.apply b v := by
  constructor
  · simp only [h.eq_ok_iff ha, h'.eq_ok_iff hb]
    constructor
    all_goals
      rintro ⟨_, x, hx, -⟩
      exact ⟨_, x, hx, rfl⟩
  · intro w hw
    obtain ⟨x, hx, rfl⟩ := (h.eq_ok_iff ha).mp hw
    rw [h'.apply_eq b _ hb, h'.apply_eq b v hb, hagain x hx, hx]

end Form

/-! ### Telephone numbers -/

theorem of_homeDigits {ds : List Char} (h : homeDigits v = .ok ds) :
    ds.length = 10 ∧ ∀ c ∈ ds, c.isDigit = true := by
  have hdigits : ∀ c ∈ asciiDigits v.asText, c.isDigit = true := fun c hc =>
    (List.mem_filter.mp hc).2
  unfold homeDigits at h
  dsimp only at h
  split at h
  · split at h
    · cases h
      exact ⟨‹_›, fun c hc => hdigits c (List.mem_of_mem_tail hc)⟩
    · cases h
  · split at h
    · cases h
      exact ⟨‹_›, hdigits⟩
    · cases h

theorem homeDigits_of_asciiDigits {ds : List Char} (h : asciiDigits v.asText = ds)
    (hlength : ds.length = 10) : homeDigits v = .ok ds := by
  have hshort : ¬(ds.length = 11 ∧ ds.head? = some '1') := by omega
  simp only [homeDigits, h, if_neg hshort, if_pos hlength]

theorem exists_homeDigits_of_isHomePhone (h : isHomePhone v.asText = true) :
    ∃ ds, homeDigits v = .ok ds := by
  unfold isHomePhone at h
  dsimp only at h
  split at h
  · rename_i x y rest heq
    simp only [Bool.or_eq_true, Bool.and_eq_true, beq_iff_eq] at h
    rcases h with ⟨hten, -⟩ | ⟨⟨heleven, rfl⟩, -⟩
    · exact ⟨_, homeDigits_of_asciiDigits heq hten⟩
    · have hten : (y :: rest).length = 10 := Nat.succ.inj heleven
      refine ⟨y :: rest, ?_⟩
      simp only [homeDigits, heq, heleven, List.head?_cons, and_self, if_true, List.tail_cons,
        if_pos hten]
  · cases h

/-- The transform of a name writes the ten digits of a telephone number with marks between. -/
structure PhoneForm (name : String) (layout : List Char → List Char) : Prop extends
    Form name homeDigits fun ds => .text (String.ofList (layout ds)) where
  digits : ∀ ds, (layout ds).filter Char.isDigit = ds.filter Char.isDigit

/-- The digits of a telephone number are read from each of its forms. -/
theorem PhoneForm.homeDigits_eq {name : String} {layout : List Char → List Char}
    (hform : PhoneForm name layout) {ds : List Char} (h : homeDigits v = .ok ds) :
    homeDigits (.text (String.ofList (layout ds))) = .ok ds := by
  obtain ⟨hlength, hdigits⟩ := of_homeDigits h
  refine homeDigits_of_asciiDigits ?_ hlength
  have htext : (Json.text (String.ofList (layout ds))).asText = String.ofList (layout ds) := rfl
  rw [htext, asciiDigits, String.toList_ofList, hform.digits]
  exact List.filter_eq_self.mpr hdigits

theorem filter_parts (ds : List Char) : (ds.take 3).filter Char.isDigit ++
    (((ds.drop 3).take 3).filter Char.isDigit ++ (ds.drop 6).filter Char.isDigit) =
    ds.filter Char.isDigit := by
  rw [← List.filter_append, ← List.filter_append, ← List.drop_drop (i := 3) (j := 3),
    List.take_append_drop, List.take_append_drop]

theorem phoneDigits_form : PhoneForm "phone.digits" id where
  toForm := .of_get? ((Table.get?_ofList ..).trans rfl) fun _ _ => rfl
  digits _ := rfl

theorem phoneDashed_form : PhoneForm "phone.dashed"
    fun ds => ds.take 3 ++ '-' :: (ds.drop 3).take 3 ++ '-' :: ds.drop 6 where
  toForm := .of_get? ((Table.get?_ofList ..).trans rfl) fun _ _ => rfl
  digits ds := by simpa using filter_parts ds

theorem phoneParens_form : PhoneForm "phone.parens"
    fun ds => '(' :: ds.take 3 ++ ") ".toList ++ (ds.drop 3).take 3 ++ '-' :: ds.drop 6 where
  toForm := .of_get? ((Table.get?_ofList ..).trans rfl) fun _ _ => rfl
  digits ds := by simpa using filter_parts ds

/-- The names of the transforms that write ten digits. -/
def phoneForms : List String := ["phone.digits", "phone.dashed", "phone.parens"]

theorem exists_phoneForm {name : String} (h : name ∈ phoneForms) :
    ∃ layout, PhoneForm name layout := by
  simp only [phoneForms, List.mem_cons, List.not_mem_nil, or_false] at h
  rcases h with rfl | rfl | rfl
  · exact ⟨_, phoneDigits_form⟩
  · exact ⟨_, phoneDashed_form⟩
  · exact ⟨_, phoneParens_form⟩

/-- The forms of a telephone number are made of the same values, and of each other. -/
theorem phoneForms_agree (ha : a.name ∈ phoneForms) (hb : b.name ∈ phoneForms) :
    ((∃ w, standard.apply a v = .ok w) ↔ ∃ w, standard.apply b v = .ok w) ∧
      ∀ w, standard.apply a v = .ok w → standard.apply b w = standard.apply b v := by
  obtain ⟨first, hfirst⟩ := exists_phoneForm ha
  obtain ⟨second, hsecond⟩ := exists_phoneForm hb
  exact hfirst.agree hsecond.toForm rfl rfl fun _ hds => hfirst.homeDigits_eq hds

/-! ### Truth values -/

/-- The transform of a name writes truth values as two values that stand for them. -/
structure TruthForm (name : String) (yes no : Json) : Prop extends
    Form name Json.asBool fun b => if b then yes else no where
  yes : yes.asBool = .ok true
  no : no.asBool = .ok false

theorem toBoolean_truthForm : TruthForm "boolean.toBoolean" (.bool true) (.bool false) where
  toForm := .of_get? ((Table.get?_ofList ..).trans rfl) fun _ _ => rfl
  yes := rfl
  no := rfl

theorem tcpaFlag_truthForm : TruthForm "compliance.tcpaFlag" (.text "Y") (.text "N") where
  toForm := .of_get? ((Table.get?_ofList ..).trans rfl) fun _ _ => rfl
  yes := by decide
  no := by decide

/-- The names of the transforms that write words or figures for truth values. -/
def truthForms : List String :=
  ["boolean.yesNo", "boolean.yn", "boolean.trueFalse", "boolean.oneZero", "compliance.tcpaFlag"]

theorem exists_truthForm {name : String} (h : name ∈ truthForms) :
    ∃ yes no, TruthForm name yes no := by
  simp only [truthForms, List.mem_cons, List.not_mem_nil, or_false] at h
  rcases h with rfl | rfl | rfl | rfl | rfl
  · exact ⟨.text "Yes", .text "No", .of_get? ((Table.get?_ofList ..).trans rfl) fun _ _ => rfl,
      by decide, by decide⟩
  · exact ⟨.text "Y", .text "N", .of_get? ((Table.get?_ofList ..).trans rfl) fun _ _ => rfl,
      by decide, by decide⟩
  · exact ⟨.text "true", .text "false", .of_get? ((Table.get?_ofList ..).trans rfl) fun _ _ => rfl,
      by decide, by decide⟩
  · exact ⟨.int 1, .int 0, .of_get? ((Table.get?_ofList ..).trans rfl) fun _ _ => rfl, rfl, rfl⟩
  · exact ⟨_, _, tcpaFlag_truthForm⟩

/-- What is written for a truth value is read as that value. -/
theorem truthForms_agree (ha : a.name ∈ truthForms) (hb : b.name = "boolean.toBoolean") :
    ((∃ w, standard.apply a v = .ok w) ↔ ∃ w, standard.apply b v = .ok w) ∧
      ∀ w, standard.apply a v = .ok w → standard.apply b w = standard.apply b v := by
  obtain ⟨yes, no, hform⟩ := exists_truthForm ha
  refine hform.agree toBoolean_truthForm.toForm rfl hb fun value _ => ?_
  cases value with
  | true => exact hform.yes
  | false => exact hform.no

/-- No word for a truth value starts with a bracket. -/
theorem not_truthWord {s : String} {c : Char} {cs : List Char} (hs : s.toList = c :: cs)
    (hc : c = '[' ∨ c = '\x7b') : Text.lower (Text.trim s) ∉ truthWords := by
  have hself : isBlank c = false ∧ c.toNat < 128 ∧ asciiLower c = c := by
    rcases hc with rfl | rfl <;> decide
  have hwords : ∀ word ∈ truthWords, word.toList.head? ≠ some c := by
    rcases hc with rfl | rfl <;> decide
  obtain ⟨hblank, hascii, hlower⟩ := hself
  obtain ⟨cs', htrim⟩ := trimChars_cons hblank cs
  intro hmem
  apply hwords _ hmem
  rw [Text.lower, Text.trim, String.toList_ofList, String.toList_ofList, hs, htrim, lowerChars,
    lowerFrom_cons_of_ascii hascii, hlower, List.head?_cons]

theorem truthWord_of_holds (h : ValueKind.boolean.holds v = true) :
    (∃ b, v = .bool b) ∨ Text.lower (Text.trim v.asText) ∈ truthWords := by
  unfold ValueKind.holds at h
  dsimp only at h
  split at h
  · exact .inl ⟨_, rfl⟩
  · exact .inr (List.contains_iff_mem.mp h)

/-- A value that a rule takes for a truth value is read as one. -/
theorem exists_asBool_of_holds (h : ValueKind.boolean.holds v = true) : ∃ b, v.asBool = .ok b := by
  rcases truthWord_of_holds h with ⟨b, rfl⟩ | hword
  · exact ⟨b, rfl⟩
  cases v with
  | null => exact ⟨_, rfl⟩
  | bool b => exact ⟨b, rfl⟩
  | int n => exact ⟨_, rfl⟩
  | real x => exact ⟨_, rfl⟩
  | text s =>
    have hread : ∀ word ∈ truthWords, Json.trueWords.contains word = true ∨
      Json.falseWords.contains word = true := by decide
    rw [Json.asText] at hword
    unfold Json.asBool
    dsimp only
    rcases hread _ hword with hyes | hno
    · rw [if_pos hyes]
      exact ⟨true, rfl⟩
    · split
      · exact ⟨true, rfl⟩
      · exact ⟨false, rfl⟩
  | list items =>
    have htext : (Json.list items).asText.toList =
        '[' :: (Json.renderItems items ++ "]").toList := by
      change ("[" ++ Json.renderItems items ++ "]").toList = _
      rw [String.append_assoc, String.toList_append]
      rfl
    exact absurd hword (not_truthWord htext (.inl rfl))
  | object fields =>
    have htext : (Json.object fields).asText.toList =
        '\x7b' :: (Json.renderFields fields ++ "\x7d").toList := by
      change ("\x7b" ++ Json.renderFields fields ++ "\x7d").toList = _
      rw [String.append_assoc, String.toList_append]
      rfl
    exact absurd hword (not_truthWord htext (.inr rfl))

/-! ### Texts that are cleaned -/

/-- The transform of a name reads a text from the value, and gives that text if it is in order. -/
structure Cleaner (name : String) (read : String → String) (InOrder : String → Prop) : Prop where
  eq_ok_iff : ∀ {spec v w}, spec.name = name → (standard.apply spec v = .ok w ↔
    InOrder (read v.asText) ∧ w = .text (read v.asText))
  read_read : ∀ {s}, InOrder (read s) → read (read s) = read s

theorem Cleaner.apply_apply {name : String} {read : String → String} {InOrder : String → Prop}
    (hclean : Cleaner name read InOrder) (hspec : spec.name = name)
    (h : standard.apply spec v = .ok w) : standard.apply spec w = .ok w := by
  obtain ⟨horder, rfl⟩ := (hclean.eq_ok_iff hspec).mp h
  have hself := hclean.read_read horder
  have htext : (Json.text (read v.asText)).asText = read v.asText := rfl
  apply (hclean.eq_ok_iff hspec).mpr
  rw [htext, hself]
  exact ⟨horder, rfl⟩

theorem apply_emailNormalize (hspec : spec.name = "email.normalize") :
    standard.apply spec v = .ok w ↔ Net.Email.isValid (Text.lower (Text.trim v.asText)) = true ∧
      w = .text (Text.lower (Text.trim v.asText)) := by
  have hget : Table.get? "email.normalize" standard = some emailNormalize :=
    (Table.get?_ofList ..).trans rfl
  rw [Catalogue.apply_of_get? hget hspec, mapError_eq_ok_iff, emailNormalize]
  split
  · rename_i hvalid
    simp [hvalid, eq_comm]
  · rename_i hvalid
    simp [hvalid, refuse]

theorem apply_stateCode (hspec : spec.name = "address.stateCode") :
    standard.apply spec v = .ok w ↔ ((Text.upper (Text.trim v.asText)).utf8ByteSize = 2 ∧
      (Text.upper (Text.trim v.asText)).toList.all Char.isAlpha = true) ∧
      w = .text (Text.upper (Text.trim v.asText)) := by
  have hget : Table.get? "address.stateCode" standard = some stateCode :=
    (Table.get?_ofList ..).trans rfl
  rw [Catalogue.apply_of_get? hget hspec, mapError_eq_ok_iff, stateCode]
  split
  · rename_i hcode
    simp only [hcode, and_self, true_and, Except.ok.injEq, eq_comm]
  · rename_i hcode
    simp only [hcode, false_and, refuse, reduceCtorEq]

theorem email_cleaner : Cleaner "email.normalize" (fun s => Text.lower (Text.trim s))
    (fun s => Net.Email.isValid s = true) where
  eq_ok_iff := apply_emailNormalize
  read_read := by
    intro s hvalid
    have hplain := Net.Email.isPlain_of_isValid hvalid
    have htrim : Text.trim (Text.lower (Text.trim s)) = Text.lower (Text.trim s) := by
      rw [Text.trim, trimChars_eq_self fun c hc => (hplain c hc).2, String.ofList_toList]
    have hcapital : ∀ c ∈ (Text.lower (Text.trim s)).toList, NotCapital c := by
      intro c hc
      rw [Text.lower, String.toList_ofList] at hc
      exact notCapital_of_mem_lowerChars hc
    rw [htrim, Text.lower, lowerChars_eq_self (fun c hc => (hplain c hc).1) hcapital,
      String.ofList_toList]

theorem stateCode_cleaner : Cleaner "address.stateCode" (fun s => Text.upper (Text.trim s))
    (fun s => s.utf8ByteSize = 2 ∧ s.toList.all Char.isAlpha = true) where
  eq_ok_iff := apply_stateCode
  read_read := by
    rintro s ⟨-, halpha⟩
    have hascii : ∀ c ∈ (Text.upper (Text.trim s)).toList, c.toNat < 128 ∧ isBlank c = false := by
      intro c hc
      have hletter := List.all_eq_true.mp halpha c hc
      have hlocal : Net.Email.isLocalChar c = true := by
        simp [Net.Email.isLocalChar, Char.isAlphanum, hletter]
      exact ⟨Net.Email.toNat_lt_of_isLocalChar hlocal,
        Net.Email.not_isBlank_of_isLocalChar hlocal⟩
    have htrim : Text.trim (Text.upper (Text.trim s)) = Text.upper (Text.trim s) := by
      rw [Text.trim, trimChars_eq_self fun c hc => (hascii c hc).2, String.ofList_toList]
    have hupper : ∀ c ∈ (Text.upper (Text.trim s)).toList, upperChar c = [c] := by
      intro c hc
      apply upperChar_eq_self (hascii c hc).1
      rw [Text.upper, String.toList_ofList] at hc
      obtain ⟨d, -, hd⟩ := List.mem_flatMap.mp hc
      exact notSmall_of_mem_upperChar hd
    rw [htrim, Text.upper, List.flatMap_congr hupper, List.flatMap_singleton', String.ofList_toList]

theorem zip5_cleaner : Cleaner "address.zip5" (fun s => String.ofList ((asciiDigits s).take 5))
    (fun s => s.toList.length = 5) where
  eq_ok_iff := by
    intro spec v w hspec
    rw [Catalogue.apply_zip5 hspec, mapError_eq_ok_iff, zip5_eq_ok_iff, String.toList_ofList]
  read_read := by
    intro s hlength
    have hdigits : ∀ c ∈ (asciiDigits s).take 5, c.isDigit = true := fun c hc =>
      (List.mem_filter.mp (List.mem_of_mem_take hc)).2
    rw [String.toList_ofList] at hlength
    rw [asciiDigits, String.toList_ofList, List.filter_eq_self.mpr hdigits,
      List.take_of_length_le hlength.le]

/-- The names of the transforms that clean a text. -/
def cleaners : List String := ["email.normalize", "address.zip5", "address.stateCode"]

theorem cleaners_settle (ha : a.name ∈ cleaners) (h : standard.apply a v = .ok w) :
    standard.apply a w = .ok w := by
  simp only [cleaners, List.mem_cons, List.not_mem_nil, or_false] at ha
  rcases ha with hname | hname | hname
  · exact email_cleaner.apply_apply hname h
  · exact zip5_cleaner.apply_apply hname h
  · exact stateCode_cleaner.apply_apply hname h

end Transform

/-! ### What a rule accepts -/

/-- The name of the transform that reads the values of a kind. -/
def ValueKind.reader? : ValueKind → Option String
  | .email => some "email.normalize"
  | .phone => some "phone.digits"
  | .boolean => some "boolean.toBoolean"
  | .number => some "number.parse"
  | .zipCode | .url | .text => none

open Catalogue (standard) in
theorem ValueKind.exists_of_holds {kind : ValueKind} {spec : TransformSpec} {v : Json}
    (hspec : kind.reader? = some spec.name) (h : kind.holds v = true) :
    ∃ w, standard.apply spec v = .ok w := by
  cases kind with
  | email =>
    have hname := (Option.some.inj hspec).symm
    have hvalid : Net.Email.isValid (Text.trim v.asText) = true := h
    exact ⟨_, (Transform.apply_emailNormalize hname).mpr ⟨Net.Email.isValid_lower hvalid, rfl⟩⟩
  | phone =>
    have hname := (Option.some.inj hspec).symm
    obtain ⟨ds, hds⟩ := Transform.exists_homeDigits_of_isHomePhone h
    exact ⟨_, (Transform.phoneDigits_form.eq_ok_iff hname).mpr ⟨ds, hds, rfl⟩⟩
  | boolean =>
    have hname := (Option.some.inj hspec).symm
    obtain ⟨b, hb⟩ := Transform.exists_asBool_of_holds h
    exact ⟨_, (Transform.toBoolean_truthForm.eq_ok_iff hname).mpr ⟨b, hb, rfl⟩⟩
  | number =>
    have hname := (Option.some.inj hspec).symm
    have hget : Table.get? "number.parse" standard = some Transform.parse :=
      (Table.get?_ofList ..).trans rfl
    obtain ⟨x, hx⟩ : ∃ x, v.asNumber? = some x := Option.isSome_iff_exists.mp h
    have hnumber : Transform.number v = .ok x := by rw [Transform.number, hx]
    refine ⟨Transform.numberValue x, ?_⟩
    rw [Catalogue.apply_of_get? hget hname, mapError_eq_ok_iff, Transform.parse, hnumber]
    rfl
  | zipCode => cases hspec
  | url => cases hspec
  | text => cases hspec

open Catalogue (standard) in
/-- **What is valid can be transformed, and canonical forms stay.** A value that a rule accepts as a
mail address, telephone number, truth value or number is read by the transform of that kind. The
forms of a telephone number are made of the same values and of each other. Cleaned texts are clean.
The words for a truth value are made of the values that are truth values, and read as them. -/
theorem Transform.forms_canonical (v : Json) :
    (∀ (rule : Rule) (field : String) (spec : TransformSpec),
      rule.kind.bind ValueKind.reader? = some spec.name → rule.check field v = .ok () →
      ∃ w, standard.apply spec v = .ok w) ∧
    (∀ a b : TransformSpec, a.name ∈ phoneForms → b.name ∈ phoneForms →
      ((∃ w, standard.apply a v = .ok w) ↔ ∃ w, standard.apply b v = .ok w) ∧
        ∀ w, standard.apply a v = .ok w → standard.apply b w = standard.apply b v) ∧
    (∀ a : TransformSpec, a.name ∈ cleaners → ∀ w, standard.apply a v = .ok w →
      standard.apply a w = .ok w) ∧
    ∀ a b : TransformSpec, a.name ∈ truthForms → b.name = "boolean.toBoolean" →
      ((∃ w, standard.apply a v = .ok w) ↔ ∃ w, standard.apply b v = .ok w) ∧
        ∀ w, standard.apply a v = .ok w → standard.apply b w = standard.apply b v := by
  refine ⟨?_, fun a b => phoneForms_agree, fun a ha w => cleaners_settle ha,
    fun a b => truthForms_agree⟩
  intro rule field spec hspec hcheck
  obtain ⟨kind, hkind, hreader⟩ := Option.bind_eq_some_iff.mp hspec
  exact ValueKind.exists_of_holds hreader (Rule.holds_of_check hkind hcheck)

namespace Sample

/-- A rule that asks for a kind only. -/
def kindRule (kind : ValueKind) : Rule := { Rule.empty with kind := some kind }

end Sample

open Catalogue (standard) in
open Sample in
set_option maxRecDepth 10000 in
/-- A mail address in mixed case, a telephone number with a country digit, a state in small letters
and a truth value in capitals. -/
theorem Transform.forms_canonical_sample :
    ((kindRule .email).check "email" (.text " Ann@Example.COM ") = .ok () ∧
      ∃ w, standard.apply (.named "email.normalize") (.text " Ann@Example.COM ") = .ok w) ∧
    (standard.apply (.named "phone.dashed") (.text "+1 (201) 555-0123") =
        .ok (.text "201-555-0123") ∧
      standard.apply (.named "phone.parens") (.text "201-555-0123") =
        standard.apply (.named "phone.parens") (.text "+1 (201) 555-0123")) ∧
    (standard.apply (.named "address.stateCode") (.text " ca ") = .ok (.text "CA") ∧
      standard.apply (.named "address.stateCode") (.text "CA") = .ok (.text "CA")) ∧
    (standard.apply (.named "compliance.tcpaFlag") (.text " YES ") = .ok (.text "Y") ∧
      standard.apply (.named "boolean.toBoolean") (.text "Y") =
        standard.apply (.named "boolean.toBoolean") (.text " YES ")) := by
  have hmail : (kindRule .email).check "email" (.text " Ann@Example.COM ") = .ok () := by
    decide
  have hphone : standard.apply (.named "phone.dashed") (.text "+1 (201) 555-0123") =
      .ok (.text "201-555-0123") :=
    (phoneDashed_form.eq_ok_iff rfl).mpr ⟨"2015550123".toList, rfl, rfl⟩
  have hstate : standard.apply (.named "address.stateCode") (.text " ca ") = .ok (.text "CA") := by
    apply (apply_stateCode rfl).mpr
    exact ⟨by decide, congrArg Json.text (by decide)⟩
  have htruth : standard.apply (.named "compliance.tcpaFlag") (.text " YES ") = .ok (.text "Y") :=
    (tcpaFlag_truthForm.eq_ok_iff rfl).mpr ⟨true, by decide, rfl⟩
  refine ⟨⟨hmail, ?_⟩, ⟨hphone, ?_⟩, ⟨hstate, ?_⟩, ⟨htruth, ?_⟩⟩
  · exact (forms_canonical (.text " Ann@Example.COM ")).1 (kindRule .email) "email" _ rfl hmail
  · exact ((forms_canonical (.text "+1 (201) 555-0123")).2.1 _ _ (by decide) (by decide)).2 _ hphone
  · exact (forms_canonical (.text " ca ")).2.2.1 _ (by decide) _ hstate
  · exact ((forms_canonical (.text " YES ")).2.2.2 _ _ (by decide) rfl).2 _ htruth

end PingPost
