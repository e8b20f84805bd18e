import Mathlib.Data.List.DropRight
import PingPost.Text.Blank

/-!
Texts in pieces, and texts without blanks at their ends.

There is one way to cut a text into pieces that hold no separator (`Text.splits_iff`), and one first
separator (`Text.splitFirst?_eq_some_iff`). A replacement of characters that keeps the separators
apart goes through the pieces (`Text.splitOnP_map`). Blanks at the ends of a text make no difference
to what trimming leaves (`Text.trimChars_padded`), and are all that it drops
(`Text.exists_trimChars`).
-/

namespace PingPost.Text

/-! ### Pieces -/

variable {p : Char → Bool} {cs : List Char}

theorem splitFirst?_nil (sep : Char) : splitFirst? sep [] = none := rfl

theorem splitFirst?_cons (sep c : Char) (cs : List Char) : splitFirst? sep (c :: cs) =
    if c = sep then some ([], cs) else (splitFirst? sep cs).map (Prod.map (c :: ·) id) := rfl

/-- The first separator is the one with none in front of it. -/
theorem splitFirst?_eq_some_iff {sep : Char} {cs a b : List Char} :
    splitFirst? sep cs = some (a, b) ↔ cs = a ++ sep :: b ∧ sep ∉ a := by
  induction cs generalizing a with
  | nil => simp [splitFirst?_nil]
  | cons c cs ih =>
    rw [splitFirst?_cons]
    split
    · rename_i hsep
      cases a <;> simp +contextual [hsep, eq_comm]
    · rename_i hsep
      cases a with
      | nil => simp [hsep]
      | cons d a =>
        rw [Option.map_eq_some_iff, Prod.exists]
        constructor
        · rintro ⟨a', b', hsplit, heq⟩
          cases heq
          obtain ⟨rfl, ha⟩ := ih.mp hsplit
          exact ⟨rfl, by simp [Ne.symm hsep, ha]⟩
        · rintro ⟨heq, ha⟩
          cases heq
          exact ⟨a, b, ih.mpr ⟨rfl, fun h => ha (List.mem_cons_of_mem _ h)⟩, rfl⟩

theorem splitFirst?_eq_none_iff {sep : Char} {cs : List Char} :
    splitFirst? sep cs = none ↔ sep ∉ cs := by
  induction cs with
  | nil => simp [splitFirst?_nil]
  | cons c cs ih =>
    rw [splitFirst?_cons, List.mem_cons, not_or, ← ih]
    split
    · rename_i hsep
      simp [hsep]
    · rename_i hsep
      simp [Ne.symm hsep]

theorem of_splitFirst? {sep : Char} {cs a b : List Char} (h : splitFirst? sep cs = some (a, b)) :
    cs = a ++ sep :: b :=
  (splitFirst?_eq_some_iff.mp h).1

/-- What surrounds a text goes to the two sides of its first separator. -/
theorem splitFirst?_surrounded {sep : Char} {front back : List Char} (hfront : sep ∉ front)
    (hback : sep ∉ back) (cs : List Char) : splitFirst? sep (front ++ cs ++ back) =
      (splitFirst? sep cs).map (Prod.map (front ++ ·) (· ++ back)) := by
  cases hsplit : splitFirst? sep cs with
  | some sides =>
    obtain ⟨a, b⟩ := sides
    obtain ⟨rfl, ha⟩ := splitFirst?_eq_some_iff.mp hsplit
    exact splitFirst?_eq_some_iff.mpr ⟨by simp, by simp [hfront, ha]⟩
  | none =>
    have hcs := splitFirst?_eq_none_iff.mp hsplit
    exact splitFirst?_eq_none_iff.mpr (by simp [hfront, hcs, hback])

/-- A character that is no separator belongs to the first piece. -/
theorem splitOnP_cons_plain {c : Char} (h : p c = false) (cs : List Char) :
    ∃ piece pieces, cs.splitOnP p = piece :: pieces ∧
      (c :: cs).splitOnP p = (c :: piece) :: pieces := by
  obtain ⟨piece, pieces, heq⟩ := List.exists_cons_of_ne_nil (List.splitOnP_ne_nil p cs)
  exact ⟨piece, pieces, heq, by simp [List.splitOnP_cons_eq_if_modifyHead, h, heq]⟩

/-- Pieces are made of the characters between the separators. -/
theorem plain_of_mem_splitOnP {piece : List Char} (h : piece ∈ cs.splitOnP p) {c : Char}
    (hc : c ∈ piece) : c ∈ cs ∧ p c = false := by
  induction cs generalizing piece with
  | nil =>
    rw [List.mem_singleton.mp h] at hc
    cases hc
  | cons d cs ih =>
    by_cases hd : p d = true
    · rw [List.splitOnP_cons_eq_if_modifyHead, if_pos hd] at h
      rcases List.mem_cons.mp h with rfl | h
      · cases hc
      · exact (ih h hc).imp_left (List.mem_cons_of_mem d)
    · rw [Bool.not_eq_true] at hd
      obtain ⟨first, pieces, hrest, hsplit⟩ := splitOnP_cons_plain hd cs
      rw [hrest] at ih
      rw [hsplit] at h
      rcases List.mem_cons.mp h with rfl | h
      · rcases List.mem_cons.mp hc with rfl | hc
        · exact ⟨List.mem_cons_self, hd⟩
        · exact (ih List.mem_cons_self hc).imp_left (List.mem_cons_of_mem d)
      · exact (ih (List.mem_cons_of_mem first h) hc).imp_left (List.mem_cons_of_mem d)

/-- A text is some pieces with a separator between them, and none inside. -/
structure Splits (sep : Char) (cs : List Char) (pieces : List (List Char)) : Prop where
  ne_nil : pieces ≠ []
  plain : ∀ piece ∈ pieces, sep ∉ piece
  joined : [sep].intercalate pieces = cs

/-- There is one way to split a text, and it is found. -/
theorem splits_iff {sep : Char} {cs : List Char} {pieces : List (List Char)} :
    Splits sep cs pieces ↔ cs.splitOn sep = pieces := by
  constructor
  · rintro ⟨hne, hplain, rfl⟩
    exact List.splitOn_intercalate sep hplain hne
  · rintro rfl
    refine ⟨List.splitOn_ne_nil sep cs, fun piece hpiece hsep => ?_, List.intercalate_splitOn sep⟩
    have hplain := (plain_of_mem_splitOnP hpiece hsep).2
    simp at hplain

/-- A character is a separator or stands in a piece. -/
theorem mem_splitOnP {p : Char → Bool} {cs : List Char} {c : Char} (h : c ∈ cs) :
    p c = true ∨ ∃ piece ∈ cs.splitOnP p, c ∈ piece := by
  induction cs with
  | nil => cases h
  | cons d cs ih =>
    by_cases hd : p d = true
    · rw [List.splitOnP_cons_eq_if_modifyHead, if_pos hd]
      rcases List.mem_cons.mp h with rfl | h
      · exact .inl hd
      · refine (ih h).imp_right ?_
        rintro ⟨piece, hpiece, hc⟩
        exact ⟨piece, List.mem_cons_of_mem _ hpiece, hc⟩
    · rw [Bool.not_eq_true] at hd
      obtain ⟨first, pieces, hrest, hsplit⟩ := splitOnP_cons_plain hd cs
      rw [hrest] at ih
      rw [hsplit]
      rcases List.mem_cons.mp h with rfl | h
      · exact .inr ⟨_, List.mem_cons_self, List.mem_cons_self⟩
      · refine (ih h).imp_right ?_
        rintro ⟨piece, hpiece, hc⟩
        rcases List.mem_cons.mp hpiece with rfl | hpiece
        · exact ⟨_, List.mem_cons_self, List.mem_cons_of_mem _ hc⟩
        · exact ⟨piece, List.mem_cons_of_mem _ hpiece, hc⟩

/-- Two texts of different splits stay apart when their characters are replaced alike. -/
theorem splitFirst?_map {f : Char → Char} {sep : Char} (hf : ∀ c, f c = sep ↔ c = sep)
    (cs : List Char) :
    splitFirst? sep (cs.map f) = (splitFirst? sep cs).map fun (a, b) => (a.map f, b.map f) := by
  induction cs with
  | nil => rfl
  | cons c cs ih =>
    simp only [List.map_cons, splitFirst?_cons, hf, ih]
    split
    · rfl
    · cases splitFirst? sep cs <;> rfl

theorem splitOnP_map {f : Char → Char} {p : Char → Bool} (hf : ∀ c, p (f c) = p c)
    (cs : List Char) : (cs.map f).splitOnP p = (cs.splitOnP p).map (List.map f) := by
  induction cs with
  | nil => rfl
  | cons c cs ih =>
    simp only [List.map_cons, List.splitOnP_cons_eq_if_modifyHead, hf, ih]
    split
    · rfl
    · cases cs.splitOnP p <;> rfl

/-- Joining brings in nothing but the separator. -/
theorem mem_of_mem_intercalate {sep : List Char} {pieces : List (List Char)} {c : Char}
    (h : c ∈ sep.intercalate pieces) : c ∈ sep ∨ ∃ piece ∈ pieces, c ∈ piece := by
  induction pieces with
  | nil => cases h
  | cons piece pieces ih =>
    cases pieces with
    | nil =>
      rw [List.intercalate_singleton] at h
      exact .inr ⟨piece, List.mem_cons_self, h⟩
    | cons piece' pieces =>
      rw [List.intercalate_cons_cons, List.append_assoc] at h
      rcases List.mem_append.mp h with h | h
      · exact .inr ⟨piece, List.mem_cons_self, h⟩
      rcases List.mem_append.mp h with h | h
      · exact .inl h
      · refine (ih h).imp_right ?_
        rintro ⟨piece'', hpiece, hc⟩
        exact ⟨piece'', List.mem_cons_of_mem piece hpiece, hc⟩

/-! ### Blanks -/

/-- Nothing but white space. -/
def Blank (cs : List Char) : Prop := ∀ c ∈ cs, isBlank c = true

instance (cs : List Char) : Decidable (Blank cs) :=
  decidable_of_iff (cs.all isBlank = true) List.all_eq_true

/-- White space holds nothing else. -/
theorem Blank.not_mem {cs : List Char} (h : Blank cs) {c : Char} (hc : isBlank c = false) :
    c ∉ cs := fun hmem => Bool.false_ne_true (hc.symm.trans (h c hmem))

theorem trimChars_eq (cs : List Char) :
    trimChars cs = (cs.dropWhile isBlank).rdropWhile isBlank := rfl

/-- Where no blank is, there is none to drop. -/
theorem trimChars_eq_self {cs : List Char} (h : ∀ c ∈ cs, isBlank c = false) :
    trimChars cs = cs := by
  have hfront : cs.dropWhile isBlank = cs := by
    cases cs with
    | nil => rfl
    | cons c cs => simp [h c List.mem_cons_self]
  rw [trimChars_eq, hfront, List.rdropWhile_eq_self_iff]
  exact fun hne => Bool.eq_false_iff.mp (h _ (List.getLast_mem hne))

/-- Nothing is left of a text just when there are only blanks. -/
theorem trimChars_eq_nil_iff {cs : List Char} : trimChars cs = [] ↔ cs.all isBlank = true := by
  rw [trimChars_eq, List.rdropWhile_eq_nil_iff, List.all_eq_true]
  refine ⟨fun h => List.dropWhile_eq_nil_iff.mp ?_,
    fun h c hc => h c ((List.dropWhile_sublist _).subset hc)⟩
  by_contra hne
  have hhead := List.head_dropWhile_not isBlank hne
  rw [h _ (List.head_mem hne)] at hhead
  cases hhead

theorem trimChars_eq_nil_iff_blank {cs : List Char} : trimChars cs = [] ↔ Blank cs := by
  rw [trimChars_eq_nil_iff, List.all_eq_true, Blank]

/-- Trimming leaves a text that starts with something. -/
theorem trimChars_cons {c : Char} (h : isBlank c = false) (cs : List Char) :
    ∃ cs', trimChars (c :: cs) = c :: cs' := by
  have hfront : (c :: cs).dropWhile isBlank = c :: cs := by simp [h]
  have htrim : trimChars (c :: cs) = (c :: cs).rdropWhile isBlank := by
    rw [trimChars_eq, hfront]
  have hbegins : (c :: cs).rdropWhile isBlank <+: c :: cs := List.rdropWhile_prefix _ _
  rcases List.prefix_cons_iff.mp hbegins with hnil | ⟨cs', heq, -⟩
  · rw [List.rdropWhile_eq_nil_iff] at hnil
    cases h.symm.trans (hnil c List.mem_cons_self)
  · exact ⟨cs', htrim.trans heq⟩

/-- Blanks at the ends make no difference. -/
theorem trimChars_padded {front back : List Char} (hfront : ∀ c ∈ front, isBlank c = true)
    (hback : ∀ c ∈ back, isBlank c = true) (cs : List Char) :
    trimChars (front ++ cs ++ back) = trimChars cs := by
  have hdrop {pad : List Char} (hpad : ∀ c ∈ pad, isBlank c = true) (cs : List Char) :
      (pad ++ cs).dropWhile isBlank = cs.dropWhile isBlank := by
    rw [List.dropWhile_append, List.dropWhile_eq_nil_iff.mpr hpad]
    rfl
  have hback' : ∀ c ∈ back.reverse, isBlank c = true := fun c hc => hback c (List.mem_reverse.mp hc)
  rw [trimChars, trimChars, List.append_assoc, hdrop hfront, List.dropWhile_append]
  cases hcs : cs.dropWhile isBlank with
  | nil => simp [List.dropWhile_eq_nil_iff.mpr hback]
  | cons c rest =>
    rw [List.isEmpty_cons, if_neg Bool.false_ne_true, List.reverse_append, hdrop hback']

/-- What trimming drops are the blanks at the ends. -/
theorem exists_trimChars (cs : List Char) :
    ∃ front back, Blank front ∧ Blank back ∧ front ++ trimChars cs ++ back = cs := by
  refine ⟨cs.takeWhile isBlank, (cs.dropWhile isBlank).rtakeWhile isBlank, ?_, ?_, ?_⟩
  · exact fun c => List.mem_takeWhile_imp
  · exact fun c => List.mem_rtakeWhile_imp
  · rw [trimChars_eq, List.append_assoc, List.rdropWhile_append_rtakeWhile,
      List.takeWhile_append_dropWhile]

/-- Between two characters that are no blanks nothing is dropped. -/
theorem trimChars_between {a b : Char} (ha : isBlank a = false) (hb : isBlank b = false)
    (cs : List Char) : trimChars (a :: (cs ++ [b])) = a :: (cs ++ [b]) := by
  simp [trimChars, ha, hb]

end PingPost.Text
