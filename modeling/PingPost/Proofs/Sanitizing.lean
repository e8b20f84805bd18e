import Mathlib.Data.List.DropRight
import PingPost.Proofs.Removal
import PingPost.Validation.Sanitize

/-!
What sanitising leaves.

Each removal leaves no place where its pattern matched, but it brings characters together that
stood apart, and these may match again (`Sanitize.text_not_clean`). Nothing else can: a part of a
sanitised text that stood in one piece in the source does not match (`Sanitize.not_matches`). So
a sanitised text is clean, and sanitising it again changes nothing, just when no match was brought
together (`Sanitize.value_clean_iff`).

`Sanitize.trace` runs the removals on characters that carry their positions in the source along.
-/

namespace PingPost.Sanitize

open Pattern

/-- Whether there is nothing to remove from a text. -/
def Clean (s : String) : Prop := ∀ p ∈ removed, p.isMatch s = false

theorem steady_of_mem_removed : ∀ p ∈ removed, p.steady = true := by
  have hnames : blockNames.steady = true := steady_oneOf (by simp)
  have hschemes : (oneOf [word true "javascript", word true "vbscript"]).steady = true :=
    steady_oneOf (by simp)
  simp only [removed, block, tag, scriptAddress, handler, List.forall_mem_cons, steady_sequence,
    List.all_cons, steady_word, hnames, hschemes]
  exact ⟨rfl, rfl, rfl, rfl, by simp⟩

theorem consumes_of_mem_removed : ∀ p ∈ removed, p.consumes = true := by
  have hletter : (word false "<").consumes = true := by simp [word, consumes]
  have hcolon : (word false ":").consumes = true := by simp [word, consumes]
  have hequals : (word false "=").consumes = true := by simp [word, consumes]
  simp [removed, block, tag, scriptAddress, handler, hletter, hcolon, hequals]

/-! ### Removals one after the other -/

section

variable {ps : List Pattern} {s : String}

theorem foldl_removeAll_sublist (ps : List Pattern) (s : String) :
    (ps.foldl (fun s p => p.removeAll s) s).toList.Sublist s.toList := by
  induction ps generalizing s with
  | nil => exact .refl _
  | cons p ps ih => exact (ih _).trans (p.removeAll_sublist s)

/-- Some removals leave a text alone just when nothing in it matches. -/
theorem foldl_removeAll_eq_self_iff (hsteady : ∀ p ∈ ps, p.steady = true)
    (hconsumes : ∀ p ∈ ps, p.consumes = true) :
    ps.foldl (fun s p => p.removeAll s) s = s ↔ ∀ p ∈ ps, p.isMatch s = false := by
  induction ps with
  | nil => simp
  | cons p ps ih =>
    obtain ⟨hp, hps⟩ := List.forall_mem_cons.mp hsteady
    obtain ⟨hp', hps'⟩ := List.forall_mem_cons.mp hconsumes
    have hfirst := removeAll_eq_self_iff (s := s) hp hp'
    rw [List.foldl_cons, List.forall_mem_cons, ← hfirst, ← ih hps hps']
    constructor
    · intro hself
      have hrest := foldl_removeAll_sublist ps (p.removeAll s)
      rw [hself] at hrest
      have hone : p.removeAll s = s :=
        String.toList_inj.mp ((p.removeAll_sublist s).antisymm hrest)
      rw [hone] at hself
      exact ⟨hone, hself⟩
    · rintro ⟨hone, hrest⟩
      rw [hone, hrest]

end

/-! ### Blanks at the ends -/

theorem trimChars_sublist (cs : List Char) : (Text.trimChars cs).Sublist cs :=
  ((List.rdropWhile_prefix _ _).sublist).trans (List.dropWhile_sublist _)

theorem trim_trim (s : String) : Text.trim (Text.trim s) = Text.trim s := by
  let front := s.toList.dropWhile Text.isBlank
  let both := front.rdropWhile Text.isBlank
  -- What is dropped at the end leaves the first character alone.
  have hfront : both.dropWhile Text.isBlank = both := by
    refine List.dropWhile_eq_self_iff.mpr fun hpos => ?_
    have hbegins : both <+: front := List.rdropWhile_prefix _ _
    have hpos' := Nat.lt_of_lt_of_le hpos hbegins.length_le
    rw [hbegins.getElem hpos]
    exact List.dropWhile_get_zero_not Text.isBlank s.toList hpos'
  have hboth : Text.trimChars both = both := by
    change (both.dropWhile Text.isBlank).rdropWhile Text.isBlank = both
    rw [hfront]
    exact List.rdropWhile_idempotent _ _
  rw [Text.trim, Text.trim, String.toList_ofList]
  exact congrArg String.ofList hboth

/-- Sanitising leaves a trimmed text alone just when there is nothing to remove. -/
theorem text_eq_self_iff {s : String} : text s = s ↔ Clean s ∧ Text.trim s = s := by
  rw [Clean, ← foldl_removeAll_eq_self_iff steady_of_mem_removed consumes_of_mem_removed]
  constructor
  · intro hself
    have hrest := trimChars_sublist (removed.foldl (fun s p => p.removeAll s) s).toList
    have htrim : Text.trimChars (removed.foldl (fun s p => p.removeAll s) s).toList = s.toList := by
      rw [← String.toList_ofList (l := Text.trimChars _)]
      exact congrArg String.toList hself
    rw [htrim] at hrest
    have hfold := String.toList_inj.mp ((foldl_removeAll_sublist removed s).antisymm hrest)
    rw [text, hfold] at hself
    exact ⟨hfold, hself⟩
  · rintro ⟨hfold, htrim⟩
    rw [text, hfold, htrim]

/-- Sanitising a second time changes nothing just when the first time left nothing to remove. -/
theorem text_text_eq_iff {s : String} : text (text s) = text s ↔ Clean (text s) := by
  rw [text_eq_self_iff, and_iff_left_iff_imp]
  exact fun _ => trim_trim _

/-! ### Where the characters come from -/

/-- Characters with their positions, without those that are blank at both ends. -/
def trimTrace (cs : List (Char × Nat)) : List (Char × Nat) :=
  (cs.dropWhile fun c => Text.isBlank c.1).rdropWhile fun c => Text.isBlank c.1

/-- The characters of a sanitised text with their positions in the source. -/
def trace (s : String) : List (Char × Nat) :=
  trimTrace (removed.foldl (fun cs p => p.strip cs) s.toList.zipIdx)

theorem map_trimTrace (cs : List (Char × Nat)) :
    (trimTrace cs).map (·.1) = Text.trimChars (cs.map (·.1)) := by
  have hdrop (cs : List (Char × Nat)) : (cs.dropWhile fun c => Text.isBlank c.1).map (·.1) =
      (cs.map (·.1)).dropWhile Text.isBlank := by
    rw [List.dropWhile_map]
    rfl
  simp only [trimTrace, Text.trimChars, List.rdropWhile, List.map_reverse, hdrop]

theorem map_foldl_strip (ps : List Pattern) {cs : List (Char × Nat)} {s : String}
    (h : cs.map (·.1) = s.toList) : (ps.foldl (fun cs p => p.strip cs) cs).map (·.1) =
      (ps.foldl (fun s p => p.removeAll s) s).toList := by
  induction ps generalizing cs s with
  | nil => exact h
  | cons p ps ih => exact ih (map_strip h)

theorem map_trace (s : String) : (trace s).map (·.1) = (text s).toList := by
  rw [trace, map_trimTrace, map_foldl_strip removed (List.zipIdx_map_fst 0 s.toList), text,
    Text.trim, String.toList_ofList]

theorem foldl_strip_sublist (ps : List Pattern) (cs : List (Char × Nat)) :
    (ps.foldl (fun cs p => p.strip cs) cs).Sublist cs := by
  induction ps generalizing cs with
  | nil => exact .refl _
  | cons p ps ih => exact (ih _).trans (p.strip_sublist cs)

/-- What is left in the end is part of what each removal left. -/
theorem exists_sublist_strip {ps : List Pattern} {p : Pattern} (hp : p ∈ ps)
    (cs : List (Char × Nat)) : ∃ cs', cs'.Sublist cs ∧
      (ps.foldl (fun cs p => p.strip cs) cs).Sublist (p.strip cs') := by
  obtain ⟨front, back, rfl⟩ := List.append_of_mem hp
  refine ⟨front.foldl (fun cs p => p.strip cs) cs, foldl_strip_sublist front cs, ?_⟩
  rw [List.foldl_append]
  exact foldl_strip_sublist back _

theorem trimTrace_sublist (cs : List (Char × Nat)) : (trimTrace cs).Sublist cs :=
  ((List.rdropWhile_prefix _ _).sublist).trans (List.dropWhile_sublist _)

/-! ### What stood in one piece -/

/-- Whether the part between two positions of what is left of a text stood in one piece, together
with its neighbours: all are moved by one distance. -/
structure MovedBy (text : List Char) (left : List (Char × Nat)) (i j d : Nat) : Prop where
  moved : ∀ t c, i ≤ t + 1 → t ≤ j → left[t]? = some c → c.2 = t + d
  first : i = 0 → d = 0
  last : j = left.length → j + d = text.length

/-- Whether sanitising a text brings together something that is to be removed. -/
def Joins (s : String) : Prop :=
  ∃ p ∈ removed, ∃ i j, p.Matches (text s).toList i j ∧ ¬∃ d, MovedBy s.toList (trace s) i j d

/-- How many characters stand in front of a position of the source. -/
def rank (cs : List (Char × Nat)) (k : Nat) : Nat := cs.countP (·.2 < k)

section

variable {cs fs : List (Char × Nat)} {c : Char × Nat}

theorem rank_append {front back : List (Char × Nat)}
    (h : (front ++ c :: back).Pairwise fun a b => a.2 < b.2) :
    rank (front ++ c :: back) c.2 = front.length ∧
      rank (front ++ c :: back) (c.2 + 1) = front.length + 1 := by
  obtain ⟨-, hback, hfront⟩ := List.pairwise_append.mp h
  have hafter := (List.pairwise_cons.mp hback).1
  have hcount (k : Nat) (hk : c.2 ≤ k) (hk' : k ≤ c.2 + 1) :
      rank front k = front.length ∧ rank back k = 0 := by
    rw [rank, rank, List.countP_eq_length, List.countP_eq_zero]
    refine ⟨fun b hb => ?_, fun b hb => ?_⟩
    · have := hfront b hb c List.mem_cons_self
      simp only [decide_eq_true_eq]
      omega
    · have := hafter b hb
      simp only [decide_eq_true_eq]
      omega
  have hat := hcount c.2 (Nat.le_refl _) (Nat.le_succ _)
  have hnext := hcount (c.2 + 1) (Nat.le_succ _) (Nat.le_refl _)
  have hsplit (k : Nat) : rank (front ++ c :: back) k =
      rank front k + (rank back k + if c.2 < k then 1 else 0) := by
    simp only [rank, List.countP_append, List.countP_cons, decide_eq_true_eq]
  rw [hsplit, hsplit, hat.1, hat.2, hnext.1, hnext.2, if_neg (Nat.lt_irrefl _),
    if_pos (Nat.lt_succ_self _)]
  exact ⟨rfl, rfl⟩

theorem getElem?_rank (h : cs.Pairwise fun a b => a.2 < b.2) (hc : c ∈ cs) :
    cs[rank cs c.2]? = some c := by
  obtain ⟨front, back, rfl⟩ := List.append_of_mem hc
  simp [(rank_append h).1]

theorem rank_succ (h : cs.Pairwise fun a b => a.2 < b.2) (hc : c ∈ cs) :
    rank cs (c.2 + 1) = rank cs c.2 + 1 := by
  obtain ⟨front, back, rfl⟩ := List.append_of_mem hc
  rw [(rank_append h).1, (rank_append h).2]

theorem pairwise_of_sublist_zipIdx {whole : List Char} (h : cs.Sublist whole.zipIdx) :
    cs.Pairwise fun a b => a.2 < b.2 := by
  refine List.Pairwise.sublist h (List.pairwise_map.mp ?_)
  rw [List.zipIdx_map_snd]
  exact List.pairwise_lt_range' ..

theorem rank_of_length_le {whole : List Char} (h : cs.Sublist whole.zipIdx) :
    rank cs whole.length = cs.length := by
  rw [rank, List.countP_eq_length]
  intro c hc
  simpa using (List.getElem?_eq_some_iff.mp (List.mem_zipIdx_iff_getElem?.mp (h.subset hc))).1

/-- What stood in one piece looks the same among all the characters that were left at some time. -/
theorem MovedBy.sameAround {whole : List Char} {left : List (Char × Nat)} {i j d : Nat}
    (h : MovedBy whole left i j d) (hcs : cs.Sublist whole.zipIdx) (hleft : left.Sublist cs)
    (hj : j ≤ left.length) :
    SameAround (left.map (·.1)) (cs.map (·.1)) (fun t => rank cs (t + d)) i j := by
  have hordered := pairwise_of_sublist_zipIdx hcs
  -- A character of the piece has its place among the others, and so has the one behind it.
  have hplace (t : Nat) (hi : i ≤ t + 1) (htj : t ≤ j) (ht : t < left.length) :
      cs[rank cs (t + d)]? = left[t]? ∧ rank cs (t + 1 + d) = rank cs (t + d) + 1 := by
    have hat := List.getElem?_eq_getElem ht
    have hmem : left[t] ∈ cs := hleft.subset (List.getElem_mem ht)
    have hmoved := h.moved t _ hi htj hat
    rw [Nat.add_right_comm, ← hmoved, getElem?_rank hordered hmem, hat]
    exact ⟨rfl, rank_succ hordered hmem⟩
  have hbehind (t : Nat) (hi : i ≤ t + 1) (htj : t ≤ j) : cs[rank cs (t + d)]? = left[t]? := by
    by_cases ht : t < left.length
    · exact (hplace t hi htj ht).1
    · obtain rfl : t = j := by omega
      rw [h.last (by omega), rank_of_length_le hcs, List.getElem?_eq_none (Nat.le_refl _),
        List.getElem?_eq_none (by omega)]
  refine ⟨fun t hi htj => (hplace t (by omega) (by omega) (by omega)).2, fun t hi htj => ?_,
    fun t hi htj => ?_, fun t _ _ _ => ?_⟩
  · cases t with
    | zero =>
      have hzero : rank cs 0 = 0 := by simp [rank]
      rw [h.first (by omega), hzero]
      rfl
    | succ t =>
      obtain ⟨hat, hnext⟩ := hplace t hi (by omega) (by omega)
      simp only [hnext, charBefore, List.getElem?_map, hat]
  · rw [List.getElem?_map, List.getElem?_map, hbehind t (by omega) htj]
  · rw [List.length_map]
    exact List.countP_le_length

end

/-- **A part of a sanitised text that stood in one piece does not match.** -/
theorem not_matches {p : Pattern} (hp : p ∈ removed) {s : String} {i j d : Nat}
    (h : MovedBy s.toList (trace s) i j d) : ¬p.Matches (text s).toList i j := by
  intro hij
  have hlt := hij.lt (consumes_of_mem_removed p hp)
  have hj : j ≤ (trace s).length := by
    have := hij.le_length hlt
    rwa [← map_trace, List.length_map] at this
  -- The characters from which the pattern was removed, with those that were left then.
  obtain ⟨cs, hcs, hstrip⟩ := exists_sublist_strip hp s.toList.zipIdx
  have hleft : (trace s).Sublist (p.strip cs) := (trimTrace_sublist _).trans hstrip
  have hsame := h.sameAround hcs (hleft.trans (p.strip_sublist cs)) hj
  rw [← map_trace] at hij
  have hmatch := hij.transfer hsame (Nat.le_refl i) (Nat.le_refl j)
  have hi : i < (trace s).length := Nat.lt_of_lt_of_le hlt hj
  have hat : cs[rank cs (i + d)]? = some (trace s)[i] := by
    have hmem := (hleft.trans (p.strip_sublist cs)).subset (List.getElem_mem hi)
    have hmoved := h.moved i _ (Nat.le_succ i) (Nat.le_of_lt hlt) (List.getElem?_eq_getElem hi)
    rw [← hmoved]
    exact getElem?_rank (pairwise_of_sublist_zipIdx hcs) hmem
  exact not_matches_of_mem_strip (steady_of_mem_removed p hp) (consumes_of_mem_removed p hp)
    ((nodup_zipIdx _).sublist hcs) (hleft.subset (List.getElem_mem hi)) hat _ hmatch

/-- A sanitised text is clean just when nothing was brought together. -/
theorem clean_text_iff {s : String} : Clean (text s) ↔ ¬Joins s := by
  constructor
  · rintro hclean ⟨p, hp, i, j, hij, -⟩
    have hmatch : p.isMatch (text s) = true := by
      refine isMatch_iff.mpr ⟨i, j, ?_, hij⟩
      exact Nat.le_trans hij.le (hij.le_length (hij.lt (consumes_of_mem_removed p hp)))
    rw [hclean p hp] at hmatch
    cases hmatch
  · intro hjoins p hp
    rw [← Bool.not_eq_true, isMatch_iff]
    rintro ⟨i, j, -, hij⟩
    exact hjoins ⟨p, hp, i, j, hij, fun ⟨d, hd⟩ => not_matches hp hd hij⟩

/-! ### Values -/

mutual

/-- The texts in a value. -/
def texts : Json → List String
  | .text s => [s]
  | .list items => textsOfItems items
  | .object fields => textsOfFields fields
  | _ => []

/-- The texts in some values. -/
def textsOfItems : List Json → List String
  | [] => []
  | v :: vs => texts v ++ textsOfItems vs

/-- The texts in the values of some fields. -/
def textsOfFields : List (String × Json) → List String
  | [] => []
  | (_, v) :: rest => texts v ++ textsOfFields rest

end

mutual

theorem texts_value (v : Json) : texts (value v) = (texts v).map text := by
  cases v with
  | text s => rfl
  | list items => exact texts_valueItems items
  | object fields => exact texts_valueFields fields
  | _ => rfl

theorem texts_valueItems (vs : List Json) :
    textsOfItems (valueItems vs) = (textsOfItems vs).map text := by
  cases vs with
  | nil => rfl
  | cons v vs =>
    rw [valueItems, textsOfItems, textsOfItems, List.map_append, texts_value v,
      texts_valueItems vs]

theorem texts_valueFields (fields : List (String × Json)) :
    textsOfFields (valueFields fields) = (textsOfFields fields).map text := by
  cases fields with
  | nil => rfl
  | cons f rest =>
    rw [valueFields, textsOfFields, textsOfFields, List.map_append, texts_value f.2,
      texts_valueFields rest]

end

mutual

theorem value_eq_self_iff (v : Json) : value v = v ↔ ∀ s ∈ texts v, text s = s := by
  cases v with
  | text s => simp [value, texts]
  | list items => simp [value, texts, valueItems_eq_self_iff items]
  | object fields => simp [value, texts, valueFields_eq_self_iff fields]
  | _ => simp [value, texts]

theorem valueItems_eq_self_iff (vs : List Json) :
    valueItems vs = vs ↔ ∀ s ∈ textsOfItems vs, text s = s := by
  cases vs with
  | nil => simp [valueItems, textsOfItems]
  | cons v vs =>
    rw [valueItems, textsOfItems, List.cons.injEq, List.forall_mem_append, value_eq_self_iff v,
      valueItems_eq_self_iff vs]

theorem valueFields_eq_self_iff (fields : List (String × Json)) :
    valueFields fields = fields ↔ ∀ s ∈ textsOfFields fields, text s = s := by
  cases fields with
  | nil => simp [valueFields, textsOfFields]
  | cons f rest =>
    obtain ⟨k, v⟩ := f
    rw [valueFields, textsOfFields, List.cons.injEq, List.forall_mem_append, Prod.mk.injEq,
      value_eq_self_iff v, valueFields_eq_self_iff rest, and_iff_right rfl]

end

/-- **A sanitised text is clean, and sanitising it again changes nothing, just when no match was
brought together**; and so with a value and all texts in it. -/
theorem clean_iff_not_joins (s : String) (v : Json) :
    ((Clean (text s) ↔ ¬Joins s) ∧ (text (text s) = text s ↔ ¬Joins s)) ∧
      ((∀ t ∈ texts (value v), Clean t) ↔ ∀ t ∈ texts v, ¬Joins t) ∧
        (value (value v) = value v ↔ ∀ t ∈ texts v, ¬Joins t) := by
  refine ⟨⟨clean_text_iff, text_text_eq_iff.trans clean_text_iff⟩, ?_, ?_⟩
  · simp only [texts_value, List.forall_mem_map, clean_text_iff]
  · simp only [value_eq_self_iff, texts_value, List.forall_mem_map, text_text_eq_iff,
      clean_text_iff]

/-! ### What is brought together -/

/-- A tag inside a tag: what stands around it is a tag itself. -/
def nestedTags : String := "<<b>script>alert(1)<<b>/script>"

theorem text_eq (s : String) : text s = Text.trim (handler.removeAll
    (scriptAddress.removeAll (tag.removeAll (block.removeAll s)))) := rfl

theorem removeAll_of_not_isMatch {p : Pattern} (hp : p ∈ removed) {s : String}
    (h : p.isMatch s = false) : p.removeAll s = s :=
  (removeAll_eq_self_iff (steady_of_mem_removed p hp) (consumes_of_mem_removed p hp)).mpr h

theorem text_nestedTags : text nestedTags = "<script>alert(1)</script>" := by
  have hblock : block.isMatch nestedTags = false :=
    isMatch_sequence_of_not_infix "</" (by simp) (by decide +kernel)
  have htag : tag.removeAll nestedTags = "<script>alert(1)</script>" := by decide +kernel
  have haddress : scriptAddress.isMatch "<script>alert(1)</script>" = false :=
    isMatch_sequence_of_not_infix ":" (by simp) (by decide +kernel)
  have hhandler : handler.isMatch "<script>alert(1)</script>" = false :=
    isMatch_sequence_of_not_infix "=" (by simp) (by decide +kernel)
  rw [text_eq, removeAll_of_not_isMatch (by simp [removed]) hblock, htag,
    removeAll_of_not_isMatch (by simp [removed]) haddress,
    removeAll_of_not_isMatch (by simp [removed]) hhandler]
  decide +kernel

/-- A sanitised text may hold a tag, and sanitising it again removes it. -/
theorem text_not_clean :
    ¬Clean (text nestedTags) ∧ text (text nestedTags) ≠ text nestedTags := by
  have hdirty : ¬Clean (text nestedTags) := by
    intro hclean
    have htag := hclean tag (by simp [removed])
    rw [text_nestedTags] at htag
    revert htag
    decide +kernel
  exact ⟨hdirty, mt text_text_eq_iff.mp hdirty⟩

end PingPost.Sanitize
