import PingPost.Config.Basic
import PingPost.Proofs.Payload
import PingPost.Proofs.Pieces

/-!
The list of webhook secrets.

A list is read just when each of its pieces that is not blank gives a secret to a buyer
(`Config.Assigns`), and the table that is read has of each buyer the secret of the last such piece
(`Config.get?_of_secrets`). So a table can be written as a list, in any order and with blanks around
all parts of it (`Config.Prints`), and is read back from it. Secrets may hold equals signs, since
the first one of a piece ends the buyer.
-/

namespace PingPost

theorem mapM_eq_ok_iff {ε α β : Type} {f : α → Except ε β} {xs : List α} {ys : List β} :
    xs.mapM f = .ok ys ↔
      (∀ x ∈ xs, ∃ y, f x = .ok y) ∧ ys = xs.filterMap fun x => (f x).toOption := by
  induction xs generalizing ys with
  | nil => exact ⟨fun h => ⟨by simp, (Except.ok.inj h).symm⟩, fun h => congrArg Except.ok h.2.symm⟩
  | cons x xs ih =>
    rw [List.mapM_cons, List.forall_mem_cons, List.filterMap_cons]
    simp only [bind_eq_ok_iff, ih]
    constructor
    · rintro ⟨y, hy, _, ⟨hxs, rfl⟩, heq⟩
      cases heq
      exact ⟨⟨⟨y, hy⟩, hxs⟩, by simp [hy, Except.toOption]⟩
    · rintro ⟨⟨⟨y, hy⟩, hxs⟩, rfl⟩
      exact ⟨y, hy, _, ⟨hxs, rfl⟩, by simp [hy, Except.toOption, pure, Except.pure]⟩

namespace Table

variable {κ α β : Type} [DecidableEq κ]

theorem get?_eq_findSome? (k : κ) (t : Table κ α) :
    t.get? k = t.findSome? fun e => if k = e.1 then some e.2 else none := by
  induction t with
  | nil => rfl
  | cons e t ih =>
    rw [get?_cons, List.findSome?_cons, ih]
    split <;> rfl

/-- Of what is read from a list, the last entry of a key counts. -/
theorem get?_ofList_filterMap [LT κ] [DecidableLT κ] {f : β → Option (κ × α)} {xs : List β} {k : κ}
    {v : α} : (ofList (xs.filterMap f)).get? k = some v ↔ ∃ before x after,
      xs = before ++ x :: after ∧ f x = some (k, v) ∧ ∀ y ∈ after, ∀ w, f y ≠ some (k, w) := by
  have hread {x : β} {w : α} :
      ((f x).bind fun e => if k = e.1 then some e.2 else none) = some w ↔ f x = some (k, w) := by
    cases f x with
    | none => simp
    | some e => simp [Prod.ext_iff, eq_comm]
  rw [get?_ofList, ← List.filterMap_reverse, get?_eq_findSome?, ← List.head?_filterMap,
    List.filterMap_filterMap, List.head?_filterMap, List.findSome?_eq_some_iff]
  simp only [Option.eq_none_iff_forall_ne_some, ne_eq, hread]
  constructor
  · rintro ⟨after, x, before, hxs, hx, hlater⟩
    refine ⟨before.reverse, x, after.reverse, ?_, hx, by simpa using hlater⟩
    rw [← List.reverse_reverse xs, hxs]
    simp
  · rintro ⟨before, x, after, rfl, hx, hlater⟩
    exact ⟨after.reverse, x, before.reverse, by simp, hx, by simpa using hlater⟩

end Table

namespace Config

open Text

/-- A piece gives a secret to a buyer: they stand around its first equals sign, and neither is
blank. -/
def Assigns (piece : List Char) (buyer secret : String) : Prop :=
  ∃ before after, piece = before ++ '=' :: after ∧ '=' ∉ before ∧ ¬Blank before ∧ ¬Blank after ∧
    String.ofList (trimChars before) = buyer ∧ String.ofList (trimChars after) = secret

variable {piece : List Char} {pieces : List (List Char)} {buyer other : String} {text : String}
  {table : Table String String} {e : String × String}

theorem assigns_iff : Assigns piece buyer other ↔ ∃ before after,
    splitFirst? '=' piece = some (before, after) ∧ ¬Blank before ∧ ¬Blank after ∧
      String.ofList (trimChars before) = buyer ∧ String.ofList (trimChars after) = other := by
  simp only [Assigns, splitFirst?_eq_some_iff, and_assoc]

theorem secret_eq_ok_iff : secret piece = .ok e ↔ Assigns piece e.1 e.2 := by
  rw [assigns_iff, secret]
  cases splitFirst? '=' piece with
  | none => simp
  | some sides =>
    obtain ⟨before, after⟩ := sides
    simp only [Bool.or_eq_true, List.isEmpty_iff, trimChars_eq_nil_iff_blank, Option.some.injEq,
      Prod.mk.injEq]
    split
    · rename_i hblank
      simp only [reduceCtorEq, false_iff]
      rintro ⟨_, _, ⟨rfl, rfl⟩, hbefore, hafter, -⟩
      exact hblank.elim hbefore hafter
    · rename_i hfilled
      obtain ⟨hbefore, hafter⟩ := not_or.mp hfilled
      constructor
      · intro heq
        cases heq
        exact ⟨before, after, ⟨rfl, rfl⟩, hbefore, hafter, rfl, rfl⟩
      · rintro ⟨_, _, ⟨rfl, rfl⟩, -, -, hbuyer, hsecret⟩
        exact congrArg Except.ok (Prod.ext hbuyer hsecret)

/-- Blanks around a piece make no difference to what it assigns. -/
theorem assigns_trimChars : Assigns (trimChars piece) buyer other ↔ Assigns piece buyer other := by
  obtain ⟨front, back, hfront, hback, hpiece⟩ := exists_trimChars piece
  have hsplit : splitFirst? '=' piece =
      (splitFirst? '=' (trimChars piece)).map (Prod.map (front ++ ·) (· ++ back)) := by
    conv => lhs; rw [← hpiece]
    exact splitFirst?_surrounded (hfront.not_mem (by decide)) (hback.not_mem (by decide)) _
  have hnone : Blank [] := by decide
  have hleft (a : List Char) : trimChars (front ++ a) = trimChars a := by
    simpa using trimChars_padded hfront hnone a
  have hright (b : List Char) : trimChars (b ++ back) = trimChars b := by
    simpa using trimChars_padded hnone hback b
  rw [assigns_iff, assigns_iff, hsplit]
  simp only [← trimChars_eq_nil_iff_blank]
  cases splitFirst? '=' (trimChars piece) with
  | none => simp
  | some sides =>
    obtain ⟨a, b⟩ := sides
    simp only [Option.map_some, Option.some.injEq, Prod.map_apply, Prod.mk.injEq]
    constructor
    · rintro ⟨_, _, ⟨rfl, rfl⟩, h⟩
      exact ⟨_, _, ⟨rfl, rfl⟩, by rwa [hleft, hright]⟩
    · rintro ⟨_, _, ⟨rfl, rfl⟩, h⟩
      exact ⟨a, b, ⟨rfl, rfl⟩, by rwa [hleft, hright] at h⟩

/-- What a piece of a list assigns. -/
def assignment? (piece : List Char) : Option (String × String) :=
  (secret (trimChars piece)).toOption

theorem assignment?_eq_some_iff : assignment? piece = some e ↔ Assigns piece e.1 e.2 := by
  rw [← assigns_trimChars, ← secret_eq_ok_iff, assignment?]
  cases secret (trimChars piece) <;> simp [Except.toOption]

theorem assignment?_of_blank (h : Blank piece) : assignment? piece = none := by
  rw [assignment?, trimChars_eq_nil_iff_blank.mpr h]
  rfl

/-- What is skipped as blank would not have assigned anything. -/
theorem filterMap_filter_blank (pieces : List (List Char)) :
    (pieces.filter fun piece => ¬Blank piece).filterMap assignment? =
      pieces.filterMap assignment? := by
  rw [List.filterMap_filter]
  refine List.filterMap_congr fun piece _ => ?_
  by_cases hblank : Blank piece <;> simp [hblank, assignment?_of_blank]

/-- A list is read just when its pieces that are not blank assign something, and as their table. -/
theorem secrets_eq_ok_iff (h : Splits ',' text.toList pieces) : secrets text = .ok table ↔
    (∀ piece ∈ pieces, ¬Blank piece → ∃ buyer secret, Assigns piece buyer secret) ∧
      table = Table.ofList (pieces.filterMap assignment?) := by
  have hentry : ∀ piece, (∃ e, secret (trimChars piece) = .ok e) ↔
      ∃ buyer secret, Assigns piece buyer secret := fun piece => by
    simp only [secret_eq_ok_iff, assigns_trimChars, Prod.exists]
  have hfilled : (pieces.map trimChars).filter (fun e => !e.isEmpty) =
      (pieces.filter fun piece => ¬Blank piece).map trimChars := by
    rw [List.filter_map]
    refine congrArg _ (List.filter_congr fun piece _ => ?_)
    rw [Bool.eq_iff_iff]
    simp [trimChars_eq_nil_iff_blank]
  have hall : (∀ e ∈ (pieces.filter fun piece => ¬Blank piece).map trimChars,
      ∃ y, secret e = .ok y) ↔
        ∀ piece ∈ pieces, ¬Blank piece → ∃ buyer secret, Assigns piece buyer secret := by
    rw [List.forall_mem_map]
    simp [← hentry]
  have hpairs : ((pieces.filter fun piece => ¬Blank piece).map trimChars).filterMap
      (fun e => (secret e).toOption) = pieces.filterMap assignment? := by
    rw [List.filterMap_map]
    exact filterMap_filter_blank pieces
  unfold secrets
  simp only [splits_iff.mp h, hfilled, bind_eq_ok_iff, mapM_eq_ok_iff, hpairs, hall]
  constructor
  · rintro ⟨_, ⟨hassigns, rfl⟩, heq⟩
    exact ⟨hassigns, (Except.ok.inj heq).symm⟩
  · rintro ⟨hassigns, rfl⟩
    exact ⟨_, ⟨hassigns, rfl⟩, rfl⟩

/-- The table that is read has of each buyer the secret of the last piece that assigns one. -/
theorem get?_of_secrets (h : Splits ',' text.toList pieces) (hread : secrets text = .ok table) :
    table.get? buyer = some other ↔ ∃ before piece after, pieces = before ++ piece :: after ∧
      Assigns piece buyer other ∧ ∀ later ∈ after, ∀ secret, ¬Assigns later buyer secret := by
  rw [((secrets_eq_ok_iff h).mp hread).2, Table.get?_ofList_filterMap]
  simp only [ne_eq, assignment?_eq_some_iff]

/-! ### Lists in writing -/

/-- A buyer and a secret that can stand in a list. -/
structure Printable (e : String × String) : Prop where
  buyer_ne : e.1 ≠ ""
  buyer_trim : trim e.1 = e.1
  buyer_comma : ',' ∉ e.1.toList
  buyer_equals : '=' ∉ e.1.toList
  secret_ne : e.2 ≠ ""
  secret_trim : trim e.2 = e.2
  secret_comma : ',' ∉ e.2.toList

/-- A piece is a buyer and a secret around an equals sign, perhaps with blanks around both. -/
inductive Writes (e : String × String) : List Char → Prop
  | mk {a b c d : List Char} (ha : Blank a) (hb : Blank b) (hc : Blank c) (hd : Blank d) :
    Writes e (a ++ e.1.toList ++ b ++ '=' :: (c ++ e.2.toList ++ d))

/-- A text is written entries with commas between them, and perhaps blank pieces. -/
def Prints (entries : List (String × String)) (text : String) : Prop :=
  ∃ pieces, text.toList = [','].intercalate pieces ∧
    List.Forall₂ Writes entries (pieces.filter fun piece => ¬Blank piece)

theorem trimmed_of_padded {s : String} {front back : List Char} (hs : trim s = s)
    (hfront : Blank front) (hback : Blank back) :
    String.ofList (trimChars (front ++ s.toList ++ back)) = s := by
  rw [trimChars_padded hfront hback]
  exact hs

theorem not_blank_padded {s : String} {front back : List Char} (hne : s ≠ "") (hs : trim s = s)
    (hfront : Blank front) (hback : Blank back) : ¬Blank (front ++ s.toList ++ back) := by
  rw [← trimChars_eq_nil_iff_blank]
  intro hnil
  have htrim := trimmed_of_padded hs hfront hback
  rw [hnil] at htrim
  exact hne htrim.symm

theorem Writes.assigns (h : Writes e piece) (he : Printable e) : Assigns piece e.1 e.2 := by
  obtain ⟨ha, hb, hc, hd⟩ := h
  refine ⟨_, _, rfl, ?_, not_blank_padded he.buyer_ne he.buyer_trim ha hb,
    not_blank_padded he.secret_ne he.secret_trim hc hd, trimmed_of_padded he.buyer_trim ha hb,
    trimmed_of_padded he.secret_trim hc hd⟩
  simp only [List.mem_append, not_or]
  exact ⟨⟨ha.not_mem (by decide), he.buyer_equals⟩, hb.not_mem (by decide)⟩

theorem Writes.comma (h : Writes e piece) (he : Printable e) : ',' ∉ piece := by
  obtain ⟨ha, hb, hc, hd⟩ := h
  have hblank : isBlank ',' = false := by decide
  simp [ha.not_mem hblank, hb.not_mem hblank, hc.not_mem hblank, hd.not_mem hblank,
    he.buyer_comma, he.secret_comma]

section

variable {entries : List (String × String)}

theorem exists_of_writes (h : List.Forall₂ Writes entries pieces)
    (he : ∀ e ∈ entries, Printable e) :
    ∀ piece ∈ pieces, ∃ e, Printable e ∧ Writes e piece := by
  induction h with
  | nil => simp
  | cons hwrites _ ih =>
    obtain ⟨hfirst, hrest⟩ := List.forall_mem_cons.mp he
    exact List.forall_mem_cons.mpr ⟨⟨_, hfirst, hwrites⟩, ih hrest⟩

theorem filterMap_of_writes (h : List.Forall₂ Writes entries pieces)
    (he : ∀ e ∈ entries, Printable e) : pieces.filterMap assignment? = entries := by
  induction h with
  | nil => rfl
  | cons hwrites _ ih =>
    obtain ⟨hfirst, hrest⟩ := List.forall_mem_cons.mp he
    rw [List.filterMap_cons_some (assignment?_eq_some_iff.mpr (hwrites.assigns hfirst)), ih hrest]

/-- Pieces in writing hold no comma, so they are the pieces that are found. -/
theorem Prints.exists_splits (h : Prints entries text) (he : ∀ e ∈ entries, Printable e) :
    ∃ pieces, Splits ',' text.toList pieces ∧
      List.Forall₂ Writes entries (pieces.filter fun piece => ¬Blank piece) ∧
      ∀ piece ∈ pieces, ¬Blank piece → ∃ e, Printable e ∧ Writes e piece := by
  obtain ⟨pieces, htext, hwrites⟩ := h
  have hwritten : ∀ piece ∈ pieces, ¬Blank piece → ∃ e, Printable e ∧ Writes e piece :=
    fun piece hpiece hblank => exists_of_writes hwrites he piece
      (List.mem_filter.mpr ⟨hpiece, by simpa using hblank⟩)
  have hcomma : ∀ piece ∈ pieces, ',' ∉ piece := by
    intro piece hpiece
    by_cases hblank : Blank piece
    · exact hblank.not_mem (by decide)
    · obtain ⟨e, hprintable, hwrite⟩ := hwritten piece hpiece hblank
      exact hwrite.comma hprintable
  cases pieces with
  | cons piece pieces =>
    exact ⟨_, ⟨List.cons_ne_nil _ _, hcomma, htext.symm⟩, hwrites, hwritten⟩
  | nil =>
    -- The empty text is no pieces in writing, but one blank piece when it is split.
    exact ⟨[[]], ⟨by simp, by simp, htext.symm⟩, by simpa [Blank] using hwrites, by simp [Blank]⟩

/-- **A table is read back from every list of its entries.** -/
theorem secrets_of_prints (htable : table.Ordered) (hprintable : ∀ e ∈ table, Printable e)
    (hperm : entries.Perm table) (h : Prints entries text) : secrets text = .ok table := by
  have he : ∀ e ∈ entries, Printable e := fun e he => hprintable e (hperm.mem_iff.mp he)
  obtain ⟨pieces, hsplits, hwrites, hwritten⟩ := h.exists_splits he
  refine (secrets_eq_ok_iff hsplits).mpr ⟨fun piece hpiece hblank => ?_, ?_⟩
  · obtain ⟨e, hprintable, hwrite⟩ := hwritten piece hpiece hblank
    exact ⟨e.1, e.2, hwrite.assigns hprintable⟩
  · rw [← filterMap_filter_blank, filterMap_of_writes hwrites he,
      Table.ofList_congr hperm ((hperm.map _).nodup_iff.mpr htable.keys_nodup), htable.ofList_eq]

end

/-- **The list of secrets has a grammar, and undoes printing.** -/
theorem secrets_grammar :
    (∀ text : String, ∃ pieces, Splits ',' text.toList pieces ∧
      ((∃ table, secrets text = .ok table) ↔
        ∀ piece ∈ pieces, ¬Blank piece → ∃ buyer secret, Assigns piece buyer secret) ∧
      ∀ table, secrets text = .ok table → table.Ordered ∧ ∀ buyer secret,
        table.get? buyer = some secret ↔ ∃ before piece after, pieces = before ++ piece :: after ∧
          Assigns piece buyer secret ∧ ∀ later ∈ after, ∀ other, ¬Assigns later buyer other) ∧
    ∀ table : Table String String, table.Ordered → (∀ e ∈ table, Printable e) →
      ∀ entries text, entries.Perm table → Prints entries text → secrets text = .ok table := by
  refine ⟨fun text => ?_, fun table htable hprintable entries text hperm hprints =>
    secrets_of_prints htable hprintable hperm hprints⟩
  have hsplits : Splits ',' text.toList (text.toList.splitOn ',') := splits_iff.mpr rfl
  refine ⟨_, hsplits, ?_, fun table hread => ⟨?_, fun buyer secret => ?_⟩⟩
  · simp only [secrets_eq_ok_iff hsplits, exists_and_left, exists_eq, and_true]
  · rw [((secrets_eq_ok_iff hsplits).mp hread).2]
    exact Table.Ordered.ofList _
  · exact get?_of_secrets hsplits hread

theorem secrets_grammar_sample :
    let table : Table String String := [("acme", "abc"), ("globex", "x=y")]
    let entries := [("globex", "x=y"), ("acme", "abc")]
    let text := " globex =x=y,, acme= abc "
    table.Ordered ∧ (∀ e ∈ table, Printable e) ∧ entries.Perm table ∧ Prints entries text ∧
      secrets text = .ok table := by
  intro table entries text
  have htable : table.Ordered := List.pairwise_pair.mpr (by decide)
  have hprintable : ∀ e ∈ table, Printable e := by
    refine List.forall_mem_cons.mpr ⟨?_, List.forall_mem_singleton.mpr ?_⟩
    all_goals constructor <;> decide
  have hprints : Prints entries text := by
    refine ⟨[" globex =x=y".toList, [], " acme= abc ".toList], by decide, ?_⟩
    have hblank : Blank [' '] := by decide
    have hnone : Blank [] := by decide
    have hglobex : Writes ("globex", "x=y") " globex =x=y".toList := .mk hblank hblank hnone hnone
    have hacme : Writes ("acme", "abc") " acme= abc ".toList := .mk hblank hnone hblank hblank
    exact .cons hglobex (.cons hacme .nil)
  have hperm : entries.Perm table := .swap ..
  exact ⟨htable, hprintable, hperm, hprints,
    secrets_grammar.2 table htable hprintable entries text hperm hprints⟩

end Config

end PingPost
