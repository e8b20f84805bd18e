import PingPost.Json.Printer
import PingPost.Json.Reader
import PingPost.Proofs.Authentication
import PingPost.Proofs.Pieces

/-!
Written texts, read back.

Every character of a quoted text is read back as itself, however it is escaped
(`Json.stringBody?_escapeChar`), so an object with one text is read as it was written
(`Json.read?_oneText`).
-/

namespace PingPost.Json

/-- The places of a control character's code in hexadecimal digits. -/
theorem hex4?_control {c : Char} (h : c.toNat < 32) (cs : List Char) :
    hex4? ('0' :: '0' :: hexDigit (c.toNat / 16) :: hexDigit (c.toNat % 16) :: cs) =
      some (c.toNat, cs) := by
  have hdigits : ['0', '0', hexDigit (c.toNat / 16), hexDigit (c.toNat % 16)].mapM Text.hexValue? =
      some [0, 0, c.toNat / 16, c.toNat % 16] :=
    Text.forall_ascii (P := fun c => c.toNat < 32 →
      ['0', '0', hexDigit (c.toNat / 16), hexDigit (c.toNat % 16)].mapM Text.hexValue? =
        some [0, 0, c.toNat / 16, c.toNat % 16]) (by decide) (by omega) h
  have hvalue : Text.digitsIn 16 [0, 0, c.toNat / 16, c.toNat % 16] = c.toNat := by
    simp only [Text.digitsIn, List.foldl_cons, List.foldl_nil]
    omega
  simp only [hex4?, hdigits, Option.bind_eq_bind, Option.bind_some, hvalue]
  rfl

/-- The code of a control character is no half of a surrogate pair. -/
theorem unicodeEscape?_control {c : Char} (h : c.toNat < 32) (cs : List Char) :
    unicodeEscape? ('0' :: '0' :: hexDigit (c.toNat / 16) :: hexDigit (c.toNat % 16) :: cs) =
      some (c, cs) := by
  simp only [unicodeEscape?, hex4?_control h, Option.bind_eq_bind, Option.bind_some]
  rw [if_neg (by omega), if_neg (by omega), Char.ofNat_toNat]

/-- An escaped character is read as itself. -/
theorem stringBody?_escapeChar (c : Char) (fuel : Nat) (acc cs : List Char) :
    stringBody? (fuel + 1) acc (escapeChar c ++ cs) = stringBody? fuel (c :: acc) cs := by
  have hchar {n : Nat} (h : c.toNat = n) : c = Char.ofNat n := h ▸ (Char.ofNat_toNat c).symm
  unfold escapeChar
  split
  · subst c
    rfl
  split
  · subst c
    rfl
  split
  · rename_i hc
    rw [hchar hc]
    rfl
  split
  · rename_i hc
    rw [hchar hc]
    rfl
  split
  · subst c
    rfl
  split
  · subst c
    rfl
  split
  · subst c
    rfl
  rename_i hquote hescape _ _ _ _ _
  split
  · rename_i hcontrol
    simp only [stringBody?, List.cons_append, List.nil_append, unicodeEscape?_control hcontrol]
    rfl
  · rename_i hplain
    simp only [List.singleton_append, stringBody?, if_neg hquote, if_neg hescape, if_neg hplain]

/-- A quoted text is read up to its closing quote. -/
theorem stringBody?_quoted (s : List Char) {fuel : Nat} (hfuel : s.length < fuel)
    (acc rest : List Char) :
    stringBody? fuel acc (s.flatMap escapeChar ++ '"' :: rest) =
      some (String.ofList (acc.reverse ++ s), rest) := by
  induction s generalizing fuel acc with
  | nil =>
    obtain ⟨fuel, rfl⟩ := Nat.exists_eq_add_of_lt hfuel
    simp [stringBody?]
  | cons c s ih =>
    obtain ⟨fuel, rfl⟩ := Nat.exists_eq_add_one_of_ne_zero (Nat.ne_of_gt (Nat.zero_lt_of_lt hfuel))
    have hrest : s.length < fuel := by simpa using hfuel
    rw [List.flatMap_cons, List.append_assoc, stringBody?_escapeChar, ih hrest,
      List.reverse_cons, List.append_assoc, List.singleton_append]

theorem escapeChar_ne_nil (c : Char) : escapeChar c ≠ [] := by
  unfold escapeChar
  repeat' split
  all_goals simp

/-- A quoted text begins with a quote, behind which the whole of it is read. -/
theorem exists_quote (s : String) (rest : List Char) :
    ∃ cs, (quote s).toList ++ rest = '"' :: cs ∧
      stringBody? (cs.length + 1) [] cs = some (s, rest) := by
  refine ⟨s.toList.flatMap escapeChar ++ '"' :: rest, by simp [quote], ?_⟩
  have hlength (cs : List Char) : cs.length ≤ (cs.flatMap escapeChar).length := by
    induction cs with
    | nil => exact Nat.le_refl 0
    | cons c cs ih =>
      have hpos := List.length_pos_of_ne_nil (escapeChar_ne_nil c)
      rw [List.flatMap_cons, List.length_append, List.length_cons]
      omega
  have hfuel : s.toList.length < (s.toList.flatMap escapeChar ++ '"' :: rest).length + 1 := by
    rw [List.length_append]
    exact Nat.lt_succ_of_le (Nat.le_add_right_of_le (hlength s.toList))
  rw [stringBody?_quoted s.toList hfuel, List.reverse_nil, List.nil_append, String.ofList_toList]

theorem value?_quote (fuel depth : Nat) (s : String) (rest : List Char) :
    value? (fuel + 1) depth ((quote s).toList ++ rest) = some (.text s, rest) := by
  obtain ⟨cs, hquote, hread⟩ := exists_quote s rest
  rw [hquote, value?]
  simp [skipBlanks, hread]

theorem members?_oneText (fuel depth : Nat) (k s : String) (rest : List Char) :
    members? (fuel + 2) depth
        ((quote k).toList ++ ':' :: ((quote s).toList ++ Char.ofNat 0x7d :: rest)) =
      some ([(k, .text s)], rest) := by
  obtain ⟨cs, hquote, hread⟩ :=
    exists_quote k (':' :: ((quote s).toList ++ Char.ofNat 0x7d :: rest))
  have hcolon (cs : List Char) : skipBlanks (':' :: cs) = ':' :: cs := rfl
  have hbrace : skipBlanks (Char.ofNat 0x7d :: rest) = Char.ofNat 0x7d :: rest := rfl
  have hquote' : skipBlanks ('"' :: cs) = '"' :: cs := rfl
  rw [hquote, members?]
  simp only [hquote', hread, hcolon, value?_quote, hbrace]
  rfl

/-- The text of an object with one text. -/
theorem toList_oneText (k s : String) :
    (render (.object [(k, .text s)])).toList =
      Char.ofNat 0x7b :: ((quote k).toList ++ ':' :: ((quote s).toList ++ [Char.ofNat 0x7d])) := by
  simp [render, renderFields]

theorem value?_oneText (fuel depth : Nat) (k s : String) :
    value? (fuel + 3) (depth + 1) (render (.object [(k, .text s)])).toList =
      some (.object [(k, .text s)], []) := by
  obtain ⟨cs, hquote, -⟩ := exists_quote k (':' :: ((quote s).toList ++ [Char.ofNat 0x7d]))
  have hmembers := members?_oneText fuel depth k s []
  have hbrace (cs : List Char) : skipBlanks (Char.ofNat 0x7b :: cs) = Char.ofNat 0x7b :: cs := rfl
  have hbody : skipBlanks ('"' :: cs) = '"' :: cs := rfl
  rw [hquote] at hmembers
  rw [toList_oneText, hquote, value?]
  simp only [hbrace, hbody, hmembers]
  rfl

/-- An object with one text is read as it was written. -/
theorem read?_oneText (k s : String) :
    read? (render (.object [(k, .text s)])) = some (.object [(k, .text s)]) := by
  have hraw : readRaw? (render (.object [(k, .text s)])) = some (.object [(k, .text s)]) := by
    obtain ⟨n, hlength⟩ : ∃ n, (render (.object [(k, .text s)])).toList.length = n + 1 := by
      rw [toList_oneText]
      exact ⟨_, List.length_cons⟩
    have hvalue : value? (2 * (n + 1) + 2) maxDepth (render (.object [(k, .text s)])).toList =
        some (.object [(k, .text s)], []) := value?_oneText (2 * n + 1) 126 k s
    simp only [readRaw?, hlength, hvalue]
    rfl
  rw [read?, hraw]
  rfl

end PingPost.Json
