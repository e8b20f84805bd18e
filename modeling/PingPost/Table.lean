/-!
Finite maps as association lists in strictly increasing key order.

`Table.put` keeps the order (`Table.Ordered.put`), `Table.get?` reads the first entry of a key. The
reading laws hold for every list, ordered or not; that a table has no other entry of a key than
the one that is read (`Table.get?_eq_some_iff`) needs the order.
-/

namespace PingPost

/-- Entries in increasing order of their keys. -/
abbrev Table (κ : Type) (α : Type) := List (κ × α)

namespace Table

variable {κ α : Type}

/-- The keys, in order. -/
def keys (t : Table κ α) : List κ := t.map (·.1)

section Reading

variable [DecidableEq κ]

/-- The value of a key. -/
def get? (k : κ) : Table κ α → Option α
  | [] => none
  | (k', v) :: rest => if k = k' then some v else get? k rest

/-- Whether a key has a value. -/
def has (k : κ) (t : Table κ α) : Bool := (t.get? k).isSome

/-- Drops a key. -/
def erase (k : κ) : Table κ α → Table κ α
  | [] => []
  | (k', v') :: rest => if k = k' then erase k rest else (k', v') :: erase k rest

/-- Replaces the value of a key by a function of it; absent keys stay absent. -/
def adjust (k : κ) (f : α → α) : Table κ α → Table κ α
  | [] => []
  | (k', v') :: rest => if k = k' then (k', f v') :: rest else (k', v') :: adjust k f rest

@[simp] theorem get?_nil (k : κ) : get? k ([] : Table κ α) = none := rfl

theorem get?_cons (k : κ) (e : κ × α) (t : Table κ α) :
    get? k (e :: t) = if k = e.1 then some e.2 else get? k t := rfl

theorem erase_cons (k : κ) (e : κ × α) (t : Table κ α) :
    erase k (e :: t) = if k = e.1 then erase k t else e :: erase k t := rfl

theorem mem_of_get? {k : κ} {v : α} {t : Table κ α} (h : t.get? k = some v) : (k, v) ∈ t := by
  induction t with
  | nil => cases h
  | cons e t ih =>
    rw [get?_cons] at h
    split at h
    · rename_i hk
      cases h
      exact hk ▸ List.mem_cons_self
    · exact List.mem_cons_of_mem _ (ih h)

theorem get?_eq_none_iff {k : κ} {t : Table κ α} : t.get? k = none ↔ k ∉ t.keys := by
  induction t with
  | nil => simp [keys]
  | cons e t ih =>
    rw [get?_cons]
    by_cases hk : k = e.1
    · simp [keys, hk]
    · simpa [keys, hk] using ih

theorem get?_append (k : κ) (s t : Table κ α) :
    get? k (s ++ t) = (s.get? k).or (t.get? k) := by
  induction s with
  | nil => rfl
  | cons e s ih =>
    rw [List.cons_append, get?_cons, get?_cons, ih]
    split <;> simp

/-- Among different keys one entry is the only one of its key. -/
theorem filter_eq_singleton {t : Table κ α} (h : t.keys.Nodup) {e : κ × α} (he : e ∈ t) :
    t.filter (fun e' => e'.1 == e.1) = [e] := by
  induction t with
  | nil => cases he
  | cons e' t ih =>
    obtain ⟨hnew, ht⟩ := List.nodup_cons.mp h
    have hkey {a b : κ × α} (ha : a ∈ t) (hb : b.1 ∉ keys t) : a.1 ≠ b.1 :=
      fun heq => hb (heq ▸ List.mem_map_of_mem ha)
    rcases List.mem_cons.mp he with rfl | he
    · have hothers : t.filter (fun e' => e'.1 == e.1) = [] :=
        List.filter_eq_nil_iff.mpr fun a ha => by simpa using hkey ha hnew
      rw [List.filter_cons_of_pos (by simp), hothers]
    · rw [List.filter_cons_of_neg (by simpa using (hkey he hnew).symm), ih ht he]

theorem erase_eq_filter (k : κ) (t : Table κ α) : t.erase k = t.filter fun e => e.1 ≠ k := by
  induction t with
  | nil => rfl
  | cons e t ih => grind [erase_cons]

theorem erase_sublist (k : κ) (t : Table κ α) : (t.erase k).Sublist t := by
  rw [erase_eq_filter]
  exact List.filter_sublist

theorem mem_erase {k : κ} {e : κ × α} {t : Table κ α} : e ∈ t.erase k ↔ e ∈ t ∧ e.1 ≠ k := by
  simp [erase_eq_filter]

@[simp] theorem get?_erase_self (k : κ) (t : Table κ α) : (t.erase k).get? k = none := by
  induction t with
  | nil => rfl
  | cons e t ih => grind [erase_cons, get?_cons]

theorem get?_erase_of_ne {k k' : κ} (h : k' ≠ k) (t : Table κ α) :
    (t.erase k).get? k' = t.get? k' := by
  induction t with
  | nil => rfl
  | cons e t ih => grind [erase_cons, get?_cons]

end Reading

section Writing

variable [DecidableEq κ] [LT κ] [DecidableLT κ]

/-- Sets the value of a key, in its place in the order. -/
def put (k : κ) (v : α) : Table κ α → Table κ α
  | [] => [(k, v)]
  | (k', v') :: rest =>
    if k = k' then (k, v) :: rest
    else if k < k' then (k, v) :: (k', v') :: rest
    else (k', v') :: put k v rest

/-- Sets the value of a key that has none. -/
def putNew (k : κ) (v : α) (t : Table κ α) : Table κ α :=
  if t.has k then t else t.put k v

/-- Puts every entry of the second list over the table; of one key the last counts. -/
def putAll (t : Table κ α) (entries : List (κ × α)) : Table κ α :=
  entries.foldl (fun t e => t.put e.1 e.2) t

/-- The table of a list of entries, of which the last of a key counts. -/
def ofList (entries : List (κ × α)) : Table κ α := putAll [] entries

theorem put_nil (k : κ) (v : α) : put k v ([] : Table κ α) = [(k, v)] := rfl

theorem put_cons (k : κ) (v : α) (e : κ × α) (t : Table κ α) :
    put k v (e :: t) =
      if k = e.1 then (k, v) :: t else if k < e.1 then (k, v) :: e :: t else e :: put k v t := rfl

@[simp] theorem get?_put_self (k : κ) (v : α) (t : Table κ α) : (t.put k v).get? k = some v := by
  induction t with
  | nil => simp [put_nil, get?_cons]
  | cons e t ih => grind [put_cons, get?_cons]

theorem get?_put_of_ne {k k' : κ} (h : k' ≠ k) (v : α) (t : Table κ α) :
    (t.put k v).get? k' = t.get? k' := by
  induction t with
  | nil => simp [put_nil, get?_cons, h]
  | cons e t ih => grind [put_cons, get?_cons]

theorem mem_put {k : κ} {v : α} {e : κ × α} {t : Table κ α} (h : e ∈ t.put k v) :
    e = (k, v) ∨ e ∈ t := by
  induction t with
  | nil => exact .inl (List.mem_singleton.mp h)
  | cons e' t ih => grind [put_nil, put_cons]

/-- What relates all entries in their order, and the new one with each, relates them afterwards. -/
theorem pairwise_put {R : κ × α → κ × α → Prop} {k : κ} {v : α} {t : Table κ α}
    (h : t.Pairwise R) (hkv : ∀ e ∈ t, R e (k, v) ∧ R (k, v) e) : (t.put k v).Pairwise R := by
  induction t with
  | nil => exact List.pairwise_singleton _ _
  | cons e t ih =>
    obtain ⟨he, ht⟩ := List.pairwise_cons.mp h
    obtain ⟨hekv, htkv⟩ := List.forall_mem_cons.mp hkv
    rw [put_cons]
    split
    · exact .cons (fun a ha => (htkv a ha).2) ht
    split
    · refine .cons (fun a ha => ?_) h
      rcases List.mem_cons.mp ha with rfl | ha
      · exact hekv.2
      · exact (htkv a ha).2
    · refine .cons (fun a ha => ?_) (ih ht htkv)
      rcases mem_put ha with rfl | ha
      · exact hekv.1
      · exact he a ha

theorem put_perm {k : κ} {t : Table κ α} (h : k ∉ t.keys) (v : α) :
    (t.put k v).Perm ((k, v) :: t) := by
  induction t with
  | nil => exact .refl _
  | cons e t ih =>
    obtain ⟨hne, ht⟩ : k ≠ e.1 ∧ k ∉ keys t := by simpa [keys] using h
    simp only [put_cons, if_neg hne]
    split
    · exact .refl _
    · exact ((ih ht).cons e).trans (.swap ..)

theorem keys_put_perm {k : κ} {t : Table κ α} (h : k ∉ t.keys) (v : α) :
    (t.put k v).keys.Perm (k :: t.keys) :=
  (put_perm h v).map _

theorem length_put {k : κ} {t : Table κ α} (h : t.get? k = none) (v : α) :
    (t.put k v).length = t.length + 1 := by
  simpa [keys] using (keys_put_perm (get?_eq_none_iff.mp h) v).length_eq

@[simp] theorem put_put (k : κ) (v w : α) (t : Table κ α) : (t.put k v).put k w = t.put k w := by
  induction t with
  | nil => simp [put_nil, put_cons]
  | cons e t ih => grind [put_nil, put_cons]

/-- Setting two keys commutes, whatever the order of the entries. -/
theorem put_comm [Trans (α := κ) (· < ·) (· < ·) (· < ·)] [Std.Trichotomous (α := κ) (· < ·)]
    [Std.Irrefl (α := κ) (· < ·)] {k k' : κ} (h : k ≠ k') (v v' : α) (t : Table κ α) :
    (t.put k v).put k' v' = (t.put k' v').put k v := by
  have htrans {a b c : κ} (hab : a < b) (hbc : b < c) : a < c := Trans.trans hab hbc
  have hirrefl (a : κ) : ¬a < a := Std.Irrefl.irrefl a
  have hlt : k < k' ∨ k' < k := by
    by_cases hlt : k < k'
    · exact .inl hlt
    · by_cases hgt : k' < k
      · exact .inr hgt
      · exact (h (Std.Trichotomous.trichotomous k k' hlt hgt)).elim
  -- Where both keys have their place in front of the same entry, the smaller one goes first.
  induction t with
  | nil => rcases hlt with hlt | hlt <;> grind [put_nil, put_cons]
  | cons e t ih => rcases hlt with hlt | hlt <;> grind [put_nil, put_cons]

theorem map_put {β : Type} (f : α → β) (k : κ) (v : α) (t : Table κ α) :
    (t.put k v).map (fun e => (e.1, f e.2)) = put k (f v) (t.map fun e => (e.1, f e.2)) := by
  induction t with
  | nil => rfl
  | cons e t ih =>
    simp only [put_cons, List.map_cons]
    split
    · rfl
    split
    · rfl
    · rw [List.map_cons, ih]

theorem put_of_forall_lt [Trans (α := κ) (· < ·) (· < ·) (· < ·)] [Std.Irrefl (α := κ) (· < ·)]
    {k : κ} {v : α} {t : Table κ α} (h : ∀ e ∈ t, e.1 < k) : t.put k v = t ++ [(k, v)] := by
  induction t with
  | nil => rfl
  | cons e t ih =>
    obtain ⟨he, ht⟩ := List.forall_mem_cons.mp h
    have hne : k ≠ e.1 := fun heq => Std.Irrefl.irrefl e.1 (heq ▸ he)
    have hlt : ¬k < e.1 := fun hlt => Std.Irrefl.irrefl k (Trans.trans hlt he)
    simp only [put_cons, if_neg hne, if_neg hlt, ih ht, List.cons_append]

theorem putAll_cons (t : Table κ α) (e : κ × α) (entries : List (κ × α)) :
    t.putAll (e :: entries) = (t.put e.1 e.2).putAll entries := rfl

theorem putAll_append (t : Table κ α) (entries entries' : List (κ × α)) :
    t.putAll (entries ++ entries') = (t.putAll entries).putAll entries' :=
  List.foldl_append

theorem map_ofList {β : Type} (f : α → β) (entries : List (κ × α)) :
    (ofList entries).map (fun e => (e.1, f e.2)) = ofList (entries.map fun e => (e.1, f e.2)) := by
  have hputAll (t : Table κ α) : (t.putAll entries).map (fun e => (e.1, f e.2)) =
      putAll (t.map fun e => (e.1, f e.2)) (entries.map fun e => (e.1, f e.2)) := by
    induction entries generalizing t with
    | nil => rfl
    | cons e entries ih => rw [putAll_cons, ih, map_put, List.map_cons, putAll_cons]
  exact hputAll []

theorem putAll_perm {t : Table κ α} {entries : List (κ × α)}
    (h : (keys (entries ++ t)).Nodup) : (t.putAll entries).Perm (entries ++ t) := by
  induction entries generalizing t with
  | nil => exact .refl _
  | cons e entries ih =>
    have hnew : e.1 ∉ keys (entries ++ t) := (List.nodup_cons.mp h).1
    have hne : e.1 ∉ keys t := fun hmem => hnew (by simp_all [keys])
    have hswap : (entries ++ t.put e.1 e.2).Perm (e :: (entries ++ t)) :=
      ((put_perm hne e.2).append_left entries).trans List.perm_middle
    exact (ih ((hswap.map _).nodup_iff.mpr h)).trans hswap

/-- Entries of different keys all stay. -/
theorem ofList_perm {entries : List (κ × α)} (h : (keys entries).Nodup) :
    (ofList entries).Perm entries := by
  have hperm := putAll_perm (t := []) ((List.append_nil entries).symm ▸ h)
  rwa [List.append_nil] at hperm

theorem filter_ofList {entries : List (κ × α)} (h : (keys entries).Nodup) {e : κ × α}
    (he : e ∈ entries) : (ofList entries).filter (fun e' => e'.1 == e.1) = [e] :=
  List.perm_singleton.mp (filter_eq_singleton h he ▸ (ofList_perm h).filter _)

theorem ofList_congr [Trans (α := κ) (· < ·) (· < ·) (· < ·)]
    [Std.Trichotomous (α := κ) (· < ·)] [Std.Irrefl (α := κ) (· < ·)]
    {entries entries' : List (κ × α)} (hperm : entries.Perm entries')
    (h : (keys entries).Nodup) : ofList entries = ofList entries' := by
  refine hperm.foldl_eq' (fun a ha b hb t => ?_) []
  by_cases hab : a.1 = b.1
  · have hsame : a ∈ entries.filter fun e => e.1 == b.1 := List.mem_filter.mpr ⟨ha, by simpa⟩
    rw [filter_eq_singleton h hb, List.mem_singleton] at hsame
    rw [hsame]
  · exact put_comm hab ..

theorem mem_of_mem_putAll {t : Table κ α} {entries : List (κ × α)} {e : κ × α}
    (h : e ∈ t.putAll entries) : e ∈ entries ∨ e ∈ t := by
  induction entries generalizing t with
  | nil => exact .inr h
  | cons e' entries ih =>
    rcases ih h with h | h
    · exact .inl (List.mem_cons_of_mem _ h)
    · rcases mem_put h with rfl | h
      · exact .inl List.mem_cons_self
      · exact .inr h

theorem mem_of_mem_ofList {entries : List (κ × α)} {e : κ × α} (h : e ∈ ofList entries) :
    e ∈ entries :=
  (mem_of_mem_putAll h).resolve_right List.not_mem_nil

/-- Of the entries of a key the last one counts, and the table where there is none. -/
theorem get?_putAll (k : κ) (t : Table κ α) (entries : List (κ × α)) :
    (t.putAll entries).get? k = (get? k entries.reverse).or (t.get? k) := by
  induction entries generalizing t with
  | nil => rfl
  | cons e entries ih =>
    rw [putAll, List.foldl_cons, ← putAll, ih, List.reverse_cons, get?_append, Option.or_assoc]
    congr 1
    by_cases hk : k = e.1
    · simp [hk, get?_cons]
    · simp [hk, get?_cons, get?_put_of_ne hk]

theorem get?_ofList (k : κ) (entries : List (κ × α)) :
    (ofList entries).get? k = get? k entries.reverse := by
  rw [ofList, get?_putAll, get?_nil, Option.or_none]

/-- A new entry decides its key if the table has none. -/
theorem get?_putNew (k k' : κ) (v : α) (t : Table κ α) :
    (t.putNew k v).get? k' = (t.get? k').or (if k' = k then some v else none) := by
  unfold putNew
  split
  · rename_i hk
    obtain ⟨w, hw⟩ := Option.isSome_iff_exists.mp hk
    split
    · rename_i heq
      rw [heq, hw, Option.some_or]
    · rw [Option.or_none]
  · rename_i hk
    have hnone : t.get? k = none := by simpa [has] using hk
    split
    · rename_i heq
      rw [heq, get?_put_self, hnone, Option.none_or]
    · rename_i hne
      rw [get?_put_of_ne hne, Option.or_none]

end Writing

/-! ### Order -/

/-- Whether the keys are in strictly increasing order. -/
def Ordered [LT κ] (t : Table κ α) : Prop := t.Pairwise fun a b => a.1 < b.1

namespace Ordered

section

variable [LT κ]

@[simp] theorem nil : Ordered ([] : Table κ α) := List.Pairwise.nil

theorem keys_nodup [Std.Irrefl (α := κ) (· < ·)] {t : Table κ α} (h : t.Ordered) :
    t.keys.Nodup := by
  refine List.pairwise_map.mpr (h.imp ?_)
  rintro a b hab heq
  exact Std.Irrefl.irrefl b.1 (heq ▸ hab)

theorem erase [DecidableEq κ] {t : Table κ α} (h : t.Ordered) (k : κ) : (t.erase k).Ordered :=
  List.Pairwise.sublist (erase_sublist k t) h

/-- A key that is there is there once. -/
theorem length_erase [DecidableEq κ] [Std.Irrefl (α := κ) (· < ·)] {t : Table κ α}
    (h : t.Ordered) {k : κ} {v : α} (hk : t.get? k = some v) :
    (t.erase k).length + 1 = t.length := by
  induction t with
  | nil => cases hk
  | cons e t ih =>
    obtain ⟨hlt, ht⟩ := List.pairwise_cons.mp h
    rw [get?_cons] at hk
    split at hk
    · rename_i heq
      subst heq
      have hother : ∀ f ∈ t, f.1 ≠ e.1 := fun f hf heq =>
        Std.Irrefl.irrefl e.1 (heq ▸ hlt f hf)
      simpa [erase_eq_filter, List.filter_cons] using hother
    · rename_i hne
      simp [erase_cons, hne, ih ht hk]

end

variable [DecidableEq κ] [LT κ] [DecidableLT κ] [Trans (α := κ) (· < ·) (· < ·) (· < ·)]
  [Std.Trichotomous (α := κ) (· < ·)]

/-- Setting a key keeps the order: all entries before its place have smaller keys. -/
theorem put {t : Table κ α} (h : t.Ordered) (k : κ) (v : α) : (t.put k v).Ordered := by
  induction t with
  | nil => exact List.pairwise_singleton _ _
  | cons e t ih =>
    obtain ⟨hle, ht⟩ := List.pairwise_cons.mp h
    rw [put_cons]
    split
    · rename_i hk
      exact List.pairwise_cons.mpr ⟨fun a ha => hk ▸ hle a ha, ht⟩
    split
    · rename_i hlt
      refine List.pairwise_cons.mpr ⟨fun a ha => ?_, h⟩
      rcases List.mem_cons.mp ha with rfl | ha
      · exact hlt
      · exact Trans.trans hlt (hle a ha)
    · rename_i hne hlt
      have hgt : e.1 < k := by
        by_cases hgt : e.1 < k
        · exact hgt
        · exact (hne (Std.Trichotomous.trichotomous k e.1 hlt hgt)).elim
      refine List.pairwise_cons.mpr ⟨fun a ha => ?_, ih ht⟩
      rcases mem_put ha with rfl | ha
      · exact hgt
      · exact hle a ha

theorem putAll {t : Table κ α} (h : t.Ordered) (entries : List (κ × α)) :
    (t.putAll entries).Ordered := by
  induction entries generalizing t with
  | nil => exact h
  | cons e entries ih => exact ih (h.put e.1 e.2)

theorem ofList (entries : List (κ × α)) : Ordered (Table.ofList entries) := nil.putAll entries

omit [Std.Trichotomous (α := κ) (· < ·)] in
/-- Entries in order are put one behind the other. -/
theorem putAll_eq_append [Std.Irrefl (α := κ) (· < ·)] {s t : Table κ α}
    (h : Ordered (s ++ t)) : s.putAll t = s ++ t := by
  induction t generalizing s with
  | nil => exact (List.append_nil s).symm
  | cons e t ih =>
    have hlt : ∀ a ∈ s, a.1 < e.1 := fun a ha =>
      (List.pairwise_append.mp h).2.2 a ha e List.mem_cons_self
    have hsplit : s ++ [e] ++ t = s ++ e :: t := by simp
    rw [putAll_cons, put_of_forall_lt hlt, ih (hsplit ▸ h), hsplit]

omit [Std.Trichotomous (α := κ) (· < ·)] in
/-- A table is the table of its entries. -/
theorem ofList_eq [Std.Irrefl (α := κ) (· < ·)] {t : Table κ α} (h : t.Ordered) :
    Table.ofList t = t :=
  putAll_eq_append (s := []) h

omit [Std.Trichotomous (α := κ) (· < ·)] in
/-- Of the entries of a table none is hidden by a later one. -/
theorem get?_putAll [Std.Irrefl (α := κ) (· < ·)] {entries : Table κ α} (h : entries.Ordered)
    (k : κ) (t : Table κ α) : (t.putAll entries).get? k = (entries.get? k).or (t.get? k) := by
  have hreverse : get? k entries.reverse = entries.get? k := by
    rw [← get?_ofList]
    exact congrArg (get? k) h.ofList_eq
  rw [Table.get?_putAll, hreverse]

end Ordered

theorem get?_eq_some_iff [DecidableEq κ] [LT κ] [Std.Irrefl (α := κ) (· < ·)] {t : Table κ α}
    (h : t.Ordered) {k : κ} {v : α} : t.get? k = some v ↔ (k, v) ∈ t := by
  refine ⟨mem_of_get?, fun hm => ?_⟩
  induction t with
  | nil => cases hm
  | cons e t ih =>
    obtain ⟨hle, ht⟩ := List.pairwise_cons.mp h
    rw [get?_cons]
    rcases List.mem_cons.mp hm with rfl | hm
    · exact if_pos rfl
    · have hne : k ≠ e.1 := by
        rintro rfl
        exact Std.Irrefl.irrefl e.1 (hle (e.1, v) hm)
      rw [if_neg hne, ih ht hm]

/-- A table is determined by the values of its keys. -/
theorem Ordered.ext [DecidableEq κ] [LT κ] [Std.Irrefl (α := κ) (· < ·)]
    [Trans (α := κ) (· < ·) (· < ·) (· < ·)] {s t : Table κ α} (hs : s.Ordered) (ht : t.Ordered)
    (h : ∀ k, s.get? k = t.get? k) : s = t := by
  have hirrefl (a b : κ × α) (hab : a.1 < b.1) : a ≠ b := fun heq =>
    Std.Irrefl.irrefl b.1 (heq ▸ hab)
  have hperm : s.Perm t :=
    (List.perm_ext_iff_of_nodup (hs.imp (hirrefl _ _)) (ht.imp (hirrefl _ _))).mpr fun e => by
      rw [← get?_eq_some_iff hs, ← get?_eq_some_iff ht, h]
  refine List.Perm.eq_of_pairwise (fun a b _ _ hab hba => ?_) hs ht hperm
  exact (Std.Irrefl.irrefl a.1 (Trans.trans hab hba)).elim

end Table

end PingPost
