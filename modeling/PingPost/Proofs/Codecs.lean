import PingPost.Json.Codec
import PingPost.Proofs.Rounding
import PingPost.Proofs.Timestamps

/-!
Documents keep what they say.

A codec is lossless (`Codec.Lossless`) when what was read reads as the same value after it was
written. Every way of building codecs preserves that: options need to know in addition that `null`
is only written for what was `null`, tables that their keys are read from what is written for them,
and defaults that they are read from what is written for them. A record reads back what an object
shows of it (`Record.Shown`), whatever else the object holds, because its fields have different
names.
-/

namespace PingPost

namespace Json

/-! ### Order of fields -/

theorem canonicalFields_eq_map (fs : List (String × Json)) :
    canonicalFields fs = fs.map fun e => (e.1, e.2.canonical) := by
  induction fs with
  | nil => rfl
  | cons e fs ih => rw [canonicalFields, ih, List.map_cons]

mutual

/-- Fields in order stay as they are. -/
theorem canonical_canonical : ∀ v : Json, v.canonical.canonical = v.canonical
  | .null | .bool _ | .int _ | .real _ | .text _ => rfl
  | .list items => by rw [canonical, canonical, canonicalItems_canonicalItems]
  | .object fs => by
    rw [canonical, canonical, canonicalFields_eq_map (Table.ofList _), Table.map_ofList,
      ← canonicalFields_eq_map, canonicalFields_canonicalFields,
      (Table.Ordered.ofList _).ofList_eq]

theorem canonicalItems_canonicalItems : ∀ items : List Json,
    canonicalItems (canonicalItems items) = canonicalItems items
  | [] => rfl
  | v :: items => by
    rw [canonicalItems, canonicalItems, canonical_canonical, canonicalItems_canonicalItems]

theorem canonicalFields_canonicalFields : ∀ fs : List (String × Json),
    canonicalFields (canonicalFields fs) = canonicalFields fs
  | [] => rfl
  | (k, v) :: fs => by
    rw [canonicalFields, canonicalFields, canonical_canonical, canonicalFields_canonicalFields]

end

theorem eq_null_of_canonical {v : Json} (h : v.canonical = .null) : v = .null := by
  cases v <;> simp [canonical] at h ⊢

theorem ofFloat_val (x : Finite) : ofFloat x.val = .real x := dif_pos x.property

end Json

variable {α β : Type}

/-- Reading an option from every item of a list. -/
theorem mapM_eq_some_iff {f : α → Option β} {xs : List α} {ys : List β} :
    xs.mapM f = some ys ↔ List.Forall₂ (fun x y => f x = some y) xs ys := by
  induction xs generalizing ys with
  | nil => simp [eq_comm]
  | cons x xs ih =>
    rw [List.mapM_cons, List.forall₂_cons_left_iff]
    simp only [Option.bind_eq_bind, Option.bind_eq_some_iff, Option.pure_def, Option.some.injEq, ih]
    constructor
    · rintro ⟨y, hy, ys, hys, rfl⟩
      exact ⟨y, ys, hy, hys, rfl⟩
    · rintro ⟨y, ys, hy, hys, rfl⟩
      exact ⟨y, hy, ys, hys, rfl⟩

theorem exists_of_mapM {f : α → Option β} {xs : List α} {ys : List β} (h : xs.mapM f = some ys) :
    ∀ y ∈ ys, ∃ x ∈ xs, f x = some y := by
  have hread := mapM_eq_some_iff.mp h
  clear h
  induction hread with
  | nil => simp
  | cons hxy _ ih =>
    refine List.forall_mem_cons.mpr ⟨⟨_, List.mem_cons_self, hxy⟩, fun y hy => ?_⟩
    obtain ⟨x, hx, h⟩ := ih y hy
    exact ⟨x, List.mem_cons_of_mem _ hx, h⟩

theorem forall₂_of_inverse {f : α → Option β} {g : β → α} {ys : List β}
    (h : ∀ y ∈ ys, f (g y) = some y) :
    List.Forall₂ (fun x y => f x = some y) (ys.map g) ys :=
  List.forall₂_map_left_iff.mpr (List.forall₂_same.mpr h)

namespace Codec

/-- What is read survives being written, and `null` is written only for what was `null`. -/
structure Lossless (c : Codec α) : Prop where
  stable : c.Stable
  null : ∀ v x, c.decode? v = some x → c.encode x = .null → v = .null

variable {c : Codec α}

theorem nullable_decode? {v : Json} (h : v ≠ .null) :
    c.nullable.decode? v = (c.decode? v).map some := by
  cases v with
  | null => exact (h rfl).elim
  | _ => rfl

theorem list_decode?_encode {xs : List α} (h : ∀ x ∈ xs, c.decode? (c.encode x) = some x) :
    c.list.decode? (c.list.encode xs) = some xs :=
  mapM_eq_some_iff.mpr (forall₂_of_inverse h)

/-- Reads a row of a table. -/
def row? {κ : Type} (ofText? : String → Option κ) (c : Codec α) (e : String × Json) :
    Option (κ × α) := do
  return (← ofText? e.1, ← c.decode? e.2)

theorem row?_eq_some_iff {κ : Type} {ofText? : String → Option κ} {e : String × Json}
    {p : κ × α} :
    row? ofText? c e = some p ↔ ofText? e.1 = some p.1 ∧ c.decode? e.2 = some p.2 := by
  simp only [row?, Option.bind_eq_bind, Option.bind_eq_some_iff, Option.pure_def,
    Option.some.injEq]
  constructor
  · rintro ⟨k, hk, x, hx, rfl⟩
    exact ⟨hk, hx⟩
  · rintro ⟨hk, hx⟩
    exact ⟨p.1, hk, p.2, hx, rfl⟩

theorem table_decode?_object {κ : Type} [DecidableEq κ] [LT κ] [DecidableLT κ]
    {toText : κ → String} {ofText? : String → Option κ} (fs : List (String × Json)) :
    (c.table toText ofText?).decode? (.object fs) =
      (fs.mapM (row? ofText? c)).map Table.ofList := rfl

namespace Lossless

/-! ### Plain values -/

theorem text : Codec.text.Lossless where
  stable _ _ _ := rfl
  null _ _ _ h := by cases h

theorem bool : Codec.bool.Lossless where
  stable _ _ _ := rfl
  null _ _ _ h := by cases h

theorem word (bits : Nat) : (Codec.word bits).Lossless where
  stable v n h := by
    simp only [Codec.word] at h ⊢
    split at h
    · simp only [Option.ite_none_right_eq_some, Option.some.injEq] at h ⊢
      omega
    · cases h
  null _ _ _ h := by cases h

theorem number : Codec.number.Lossless where
  stable _ _ _ := rfl
  null _ _ _ h := by cases h

theorem amount : Codec.amount.Lossless := by
  have hread {v : Json} {w : Float64.Word} (h : Codec.amount.decode? v = some w) :
      ∃ y : Finite, Codec.amount.encode w = .real y ∧ w = .ofFloat y.val := by
    obtain ⟨y, -, rfl⟩ := Option.map_eq_some_iff.mp h
    refine ⟨y, ?_, rfl⟩
    simp only [Codec.amount, Binary64.toFloat_ofFloat, Json.ofFloat_val]
  refine ⟨fun v w h => ?_, fun v w h hnull => ?_⟩
  · obtain ⟨y, hy, rfl⟩ := hread h
    rw [hy]
    rfl
  · obtain ⟨y, hy, -⟩ := hread h
    rw [hy] at hnull
    cases hnull

theorem instant : Codec.instant.Lossless where
  stable v t h := by
    cases v with
    | text s => exact Instant.ofRelaxed?_stable h
    | _ => cases h
  null _ _ _ h := by cases h

theorem value : Codec.value.Lossless where
  stable v x h := by
    cases h
    exact congrArg some (Json.canonical_canonical v)
  null v x h hnull := by
    cases h
    exact Json.eq_null_of_canonical hnull

theorem fields : Codec.fields.Lossless where
  stable v fs h := by
    simp only [Codec.fields] at h ⊢
    split at h
    · rename_i hfs
      cases h
      rw [← hfs, Json.canonical_canonical, hfs]
    · cases h
  null _ _ _ h := by cases h

/-- The names and the values of an enumeration stand for each other. -/
theorem names [BEq α] {entries : List (String × α)}
    (h : ∀ e ∈ entries,
      (Codec.names entries).decode? ((Codec.names entries).encode e.2) = some e.2) :
    (Codec.names entries).Lossless where
  stable v x hx := by
    have hfind {s : String} (hs : (entries.find? fun e => e.1 == s).map (·.2) = some x) :
        (Codec.names entries).decode? ((Codec.names entries).encode x) = some x := by
      obtain ⟨e, he, rfl⟩ := Option.map_eq_some_iff.mp hs
      exact h e (List.mem_of_find?_eq_some he)
    simp only [Codec.names] at hx
    split at hx
    · exact hfind hx
    · exact hfind hx
    · cases hx
  null _ _ _ h := by cases h

/-! ### Lists, options and tables -/

theorem list (hc : c.Lossless) : c.list.Lossless where
  stable v xs h := by
    cases v with
    | list vs =>
      refine list_decode?_encode fun x hx => ?_
      obtain ⟨v, -, hv⟩ := exists_of_mapM h x hx
      exact hc.stable v x hv
    | _ => cases h
  null _ _ _ h := by cases h

theorem nullable (hc : c.Lossless) : c.nullable.Lossless := by
  have hread {v : Json} {o : Option α} (h : c.nullable.decode? v = some o) :
      v = .null ∧ o = none ∨ ∃ x, v ≠ .null ∧ c.decode? v = some x ∧ o = some x := by
    by_cases hv : v = .null
    · subst hv
      cases h
      exact .inl ⟨rfl, rfl⟩
    · rw [nullable_decode? hv] at h
      obtain ⟨x, hx, rfl⟩ := Option.map_eq_some_iff.mp h
      exact .inr ⟨x, hv, hx, rfl⟩
  refine ⟨fun v o h => ?_, fun v o h hnull => ?_⟩
  · obtain ⟨-, rfl⟩ | ⟨x, hv, hx, rfl⟩ := hread h
    · rfl
    · have hne : c.encode x ≠ .null := fun hnull => hv (hc.null v x hx hnull)
      show c.nullable.decode? (c.encode x) = _
      rw [nullable_decode? hne, hc.stable v x hx]
      rfl
  · obtain ⟨hv, -⟩ | ⟨x, -, hx, rfl⟩ := hread h
    · exact hv
    · exact hc.null v x hx hnull

/-- The entries of a table are written in the order of the texts of their keys, and put back in the
order of the keys. -/
theorem table {κ : Type} [DecidableEq κ] [LT κ] [DecidableLT κ]
    [Trans (α := κ) (· < ·) (· < ·) (· < ·)] [Std.Trichotomous (α := κ) (· < ·)]
    [Std.Irrefl (α := κ) (· < ·)] {toText : κ → String} {ofText? : String → Option κ}
    (hc : c.Lossless) (hkey : ∀ s k, ofText? s = some k → ofText? (toText k) = some k) :
    (c.table toText ofText?).Lossless where
  stable v t h := by
    cases v with
    | object fs =>
      rw [table_decode?_object] at h
      obtain ⟨entries, hentries, ht⟩ := Option.map_eq_some_iff.mp h
      have hordered : t.Ordered := ht ▸ .ofList entries
      have hread (e : κ × α) (he : e ∈ t) :
          ofText? (toText e.1) = some e.1 ∧ c.decode? (c.encode e.2) = some e.2 := by
        obtain ⟨e', -, he'⟩ := exists_of_mapM hentries e (Table.mem_of_mem_ofList (ht ▸ he))
        obtain ⟨hk, hx⟩ := row?_eq_some_iff.mp he'
        exact ⟨hkey _ _ hk, hc.stable _ _ hx⟩
      -- Keys of the same text would be read as one key.
      have htexts : (Table.keys (t.map fun e => (toText e.1, c.encode e.2))).Nodup := by
        refine List.pairwise_map.mpr (List.pairwise_map.mpr ?_)
        refine (List.pairwise_map.mp hordered.keys_nodup).imp_of_mem fun ha hb hne heq => hne ?_
        exact Option.some.inj
          (((hread _ ha).1.symm.trans (congrArg ofText? heq)).trans (hread _ hb).1)
      obtain ⟨entries', hread', hperm⟩ := List.perm_comp_forall₂ (Table.ofList_perm htexts)
        (forall₂_of_inverse (f := row? ofText? c) fun e he => row?_eq_some_iff.mpr (hread e he))
      show (c.table toText ofText?).decode? (.object _) = _
      rw [table_decode?_object, mapM_eq_some_iff.mpr hread', Option.map_some,
        Table.ofList_congr hperm ((hperm.map _).nodup_iff.mpr hordered.keys_nodup),
        hordered.ofList_eq]
    | _ => cases h
  null _ _ _ h := by cases h

theorem textTable (hc : c.Lossless) : c.textTable.Lossless := hc.table fun _ _ _ => rfl

end Lossless

end Codec

/-! ### Records -/

/-- The values of a field survive being written, also those that stand in for a missing field. -/
structure Field.Lossless (f : Field α) : Prop where
  codec : f.codec.Lossless
  absent : ∀ x, f.absent? = some x → f.codec.decode? (f.codec.encode x) = some x
  cutOff : ∀ x, f.cutOff? = some x → f.codec.decode? (f.codec.encode x) = some x

namespace Field.Lossless

variable {c : Codec α} {name : String}

theorem required (hc : c.Lossless) : (Field.required name c).Lossless where
  codec := hc
  absent _ h := by cases h
  cutOff _ h := by cases h

theorem withDefault {default : α} (hc : c.Lossless)
    (h : c.decode? (c.encode default) = some default) :
    (Field.withDefault name c default).Lossless where
  codec := hc
  absent _ hx := Option.some.inj hx ▸ h
  cutOff _ hx := Option.some.inj hx ▸ h

theorem nullable (hc : c.Lossless) : (Field.nullable name c).Lossless where
  codec := hc.nullable
  absent _ h := by
    cases h
    rfl
  cutOff _ h := by cases h

theorem optional (hc : c.Lossless) : (Field.optional name c).Lossless :=
  .withDefault hc.nullable rfl

theorem texts {default : List String} :
    (Field.withDefault name (.list .text) default).Lossless :=
  .withDefault (.list .text) (Codec.list_decode?_encode fun _ _ => rfl)

end Field.Lossless

namespace Record

/-- Whether an object holds what is written of a value, each field once. -/
def Shown (r : Record α) (fields : List (String × Json)) (x : α) : Prop :=
  ∀ e ∈ r.write x, (fields.filter fun e' => e'.1 == e.1) = [e]

/-- Whether a value is read from every object that shows it. -/
def Kept (r : Record α) (x : α) : Prop := ∀ fields, r.Shown fields x → r.ofFields? fields = some x

/-- What is read survives being written, under fixed names. -/
structure Lossless (r : Record α) (names : List String) : Prop where
  keys_write : ∀ x, Table.keys (r.write x) = names
  fields : ∀ {fields x}, r.ofFields? fields = some x → r.Kept x
  items : ∀ {items x rest}, r.ofItems? items = some (x, rest) → r.Kept x

variable {f : Field α} {r : Record α} {names : List String}

theorem kept_one {x : α} (h : f.codec.decode? (f.codec.encode x) = some x) : (one f).Kept x := by
  intro fields hshown
  have hfield := hshown (f.name, f.codec.encode x) List.mem_cons_self
  simp only [one, Field.ofFields?, hfield, h]

theorem kept_and {s : Record β} {x : α × β} (hx : (one f).Kept x.1) (hy : s.Kept x.2) :
    (and f s).Kept x := by
  intro fields hshown
  obtain ⟨hfirst, hrest⟩ := List.forall_mem_cons.mp hshown
  have hx' : f.ofFields? fields = some x.1 := hx fields (List.forall_mem_singleton.mpr hfirst)
  have hy' : s.ofFields? fields = some x.2 := hy fields hrest
  simp [and, hx', hy']

namespace Lossless

theorem one (hf : f.Lossless) : (one f).Lossless [f.name] where
  keys_write _ := rfl
  fields {fields x} h := by
    refine kept_one ?_
    simp only [Record.one, Field.ofFields?] at h
    split at h
    · exact hf.absent x h
    · exact hf.codec.stable _ x h
    · cases h
  items {items x rest} h := by
    refine kept_one ?_
    simp only [Record.one] at h
    split at h
    · obtain ⟨x', hx, heq⟩ := Option.map_eq_some_iff.mp h
      cases heq
      exact hf.cutOff x hx
    · obtain ⟨x', hx, heq⟩ := Option.map_eq_some_iff.mp h
      cases heq
      exact hf.codec.stable _ x hx

theorem and (hf : f.Lossless) {s : Record β} (hs : s.Lossless names) :
    (and f s).Lossless (f.name :: names) where
  keys_write x := congrArg (f.name :: ·) (hs.keys_write x.2)
  fields h := by
    simp only [Record.and, Option.bind_eq_bind, Option.bind_eq_some_iff, Option.pure_def,
      Option.some.injEq] at h
    obtain ⟨x, hx, y, hy, rfl⟩ := h
    exact kept_and ((one hf).fields hx) (hs.fields hy)
  items h := by
    simp only [Record.and, Option.bind_eq_bind, Option.bind_eq_some_iff, Option.pure_def,
      Option.some.injEq, Prod.mk.injEq] at h
    obtain ⟨⟨x, rest⟩, hx, ⟨y, rest'⟩, hy, rfl, -⟩ := h
    exact kept_and ((one hf).items hx) (hs.items hy)

theorem via {build : α → β} {parts : β → α} (hr : r.Lossless names)
    (h : ∀ x, parts (build x) = x) : (r.via build parts).Lossless names := by
  have hkept {x : α} (hx : r.Kept x) : (r.via build parts).Kept (build x) := by
    intro fields hshown
    have hread := hx fields (h x ▸ hshown)
    simp only [Record.via, hread, Option.map_some]
  refine ⟨fun y => hr.keys_write (parts y), fun hread => ?_, fun hread => ?_⟩
  · obtain ⟨x, hx, rfl⟩ := Option.map_eq_some_iff.mp hread
    exact hkept (hr.fields hx)
  · obtain ⟨⟨x, rest⟩, hx, heq⟩ := Option.map_eq_some_iff.mp hread
    cases heq
    exact hkept (hr.items hx)

/-- The object that is written shows the value, as its fields have different names. -/
theorem shown_toFields (hr : r.Lossless names) (hnames : names.Nodup) (x : α) :
    r.Shown (r.toFields x) x :=
  fun _ he => Table.filter_ofList (hr.keys_write x ▸ hnames) he

end Lossless

end Record

/-- A record is read back, as an object, from what is written. -/
theorem Codec.Lossless.record {r : Record α} {names : List String} (hr : r.Lossless names)
    (hnames : names.Nodup) : r.codec.Lossless where
  stable v x h := by
    have hkept : r.Kept x := by
      simp only [Record.codec] at h
      split at h
      · exact hr.fields h
      · simp only [Record.ofAllItems?] at h
        split at h
        · cases h
          exact hr.items ‹_›
        · cases h
      · cases h
    exact hkept _ (hr.shown_toFields hnames x)
  null _ _ _ h := by cases h

end PingPost
