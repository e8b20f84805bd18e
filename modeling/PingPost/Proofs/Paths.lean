import PingPost.Json.Path
import PingPost.Proofs.Pieces

/-!
Writing and reading at paths.

A write goes down the segments of its path and puts a new object, or the value itself, in the place
of each field it comes through. Two writes commute for all fields and values just when neither
path leads through the other (`Json.insert_comm_iff`): otherwise the later write replaces what
the earlier one has left.

Reading goes down the same segments, unless a field has the whole path as its key. So what was
written is read back where no such field hides it (`Json.lookup?_insert`), and the last of several
writes at a path is the only one that counts (`Json.writes_lawful`).
-/

namespace PingPost.Json

/-- What a write leaves in the place of a field, when `rest` is the way that is left to go. -/
def written (old : Option Json) (value : Json) : List String → Json
  | [] => value
  | s :: rest => .object (insertAt ((old.map fieldsOf).getD []) value (s :: rest))

theorem insertAt_cons (fields : Fields) (value : Json) (s : String) (rest : List String) :
    insertAt fields value (s :: rest) = fields.put s (written (fields.get? s) value rest) := by
  cases rest <;> rfl

/-- Where neither way is the beginning of the other, writes commute. -/
theorem insertAt_comm {ss ts : List String} (hs : ¬ss <+: ts) (ht : ¬ts <+: ss) (fields : Fields)
    (v w : Json) :
    insertAt (insertAt fields v ss) w ts = insertAt (insertAt fields w ts) v ss := by
  induction ss generalizing ts fields with
  | nil => exact (hs (List.nil_prefix)).elim
  | cons s ss ih =>
    cases ts with
    | nil => exact (ht (List.nil_prefix)).elim
    | cons t ts =>
      simp only [insertAt_cons]
      by_cases hst : s = t
      · subst hst
        rw [List.cons_prefix_cons] at hs ht
        have hss : ¬ss <+: ts := fun h => hs ⟨rfl, h⟩
        have hts : ¬ts <+: ss := fun h => ht ⟨rfl, h⟩
        -- Both writes go on below the same field, so neither ends there.
        obtain ⟨s', ss', rfl⟩ := List.exists_cons_of_ne_nil (l := ss) (by rintro rfl; simp at hss)
        obtain ⟨t', ts', rfl⟩ := List.exists_cons_of_ne_nil (l := ts) (by rintro rfl; simp at hts)
        simp only [Table.get?_put_self, Table.put_put, written, Option.map_some, Option.getD_some,
          fieldsOf, ih hss hts]
      · rw [Table.get?_put_of_ne (Ne.symm hst), Table.get?_put_of_ne hst, Table.put_comm hst]

/-- What stands after a write on the way to its end. -/
theorem walk?_insertAt {ss : List String} (hne : ss ≠ []) (rest : List String) (fields : Fields)
    (v : Json) :
    ∃ old, (Json.object (insertAt fields v (ss ++ rest))).walk? ss =
      some (written old v rest) := by
  induction ss generalizing fields with
  | nil => exact (hne rfl).elim
  | cons s ss ih =>
    simp only [List.cons_append, insertAt_cons, walk?, child?, Table.get?_put_self,
      Option.bind_some]
    cases ss with
    | nil => exact ⟨fields.get? s, rfl⟩
    | cons t ss => exact ih (List.cons_ne_nil t ss) _

theorem segments_ne_nil (path : String) : segments path ≠ [] := by
  simp [segments, List.splitOn_ne_nil]

/-- Neither of two paths leads through the other. -/
def Apart (p q : String) : Prop := ¬segments p <+: segments q ∧ ¬segments q <+: segments p

instance (p q : String) : Decidable (Apart p q) := inferInstanceAs (Decidable (_ ∧ _))

theorem Apart.symm {p q : String} (h : Apart p q) : Apart q p := ⟨h.2, h.1⟩

theorem Apart.insert_comm {p q : String} (h : Apart p q) (fields : Fields) (v w : Json) :
    insert (insert fields p v) q w = insert (insert fields q w) p v :=
  insertAt_comm h.1 h.2 fields v w

/-- A path that leads through another one cannot be written before it and after it to the same
effect. -/
theorem not_comm_of_prefix {p q : String} (h : segments p <+: segments q) :
    insert (insert [] p .null) q (.bool true) ≠ insert (insert [] q (.bool true)) p .null := by
  obtain ⟨rest, hrest⟩ := h
  intro heq
  have hat := congrArg (fun fields => (Json.object fields).walk? (segments p)) heq
  have hp := segments_ne_nil p
  obtain ⟨old, hleft⟩ := walk?_insertAt hp rest (insert [] p .null) (.bool true)
  obtain ⟨old', hright⟩ := walk?_insertAt hp [] (insert [] q (.bool true)) .null
  rw [hrest] at hleft
  rw [List.append_nil] at hright
  simp only [insert] at hat hleft hright
  rw [hleft, hright] at hat
  cases rest <;> simp [written] at hat

/-- Two writes commute for all fields and values just when neither path leads through the other. -/
theorem insert_comm_iff {p q : String} :
    (∀ fields v w, insert (insert fields p v) q w = insert (insert fields q w) p v) ↔
      Apart p q := by
  refine ⟨fun h => ⟨fun hpq => ?_, fun hqp => ?_⟩, fun h => h.insert_comm⟩
  · exact not_comm_of_prefix hpq (h [] .null (.bool true))
  · exact not_comm_of_prefix hqp (h [] (.bool true) .null).symm

/-! ### Reading what was written -/

/-- The second of two writes is as if it were the only one. -/
theorem insertAt_insertAt (ss : List String) (fields : Fields) (v w : Json) :
    insertAt (insertAt fields v ss) w ss = insertAt fields w ss := by
  induction ss generalizing fields with
  | nil => rfl
  | cons s ss ih =>
    simp only [insertAt_cons, Table.get?_put_self, Table.put_put]
    cases ss with
    | nil => rfl
    | cons t ss =>
      simp only [written, Option.map_some, Option.getD_some, fieldsOf, ih]

theorem segments_of_not_mem {path : String} (h : '.' ∉ path.toList) : segments path = [path] := by
  rw [segments, List.splitOn_eq_singleton h, List.map_singleton, String.ofList_toList]

theorem not_mem_of_mem_segments {path s : String} (h : s ∈ segments path) : '.' ∉ s.toList := by
  obtain ⟨piece, hpiece, rfl⟩ := List.mem_map.mp h
  rw [String.toList_ofList]
  intro hdot
  cases (Text.plain_of_mem_splitOnP hpiece hdot).2

/-- What was written is read back, unless a field has the whole of a longer path as its key. -/
theorem lookup?_insert {fields : Fields} {path : String}
    (h : '.' ∈ path.toList → fields.get? path = none) (v : Json) :
    (Json.object (insert fields path v)).lookup? path = some v := by
  unfold lookup?
  dsimp only
  by_cases hdot : '.' ∈ path.toList
  · obtain ⟨s, rest, hsegments⟩ := List.exists_cons_of_ne_nil (segments_ne_nil path)
    have hne : path ≠ s := by
      rintro rfl
      exact not_mem_of_mem_segments (hsegments ▸ List.mem_cons_self) hdot
    -- The write is made below the first segment, which is not the whole path.
    have hwhole : Table.get? path (insert fields path v) = none := by
      rw [insert, hsegments, insertAt_cons, Table.get?_put_of_ne hne, h hdot]
    obtain ⟨old, hwalk⟩ := walk?_insertAt (segments_ne_nil path) [] fields v
    rw [List.append_nil] at hwalk
    rw [hwhole]
    exact hwalk
  · have hput : insert fields path v = fields.put path v := by
      rw [insert, segments_of_not_mem hdot, insertAt]
    rw [hput, Table.get?_put_self]

/-- **Laws of nested writes**, whatever stands on the way: a value is read back where no field has
a dotted key; the last write at a path counts alone; and writes at paths of which neither leads
through the other may change places. -/
theorem writes_lawful (fields : Fields) (p q : String) (v w : Json) :
    ((∀ key ∈ fields.keys, '.' ∉ key.toList) →
      (Json.object (insert fields p v)).lookup? p = some v) ∧
    insert (insert fields p v) p w = insert fields p w ∧
    (¬segments p <+: segments q → ¬segments q <+: segments p →
      insert (insert fields p v) q w = insert (insert fields q w) p v) := by
  refine ⟨fun hkeys => lookup?_insert (fun hdot => ?_) v, insertAt_insertAt _ fields v w,
    fun hpq hqp => insertAt_comm hpq hqp fields v w⟩
  exact Table.get?_eq_none_iff.mpr fun hmem => hkeys p hmem hdot

theorem writes_lawful_sample :
    let fields : Fields := [("home", .list [.int 1]), ("zip", .text "94107")]
    (∀ key ∈ fields.keys, '.' ∉ key.toList) ∧
    (Json.object (insert fields "home..rooms" (.int 3))).lookup? "home..rooms" = some (.int 3) ∧
    ¬segments "home..rooms" <+: segments "home.0" ∧ ¬segments "home.0" <+: segments "home..rooms" ∧
    insert (insert fields "home..rooms" (.int 3)) "home.0" .null =
      insert (insert fields "home.0" .null) "home..rooms" (.int 3) := by
  intro fields
  have hlaws := writes_lawful fields "home..rooms" "home.0" (.int 3) .null
  have hkeys : ∀ key ∈ fields.keys, '.' ∉ key.toList := by decide
  have hpq : ¬segments "home..rooms" <+: segments "home.0" := by decide
  have hqp : ¬segments "home.0" <+: segments "home..rooms" := by decide
  exact ⟨hkeys, hlaws.1 hkeys, hpq, hqp, hlaws.2.2 hpq hqp⟩

end PingPost.Json
