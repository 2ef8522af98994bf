import QueryDesk.Proofs.Json.Reading

/-!
# Reading what was written

A tree is read back when the reader may open as many arrays and objects as nest in the tree, and
is a break of the grammar when it may not: `Reads` says this of a reader, a tree and a value.  It
is proved for each way of building readers; the members of a record are taken one by one (`Fills`).

The other way round, what a record that was read is like follows from what each of its fields puts
into it (`record_induction`), and each field that must be present was read (`exists_put`).
-/

namespace QueryDesk.Json

/-! ## Nesting -/

namespace Tree

mutual

/-- The number of arrays and objects that stand one inside the other. -/
def nesting : Tree → Nat
  | .array ts _ => itemsNesting ts + 1
  | .object ms _ => membersNesting ms + 1
  | _ => 0

/-- The nesting of the items of an array. -/
def itemsNesting : List Tree → Nat
  | [] => 0
  | t :: rest => max t.nesting (itemsNesting rest)

/-- The nesting of the values of an object's members. -/
def membersNesting : List (Option String × Tree) → Nat
  | [] => 0
  | (_, t) :: rest => max t.nesting (membersNesting rest)

end

theorem itemsNesting_le_iff {ts : List Tree} {n : Nat} :
    itemsNesting ts ≤ n ↔ ∀ t ∈ ts, t.nesting ≤ n := by
  induction ts with
  | nil => simp [itemsNesting]
  | cons t rest ih => rw [itemsNesting, Nat.max_le, ih, List.forall_mem_cons]

theorem membersNesting_le_iff {ms : List (Option String × Tree)} {n : Nat} :
    membersNesting ms ≤ n ↔ ∀ m ∈ ms, m.2.nesting ≤ n := by
  induction ms with
  | nil => simp [membersNesting]
  | cons m rest ih => rw [membersNesting, Nat.max_le, ih, List.forall_mem_cons]

theorem nesting_object_le_iff {ms : List (Option String × Tree)} {closed : Bool} {n : Nat} :
    (object ms closed).nesting ≤ n + 1 ↔ ∀ m ∈ ms, m.2.nesting ≤ n := by
  rw [nesting, Nat.add_le_add_iff_right, membersNesting_le_iff]

theorem nesting_lt_array {ts : List Tree} {t : Tree} (closed : Bool) (member : t ∈ ts) :
    t.nesting < (array ts closed).nesting := by
  rw [nesting, Nat.lt_succ_iff]
  exact itemsNesting_le_iff.1 (Nat.le_refl _) t member

theorem nesting_lt_object {ms : List (Option String × Tree)} {m : Option String × Tree}
    (closed : Bool) (member : m ∈ ms) : m.2.nesting < (object ms closed).nesting := by
  rw [nesting, Nat.lt_succ_iff]
  exact membersNesting_le_iff.1 (Nat.le_refl _) m member

end Tree

namespace Reader

variable {α β σ : Type}

/-! ## Trees that are read -/

/-- A reader takes a tree to a value if it may open what nests in the tree, and finds it malformed
    if it may not, as long as the openings left stay below a bound. -/
def Reads (bound : Nat) (read : Reader α) (t : Tree) (a : α) : Prop :=
  ∀ budget < bound, read budget t = if t.nesting ≤ budget then .ok a else .error .malformed

variable {bound : Nat}

theorem Reads.mono {bound' : Nat} {read : Reader α} {t : Tree} {a : α}
    (reads : Reads bound' read t a) (le : bound ≤ bound') : Reads bound read t a := by
  intro budget small
  exact reads budget (Nat.lt_of_lt_of_le small le)

theorem reads_text (s : String) : Reads bound text (.string (some s)) s := by
  intro budget _
  rfl

theorem reads_bool (b : Bool) : Reads bound bool (.bool b) b := by
  intro budget _
  rfl

theorem reads_oneOf {variants : List (String × α)} {name : String} {a : α}
    (named : variants.lookup name = some a) :
    Reads bound (oneOf variants) (.string (some name)) a := by
  intro budget _
  have found : variant variants name = .ok a := by rw [variant, named]
  exact found

theorem Reads.option {read : Reader α} {t : Tree} {a : α} (reads : Reads bound read t a)
    (present : t ≠ .null) : Reads bound (Reader.option read) t (some a) := by
  intro budget small
  have some_of_read : Reader.option read budget t = (read budget t).map some := by
    unfold Reader.option
    split
    · exact absurd rfl present
    · rfl
  rw [some_of_read, reads budget small]
  split
  · rfl
  · rfl

theorem Reads.convert {read : Reader α} {f : α → Except String β} {t : Tree} {a : α} {b : β}
    (reads : Reads bound read t a) (converted : f a = .ok b) :
    Reads bound (Reader.convert read f) t b := by
  intro budget small
  rw [Reader.convert, reads budget small]
  by_cases enough : t.nesting ≤ budget
  · simp [enough, converted]
  · simp [enough]

theorem Reads.put {read : Reader α} {t : Tree} {a : α} (reads : Reads bound read t a)
    (presence : Presence) (name : String) (set : α → σ → σ) :
    Reads bound (Field.of presence name read set).put t (set a) := by
  intro budget small
  have put : (Field.of presence name read set).put budget t = (read budget t).map set := rfl
  rw [put, reads budget small]
  split
  · rfl
  · rfl

theorem items_of_reads {read : Reader α} {write : α → Tree} {budget : Nat} (small : budget < bound)
    {as : List α} (reads : ∀ a ∈ as, Reads bound read (write a) a) (i : Nat) :
    items (read budget) i (as.map write) =
      if Tree.itemsNesting (as.map write) ≤ budget then .ok as else .error .malformed := by
  induction as generalizing i with
  | nil => rfl
  | cons a as ih =>
    rw [List.forall_mem_cons] at reads
    simp only [List.map_cons, items, Tree.itemsNesting, Nat.max_le, reads.1 budget small,
      ih reads.2]
    by_cases first : (write a).nesting ≤ budget
    · by_cases others : Tree.itemsNesting (as.map write) ≤ budget
      · simp [first, others, inside, Except.map]
      · simp [first, others, inside, Except.map]
    · simp [first, inside, Fault.within]

theorem Reads.list {read : Reader α} {write : α → Tree} {as : List α}
    (reads : ∀ a ∈ as, Reads bound read (write a) a) :
    Reads (bound + 1) (Reader.list read) (.array (as.map write) true) as := by
  intro budget small
  cases budget with
  | zero => rfl
  | succ budget =>
    rw [Reader.list, items_of_reads (Nat.lt_of_succ_lt_succ small) reads 0, Tree.nesting]
    by_cases enough : Tree.itemsNesting (as.map write) ≤ budget
    · simp [enough]
    · simp [enough]

theorem reads_nil (read : Reader α) : Reads bound (Reader.list read) (.array [] true) [] := by
  intro budget _
  cases budget with
  | zero => rfl
  | succ budget => rfl

/-! ## Records that are read -/

/-- Members that fill a record one after the other: each is a field that was not met before, and
    its value is read.  At the end no field is missing. -/
inductive Fills (bound : Nat) (shape : Shape σ) :
    List (Option String × Tree) → List String → σ → σ → Prop
  | nil {seen : List String} {r : σ} (complete : missing? shape seen = none) :
      Fills bound shape [] seen r r
  | cons {ms : List (Option String × Tree)} {seen : List String} {r r' : σ} {key : String}
      {t : Tree} {field : Field σ} {set : σ → σ}
      (found : shape.fields.find? (·.name == key) = some field)
      (fresh : seen.contains key = false) (reads : Reads bound field.put t set)
      (rest : Fills bound shape ms (key :: seen) (set r) r') :
      Fills bound shape ((some key, t) :: ms) seen r r'

theorem Fills.members {shape : Shape σ} {ms : List (Option String × Tree)} {seen : List String}
    {r r' : σ} (fills : Fills bound shape ms seen r r') :
    ∃ seen', missing? shape seen' = none ∧
      ∀ budget < bound, Reader.members shape budget ms seen r =
        if Tree.membersNesting ms ≤ budget then .ok (seen', r') else .error .malformed := by
  induction fills with
  | @nil seen r complete => exact ⟨seen, complete, fun budget small => rfl⟩
  | @cons ms seen r r' key t field set found fresh reads rest ih =>
    obtain ⟨seen', complete, ih⟩ := ih
    refine ⟨seen', complete, ?_⟩
    intro budget small
    rw [Reader.members, found]
    dsimp only
    rw [fresh, if_neg Bool.false_ne_true, reads budget small, Tree.membersNesting]
    simp only [Nat.max_le]
    by_cases first : t.nesting ≤ budget
    · simp [inside, ih budget small, first]
    -- a value that nests too deep is malformed, and so is what it stands in
    · simp [inside, Fault.within, first]

/-- An object that fills a record is read as the record. -/
theorem Reads.record {shape : Shape σ} {ms : List (Option String × Tree)} {r : σ}
    (fills : Fills bound shape ms [] shape.initial r) :
    Reads (bound + 1) (Reader.record shape) (.object ms true) r := by
  obtain ⟨seen, complete, found⟩ := fills.members
  intro budget small
  cases budget with
  | zero => rfl
  | succ budget =>
    rw [Reader.record, found budget (Nat.lt_of_succ_lt_succ small), Tree.nesting]
    by_cases enough : Tree.membersNesting ms ≤ budget
    · simp [enough, complete]
    · simp [enough]

/-! ## What was read -/

theorem option_eq_some {read : Reader α} {budget : Nat} {t : Tree} {a : α}
    (h : Reader.option read budget t = .ok (some a)) : read budget t = .ok a := by
  unfold Reader.option at h
  split at h
  · cases h
  · cases found : read budget t with
    | error fault =>
      rw [found] at h
      cases h
    | ok b =>
      rw [found] at h
      cases h
      rfl

theorem convert_eq_ok {read : Reader α} {f : α → Except String β} {budget : Nat} {t : Tree} {b : β}
    (h : Reader.convert read f budget t = .ok b) :
    ∃ a, read budget t = .ok a ∧ f a = .ok b := by
  unfold Reader.convert at h
  split at h
  · cases h
  · rename_i a found
    split at h
    · rename_i b' converted
      cases h
      exact ⟨a, found, converted⟩
    · cases h

theorem items_cons_eq_ok {read : Tree → Except Fault α} {i : Nat} {t : Tree} {ts : List Tree}
    {as : List α} (h : items read i (t :: ts) = .ok as) :
    ∃ b bs, as = b :: bs ∧ read t = .ok b ∧ items read (i + 1) ts = .ok bs := by
  rw [items] at h
  cases first : read t with
  | error fault =>
    rw [first] at h
    cases h
  | ok b =>
    rw [first] at h
    cases others : items read (i + 1) ts with
    | error fault =>
      rw [others] at h
      cases h
    | ok bs =>
      rw [others] at h
      cases h
      exact ⟨b, bs, rfl, rfl, rfl⟩

/-- Each item that was read was read from some tree. -/
theorem items_eq_ok {read : Tree → Except Fault α} {i : Nat} {ts : List Tree} {as : List α}
    (h : items read i ts = .ok as) : ∀ a ∈ as, ∃ t, read t = .ok a := by
  induction ts generalizing i as with
  | nil =>
    cases h
    simp
  | cons t ts ih =>
    obtain ⟨b, bs, rfl, first, others⟩ := items_cons_eq_ok h
    rw [List.forall_mem_cons]
    exact ⟨⟨t, first⟩, ih others⟩

/-- Items that were read from their own trees were read each from its own. -/
theorem items_map_eq_ok {read : Tree → Except Fault α} {write : α → Tree} {i : Nat} {as : List α}
    (h : items read i (as.map write) = .ok as) : ∀ a ∈ as, read (write a) = .ok a := by
  induction as generalizing i with
  | nil => simp
  | cons a as ih =>
    obtain ⟨b, bs, same, first, others⟩ := items_cons_eq_ok h
    cases same
    rw [List.forall_mem_cons]
    exact ⟨first, ih others⟩

theorem list_eq_ok {read : Reader α} {budget : Nat} {t : Tree} {as : List α}
    (h : Reader.list read budget t = .ok as) :
    ∃ rest ts, budget = rest + 1 ∧ t = .array ts true ∧ items (read rest) 0 ts = .ok as := by
  unfold Reader.list at h
  split at h
  · split at h
    · cases h
    rename_i ts closed _ rest
    split at h
    · cases h
    rename_i bs found
    split at h
    · rename_i is_closed
      cases h
      rw [is_closed]
      exact ⟨rest, ts, rfl, rfl, found⟩
    · cases h
  · exact absurd h (mismatch_ne_ok _ _ _)

theorem put_eq_ok {presence : Presence} {name : String} {read : Reader α} {set : α → σ → σ}
    {budget : Nat} {t : Tree} {g : σ → σ}
    (h : (Field.of presence name read set).put budget t = .ok g) :
    ∃ a, read budget t = .ok a ∧ g = set a := by
  have put : (Field.of presence name read set).put budget t = (read budget t).map set := rfl
  rw [put] at h
  cases found : read budget t with
  | error fault =>
    rw [found] at h
    cases h
  | ok a =>
    rw [found] at h
    cases h
    exact ⟨a, rfl, rfl⟩

/-- What every field puts into a record keeps a property of the record. -/
def Keeps (budget : Nat) (fields : List (Field σ)) (P : σ → Prop) : Prop :=
  ∀ field ∈ fields, ∀ t set r, field.put budget t = .ok set → P r → P (set r)

theorem Keeps.nil {budget : Nat} {P : σ → Prop} : Keeps budget [] P := by
  intro field member
  cases member

theorem Keeps.cons {presence : Presence} {name : String} {read : Reader α} {set : α → σ → σ}
    {budget : Nat} {fields : List (Field σ)} {P : σ → Prop}
    (first : ∀ t a r, read budget t = .ok a → P r → P (set a r)) (others : Keeps budget fields P) :
    Keeps budget (Field.of presence name read set :: fields) P := by
  intro field member t g r put holds
  rcases List.mem_cons.1 member with rfl | member
  · obtain ⟨a, was_read, rfl⟩ := put_eq_ok put
    exact first t a r was_read holds
  · exact others field member t g r put holds

theorem inside_eq_ok {step : Step} {x : Except Fault α} {a : α} (h : inside step x = .ok a) :
    x = .ok a := by
  cases x with
  | error fault => cases h
  | ok b => exact h

/-- A member that is a field is put into the record. -/
theorem members_field_eq_ok {shape : Shape σ} {budget : Nat} {key : String} {t : Tree}
    {rest : List (Option String × Tree)} {seen seen' : List String} {r r' : σ} {field : Field σ}
    (h : members shape budget ((some key, t) :: rest) seen r = .ok (seen', r'))
    (found : shape.fields.find? (·.name == key) = some field) :
    ∃ set, field.put budget t = .ok set ∧
      members shape budget rest (key :: seen) (set r) = .ok (seen', r') := by
  rw [members, found] at h
  dsimp only at h
  split at h
  · cases h
  split at h
  · cases h
  rename_i set put
  exact ⟨set, inside_eq_ok put, h⟩

/-- The same for a field that is given by its reader. -/
theorem members_of_eq_ok {shape : Shape σ} {budget : Nat} {key : String} {t : Tree}
    {rest : List (Option String × Tree)} {seen seen' : List String} {r r' : σ}
    {presence : Presence} {name : String} {read : Reader α} {set : α → σ → σ}
    (h : members shape budget ((some key, t) :: rest) seen r = .ok (seen', r'))
    (found : shape.fields.find? (·.name == key) = some (Field.of presence name read set)) :
    ∃ a, read budget t = .ok a ∧
      members shape budget rest (key :: seen) (set a r) = .ok (seen', r') := by
  obtain ⟨g, put, h⟩ := members_field_eq_ok h found
  obtain ⟨a, was_read, rfl⟩ := put_eq_ok put
  exact ⟨a, was_read, h⟩

/-- One member of an object: a field that is put into the record, or a member passed over. -/
theorem members_cons_eq_ok {shape : Shape σ} {budget : Nat} {m : Option String × Tree}
    {rest : List (Option String × Tree)} {seen seen' : List String} {r r' : σ}
    (h : members shape budget (m :: rest) seen r = .ok (seen', r')) :
    (∃ field set, shape.fields.find? (·.name == field.name) = some field ∧
        field.put budget m.2 = .ok set ∧
        members shape budget rest (field.name :: seen) (set r) = .ok (seen', r')) ∨
      members shape budget rest seen r = .ok (seen', r') := by
  obtain ⟨_ | key, t⟩ := m
  · cases h
  cases found : shape.fields.find? (·.name == key) with
  | some field =>
    obtain ⟨set, put, h⟩ := members_field_eq_ok h found
    have name : field.name = key := by simpa using List.find?_some found
    subst name
    exact .inl ⟨field, set, found, put, h⟩
  | none =>
    rw [members, found] at h
    dsimp only at h
    split at h
    · cases h
    split at h
    · exact .inr h
    · cases h

theorem members_induction {shape : Shape σ} {budget : Nat} {P : σ → Prop}
    (keeps : Keeps budget shape.fields P) {ms : List (Option String × Tree)}
    {seen seen' : List String} {r r' : σ} (holds : P r)
    (h : members shape budget ms seen r = .ok (seen', r')) : P r' := by
  induction ms generalizing seen r with
  | nil =>
    cases h
    exact holds
  | cons m rest ih =>
    obtain ⟨field, set, found, put, h⟩ | h := members_cons_eq_ok h
    · exact ih (keeps field (List.mem_of_find?_eq_some found) m.2 set r put holds) h
    · exact ih holds h

theorem members_seen {shape : Shape σ} {budget : Nat} {ms : List (Option String × Tree)}
    {seen seen' : List String} {r r' : σ}
    (h : members shape budget ms seen r = .ok (seen', r')) {name : String} (met : name ∈ seen') :
    name ∈ seen ∨ ∃ field, shape.fields.find? (·.name == name) = some field ∧
      ∃ t set, field.put budget t = .ok set := by
  induction ms generalizing seen r with
  | nil =>
    cases h
    exact .inl met
  | cons m rest ih =>
    obtain ⟨field, set, found, put, h⟩ | h := members_cons_eq_ok h
    · obtain before | later := ih h
      · rcases List.mem_cons.1 before with rfl | before
        · exact .inr ⟨field, found, m.2, set, put⟩
        · exact .inl before
      · exact .inr later
    · exact ih h

/-- One field of an array: it is put into the record, or it has a default and the items are at
    their end. -/
theorem positions_cons_eq_ok {shape : Shape σ} {budget i : Nat} {closed : Bool} {field : Field σ}
    {fields : List (Field σ)} {ts : List Tree} {r r' : σ}
    (h : positions shape budget closed i (field :: fields) ts r = .ok r') :
    (∃ t rest set, ts = t :: rest ∧ field.put budget t = .ok set ∧
        positions shape budget closed (i + 1) fields rest (set r) = .ok r') ∨
      field.presence = .defaulted ∧
        positions shape budget closed (i + 1) fields [] r = .ok r' := by
  cases ts with
  | nil =>
    rw [positions] at h
    split at h
    · cases h
    split at h
    · cases h
    rename_i defaulted
    exact .inr ⟨by simpa using defaulted, h⟩
  | cons t rest =>
    rw [positions] at h
    split at h
    · cases h
    rename_i set put
    exact .inl ⟨t, rest, set, rfl, inside_eq_ok put, h⟩

theorem positions_induction {shape : Shape σ} {budget : Nat} {closed : Bool} {P : σ → Prop}
    {fields : List (Field σ)} (keeps : Keeps budget fields P) {i : Nat} {ts : List Tree} {r r' : σ}
    (holds : P r) (h : positions shape budget closed i fields ts r = .ok r') : P r' := by
  induction fields generalizing i ts r with
  | nil =>
    cases ts with
    | nil =>
      rw [positions] at h
      split at h
      · cases h
        exact holds
      · cases h
    | cons t rest => cases h
  | cons field fields ih =>
    have others : Keeps budget fields P := by
      intro field member
      exact keeps field (List.mem_cons_of_mem _ member)
    obtain ⟨t, rest, set, -, put, h⟩ | ⟨-, h⟩ := positions_cons_eq_ok h
    · exact ih others (keeps field (List.mem_cons_self ..) t set r put holds) h
    · exact ih others holds h

theorem positions_put {shape : Shape σ} {budget : Nat} {closed : Bool} {fields : List (Field σ)}
    {i : Nat} {ts : List Tree} {r r' : σ}
    (h : positions shape budget closed i fields ts r = .ok r') {field : Field σ}
    (member : field ∈ fields) (needed : field.presence = .needed) :
    ∃ t set, field.put budget t = .ok set := by
  induction fields generalizing i ts r with
  | nil => cases member
  | cons first fields ih =>
    obtain ⟨t, rest, set, -, put, h⟩ | ⟨defaulted, h⟩ := positions_cons_eq_ok h
    · rcases List.mem_cons.1 member with rfl | member
      · exact ⟨t, set, put⟩
      · exact ih h member
    · rcases List.mem_cons.1 member with rfl | member
      · rw [needed] at defaulted
        cases defaulted
      · exact ih h member

/-- A property of the initial record that every field keeps holds of what is read. -/
theorem record_induction {shape : Shape σ} {budget : Nat} {t : Tree} {r : σ} {P : σ → Prop}
    (h : record shape (budget + 1) t = .ok r) (initial : P shape.initial)
    (keeps : Keeps budget shape.fields P) : P r := by
  obtain ⟨rest, same, ⟨ms, seen, -, found, -⟩ | ⟨ts, closed, -, found⟩⟩ := record_eq_ok.1 h
  · cases same
    exact members_induction keeps initial found
  · cases same
    exact positions_induction keeps initial found

/-- A field that must be present was read. -/
theorem exists_put {shape : Shape σ} {budget : Nat} {t : Tree} {r : σ}
    (h : record shape (budget + 1) t = .ok r) {name : String} {field : Field σ}
    (named : shape.fields.find? (·.name == name) = some field) (needed : field.presence = .needed) :
    ∃ t set, field.put budget t = .ok set := by
  have member := List.mem_of_find?_eq_some named
  obtain ⟨rest, same, ⟨ms, seen, -, found, complete⟩ | ⟨ts, closed, -, found⟩⟩ := record_eq_ok.1 h
  · cases same
    have met : name ∈ seen := by
      have same_name : field.name = name := by simpa using List.find?_some named
      rw [missing?, Option.map_eq_none_iff, List.find?_eq_none] at complete
      simpa [needed, same_name] using complete field member
    obtain before | ⟨other, found_other, put⟩ := members_seen found met
    · cases before
    · rw [named] at found_other
      cases found_other
      exact put
  · cases same
    exact positions_put found member needed

end Reader

end QueryDesk.Json
