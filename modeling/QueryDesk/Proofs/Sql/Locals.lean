import QueryDesk.Proofs.Sql.Verdict

/-!
# Resolving local tables

What `resolveLocals` changes: the left sides of ON clauses, and that a local table may be missing.
Without it the local tables are not read.
-/

namespace QueryDesk.Sql

open QueryDesk.Query QueryDesk.Outcome

/-- Two token streams of which the second one has `t1` on the left side of ON clauses, and that are
    the same otherwise. -/
inductive Rehung : List Token → List Token → Prop where
  | nil : Rehung [] []
  | same {ts ts' : List Token} (t : Token) (rest : Rehung ts ts') : Rehung (t :: ts) (t :: ts')
  | left {ts ts' : List Token} (source : String) (rest : Rehung ts ts') :
      Rehung (.on :: .space :: .ident source :: ts) (.on :: .space :: .ident (aliasName 1) :: ts')

namespace Rehung

theorem refl (ts : List Token) : Rehung ts ts := by
  induction ts with
  | nil => exact .nil
  | cons t ts ih => exact .same t ih

theorem append {ts ts' us us' : List Token} (front : Rehung ts ts') (back : Rehung us us') :
    Rehung (ts ++ us) (ts' ++ us') := by
  induction front with
  | nil => exact back
  | same t _ ih => exact .same t ih
  | left source _ ih => exact .left source ih

theorem length_eq {ts ts' : List Token} (h : Rehung ts ts') : ts.length = ts'.length := by
  induction h with
  | nil => rfl
  | same t _ ih => rw [List.length_cons, List.length_cons, ih]
  | left source _ ih => simp [ih]

end Rehung

theorem rehung_onTokens (source localColumn handle referenceColumn : String) :
    Rehung (onTokens source localColumn handle referenceColumn)
      (onTokens (aliasName 1) localColumn handle referenceColumn) := by
  have introduced := Rehung.refl [.space, .as, .space, .ident handle, .space]
  exact introduced.append (.left source (.refl _))

mutual

/-- A spec with the given local table in every join of its tree. -/
def withLocal (ref : TableRef) : Spec → Spec
  | ⟨database, isSubquery, table, columns, joins, filters, orders⟩ =>
    ⟨database, isSubquery, table, columns, joinsWithLocal ref joins, filters, orders⟩

/-- Joins with the given local table, and their trees too. -/
def joinsWithLocal (ref : TableRef) : List (Join Spec) → List (Join Spec)
  | [] => []
  | ⟨kind, _, localColumn, target, referenceColumn⟩ :: rest =>
    ⟨kind, ref, localColumn, targetWithLocal ref target, referenceColumn⟩ ::
      joinsWithLocal ref rest

/-- A join's target with the given local table in every join of its tree. -/
def targetWithLocal (ref : TableRef) : Target Spec → Target Spec
  | .table t => .table t
  | .derived s => .derived (withLocal ref s)

end

section

variable {bound : Nat} {ref : TableRef}

/-! ## Local tables that are not read -/

theorem name_targetWithLocal (target : Target Spec) :
    (targetWithLocal ref target).name = target.name := by
  rcases target with t | s
  · rfl
  · cases s
    rfl

theorem of_joinsWithLocal (table : TableRef) (joins : List (Join Spec)) :
    Scope.of table (joinsWithLocal ref joins) = Scope.of table joins := by
  unfold Scope.of
  congr 1
  induction joins with
  | nil => rfl
  | cons join rest ih =>
    rw [joinsWithLocal, List.map_cons, List.map_cons, ih, name_targetWithLocal]

mutual

/-- Without `resolveLocals` the local tables do not matter. -/
theorem specTokens_withLocal (outer : List Scope) (level : Nat) (s : Spec) :
    specTokens ⟨bound, false⟩ outer level (withLocal ref s) =
      specTokens ⟨bound, false⟩ outer level s :=
  match s with
  | ⟨database, isSubquery, table, columns, joins, filters, orders⟩ => by
    rw [withLocal, specTokens, specTokens, of_joinsWithLocal]
    simp only [joinTokens_withLocal _ _ _ _ joins]

theorem joinTokens_withLocal (database : Option String) (scopes : List Scope)
    (level number : Nat) (joins : List (Join Spec)) :
    joinTokens ⟨bound, false⟩ database scopes level number (joinsWithLocal ref joins) =
      joinTokens ⟨bound, false⟩ database scopes level number joins :=
  match joins with
  | [] => by rw [joinsWithLocal]
  | ⟨kind, localTable, localColumn, target, referenceColumn⟩ :: rest => by
    rw [joinsWithLocal, joinTokens, joinTokens, targetTokens_withLocal _ _ _ target,
      joinTokens_withLocal _ _ _ _ rest]
    rfl

theorem targetTokens_withLocal (database : Option String) (scopes : List Scope) (level : Nat)
    (target : Target Spec) :
    targetTokens ⟨bound, false⟩ database scopes level (targetWithLocal ref target) =
      targetTokens ⟨bound, false⟩ database scopes level target :=
  match target with
  | .table t => by rw [targetWithLocal]
  | .derived s => by
    rw [targetWithLocal, targetTokens, targetTokens, specTokens_withLocal _ _ s]

end

theorem compile_withLocal (s : Spec) :
    compile ⟨bound, false⟩ (withLocal ref s) = compile ⟨bound, false⟩ s := by
  rw [compile, compileTokens, specTokens_withLocal]
  rfl

/-! ## Local tables that are read -/

mutual

/-- A spec that compiles with its local tables compiles without them. -/
theorem specTokens_rehung {outer : List Scope} {level : Nat} {s : Spec} {ts : List Token}
    (h : specTokens ⟨bound, true⟩ outer level s = .ok ts) :
    ∃ ts', specTokens ⟨bound, false⟩ outer level s = .ok ts' ∧ Rehung ts ts' :=
  match s with
  | ⟨database, isSubquery, table, columns, joins, filters, orders⟩ => by
    rw [specTokens] at h ⊢
    split at h
    · cases h
    split at h
    · cases h
    rename_i shallow flagged
    rw [if_neg shallow, if_neg flagged]
    obtain ⟨selected, columnsOk, h⟩ := bind_eq_ok.1 h
    obtain ⟨joined, joinsOk, h⟩ := bind_eq_ok.1 h
    obtain ⟨filtered, filtersOk, h⟩ := bind_eq_ok.1 h
    obtain ⟨ordered, ordersOk, h⟩ := bind_eq_ok.1 h
    cases h
    obtain ⟨joined', joinsOk', rehung⟩ := joinTokens_rehung joinsOk
    refine ⟨_, bind_eq_ok.2 ⟨selected, columnsOk, bind_eq_ok.2 ⟨joined', joinsOk',
      bind_eq_ok.2 ⟨filtered, filtersOk, bind_eq_ok.2 ⟨ordered, ordersOk, rfl⟩⟩⟩⟩, ?_⟩
    exact (((Rehung.refl _).append rehung).append (.refl filtered)).append (.refl ordered)

theorem joinTokens_rehung {database : Option String} {scopes : List Scope} {level number : Nat}
    {joins : List (Join Spec)} {ts : List Token}
    (h : joinTokens ⟨bound, true⟩ database scopes level number joins = .ok ts) :
    ∃ ts', joinTokens ⟨bound, false⟩ database scopes level number joins = .ok ts' ∧
      Rehung ts ts' :=
  match joins with
  | [] => by
    rw [joinTokens] at h ⊢
    cases h
    exact ⟨[], rfl, .nil⟩
  | ⟨kind, localTable, localColumn, target, referenceColumn⟩ :: rest => by
    rw [joinTokens] at h ⊢
    obtain ⟨source, -, h⟩ := bind_eq_ok.1 h
    obtain ⟨middle, targetOk, h⟩ := bind_eq_ok.1 h
    obtain ⟨others, restOk, h⟩ := bind_eq_ok.1 h
    cases h
    obtain ⟨middle', targetOk', rehungTarget⟩ := targetTokens_rehung targetOk
    obtain ⟨others', restOk', rehungRest⟩ := joinTokens_rehung restOk
    refine ⟨_, bind_eq_ok.2 ⟨aliasName 1, rfl, bind_eq_ok.2 ⟨middle', targetOk',
      bind_eq_ok.2 ⟨others', restOk', rfl⟩⟩⟩, ?_⟩
    exact (((Rehung.refl _).append rehungTarget).append (rehung_onTokens ..)).append rehungRest

theorem targetTokens_rehung {database : Option String} {scopes : List Scope} {level : Nat}
    {target : Target Spec} {ts : List Token}
    (h : targetTokens ⟨bound, true⟩ database scopes level target = .ok ts) :
    ∃ ts', targetTokens ⟨bound, false⟩ database scopes level target = .ok ts' ∧ Rehung ts ts' :=
  match target with
  | .table t => by
    rw [targetTokens] at h ⊢
    exact ⟨ts, h, .refl ts⟩
  | .derived s => by
    rw [targetTokens] at h ⊢
    obtain ⟨nested, nestedOk, h⟩ := bind_eq_ok.1 h
    cases h
    obtain ⟨nested', nestedOk', rehung⟩ := specTokens_rehung nestedOk
    refine ⟨_, bind_eq_ok.2 ⟨nested', nestedOk', rfl⟩, ?_⟩
    exact (((Rehung.refl _).append rehung).append (.refl (line level))).append (.refl [.rparen])

end

/-- What can go wrong with the local tables and does not without them: one that is not flagged is
    missing. -/
theorem block_error_of_ok {s : Spec} {b : Block} {e : CompileError}
    (without : (Node.root s).block ⟨bound, false⟩ 0 = .ok b)
    (failed : (Node.root s).block ⟨bound, true⟩ 0 = .error e) :
    (Node.root s).Somewhere fun n => ∃ join ∈ n.spec.joins,
      join.localTable.isPrimary = false ∧ e = .unresolved join.localTable.table := by
  obtain ⟨depth, admissible⟩ := (exists_block_iff (Node.root s)).1 ⟨b, without⟩
  have justified := justified_of_error (Node.root s) failed
  cases e with
  | tooDeep max => exact absurd justified.2 (Nat.not_lt.2 depth)
  | unflaggedPrimary name =>
    obtain ⟨path, m, found, plain⟩ := justified
    have primary := (admissible path m found).primary
    rw [plain] at primary
    cases primary
  | flaggedTarget name =>
    obtain ⟨path, m, found, join, member, target⟩ := justified
    have plain := (admissible path m found).targets join member _ target
    cases plain
  | unresolved name =>
    obtain ⟨path, m, found, ref, member, rfl, missing⟩ := justified
    refine ⟨path, m, found, ?_⟩
    rcases List.mem_append.1 member with read | hung
    · have resolvable := (admissible path m found).references ref (List.mem_append_left _ read)
      exact absurd resolvable missing
    · obtain ⟨join, joined, rfl⟩ := List.mem_map.1 hung
      refine ⟨join, joined, ?_, rfl⟩
      by_contra flagged
      exact missing (.inl (by simpa using flagged))

/-- A local table that is flagged is the one that joins hang off anyway. -/
theorem localAlias_of_isPrimary {options : Options} {n : Node} {ref : TableRef}
    (flagged : ref.isPrimary = true) : localAlias options n.scopes ref = .ok (aliasName 1) := by
  have scopes : n.scopes = scopeOf n.spec :: n.outer.map scopeOf := rfl
  have first : (scopeOf n.spec).resolve ref = some 1 := by
    rw [Scope.resolve, if_pos flagged]
  unfold localAlias resolveAlias
  rw [scopes, locate, first]
  split <;> rfl

theorem block_eq_of_flagged {level : Nat} (n : Node)
    (flagged : n.Everywhere fun m => ∀ join ∈ m.spec.joins, join.localTable.isPrimary = true) :
    n.block ⟨bound, true⟩ level = n.block ⟨bound, false⟩ level := by
  induction n using Node.induction generalizing level with
  | step n ih =>
    obtain ⟨here, below⟩ := Node.everywhere_iff.1 flagged
    apply block_congr
    · exact .inl rfl
    · exact fun _ _ => rfl
    · exact fun _ _ => rfl
    · exact fun _ _ => rfl
    · intro join member
      rw [localAlias_of_isPrimary (here join member), localAlias_of_isPrimary (here join member)]
    · intro join member s target
      exact ih join member s target (below join member s target)

end

/-- What `resolveLocals` changes.  A spec that compiles with it compiles without it, to the same
    tokens but for the left sides of ON clauses.  A spec that compiles only without it has a local
    table that is not flagged and that the error names.  Where all local tables are flagged nothing
    changes.  Without `resolveLocals` the local tables of a tree may be any. -/
theorem compile_conservative (bound : Nat) (s : Spec) :
    (∀ sql, compile ⟨bound, true⟩ s = .ok sql →
      ∃ ts ts', compileTokens ⟨bound, true⟩ s = .ok ts ∧ sql = tokensText ts ∧
        compileTokens ⟨bound, false⟩ s = .ok ts' ∧
        compile ⟨bound, false⟩ s = .ok (tokensText ts') ∧
        ts.length = ts'.length ∧ Rehung ts ts') ∧
    (∀ sql e, compile ⟨bound, false⟩ s = .ok sql → compile ⟨bound, true⟩ s = .error e →
      (Node.root s).Somewhere fun n => ∃ join ∈ n.spec.joins,
        join.localTable.isPrimary = false ∧ e = .unresolved join.localTable.table) ∧
    (((Node.root s).Everywhere fun n => ∀ join ∈ n.spec.joins, join.localTable.isPrimary = true) →
      compile ⟨bound, true⟩ s = compile ⟨bound, false⟩ s) ∧
    ∀ ref s', withLocal ref s' = withLocal ref s →
      compile ⟨bound, false⟩ s' = compile ⟨bound, false⟩ s := by
  refine ⟨?_, ?_, ?_, ?_⟩
  · intro sql h
    unfold compile at h ⊢
    cases compiled : compileTokens ⟨bound, true⟩ s with
    | error e =>
      rw [compiled] at h
      cases h
    | ok ts =>
      rw [compiled] at h
      cases h
      obtain ⟨ts', without, rehung⟩ := specTokens_rehung compiled
      have without : compileTokens ⟨bound, false⟩ s = .ok ts' := without
      rw [without]
      exact ⟨ts, ts', rfl, rfl, rfl, rfl, rehung.length_eq, rehung⟩
  · intro sql e without failed
    obtain ⟨b, block, -⟩ := compile_eq_ok.1 without
    rw [compile_eq] at failed
    cases blocked : (Node.root s).block ⟨bound, true⟩ 0 with
    | ok b' =>
      rw [blocked] at failed
      cases failed
    | error e' =>
      rw [blocked] at failed
      cases failed
      exact block_error_of_ok block blocked
  · intro flagged
    rw [compile_eq, compile_eq, block_eq_of_flagged (Node.root s) flagged]
  · intro ref s' same
    rw [← compile_withLocal s', same, compile_withLocal]

/-- Users with their orders and the invoices of those. -/
def billedUsers : Spec :=
  { Spec.ofTable "users" with
    columns := [⟨.primary "users", "email", "Email", none⟩]
    joins := [
      ⟨.inner, .primary "users", "id", .table (.plain "orders"), "user_id"⟩,
      ⟨.inner, .plain "orders", "id", .table (.plain "invoices"), "order_id"⟩] }

theorem billedUsers_conservative :
    (∃ ts ts', compileTokens ⟨16, true⟩ billedUsers = .ok ts ∧
      compileTokens ⟨16, false⟩ billedUsers = .ok ts' ∧ ts ≠ ts' ∧ Rehung ts ts') ∧
    compile ⟨16, true⟩ (withLocal (.plain "refunds") billedUsers) =
      .error (.unresolved "refunds") ∧
    compile ⟨16, true⟩ (withLocal (.primary "users") billedUsers) =
      compile ⟨16, false⟩ (withLocal (.plain "refunds") billedUsers) := by
  have compiled : ∃ sql, compile ⟨16, true⟩ billedUsers = .ok sql := ⟨_, rfl⟩
  obtain ⟨sql, compiled⟩ := compiled
  refine ⟨?_, ?_, ?_⟩
  · obtain ⟨ts, ts', read, -, unread, -, -, rehung⟩ :=
      (compile_conservative 16 billedUsers).1 sql compiled
    refine ⟨ts, ts', read, unread, ?_, rehung⟩
    rintro rfl
    have left : compileTokens ⟨16, true⟩ billedUsers ≠ compileTokens ⟨16, false⟩ billedUsers := by
      decide
    exact left (read.trans unread.symm)
  · rfl
  · obtain ⟨-, -, flagged, unread⟩ :=
      compile_conservative 16 (withLocal (.primary "users") billedUsers)
    rw [flagged]
    · exact (unread (.plain "refunds") _ rfl).symm
    · refine Node.everywhere_iff.2 ⟨by decide, ?_⟩
      intro join member s target
      cases member with
      | head => cases target
      | tail _ member =>
        cases member with
        | head => cases target
        | tail _ member => cases member

end QueryDesk.Sql
