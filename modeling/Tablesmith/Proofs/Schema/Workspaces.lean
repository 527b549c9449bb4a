import Tablesmith.Proofs.Schema.Sessions
import Tablesmith.Schema.Workspace

/-!
# Columns in a workspace

Constraints hold columns of any table in a workspace, so a column may occur in
many places.  All its occurrences agree, whatever is done to the workspace:
calls only append, and a column is renamed wherever it occurs.
-/

namespace Tablesmith.Schema

theorem getElem?_concat {α : Type} (xs : List α) (x : α) (place : Nat) :
    (xs ++ [x])[place]? = if place = xs.length then some x else xs[place]? := by
  by_cases atEnd : place = xs.length
  · rw [if_pos atEnd, atEnd, List.getElem?_concat_length]
  · rw [if_neg atEnd, List.getElem?_append]
    split
    · rfl
    next beyond =>
      rw [List.getElem?_eq_none (by rw [List.length_singleton]; omega),
        List.getElem?_eq_none (by omega)]

namespace Table

/-! ## Constraints that are asked for, or stand outside of tables -/

/-- A kind of constraint equals nothing but itself. -/
theorem constraintType_beq_iff {type : ConstraintType} {v : Value} :
    (Value.constraintType type == v) = true ↔ v = .constraintType type := by
  change Value.same (.member (.constraint type)) v = true ↔ _
  cases v with
  | member m => simp [Value.same, eq_comm]
  | bool b => cases b <;> simp [Value.same, Value.sameNumbers, Value.asNumber]
  | _ => simp [Value.same, Value.sameNumbers, Value.asNumber]

/-- A kind of constraint yields the constraints of that kind, nothing yields
all of them, and any other value yields none. -/
theorem mem_constraintsLike_iff {t : Table} {v : Value} {k : Constraint} :
    k ∈ t.constraintsLike v ↔
      k ∈ t.constraints ∧ (v = .null ∨ v = .constraintType k.type) := by
  unfold constraintsLike
  cases v with
  | null => simp [Value.isNull]
  | _ =>
      rw [if_neg (by simp [Value.isNull]), List.mem_filter,
        constraintType_beq_iff]
      simp

/-- A reference column is a number column and the foreign key that can be made
over it, outside of the table, by its name. -/
theorem addReferenceColumn_eq_done
    {t after : Table} {name column : Value} {target : Target}
    {actions : ReferenceActions} {options : ColumnOptions}
    (meetsItself : (name == name) = true)
    (done :
      t.addReferenceColumn name target column actions options =
        .done after) :
    let withColumn :=
      t.append (t.nextColumn name (.columnType .number) options)
    ∃ k,
      withColumn.looseForeignKey (foreignKeyName name) target
          (if column.truthy then column else name) actions [name] =
        .ok k ∧
      after = withColumn.addConstraint k := by
  intro withColumn
  unfold addReferenceColumn at done
  dsimp only at done
  have free : t.column? name = none := by
    cases taken : t.column? name with
    | none => rfl
    | some other =>
        rw [addColumn_columnType, taken, if_pos (by simp)] at done
        cases done
  have found :
      withColumn.column? name =
        some (t.nextColumn name (.columnType .number) options) := by
    unfold column? at free ⊢
    rw [columns_append, List.find?_append, free, Option.none_or]
    exact List.find?_cons_of_pos meetsItself
  rcases addColumn_failed_or_done t name .number options with
    ⟨left, failure, _, failed⟩ | added
  · simp only [failed] at done
    cases done
  · simp only [added, Attempt.andThen, Attempt.done] at done
    cases isNames : namesIn (if column.truthy then column else name) with
    | error fault =>
        rw [isNames] at done
        cases done
    | ok names =>
        rw [isNames] at done
        cases done
        have onlyOne :
            [name].filterMap withColumn.column? =
              [t.nextColumn name (.columnType .number) options] :=
          List.filterMap_cons_some found
        refine
          ⟨⟨foreignKeyName name, .foreignKey ⟨target, names, actions⟩,
            [t.nextColumn name (.columnType .number) options]⟩, ?_, rfl⟩
        unfold looseForeignKey
        rw [isNames, onlyOne]

/-! ## What calls make of a table -/

/-- What a table becomes in one call or in several, whatever they are given:
columns come to the end, and constraints get columns of the table. -/
inductive Builds (t : Table) : Table → Prop
  | same : Builds t t
  | column {after : Table} {c : Column} :
      Builds t after → c.id = ⟨after.id, after.columns.length⟩ →
      Builds t (after.append c)
  | key {after : Table} {c : Column} :
      Builds t after → c ∈ after.columns →
      Builds t (after.extendPrimaryKey c)
  | constraint {after : Table} {k : Constraint} :
      Builds t after → (∀ c ∈ k.columns, c ∈ after.columns) →
      Builds t (after.addConstraint k)

/-- The columns of a table are numbered by their places. -/
def IsNumbered (t : Table) : Prop :=
  ∀ (place : Nat) (c : Column), t.columns[place]? = some c →
    c.id = ⟨t.id, place⟩

section Builds

variable {t after : Table}

/-- A column is appended or not, and if the call succeeds, it is. -/
theorem addColumn_leaves
    (t : Table) (name type : Value) (options : ColumnOptions) :
    ((t.addColumn name type options).table = t ∨
        (t.addColumn name type options).table =
          t.append (t.nextColumn name type options)) ∧
      ((t.addColumn name type options).result = .ok () →
        (t.addColumn name type options).table =
          t.append (t.nextColumn name type options)) := by
  unfold addColumn
  split
  · exact ⟨.inl rfl, nofun⟩
  · split
    · exact ⟨.inl rfl, nofun⟩
    · dsimp only
      split
      · split
        · exact ⟨.inr rfl, fun _ => rfl⟩
        · exact ⟨.inr rfl, nofun⟩
      · exact ⟨.inr rfl, nofun⟩

theorem builds_append_nextColumn
    (name type : Value) (options : ColumnOptions) :
    t.Builds (t.append (t.nextColumn name type options)) :=
  .column .same rfl

/-- A call that adds a column may go on with the table that has it. -/
theorem builds_addColumn_andThen
    {name type : Value} {options : ColumnOptions} {next : Table → Attempt}
    (goesOn :
      t.Builds (next (t.append (t.nextColumn name type options))).table) :
    t.Builds ((t.addColumn name type options).andThen next).table := by
  obtain ⟨leaves, succeeds⟩ := addColumn_leaves t name type options
  unfold Attempt.andThen
  cases result : (t.addColumn name type options).result with
  | ok =>
      dsimp only
      rw [succeeds result]
      exact goesOn
  | error failure =>
      dsimp only
      rcases leaves with same | appended
      · rw [same]
        exact .same
      · rw [appended]
        exact builds_append_nextColumn name type options

theorem builds_addColumn (name type : Value) (options : ColumnOptions) :
    t.Builds (t.addColumn name type options).table := by
  rcases (addColumn_leaves t name type options).1 with same | appended
  · rw [same]
    exact .same
  · rw [appended]
    exact builds_append_nextColumn name type options

theorem builds_addPrimaryKeyColumn (name : Value) :
    t.Builds (t.addPrimaryKeyColumn name).table := by
  unfold addPrimaryKeyColumn
  apply builds_addColumn_andThen
  exact .key (builds_append_nextColumn _ _ _)
    (List.mem_append_right _ (List.mem_singleton_self _))

theorem builds_addReferenceColumn
    (name : Value) (target : Target) (column : Value)
    (actions : ReferenceActions) (options : ColumnOptions) :
    t.Builds
      (t.addReferenceColumn name target column actions options).table := by
  unfold addReferenceColumn
  apply builds_addColumn_andThen
  split
  · exact builds_append_nextColumn _ _ _
  · refine .constraint (builds_append_nextColumn _ _ _) ?_
    intro c member
    rw [List.mem_singleton.mp member]
    exact List.mem_append_right _ (List.mem_singleton_self _)

theorem builds_addUniqueOf (columns : Value) :
    t.Builds (t.addUniqueOf columns).table := by
  unfold addUniqueOf
  split
  · exact .same
  · split
    · exact .same
    · unfold addUnique
      split
      · exact .same
      · dsimp only
        split
        · exact .same
        · exact .constraint .same fun c member => (List.mem_filter.mp member).1

/-- Every call builds on the table, also one that fails. -/
theorem builds_perform (call : Call) (t : Table) :
    t.Builds (call.perform t).table := by
  cases call with
  | column kind name keywords =>
      unfold Call.perform addColumnOf
      dsimp only
      split
      · split
        · exact .same
        · exact builds_addPrimaryKeyColumn _
      · split
        · exact .same
        · split
          · exact .same
          · exact builds_addColumn _ _ _
  | reference name target referenced actions keywords =>
      unfold Call.perform
      dsimp only
      split
      · exact .same
      · exact builds_addReferenceColumn _ _ _ _ _
  | unique columns => exact builds_addUniqueOf columns

theorem id_extendPrimaryKey (t : Table) (c : Column) :
    (t.extendPrimaryKey c).id = t.id := by
  unfold extendPrimaryKey
  split
  · rfl
  · rfl

theorem Builds.sameId (builds : t.Builds after) : after.id = t.id := by
  induction builds with
  | same => rfl
  | column _ _ inductionHypothesis => exact inductionHypothesis
  | key _ _ inductionHypothesis =>
      rw [id_extendPrimaryKey]
      exact inductionHypothesis
  | constraint _ _ inductionHypothesis => exact inductionHypothesis

theorem Builds.columns_subset (builds : t.Builds after) :
    t.columns ⊆ after.columns := by
  induction builds with
  | same => exact List.Subset.refl _
  | column _ _ inductionHypothesis =>
      exact List.subset_append_of_subset_left _ inductionHypothesis
  | key _ _ inductionHypothesis =>
      rw [columns_extendPrimaryKey]
      exact inductionHypothesis
  | constraint _ _ inductionHypothesis => exact inductionHypothesis

theorem Builds.isNumbered
    (builds : t.Builds after) (numbered : t.IsNumbered) :
    after.IsNumbered := by
  induction builds with
  | same => exact numbered
  | @column before c _ isNext inductionHypothesis =>
      intro place other there
      rw [columns_append, getElem?_concat] at there
      split at there
      next atEnd =>
        cases there
        rw [atEnd]
        exact isNext
      · exact inductionHypothesis place other there
  | key _ _ inductionHypothesis =>
      intro place other there
      rw [columns_extendPrimaryKey] at there
      rw [id_extendPrimaryKey]
      exact inductionHypothesis place other there
  | constraint _ _ inductionHypothesis => exact inductionHypothesis

/-- A constraint holds columns of the table, or what a constraint held
before. -/
theorem Builds.mem_of_held
    (builds : t.Builds after)
    {k : Constraint} (isConstraint : k ∈ after.constraints)
    {c : Column} (held : c ∈ k.columns) :
    c ∈ after.columns ∨ ∃ old ∈ t.constraints, c ∈ old.columns := by
  induction builds generalizing k with
  | same => exact .inr ⟨k, isConstraint, held⟩
  | @column before new _ _ inductionHypothesis =>
      rw [constraints_append, List.mem_append] at isConstraint
      rcases isConstraint with earlier | own
      · exact (inductionHypothesis earlier held).imp_left
          (List.mem_append_left [new])
      · rw [mem_uniquesOf own] at held
        exact .inl (List.mem_append_right _ held)
  | key _ own inductionHypothesis =>
      rw [columns_extendPrimaryKey]
      rcases mem_constraints_extendPrimaryKey isConstraint with
        earlier | rfl | ⟨old, earlier, rfl⟩
      · exact inductionHypothesis earlier held
      · rw [List.mem_singleton.mp held]
        exact .inl own
      · rcases List.mem_append.mp held with before | new
        · exact inductionHypothesis earlier before
        · rw [List.mem_singleton.mp new]
          exact .inl own
  | constraint _ own inductionHypothesis =>
      rw [constraints_addConstraint, List.mem_append] at isConstraint
      rcases isConstraint with earlier | new
      · exact inductionHypothesis earlier held
      · rw [List.mem_singleton.mp new] at held
        exact .inl (own c held)

end Builds

theorem mem_constraints_modifyConstraint
    {t : Table} {place : Nat} {f : Constraint → Constraint} {k : Constraint}
    (member : k ∈ (t.modifyConstraint place f).constraints) :
    k ∈ t.constraints ∨ ∃ old ∈ t.constraints, k = f old := by
  obtain ⟨position, there⟩ := List.mem_iff_getElem?.mp member
  unfold modifyConstraint at there
  rw [List.getElem?_modify] at there
  obtain ⟨old, isOld, changed⟩ := Option.map_eq_some_iff.mp there
  have earlier : old ∈ t.constraints := List.mem_of_getElem? isOld
  split at changed
  · exact .inr ⟨old, earlier, changed.symm⟩
  · exact .inl (changed ▸ earlier)

end Table

namespace Workspace

/-! ## Looking up tables -/

section Lookup

/-- Putting a table changes what is found in its place, and nothing else. -/
theorem table?_put (w : Workspace) (t : Table) (id : TableId) :
    (w.put t).table? id =
      if id = t.id then (w.table? id).map fun _ => t else w.table? id := by
  unfold put
  cases place : t.id with
  | declared position =>
      cases id with
      | declared other =>
          simp only [table?, List.getElem?_set', TableId.declared.injEq,
            eq_comm]
          rfl
      | loose other => simp [table?]
  | loose position =>
      cases id with
      | declared other => simp [table?]
      | loose other =>
          simp only [table?, List.getElem?_set', TableId.loose.injEq, eq_comm]
          rfl

theorem table?_mapTables (w : Workspace) (f : Table → Table) (id : TableId) :
    (w.mapTables f).table? id = (w.table? id).map f := by
  cases id with
  | declared position => exact List.getElem?_map
  | loose position => exact List.getElem?_map

theorem table?_addLoose
    (w : Workspace) (name : Value) (schema : Option String) (id : TableId) :
    (w.addLoose name schema).1.table? id =
      if id = .loose w.loose.length then
        some (Table.empty (.loose w.loose.length) name schema)
      else w.table? id := by
  cases id with
  | declared position => rfl
  | loose position =>
      simp only [addLoose, table?, getElem?_concat, TableId.loose.injEq]

/-- A declaration leaves the tables as they are, or adds an empty one. -/
theorem table?_declare
    (w : Workspace) (name : Value) (schema : Option String) :
    (w.database.declare name schema).database = w.database ∨
      ∀ id,
        ({ w with
            database := (w.database.declare name schema).database } :
          Workspace).table? id =
          if id = .declared w.database.tables.length then
            some (w.database.nextTable name schema)
          else w.table? id := by
  rcases Database.declare_cases w.database name schema with
    ⟨failure, ends⟩ | ⟨_, _, ends⟩
  · exact .inl (by rw [ends])
  · refine .inr fun id => ?_
    rw [ends]
    cases id with
    | loose position => rfl
    | declared position =>
        simp only [table?, getElem?_concat, TableId.declared.injEq]

end Lookup

/-! ## Occurrences of columns -/

/-- A column occurs in a workspace: a table has it, or a constraint of a table
holds it. -/
def Holds (w : Workspace) (c : Column) : Prop :=
  ∃ id t, w.table? id = some t ∧
    (c ∈ t.columns ∨ ∃ k ∈ t.constraints, c ∈ k.columns)

/-- A column stands in the table that its identity names. -/
def Owns (w : Workspace) (c : Column) : Prop :=
  ∃ owner, w.table? c.id.table = some owner ∧ c ∈ owner.columns

/-- Identities say where tables and columns stand, and every column that a
constraint holds stands there. -/
structure Coherent (w : Workspace) : Prop where
  numbered : ∀ id t, w.table? id = some t → t.id = id ∧ t.IsNumbered
  owned :
    ∀ id t, w.table? id = some t → ∀ k ∈ t.constraints, ∀ c ∈ k.columns,
      w.Owns c

namespace Coherent

variable {w after : Workspace} {id : TableId} {t : Table}

theorem owns_of_mem
    (coherent : w.Coherent) (there : w.table? id = some t)
    {c : Column} (own : c ∈ t.columns) : w.Owns c := by
  obtain ⟨isId, numbered⟩ := coherent.numbered id t there
  obtain ⟨place, atPlace⟩ := List.mem_iff_getElem?.mp own
  refine ⟨t, ?_, own⟩
  rw [numbered place c atPlace, isId]
  exact there

theorem owns_of_holds
    (coherent : w.Coherent) {c : Column} (holds : w.Holds c) : w.Owns c := by
  obtain ⟨id, t, there, own | ⟨k, isConstraint, held⟩⟩ := holds
  · exact coherent.owns_of_mem there own
  · exact coherent.owned id t there k isConstraint c held

/-- All occurrences of a column agree. -/
theorem eq_of_holds
    (coherent : w.Coherent) {c d : Column}
    (holds : w.Holds c) (holdsOther : w.Holds d) (same : c.id = d.id) :
    c = d := by
  obtain ⟨owner, there, own⟩ := coherent.owns_of_holds holds
  obtain ⟨_, found, otherOwn⟩ := coherent.owns_of_holds holdsOther
  rw [← same, there] at found
  cases found
  have numbered := (coherent.numbered _ owner there).2
  obtain ⟨place, atPlace⟩ := List.mem_iff_getElem?.mp own
  obtain ⟨otherPlace, atOther⟩ := List.mem_iff_getElem?.mp otherOwn
  rw [numbered place c atPlace, numbered otherPlace d atOther] at same
  cases same
  rw [atPlace] at atOther
  exact Option.some.inj atOther

/-- A table may be replaced by one that has its columns and maybe more, and
whose constraints hold columns of the workspace. -/
theorem put
    (coherent : w.Coherent) (there : w.table? id = some t)
    {new : Table} (sameId : new.id = t.id)
    (columns : t.columns ⊆ new.columns) (numbered : new.IsNumbered)
    (held :
      ∀ k ∈ new.constraints, ∀ c ∈ k.columns, c ∈ new.columns ∨ w.Owns c) :
    (w.put new).Coherent := by
  have isId : new.id = id :=
    sameId.trans (coherent.numbered id t there).1
  have found (other : TableId) :
      (w.put new).table? other =
        if other = id then some new else w.table? other := by
    rw [table?_put, isId]
    by_cases here : other = id
    · rw [if_pos here, if_pos here, here, there]
      rfl
    · rw [if_neg here, if_neg here]
  have own {c : Column} (member : c ∈ new.columns) : (w.put new).Owns c := by
    obtain ⟨place, atPlace⟩ := List.mem_iff_getElem?.mp member
    refine ⟨new, ?_, member⟩
    rw [found, numbered place c atPlace, isId, if_pos rfl]
  have kept {c : Column} (owns : w.Owns c) : (w.put new).Owns c := by
    obtain ⟨owner, isOwner, member⟩ := owns
    by_cases here : c.id.table = id
    · rw [here, there] at isOwner
      cases isOwner
      exact own (columns member)
    · exact ⟨owner, by rw [found, if_neg here, isOwner], member⟩
  constructor
  · intro other u isTable
    rw [found] at isTable
    split at isTable
    next here =>
      cases isTable
      exact ⟨isId.trans here.symm, numbered⟩
    · exact coherent.numbered other u isTable
  · intro other u isTable k isConstraint c inside
    rw [found] at isTable
    split at isTable
    · cases isTable
      exact (held k isConstraint c inside).elim own kept
    · exact kept (coherent.owned other u isTable k isConstraint c inside)

/-- A new table without columns and constraints changes nothing else. -/
theorem add
    (coherent : w.Coherent) {name : Value} {schema : Option String}
    (isNew : w.table? id = none)
    (found :
      ∀ other, after.table? other =
        if other = id then some (.empty id name schema)
        else w.table? other) :
    after.Coherent := by
  constructor
  · intro other u isTable
    rw [found] at isTable
    split at isTable
    next here =>
      cases isTable
      exact ⟨here.symm, nofun⟩
    · exact coherent.numbered other u isTable
  · intro other u isTable k isConstraint c inside
    rw [found] at isTable
    split at isTable
    · cases isTable
      cases isConstraint
    · obtain ⟨owner, isOwner, member⟩ :=
        coherent.owned other u isTable k isConstraint c inside
      refine ⟨owner, ?_, member⟩
      have notNew : c.id.table ≠ id := by
        intro here
        rw [here, isNew] at isOwner
        cases isOwner
      rw [found, if_neg notNew, isOwner]

theorem rename
    (coherent : w.Coherent) (renamed : ColumnId) (value : Value) :
    (w.mapTables (Table.renameColumn renamed value)).Coherent := by
  have sameId (c : Column) : (c.renamed renamed value).id = c.id := by
    unfold Column.renamed
    split
    · rfl
    · rfl
  constructor
  · intro id u isTable
    rw [table?_mapTables] at isTable
    obtain ⟨t, there, rfl⟩ := Option.map_eq_some_iff.mp isTable
    obtain ⟨isId, numbered⟩ := coherent.numbered id t there
    refine ⟨isId, fun place c atPlace => ?_⟩
    unfold Table.renameColumn at atPlace
    rw [List.getElem?_map] at atPlace
    obtain ⟨old, isOld, rfl⟩ := Option.map_eq_some_iff.mp atPlace
    rw [sameId]
    exact numbered place old isOld
  · intro id u isTable k isConstraint c inside
    rw [table?_mapTables] at isTable
    obtain ⟨t, there, rfl⟩ := Option.map_eq_some_iff.mp isTable
    obtain ⟨earlier, isEarlier, rfl⟩ := List.mem_map.mp isConstraint
    obtain ⟨old, wasInside, rfl⟩ := List.mem_map.mp inside
    obtain ⟨owner, isOwner, member⟩ :=
      coherent.owned id t there earlier isEarlier old wasInside
    refine ⟨owner.renameColumn renamed value, ?_, List.mem_map_of_mem member⟩
    rw [sameId, table?_mapTables, isOwner]
    rfl

/-- A constraint of a table may be changed, as long as it holds columns of the
workspace. -/
theorem modifyConstraint
    (coherent : w.Coherent) (there : w.table? id = some t)
    (place : Nat) {f : Constraint → Constraint}
    (held :
      ∀ k ∈ t.constraints, ∀ c ∈ (f k).columns, c ∈ k.columns ∨ w.Owns c) :
    (w.put (t.modifyConstraint place f)).Coherent := by
  refine coherent.put there rfl (List.Subset.refl t.columns)
    (coherent.numbered id t there).2 ?_
  intro k isConstraint c inside
  refine .inr ?_
  rcases Table.mem_constraints_modifyConstraint isConstraint with
    old | ⟨old, isOld, rfl⟩
  · exact coherent.owned id t there k old c inside
  · rcases held old isOld c inside with wasInside | owns
    · exact coherent.owned id t there old isOld c wasInside
    · exact owns

end Coherent

/-! ## Everything that is done to a workspace -/

/-- A workspace that is reached from the empty one: tables are declared or made
outside the database, columns are added to them, and parts of them are
assigned, also where that fails. -/
inductive Reached : Workspace → Prop
  | empty : Reached .empty
  | declare {w : Workspace} (name : Value) (schema : Option String) :
      Reached w →
      Reached
        { w with database := (w.database.declare name schema).database }
  | addLoose {w : Workspace} (name : Value) (schema : Option String) :
      Reached w → Reached (w.addLoose name schema).1
  | perform {w : Workspace} {id : TableId} {t : Table} (call : Call) :
      Reached w → w.table? id = some t →
      Reached (w.put (call.perform t).table)
  | addColumn {w : Workspace} {id : TableId} {t : Table}
      (name type : Value) (options : ColumnOptions) :
      Reached w → w.table? id = some t →
      Reached (w.put (t.addColumn name type options).table)
  | assign {w after : Workspace} {id : TableId} {t : Table} {part : Part}
      {property : String} {value : Value} :
      Reached w → w.table? id = some t →
      w.assign t part property value = .ok after → Reached after
  | retarget {w after : Workspace} {id : TableId} {t : Table} {index : Int}
      {target : Target} {k : Constraint} :
      Reached w → w.table? id = some t →
      w.retarget t index target = .ok (after, k) → Reached after
  | addToConstraint {w after : Workspace} {id sourceId : TableId}
      {t source : Table} {index : Int} {name : Value} {c : Column}
      {k : Constraint} :
      Reached w → w.table? id = some t → w.table? sourceId = some source →
      source.column? name = some c →
      w.addToConstraint t index c = .ok (after, k) → Reached after

section Steps

variable {w after : Workspace} {id : TableId} {t : Table}

theorem coherent_builds
    (coherent : w.Coherent) (there : w.table? id = some t)
    {new : Table} (builds : t.Builds new) : (w.put new).Coherent := by
  refine coherent.put there builds.sameId builds.columns_subset
    (builds.isNumbered (coherent.numbered id t there).2) ?_
  intro k isConstraint c held
  refine (builds.mem_of_held isConstraint held).imp_right ?_
  rintro ⟨old, isOld, inside⟩
  exact coherent.owned id t there old isOld c inside

theorem coherent_assign
    (coherent : w.Coherent) (there : w.table? id = some t)
    {part : Part} {property : String} {value : Value}
    (done : w.assign t part property value = .ok after) :
    after.Coherent := by
  cases part with
  | table => cases done
  | column name =>
      unfold assign at done
      dsimp only at done
      split at done
      · cases done
      · split at done
        · cases done
          exact coherent.rename _ value
        · cases done
  | constraint index =>
      unfold assign at done
      dsimp only at done
      split at done
      · cases done
      next place _ =>
        split at done
        · cases done
          exact coherent.modifyConstraint there place
            fun k _ c inside => .inl inside
        · cases done

theorem coherent_retarget
    (coherent : w.Coherent) (there : w.table? id = some t)
    {index : Int} {target : Target} {k : Constraint}
    (done : w.retarget t index target = .ok (after, k)) :
    after.Coherent := by
  unfold retarget at done
  dsimp only at done
  split at done
  · cases done
  · split at done
    · cases done
    · cases done
      refine coherent.modifyConstraint there _ ?_
      intro old _ c inside
      split at inside
      · exact .inl inside
      · exact .inl inside

theorem coherent_addToConstraint
    (coherent : w.Coherent) (there : w.table? id = some t)
    {index : Int} {c : Column} (owns : w.Owns c) {k : Constraint}
    (done : w.addToConstraint t index c = .ok (after, k)) :
    after.Coherent := by
  unfold addToConstraint at done
  dsimp only at done
  split at done
  · cases done
  · split at done
    · cases done
    · cases done
      refine coherent.modifyConstraint there _ ?_
      intro old _ d inside
      rcases List.mem_append.mp inside with earlier | new
      · exact .inl earlier
      · rw [List.mem_singleton.mp new]
        exact .inr owns

end Steps

theorem coherent_of_reached {w : Workspace} (reached : w.Reached) :
    w.Coherent := by
  induction reached with
  | empty =>
      have nothing (id : TableId) : Workspace.empty.table? id = none := by
        cases id with
        | declared position => rfl
        | loose position => rfl
      constructor
      · intro id t there
        rw [nothing] at there
        cases there
      · intro id t there
        rw [nothing] at there
        cases there
  | @declare w name schema _ coherent =>
      rcases table?_declare w name schema with same | found
      · rw [same]
        exact coherent
      · have isNew :
            w.table? (.declared w.database.tables.length) = none :=
          List.getElem?_eq_none (Nat.le_refl _)
        exact coherent.add isNew found
  | @addLoose w name schema _ coherent =>
      have isNew : w.table? (.loose w.loose.length) = none :=
        List.getElem?_eq_none (Nat.le_refl _)
      exact coherent.add isNew (table?_addLoose w name schema)
  | perform call _ there coherent =>
      exact coherent_builds coherent there (Table.builds_perform call _)
  | addColumn name type options _ there coherent =>
      exact coherent_builds coherent there
        (Table.builds_addColumn name type options)
  | assign _ there done coherent => exact coherent_assign coherent there done
  | retarget _ there done coherent =>
      exact coherent_retarget coherent there done
  | addToConstraint _ there isSource named done coherent =>
      have owns :=
        coherent.owns_of_mem isSource (List.mem_of_find?_eq_some named)
      exact coherent_addToConstraint coherent there owns done

theorem holds_renameColumn_iff
    {w : Workspace} {renamed : ColumnId} {value : Value} {d : Column} :
    (w.mapTables (Table.renameColumn renamed value)).Holds d ↔
      ∃ old, w.Holds old ∧ d = old.renamed renamed value := by
  constructor
  · rintro ⟨id, u, isTable, place⟩
    rw [table?_mapTables] at isTable
    obtain ⟨t, there, rfl⟩ := Option.map_eq_some_iff.mp isTable
    rcases place with own | ⟨k, isConstraint, inside⟩
    · obtain ⟨old, isOld, rfl⟩ := List.mem_map.mp own
      exact ⟨old, ⟨id, t, there, .inl isOld⟩, rfl⟩
    · obtain ⟨earlier, isEarlier, rfl⟩ := List.mem_map.mp isConstraint
      obtain ⟨old, isOld, rfl⟩ := List.mem_map.mp inside
      exact ⟨old, ⟨id, t, there, .inr ⟨earlier, isEarlier, isOld⟩⟩, rfl⟩
  · rintro ⟨old, ⟨id, t, there, place⟩, rfl⟩
    refine ⟨id, t.renameColumn renamed value, ?_, ?_⟩
    · rw [table?_mapTables, there]
      rfl
    · rcases place with own | ⟨k, isConstraint, inside⟩
      · exact .inl (List.mem_map_of_mem own)
      · exact .inr ⟨_, List.mem_map_of_mem isConstraint,
          List.mem_map_of_mem inside⟩

theorem assign_column_eq_ok
    {w after : Workspace} {t : Table} {name value : Value} {property : String}
    (done : w.assign t (.column name) property value = .ok after) :
    ∃ c, t.column? name = some c ∧
      after = w.mapTables (Table.renameColumn c.id value) := by
  unfold assign at done
  dsimp only at done
  split at done
  · cases done
  next c found =>
    split at done
    · cases done
      exact ⟨c, found, rfl⟩
    · cases done

/-- In every workspace that is reached, all occurrences of a column agree: in
name, type and options.  A column that is assigned a name has it wherever it
occurs, and every other column keeps its own. -/
theorem occurrences_agree {w : Workspace} (reached : w.Reached) :
    (∀ c d, w.Holds c → w.Holds d → c.id = d.id → c = d) ∧
      ∀ t name property value after,
        w.assign t (.column name) property value = .ok after →
          ∃ c, t.column? name = some c ∧
            ∀ d, after.Holds d ↔
              ∃ old, w.Holds old ∧ d = old.renamed c.id value := by
  constructor
  · intro c d holds holdsOther
    exact (coherent_of_reached reached).eq_of_holds holds holdsOther
  · intro t name property value after done
    obtain ⟨c, found, rfl⟩ := assign_column_eq_ok done
    exact ⟨c, found, fun d => holds_renameColumn_iff⟩

end Workspace

end Tablesmith.Schema
