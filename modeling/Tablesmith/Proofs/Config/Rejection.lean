import Tablesmith.Proofs.Config.Loading

/-!
# How loading can fail

What is wrong with the declared tables is reported as such.  The loader looks
at values that were checked before, so no other failure can come up in it.
-/

namespace Tablesmith

/-- A failure that says what is wrong with a model or a configuration. -/
inductive Failure.IsRejection : Failure → Prop
  | model {r : Report} : r.category = .model → IsRejection (.report r)
  | configuration {r : Report} :
      r.category = .configuration → IsRejection (.report r)

end Tablesmith

namespace Tablesmith.Config

open Tablesmith.Log Tablesmith.Schema

/-- A computation has a result, or fails with a rejection. -/
def OnlyRejects {α : Type} (result : Except Failure α) : Prop :=
  ∀ failure, result = .error failure → failure.IsRejection

theorem onlyRejects_ok {α : Type} (a : α) :
    OnlyRejects (.ok a : Except Failure α) := by
  intro failure failed
  cases failed

theorem onlyRejects_invalidModel
    {α : Type} (message : String) (table : Value)
    (columns : Option (List Value)) (suggestions : List String) :
    OnlyRejects
      (.error (.report (.invalidModel message table columns suggestions)) :
        Except Failure α) := by
  intro failure failed
  cases failed
  exact .model rfl

theorem onlyRejects_bind
    {α β : Type} {x : Logged α} {f : α → Logged β}
    (first : OnlyRejects x.result)
    (next : ∀ a, x.result = .ok a → OnlyRejects (f a).result) :
    OnlyRejects (x >>= f).result := by
  rw [Logged.result_bind]
  cases result : x.result with
  | error failure =>
      intro other failed
      cases failed
      exact first failure result
  | ok a => exact next a result

theorem onlyRejects_recorded
    {before : Table} {a : Attempt} (rejects : OnlyRejects a.result) :
    OnlyRejects (recorded before a).result := by
  unfold recorded
  cases result : a.result with
  | error failure =>
      intro other failed
      cases failed
      exact rejects failure result
  | ok => exact onlyRejects_ok _

/-! ## Columns -/

section Columns

variable {t : Table}

theorem onlyRejects_refusal
    (writable : t.name.isWritable = true)
    (message : String) (names : List Value) (suggestions : List String) :
    OnlyRejects
      (.error (t.refusal message names suggestions) : Except Failure Unit) := by
  rw [Table.refusal_of_isWritable writable]
  exact onlyRejects_invalidModel _ _ _ _

/-- A column of a proper type and name is refused only if its name is
taken. -/
theorem onlyRejects_addColumn
    (writable : t.name.isWritable = true)
    {name : Value} (nameText : name.IsText)
    (type : ColumnType) (options : ColumnOptions) :
    OnlyRejects (t.addColumn name (.columnType type) options).result := by
  have noted := Table.canNote_of_isText writable nameText
  cases taken : t.column? name with
  | some other =>
      rw [Table.addColumn_columnType, taken, if_pos (by simp)]
      unfold Table.columnTaken
      rw [if_pos noted]
      exact onlyRejects_refusal writable _ _ _
  | none =>
      rw [Table.addColumn_of_free taken noted]
      exact onlyRejects_ok ()

theorem onlyRejects_andThen
    {a : Attempt} {next : Table → Attempt}
    (first : OnlyRejects a.result)
    (rest : ∀ after, OnlyRejects (next after).result) :
    OnlyRejects (a.andThen next).result := by
  unfold Attempt.andThen
  split
  · exact rest a.table
  · exact first

theorem onlyRejects_resolveTable
    (known : List String) (source : Value) (r : ReferenceDefinition) :
    OnlyRejects (resolveTable known source r) := by
  unfold resolveTable
  split
  · exact onlyRejects_ok _
  · intro failure failed
    cases failed
    exact .configuration rfl

theorem onlyRejects_addDeclared
    (writable : t.name.isWritable = true)
    (known : List String) (c : ColumnDefinition) :
    OnlyRejects (addDeclared known t c).result := by
  have nameText : (Value.text c.name).IsText := ⟨c.name, rfl⟩
  unfold addDeclared
  cases c.kind with
  | primaryKey =>
      have givenText :
          (if (Value.text c.name).truthy then .text c.name
            else primaryKeyColumn).IsText := by
        split
        · exact nameText
        · exact ⟨"id", rfl⟩
      exact onlyRejects_andThen (onlyRejects_addColumn writable givenText _ _)
        fun _ => onlyRejects_ok ()
  | plain type => exact onlyRejects_addColumn writable nameText type _
  | reference r =>
      have resolving := onlyRejects_resolveTable known t.qualifiedName r
      cases resolved : resolveTable known t.qualifiedName r with
      | error failure =>
          simp only [resolved]
          intro other failed
          cases failed
          exact resolving failure resolved
      | ok target =>
          simp only [resolved, Table.addReferenceColumn, namesIn_optionalText]
          exact onlyRejects_andThen
            (onlyRejects_addColumn writable nameText _ _)
            fun _ => onlyRejects_ok ()

theorem onlyRejects_addColumns
    (known : List String) (id : TableId) (d : TableDefinition)
    {earlier columns : List ColumnDefinition}
    (accepted : ∀ c ∈ columns, c.Accepted) :
    OnlyRejects
      (addColumns known ((d.withColumns earlier).table id) columns).result := by
  induction columns generalizing earlier with
  | nil => exact onlyRejects_ok _
  | cons c rest inductionHypothesis =>
      have headAccepted := accepted c List.mem_cons_self
      have restAccepted : ∀ other ∈ rest, other.Accepted :=
        fun other member => accepted other (List.mem_cons_of_mem _ member)
      rw [addColumns]
      refine onlyRejects_bind
        (onlyRejects_recorded (onlyRejects_addDeclared rfl known c)) ?_
      -- The column was added, so the table is again a described one.
      intro after added
      obtain ⟨succeeded, rfl⟩ := result_recorded_eq_ok_iff.mp added
      have fits := fits_of_addDeclared succeeded headAccepted.named
      rw [addDeclared_of_fits headAccepted fits]
      exact inductionHypothesis restAccepted

end Columns

/-! ## Uniqueness constraints -/

section Uniques

variable (id : TableId) (d : TableDefinition)

/-- Names that are texts can be compared, so that all that is left to refuse
are the names themselves. -/
theorem onlyRejects_checkUnique (names : List String) :
    OnlyRejects ((d.table id).checkUnique (names.map Value.text)) := by
  have texts :
      ∀ v ∈ (d.table id).columns.map Column.name ++ names.map Value.text,
        v.IsText := by
    intro v member
    rcases List.mem_append.mp member with own | given
    · obtain ⟨column, columnMember, rfl⟩ := List.mem_map.mp own
      exact hasTextNames_table id d column columnMember
    · exact Value.isText_of_mem_map_text names v given
  unfold Table.checkUnique
  split
  · exact onlyRejects_refusal rfl _ _ _
  · simp only [Value.firstUnkeyable?_of_texts texts]
    split
    · exact onlyRejects_ok ()
    · exact onlyRejects_refusal rfl _ _ _

theorem onlyRejects_addUnique (names : List String) :
    OnlyRejects ((d.table id).addUnique (names.map Value.text)).result := by
  intro failure failed
  cases checked : (d.table id).checkUnique (names.map Value.text) with
  | error refused =>
      have same : refused = failure := by
        unfold Table.addUnique at failed
        rw [checked] at failed
        cases failed
        rfl
      exact onlyRejects_checkUnique id d names failure (same ▸ checked)
  | ok =>
      have fits : d.CanBeUnique names :=
        (canBeUnique_table_iff names).mp
          ((Table.checkUnique_eq_ok_iff (hasTextNames_table id d).keyable
            (Value.isText_of_mem_map_text names)).mp checked)
      rw [addUnique_of_canBeUnique fits] at failed
      cases failed

theorem onlyRejects_addUniques (uniques : List (List String)) :
    OnlyRejects (addUniques (d.table id) uniques).result := by
  induction uniques generalizing d with
  | nil => exact onlyRejects_ok _
  | cons names rest inductionHypothesis =>
      rw [addUniques]
      refine onlyRejects_bind
        (onlyRejects_recorded (onlyRejects_addUnique id d names)) ?_
      -- The constraint was added, so the table is again a described one.
      intro after added
      obtain ⟨succeeded, rfl⟩ := result_recorded_eq_ok_iff.mp added
      rw [addUnique_of_canBeUnique (canBeUnique_of_addUnique succeeded)]
      exact inductionHypothesis _

end Uniques

/-! ## Tables -/

theorem onlyRejects_completeTable
    {d : TableDefinition} (accepted : d.Accepted)
    (known : List String) (id : TableId) :
    OnlyRejects
      (completeTable known ((d.withColumns []).table id) d).result := by
  have noNames :
      (([] : List ColumnDefinition).map ColumnDefinition.name).Nodup :=
    List.nodup_nil
  unfold completeTable
  refine onlyRejects_bind
    (onlyRejects_addColumns known id d accepted.columns) ?_
  -- From here on the columns are those of the definition, named by texts.
  intro filled added
  obtain ⟨_, rfl⟩ :=
    (addColumns_eq_ok_iff noNames accepted.columns).mp added
  refine onlyRejects_bind (onlyRejects_addUniques id _ d.unique) ?_
  intro complete _
  exact onlyRejects_bind (onlyRejects_ok ()) fun _ _ => onlyRejects_ok complete

theorem onlyRejects_completeTables
    {pairs : List (TableId × TableDefinition)}
    (accepted : ∀ p ∈ pairs, p.2.Accepted) (known : List String) :
    OnlyRejects
      (completeTables known
        (pairs.map fun p => ((p.2.withColumns []).table p.1, p.2))).result := by
  induction pairs with
  | nil => exact onlyRejects_ok _
  | cons head rest inductionHypothesis =>
      have headAccepted := accepted head List.mem_cons_self
      have restRejects := inductionHypothesis fun p member =>
        accepted p (List.mem_cons_of_mem _ member)
      rw [List.map_cons, completeTables]
      refine onlyRejects_bind
        (onlyRejects_completeTable headAccepted known head.1) ?_
      intro complete _
      exact onlyRejects_bind restRejects fun others _ =>
        onlyRejects_ok (complete :: others)

theorem onlyRejects_addTable
    (database : Database) (name : String) (schema : Option String) :
    OnlyRejects (database.addTable (.text name) schema) := by
  rw [Database.addTable_text]
  split
  · exact onlyRejects_invalidModel _ _ _ _
  · split
    · exact onlyRejects_invalidModel _ _ _ _
    · exact onlyRejects_ok _

theorem onlyRejects_makeTables
    (database : Database) (definitions : List TableDefinition) :
    OnlyRejects (makeTables database definitions).result := by
  induction definitions generalizing database with
  | nil => exact onlyRejects_ok database
  | cons d rest inductionHypothesis =>
      rw [makeTables]
      refine onlyRejects_bind
        (onlyRejects_addTable database d.name d.schema) ?_
      intro after _
      exact onlyRejects_bind (onlyRejects_ok ()) fun _ _ =>
        inductionHypothesis after

/-- The loader fails on an accepted configuration only with a rejection. -/
theorem onlyRejects_buildDatabase
    {c : Configuration} (accepted : c.Accepted) :
    OnlyRejects (buildDatabase c).result := by
  have noNames :
      (([] : List TableDefinition).map
        TableDefinition.qualifiedName).Nodup :=
    List.nodup_nil
  have named : ∀ d ∈ c.tables, d.name ≠ "" :=
    fun d member => (accepted.tables d member).named
  have numberedAccepted : ∀ p ∈ numbered c.tables, p.2.Accepted := by
    rw [← List.forall_mem_map, map_snd_numbered]
    exact accepted.tables
  unfold buildDatabase
  refine onlyRejects_bind (onlyRejects_makeTables .empty c.tables) ?_
  intro made started
  obtain ⟨_, rfl⟩ := (makeTables_eq_ok_iff noNames named).mp started
  rw [List.nil_append, zip_started]
  refine onlyRejects_bind
    (onlyRejects_completeTables numberedAccepted _) ?_
  intro complete _
  exact onlyRejects_ok _

end Tablesmith.Config
