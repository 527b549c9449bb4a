import Mathlib.Data.List.DropRight
import Tablesmith.Proofs.Interface.Agreement
import Tablesmith.Proofs.Schema.Endings
import Tablesmith.Proofs.Sql.Described

/-!
# Default and check expressions

An expression that is empty counts as none, and any other one is written behind
the word DEFAULT or between the parentheses of a check.  Nothing but blanks at
the end of the statement is lost.  A text of blanks is not empty, so it is
written as well, and makes a clause without an expression.
-/

namespace Tablesmith.Text

/-! ## Texts of blanks -/

/-- A text holds no character but blanks. -/
def IsAllBlank (text : String) : Prop :=
  text.toList.all isBlank = true

instance (text : String) : Decidable (IsAllBlank text) :=
  inferInstanceAs (Decidable (text.toList.all isBlank = true))

theorem isAllBlank_append_iff {first last : String} :
    IsAllBlank (first ++ last) ↔ IsAllBlank first ∧ IsAllBlank last := by
  unfold IsAllBlank
  rw [String.toList_append, List.all_append, Bool.and_eq_true]

theorem trimEnd_eq_empty_iff {text : String} :
    trimEnd text = "" ↔ IsAllBlank text := by
  unfold trimEnd IsAllBlank
  rw [← String.toList_inj, String.toList_ofList, List.all_eq_true]
  exact List.rdropWhile_eq_nil_iff

theorem trimEnd_trimEnd (text : String) :
    trimEnd (trimEnd text) = trimEnd text := by
  unfold trimEnd
  rw [String.toList_ofList]
  exact congrArg String.ofList (List.rdropWhile_idempotent isBlank text.toList)

theorem isAllBlank_trimEnd_iff {text : String} :
    IsAllBlank (trimEnd text) ↔ IsAllBlank text := by
  rw [← trimEnd_eq_empty_iff, trimEnd_trimEnd, trimEnd_eq_empty_iff]

theorem isAllBlank_space_iff {text : String} :
    IsAllBlank (" " ++ text) ↔ IsAllBlank text := by
  have space : IsAllBlank " " := by decide
  rw [isAllBlank_append_iff]
  exact and_iff_right space

end Tablesmith.Text

namespace Tablesmith.Sql

open Tablesmith.Config Tablesmith.Interface Tablesmith.Schema Tablesmith.Text

/-! ## What is written -/

/-- What a statement says of the expressions of a column: what follows the word
DEFAULT, and what stands between the parentheses of the check. -/
structure Expressions where
  default : Option String
  check : Option String
  deriving DecidableEq, Repr

namespace Expressions

def text (e : Expressions) : String :=
  (e.default.map fun written => " DEFAULT" ++ written).getD "" ++
    (e.check.map fun written => " CHECK (" ++ written ++ ")").getD ""

/-- Every clause that is there has an expression. -/
def Filled (e : Expressions) : Prop :=
  (∀ written, e.default = some written → ¬ IsAllBlank written) ∧
    ∀ written, e.check = some written → ¬ IsAllBlank written

/-- The expressions of a clause as they are written.  At the end of the
statement the default is trimmed. -/
def ofClause (clause : ColumnClause) : Expressions where
  default := clause.default.map fun e =>
    if clause.check.isSome then " " ++ e else trimEnd (" " ++ e)
  check := clause.check

variable {clause : ColumnClause}

theorem trimEnd_default_ofClause :
    (ofClause clause).default.map trimEnd =
      clause.default.map fun e => trimEnd (" " ++ e) := by
  unfold ofClause
  rw [Option.map_map]
  congr 1
  funext e
  rw [Function.comp_apply]
  split
  · rfl
  · exact trimEnd_trimEnd _

theorem filled_ofClause_iff :
    (ofClause clause).Filled ↔
      ∀ e, clause.default = some e ∨ clause.check = some e →
        ¬ IsAllBlank e := by
  have defaultBlank (e : String) :
      IsAllBlank
          (if clause.check.isSome then " " ++ e else trimEnd (" " ++ e)) ↔
        IsAllBlank e := by
    split
    · exact isAllBlank_space_iff
    · rw [isAllBlank_trimEnd_iff, isAllBlank_space_iff]
  constructor
  · rintro ⟨defaults, checks⟩ e (isDefault | isCheck)
    · rw [← defaultBlank]
      exact defaults _ (by simp only [ofClause, isDefault, Option.map_some])
    · exact checks e isCheck
  · intro each
    refine ⟨?_, fun e isCheck => each e (.inr isCheck)⟩
    intro written isWritten
    obtain ⟨e, isDefault, rfl⟩ := Option.map_eq_some_iff.mp isWritten
    rw [defaultBlank]
    exact each e (.inl isDefault)

end Expressions

/-- What a statement says of a column in front of its expressions. -/
def columnFront (table : String) (clause : ColumnClause) : String :=
  columnHead table clause.name clause.type ++
    if clause.required then " NOT NULL" else ""

theorem getLast?_columnFront (table : String) (clause : ColumnClause) :
    ∃ c, (columnFront table clause).toList.getLast? = some c ∧
      isBlank c = false := by
  unfold columnFront
  split
  · rw [String.toList_append, List.getLast?_append]
    exact ⟨'L', rfl, by decide⟩
  · rw [String.append_empty]
    exact getLast?_columnHead table clause.name clause.type

theorem trimEnd_eq_self
    {text : String} {c : Char} (ends : text.toList.getLast? = some c)
    (notBlank : isBlank c = false) : trimEnd text = text := by
  have nothing : trimEnd "" = "" := rfl
  have whole := trimEnd_append ends notBlank ""
  rwa [nothing, String.append_empty] at whole

/-- The parts of a clause behind its type, each with the blank in front of
it. -/
theorem columnRest_eq (clause : ColumnClause) :
    columnRest clause =
      (if clause.required then " NOT NULL" else "") ++
        ((clause.default.map fun e => " DEFAULT" ++ (" " ++ e)).getD "" ++
          (clause.check.map fun e => " CHECK (" ++ (e ++ ")")).getD "") := by
  have notNull : " " ++ "NOT NULL" = " NOT NULL" := rfl
  have defaultWord (e : String) :
      " " ++ ("DEFAULT " ++ e) = " DEFAULT" ++ (" " ++ e) := by
    rw [← String.append_assoc, ← String.append_assoc]
    rfl
  have checkWord (e : String) : " " ++ ("CHECK (" ++ e) = " CHECK (" ++ e := by
    rw [← String.append_assoc]
    rfl
  obtain ⟨name, type, required, default, check⟩ := clause
  unfold columnRest ColumnClause.parts
  cases required <;> cases default <;> cases check <;>
    simp [String.append_assoc, defaultWord, checkWord, notNull]

/-- A check ends in a parenthesis, so that only a default at the end is
trimmed. -/
theorem trimEnd_expressions (clause : ColumnClause) :
    trimEnd
        ((clause.default.map fun e => " DEFAULT" ++ (" " ++ e)).getD "" ++
          (clause.check.map fun e => " CHECK (" ++ (e ++ ")")).getD "") =
      (Expressions.ofClause clause).text := by
  unfold Expressions.ofClause Expressions.text
  cases isCheck : clause.check with
  | some e =>
      have ends (front : String) :
          (front ++ (" CHECK (" ++ (e ++ ")"))).toList.getLast? = some ')' := by
        rw [← String.append_assoc, ← String.append_assoc,
          String.toList_append, List.getLast?_append]
        rfl
      simp only [Option.map_some, Option.getD_some, Option.isSome_some,
        if_true, Option.map_map, Function.comp_def]
      rw [trimEnd_eq_self (ends _) (by decide)]
      simp only [String.append_assoc]
  | none =>
      cases clause.default with
      | none => rfl
      | some e =>
          have ends : " DEFAULT".toList.getLast? = some 'T' := rfl
          have word := trimEnd_append ends (by decide) (" " ++ e)
          simpa using word

theorem text_eq_front_append (table : String) (clause : ColumnClause) :
    (Statement.addColumn table clause).text =
      columnFront table clause ++ (Expressions.ofClause clause).text := by
  obtain ⟨c, last, notBlank⟩ := getLast?_columnFront table clause
  rw [text_addColumn, columnRest_eq, ← String.append_assoc]
  change trimEnd (columnFront table clause ++ _) = _
  rw [trimEnd_append last notBlank, trimEnd_expressions]

end Tablesmith.Sql

namespace Tablesmith.Schema

open Tablesmith.Config

/-! ## Where columns come from -/

/-- A column that can be stated carries these expressions, as far as they are
set. -/
structure Column.Carries
    (default check : Option String)
    (c : Column) :
    Prop where
  named : c.name.isWritable = true
  typed : ∃ type, c.type = .columnType type
  isDefault : c.options.default = setExpression default
  isCheck : c.options.check = setExpression check

namespace Call

/-- What a call gives by a keyword, or nothing. -/
def given (call : Call) (word : String) : Value :=
  (Value.lookupText? call.keywords word).getD .null

/-- The expressions are among the keywords that do not give the name. -/
theorem lookupText?_rest
    {callee word : String} {name found : Option Value}
    {keywords rest : List (Value × Value)}
    (read : Table.nameArgument callee name keywords = .ok (found, rest))
    (other : word ≠ "name") :
    Value.lookupText? rest word = Value.lookupText? keywords word := by
  unfold Value.lookupText?
  rw [Table.nameArgument_rest read, List.find?_filter]
  congr 2
  funext e
  cases key : e.1 with
  | text s =>
      by_cases isWord : s = word
      · simp [isWord, isOneOf, other]
      · simp [isWord]
  | _ => simp [Value.text?]

theorem expressions_of_ofKeywords
    {entries : List (Value × Value)} {options : ColumnOptions}
    (parsed : ColumnOptions.ofKeywords entries = .ok options) :
    options.default =
        expression ((Value.lookupText? entries "default").getD .null) ∧
      options.check =
        expression ((Value.lookupText? entries "check").getD .null) := by
  unfold ColumnOptions.ofKeywords at parsed
  cases checked : checkKeywords "ColumnOptions.__init__"
      ColumnOptions.keywords entries with
  | error fault =>
      rw [checked] at parsed
      cases parsed
  | ok =>
      rw [checked] at parsed
      cases parsed
      exact ⟨rfl, rfl⟩

/-- The options of the column that a call asks for have the expressions that
the call gives. -/
theorem expressions_of_column?
    {call : Call} {name : Value} {type : ColumnType} {options : ColumnOptions}
    (asked : call.column? = some (name, type, options)) :
    options.default = expression (call.given "default") ∧
      options.check = expression (call.given "check") := by
  cases call with
  | column kind own keywords =>
      simp only [column?] at asked
      by_cases isKey : kind = "primary_key"
      · -- A key column takes no options, so none are among the keywords.
        rw [if_pos isKey] at asked
        cases read : Table.primaryKeyArguments
            ("Table." ++ (kind ++ "_column")) own keywords with
        | error fault =>
            rw [read] at asked
            cases asked
        | ok own =>
            rw [read] at asked
            cases asked
            unfold Table.primaryKeyArguments at read
            split at read
            · cases read
            next found named =>
              have noneGiven {word : String} (other : word ≠ "name") :
                  Value.lookupText? keywords word = none :=
                (lookupText?_rest named other).symm
              simp only [given, Call.keywords, noneGiven, ne_eq,
                String.reduceEq, not_false_eq_true]
              exact ⟨rfl, rfl⟩
            · cases read
      · rw [if_neg isKey] at asked
        obtain ⟨kindType, _, arguments⟩ := Option.bind_eq_some_iff.mp asked
        cases read : Table.typedArguments
            ("Table." ++ (kind ++ "_column")) own keywords with
        | error fault =>
            rw [read] at arguments
            cases arguments
        | ok both =>
            rw [read] at arguments
            cases arguments
            unfold Table.typedArguments at read
            split at read
            · cases read
            · cases read
            next found rest named =>
              cases parsed : ColumnOptions.ofKeywords rest with
              | error fault =>
                  rw [parsed] at read
                  cases read
              | ok settings =>
                  rw [parsed] at read
                  cases read
                  have both := expressions_of_ofKeywords parsed
                  rw [lookupText?_rest named (by decide),
                    lookupText?_rest named (by decide)] at both
                  exact both
  | reference own target referenced actions keywords =>
      simp only [column?] at asked
      cases parsed : ColumnOptions.ofKeywords keywords with
      | error fault =>
          rw [parsed] at asked
          cases asked
      | ok settings =>
          rw [parsed] at asked
          cases asked
          exact expressions_of_ofKeywords parsed
  | unique columns => cases asked

end Call

/-- A call that returns and appends a column gives it the expressions that it
was given itself. -/
theorem carries_of_added
    {call : Call} {t : Table} {c : Column} {default check : Option String}
    (returned : (call.perform t).result = .ok ())
    (added : (call.perform t).table.columns = t.columns ++ [c])
    (isDefault : call.given "default" = optionalText default)
    (isCheck : call.given "check" = optionalText check) :
    c.Carries default check := by
  obtain ⟨asked, noted⟩ := columnOn?_of_added returned added
  obtain ⟨writable, _⟩ := (Bool.and_eq_true _ _).mp noted
  obtain ⟨⟨name, type, options⟩, parts, rfl⟩ :=
    Option.map_eq_some_iff.mp asked
  obtain ⟨sameDefault, sameCheck⟩ := Call.expressions_of_column? parts
  refine ⟨writable, ⟨type, rfl⟩, ?_, ?_⟩
  · rw [← expression_optionalText, ← isDefault]
    exact sameDefault
  · rw [← expression_optionalText, ← isCheck]
    exact sameCheck

end Tablesmith.Schema

namespace Tablesmith.Config

open Tablesmith.Schema

/-- The columns of a database that is built carry the expressions of their
definitions, each in its place. -/
theorem carries_of_built
    {configuration : Configuration} (accepted : configuration.Accepted)
    {d : Database} (built : (buildDatabase configuration).result = .ok d)
    {i j : Nat} {declared : TableDefinition} {definition : ColumnDefinition}
    {t : Table} {c : Column}
    (isDeclared : configuration.tables[i]? = some declared)
    (isDefinition : declared.columns[j]? = some definition)
    (isTable : d.tables[i]? = some t) (isColumn : t.columns[j]? = some c) :
    c.Carries definition.default definition.check := by
  obtain ⟨_, rfl⟩ := (buildDatabase_eq_ok_iff accepted).mp built
  have described : t = declared.table (.declared i) := by
    unfold Configuration.describedDatabase numbered at isTable
    rw [List.getElem?_map, List.getElem?_mapIdx, isDeclared] at isTable
    cases isTable
    rfl
  have isPlaced : c = definition.column ⟨.declared i, j⟩ := by
    rw [described, TableDefinition.columns_table] at isColumn
    unfold placed at isColumn
    rw [List.getElem?_map, List.getElem?_mapIdx, isDefinition] at isColumn
    cases isColumn
    rfl
  rw [isPlaced]
  exact ⟨rfl, ⟨definition.kind.columnType, rfl⟩, rfl, rfl⟩

end Tablesmith.Config

namespace Tablesmith.Sql

open Tablesmith.Config Tablesmith.Interface Tablesmith.Schema Tablesmith.Text

/-- A column is obtained with these expressions from a builder call that
returns, or from its place in a configuration that is accepted and built. -/
inductive Obtained (default check : Option String) (c : Column) : Prop where
  | called {t : Table} {call : Call}
      (returned : (call.perform t).result = .ok ())
      (added : (call.perform t).table.columns = t.columns ++ [c])
      (isDefault : call.given "default" = optionalText default)
      (isCheck : call.given "check" = optionalText check)
  | loaded {v : Value} {configuration : Configuration} {d : Database}
      (accepted : checkConfiguration v = .ok configuration)
      (built : (buildDatabase configuration).result = .ok d)
      {i j : Nat} {declared : TableDefinition} {definition : ColumnDefinition}
      {t : Table}
      (isDeclared : configuration.tables[i]? = some declared)
      (isDefinition : declared.columns[j]? = some definition)
      (isTable : d.tables[i]? = some t)
      (isColumn : t.columns[j]? = some c)
      (isDefault : definition.default = default)
      (isCheck : definition.check = check)

theorem Obtained.carries
    {default check : Option String} {c : Column}
    (obtained : Obtained default check c) :
    c.Carries default check := by
  cases obtained with
  | called returned added isDefault isCheck =>
      exact carries_of_added returned added isDefault isCheck
  | loaded accepted built isDeclared isDefinition isTable isColumn isDefault
      isCheck =>
      obtain ⟨configurationAccepted, _⟩ := checkConfiguration_ok accepted
      rw [← isDefault, ← isCheck]
      exact carries_of_built configurationAccepted built isDeclared
        isDefinition isTable isColumn

/-- A column that carries expressions is stated with those of them that are not
empty. -/
theorem columnClause_of_carries
    {default check : Option String} {c : Column}
    (carries : c.Carries default check) :
    ∃ clause, columnClause c = .ok clause ∧
      clause.default = (default.filter fun e => e ≠ "") ∧
      clause.check = check.filter fun e => e ≠ "" := by
  obtain ⟨name, isName⟩ := succeeds_written_iff.mpr carries.named
  obtain ⟨type, isType⟩ : Succeeds (asColumnType "postgresql" c.type) :=
    succeeds_asColumnType_iff.mpr carries.typed
  have defaults := expressionOf_setExpression default
  have checks := expressionOf_setExpression check
  rw [← carries.isDefault] at defaults
  rw [← carries.isCheck] at checks
  refine ⟨⟨name, type, c.options.required.truthy, _, _⟩, ?_, rfl, rfl⟩
  unfold columnClause
  rw [isName, isType, defaults, checks]
  rfl

/-- The statement that adds a column can be made, and shows the default up to
blanks at its end and the check as they are, unless they are empty.  Neither
clause is without an expression exactly if no expression that is given and not
empty is all blank. -/
theorem addColumn_shows_expressions
    {default check : Option String} {c : Column}
    (obtained : Obtained default check c) :
    ∃ clause, columnClause c = .ok clause ∧
      clause.name = c.name.display ∧
      c.type = .columnType clause.type ∧
      clause.required = c.options.required.truthy ∧
      ∀ table, ∃ written : Expressions,
        (Statement.addColumn table clause).text =
          columnFront table clause ++ written.text ∧
        written.default.map trimEnd =
          (default.filter fun e => e ≠ "").map (fun e => trimEnd (" " ++ e)) ∧
        written.check = (check.filter fun e => e ≠ "") ∧
        (written.Filled ↔
          ∀ e, default = some e ∨ check = some e → IsAllBlank e → e = "") := by
  obtain ⟨clause, made, isDefault, isCheck⟩ :=
    columnClause_of_carries obtained.carries
  obtain ⟨sameName, sameType, sameRequired⟩ := columnClause_eq_ok made
  refine ⟨clause, made, sameName, sameType, sameRequired, ?_⟩
  intro table
  refine ⟨.ofClause clause, text_eq_front_append table clause, ?_, isCheck, ?_⟩
  · rw [Expressions.trimEnd_default_ofClause, isDefault]
  · rw [Expressions.filled_ofClause_iff, isDefault, isCheck]
    apply forall_congr'
    intro e
    have given (expression : Option String) :
        (expression.filter fun e => e ≠ "") = some e ↔
          expression = some e ∧ e ≠ "" := by
      rw [Option.filter_eq_some_iff]
      simp
    rw [given, given, ← or_and_right, and_imp]
    exact imp_congr_right fun _ => not_imp_not

/-- A configuration of parts with a price, as a value; its default is a
number. -/
def partsValue : Value :=
  .dict [(.text "tables", .list [
    .dict [
      (.text "name", .text "parts"),
      (.text "columns", .list [
        .dict [
          (.text "name", .text "price"),
          (.text "type", .text "decimal"),
          (.text "default", .int 0),
          (.text "check", .text "price >= 0")]])]])]

def parts : Configuration where
  dialect := .postgresql
  sqlOutput := none
  typesOutput := none
  database := none
  tables := [
    { name := "parts"
      schema := none
      columns := [
        ⟨"price", .plain .decimal, true, false, some "0", some "price >= 0"⟩]
      unique := [] }]

/-- A price that is loaded, and one that is added by a call with a default that
ends in a blank, are stated with filled clauses. -/
theorem prices_show_expressions :
    (∃ c, Obtained (some "0") (some "price >= 0") c) ∧
      ∃ c, Obtained (some "0 ") (some "price >= 0") c ∧
        ∃ clause, columnClause c = .ok clause ∧
          ∀ table, ∃ written : Expressions,
            (Statement.addColumn table clause).text =
              columnFront table clause ++ written.text ∧
            written.check = some "price >= 0" ∧ written.Filled := by
  constructor
  · have accepted : checkConfiguration partsValue = .ok parts := by
      decide +kernel
    have succeeds : (buildDatabase parts).result.isOk = true := by
      decide +kernel
    obtain ⟨d, built⟩ := succeeds_of_isOk succeeds
    obtain ⟨configurationAccepted, _⟩ := checkConfiguration_ok accepted
    obtain ⟨_, rfl⟩ := (buildDatabase_eq_ok_iff configurationAccepted).mp built
    let declared := parts.tables[0]
    have isTable :
        parts.describedDatabase.tables[0]? =
          some (declared.table (.declared 0)) := rfl
    have isColumn :
        (declared.table (.declared 0)).columns[0]? =
          some (declared.columns[0].column ⟨.declared 0, 0⟩) := rfl
    exact ⟨_, .loaded accepted built rfl rfl isTable isColumn rfl rfl⟩
  · let t := Table.empty (.loose 0) (.text "parts") none
    let call : Call := .column "decimal" (some (.text "price"))
      [(.text "default", .text "0 "), (.text "check", .text "price >= 0")]
    let c := t.nextColumn (.text "price") (.columnType .decimal)
      (.of .null .null (.text "0 ") (.text "price >= 0"))
    have returned : (call.perform t).result = .ok () := rfl
    have added : (call.perform t).table.columns = t.columns ++ [c] := rfl
    have obtained : Obtained (some "0 ") (some "price >= 0") c :=
      .called returned added rfl rfl
    obtain ⟨clause, made, _, _, _, shown⟩ :=
      addColumn_shows_expressions obtained
    refine ⟨c, obtained, clause, made, ?_⟩
    intro table
    obtain ⟨written, text, _, isCheck, filled⟩ := shown table
    refine ⟨written, text, isCheck, filled.mpr ?_⟩
    rintro e (same | same) blank
    · cases same
      exact absurd blank (by decide)
    · cases same
      exact absurd blank (by decide)

/-- A default of one blank is accepted, and leaves the word DEFAULT without an
expression. -/
theorem blank_default_is_empty_clause :
    ∃ c clause, Obtained (some " ") none c ∧
      columnClause c = .ok clause ∧
      (Statement.addColumn "users" clause).text =
        "ALTER TABLE users ADD COLUMN nick varchar NOT NULL DEFAULT" ∧
      (Statement.addColumn "users" clause).text =
        columnFront "users" clause ++ (Expressions.mk (some "") none).text ∧
      ¬ (Expressions.mk (some "") none).Filled := by
  let t := Table.empty (.declared 0) (.text "users") none
  let call : Call := .column "string" (some (.text "nick"))
    [(.text "default", .text " ")]
  let c := t.nextColumn (.text "nick") (.columnType .string)
    (.of .null .null (.text " ") .null)
  have returned : (call.perform t).result = .ok () := rfl
  have added : (call.perform t).table.columns = t.columns ++ [c] := rfl
  have obtained : Obtained (some " ") none c :=
    .called returned added rfl rfl
  refine ⟨c, ⟨"nick", .string, true, some " ", none⟩, obtained, rfl, ?_, ?_, ?_⟩
  · decide +kernel
  · decide +kernel
  · intro filled
    exact filled.1 "" rfl (by decide)

end Tablesmith.Sql
