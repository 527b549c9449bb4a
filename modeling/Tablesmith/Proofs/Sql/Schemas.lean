import Mathlib.Data.List.Induction
import Mathlib.Data.List.Nodup
import Tablesmith.Schema.Database

/-!
# The schemas of a database

The schemas that a script rebuilds are those of the tables, without the public
one, each where it comes first.
-/

namespace Tablesmith.Sql

open Tablesmith.Schema

theorem collectSchemas_append (earlier : List Table) (t : Table) :
    Database.collectSchemas (earlier ++ [t]) =
      if t.schema = publicSchema ∨
          t.schema ∈ Database.collectSchemas earlier then
        Database.collectSchemas earlier
      else Database.collectSchemas earlier ++ [t.schema] := by
  unfold Database.collectSchemas
  rw [List.foldl_append, List.foldl_cons, List.foldl_nil]
  simp only [Bool.or_eq_true, decide_eq_true_eq, List.contains_iff_mem]

theorem nodup_collectSchemas (tables : List Table) :
    (Database.collectSchemas tables).Nodup := by
  induction tables using List.reverseRecOn with
  | nil => exact List.nodup_nil
  | append_singleton earlier t inductionHypothesis =>
      rw [collectSchemas_append]
      split
      next => exact inductionHypothesis
      next isNew =>
        rw [← List.concat_eq_append]
        exact inductionHypothesis.concat (not_or.mp isNew).2

/-- The schemas of the tables, without the public one and without repetition. -/
def distinctSchemas (tables : List Table) : List String :=
  ((tables.map Table.schema).filter fun schema =>
    schema ≠ publicSchema).eraseDups

theorem eraseDups_concat (names : List String) (name : String) :
    (names ++ [name]).eraseDups =
      if name ∈ names then names.eraseDups
      else names.eraseDups ++ [name] := by
  rw [List.eraseDups_append]
  by_cases found : name ∈ names
  · simp [List.removeAll, found]
  · simp [List.removeAll, found, List.eraseDups_cons]

theorem collectSchemas_eq_distinctSchemas (tables : List Table) :
    Database.collectSchemas tables = distinctSchemas tables := by
  induction tables using List.reverseRecOn with
  | nil => rfl
  | append_singleton earlier t inductionHypothesis =>
      rw [collectSchemas_append, inductionHypothesis]
      unfold distinctSchemas
      rw [List.map_append, List.filter_append, List.map_singleton,
        List.filter_singleton]
      by_cases isPublic : t.schema = publicSchema
      · simp [isPublic]
      · have isOther : decide (t.schema ≠ publicSchema) = true :=
          decide_eq_true isPublic
        rw [isOther, cond_true, eraseDups_concat]
        simp only [isPublic, false_or, List.mem_eraseDups]

end Tablesmith.Sql
