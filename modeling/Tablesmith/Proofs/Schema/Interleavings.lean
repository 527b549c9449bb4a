import Tablesmith.Proofs.Schema.Sessions
import Tablesmith.Sql.Plan

/-!
# Interleavings of builder calls

The tables of a database can be built one after another or by turns.  A call
reads of other tables only their names, and no call changes a name; so all
interleavings of the same calls come to the same tables, the same outcomes and
the same statements.
-/

namespace Tablesmith.Schema

/-! ## Turns -/

/-- A builder call on a table of a database.  A reference names the position of
the table that it points at. -/
inductive Request where
  | column
      (kind : String)
      (name : Option Value)
      (keywords : List (Value × Value))
  | reference
      (name : Value)
      (target : Nat)
      (referenced : Value)
      (actions : ReferenceActions)
      (keywords : List (Value × Value))
  | unique (columns : Value)
  deriving Repr

/-- A request that is made of the table at a position. -/
structure Turn where
  position : Nat
  request : Request
  deriving Repr

namespace Database

/-- The qualified name of the table at a position, if there is one. -/
def nameAt (d : Database) (position : Nat) : Value :=
  (d.tables[position]?.map Table.qualifiedName).getD .null

/-- The call that a request makes, with the name that the target has now. -/
def call (d : Database) : Request → Call
  | .column kind name keywords => .column kind name keywords
  | .reference name target referenced actions keywords =>
    .reference name (.table (d.nameAt target)) referenced actions keywords
  | .unique columns => .unique columns

/-- The database after a turn. -/
def take (d : Database) (turn : Turn) : Database :=
  d.perform (.build turn.position (d.call turn.request))

/-- How a turn ends, if there is a table at its position. -/
def outcome (d : Database) (turn : Turn) : Option (Except Failure Unit) :=
  d.tables[turn.position]?.map fun t =>
    ((d.call turn.request).perform t).result

def afterTurns (d : Database) (turns : List Turn) : Database :=
  turns.foldl take d

/-- How the turns end, each with its position. -/
def outcomes (d : Database) :
    List Turn → List (Nat × Option (Except Failure Unit))
  | [] => []
  | turn :: rest =>
    (turn.position, d.outcome turn) :: (d.take turn).outcomes rest

end Database

/-- Turns interleave the requests that each table gets if every table gets its
own requests in their order. -/
def Interleaves (requests : Nat → List Request) (turns : List Turn) : Prop :=
  ∀ position,
    (turns.filter fun turn => turn.position = position).map Turn.request =
      requests position

/-- The outcomes of a sequence of calls on one table. -/
def Table.results (t : Table) : List Call → List (Except Failure Unit)
  | [] => []
  | call :: rest =>
    (call.perform t).result :: (call.perform t).table.results rest

/-! ## One turn -/

namespace Database

variable {d : Database}

/-- A turn changes the table at its position and no other. -/
theorem getElem?_take (d : Database) (turn : Turn) (position : Nat) :
    (d.take turn).tables[position]? =
      if turn.position = position then
        d.tables[position]?.map fun t =>
          ((d.call turn.request).perform t).table
      else d.tables[position]? := by
  unfold take perform
  rw [List.getElem?_modify]
  by_cases here : turn.position = position
  · simp only [here, if_true]
    rfl
  · simp only [here, if_false]
    exact Option.map_id'

theorem nameAt_take (d : Database) (turn : Turn) (position : Nat) :
    (d.take turn).nameAt position = d.nameAt position := by
  unfold nameAt
  rw [getElem?_take]
  split
  · rw [Option.map_map]
    congr 1
    apply Option.map_congr
    intro t _
    obtain ⟨sameName, sameSchema⟩ :=
      (Table.extends_perform (d.call turn.request) t).sameTable
    simp only [Function.comp, Table.qualifiedName, sameName, sameSchema]
  · rfl

/-- Since names stay, a request makes the same call before and after every
turn. -/
theorem call_take (d : Database) (turn : Turn) (request : Request) :
    (d.take turn).call request = d.call request := by
  cases request with
  | column => rfl
  | reference name target referenced actions keywords =>
      unfold call
      simp only [nameAt_take]
  | unique => rfl

/-! ## All turns -/

/-- The calls that turns make on the table at a position. -/
def callsOn (d : Database) (turns : List Turn) (position : Nat) : List Call :=
  ((turns.filter fun turn => turn.position = position).map
    Turn.request).map d.call

theorem callsOn_take
    (turn : Turn) (turns : List Turn) (position : Nat) :
    (d.take turn).callsOn turns position = d.callsOn turns position := by
  unfold callsOn
  apply List.map_congr_left
  intro request _
  exact call_take d turn request

theorem callsOn_cons (turn : Turn) (rest : List Turn) (position : Nat) :
    d.callsOn (turn :: rest) position =
      if turn.position = position then
        d.call turn.request :: d.callsOn rest position
      else d.callsOn rest position := by
  unfold callsOn
  rw [List.filter_cons]
  by_cases here : turn.position = position
  · simp only [here, decide_true, if_true, List.map_cons]
  · simp only [here, decide_false, Bool.false_eq_true, if_false]

/-- Each table ends as its own calls leave it, whatever goes on in between. -/
theorem getElem?_afterTurns
    (d : Database) (turns : List Turn) (position : Nat) :
    (d.afterTurns turns).tables[position]? =
      d.tables[position]?.map fun t =>
        t.afterCalls (d.callsOn turns position) := by
  induction turns generalizing d with
  | nil =>
      exact Option.map_id'.symm
  | cons turn rest inductionHypothesis =>
      change ((d.take turn).afterTurns rest).tables[position]? = _
      rw [inductionHypothesis, callsOn_take, getElem?_take, callsOn_cons]
      by_cases here : turn.position = position
      · rw [if_pos here, if_pos here, Option.map_map]
        rfl
      · rw [if_neg here, if_neg here]

/-- The outcomes on one table are those of its own calls, whatever goes on in
between. -/
theorem filter_outcomes
    (d : Database) (turns : List Turn) (position : Nat) :
    (d.outcomes turns).filter (fun entry => entry.1 = position) =
      match d.tables[position]? with
      | none =>
        (d.callsOn turns position).map fun _ => (position, none)
      | some t =>
        (t.results (d.callsOn turns position)).map fun result =>
          (position, some result) := by
  induction turns generalizing d with
  | nil => cases d.tables[position]? <;> rfl
  | cons turn rest inductionHypothesis =>
      rw [outcomes, List.filter_cons, inductionHypothesis, callsOn_take,
        getElem?_take, callsOn_cons]
      by_cases here : turn.position = position
      · simp only [here, decide_true, if_true]
        cases there : d.tables[position]? with
        | none => simp [outcome, here, there]
        | some t => simp [outcome, here, there, Table.results]
      · simp only [here, decide_false, Bool.false_eq_true, if_false]

theorem callsOn_of_interleaves
    {requests : Nat → List Request} {turns : List Turn}
    (interleaves : Interleaves requests turns) (position : Nat) :
    d.callsOn turns position = (requests position).map d.call := by
  unfold callsOn
  rw [interleaves position]

/-- A table is called in the end what it was called when it was pointed at. -/
theorem nameAt_afterTurns
    (d : Database) (turns : List Turn) (position : Nat) :
    (d.afterTurns turns).nameAt position = d.nameAt position := by
  induction turns generalizing d with
  | nil => rfl
  | cons turn rest inductionHypothesis =>
      change ((d.take turn).afterTurns rest).nameAt position = _
      rw [inductionHypothesis, nameAt_take]

/-- Whatever requests the tables of a database get, and however they are
interleaved: every table keeps its name and ends as its own requests leave it,
every request has the same outcome, and the statements are the same. -/
theorem interleavings_agree
    (d : Database) (requests : Nat → List Request)
    {first second : List Turn}
    (firstOrder : Interleaves requests first)
    (secondOrder : Interleaves requests second) :
    (∀ position,
      (d.afterTurns first).nameAt position = d.nameAt position ∧
        (d.afterTurns first).tables[position]? =
          d.tables[position]?.map fun (t : Table) =>
            t.afterCalls ((requests position).map d.call)) ∧
      d.afterTurns first = d.afterTurns second ∧
      (∀ position,
        (d.outcomes first).filter (fun entry => entry.1 = position) =
          (d.outcomes second).filter fun entry => entry.1 = position) ∧
      Sql.create (d.afterTurns first) = Sql.create (d.afterTurns second) := by
  have ownCalls {turns : List Turn} (order : Interleaves requests turns)
      (position : Nat) :
      (d.afterTurns turns).tables[position]? =
        d.tables[position]?.map fun (t : Table) =>
          t.afterCalls ((requests position).map d.call) := by
    rw [getElem?_afterTurns, callsOn_of_interleaves order]
  have sameTables :
      (d.afterTurns first).tables = (d.afterTurns second).tables := by
    apply List.ext_getElem?
    intro position
    rw [ownCalls firstOrder, ownCalls secondOrder]
  have same : d.afterTurns first = d.afterTurns second :=
    congrArg Database.mk sameTables
  refine ⟨?_, same, ?_, congrArg Sql.create same⟩
  · intro position
    exact ⟨d.nameAt_afterTurns first position, ownCalls firstOrder position⟩
  · intro position
    rw [filter_outcomes, filter_outcomes, callsOn_of_interleaves firstOrder,
      callsOn_of_interleaves secondOrder]

/-- Tables of authors and books, without columns. -/
def library : Database :=
  empty.afterSteps
    [.declare (.text "authors") none, .declare (.text "books") (some "shop")]

/-- What the tables of the library get: they point at each other, and the
second name of an author is taken. -/
def libraryRequests : Nat → List Request
  | 0 =>
    [.column "primary_key" none [],
      .reference (.text "debut") 1 (.text "id") .standard [],
      .column "string" (some (.text "debut")) []]
  | 1 =>
    [.reference (.text "author") 0 (.text "id") .standard [],
      .column "primary_key" none [],
      .unique (.list [.text "id", .text "author"])]
  | _ => []

/-- One table after the other, or by turns: the library comes to the same
fifteen statements. -/
theorem library_interleavings_agree :
    ∃ first second : List Turn,
      first.map Turn.position = [0, 0, 0, 1, 1, 1] ∧
        second.map Turn.position = [1, 0, 1, 0, 1, 0] ∧
        Interleaves libraryRequests first ∧
        Interleaves libraryRequests second ∧
        library.afterTurns first = library.afterTurns second ∧
        ∃ statements,
          Sql.create (library.afterTurns second) = .ok statements ∧
            statements.length = 15 := by
  let authors := libraryRequests 0
  let books := libraryRequests 1
  let first : List Turn := authors.map (.mk 0) ++ books.map (.mk 1)
  let second : List Turn :=
    (books.zip authors).flatMap fun pair => [⟨1, pair.1⟩, ⟨0, pair.2⟩]
  have firstOrder : Interleaves libraryRequests first
    | 0 => rfl
    | 1 => rfl
    | _ + 2 => rfl
  have secondOrder : Interleaves libraryRequests second
    | 0 => rfl
    | 1 => rfl
    | _ + 2 => rfl
  obtain ⟨_, same, _, sameStatements⟩ :=
    interleavings_agree library libraryRequests firstOrder secondOrder
  have made :
      (Sql.create (library.afterTurns first)).toOption.map List.length =
        some 15 := by
    decide +kernel
  refine ⟨first, second, rfl, rfl, firstOrder, secondOrder, same, ?_⟩
  rw [← sameStatements]
  cases created : Sql.create (library.afterTurns first) with
  | error failure =>
      rw [created] at made
      cases made
  | ok statements =>
      rw [created] at made
      exact ⟨statements, rfl, Option.some.inj made⟩

end Database

end Tablesmith.Schema
