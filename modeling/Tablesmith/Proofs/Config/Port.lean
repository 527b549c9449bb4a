import Tablesmith.Proofs.Config.Overriding
import Tablesmith.Proofs.Number.Digits

/-!
# Ports

A port is left open by nothing and by an empty text.  Else it is a number from
0 to 65535, as a whole number, a truth value or a text of digits.  Settings
that are in order but for their port have one fault, at the port.
-/

namespace Tablesmith.Config

open Tablesmith.Number Tablesmith.Text

/-! ## Values for a port -/

def lastPort : Nat := 65535

/-- What a value says about a port, if it can stand for one. -/
inductive StandsForPort : Value → Option Nat → Prop
  | null : StandsForPort .null none
  | emptyText : StandsForPort (.text "") none
  | truth (b : Bool) : StandsForPort (.bool b) (some (if b then 1 else 0))
  | number {n : Nat} : n ≤ lastPort → StandsForPort (.int n) (some n)
  | digits {s : String} {n : Nat} :
      s ≠ "" → (∀ c ∈ s.toList, isDigitChar c = true) →
      readInteger 10 s = .ok (n : Int) → n ≤ lastPort →
      StandsForPort (.text s) (some n)

theorem StandsForPort.le_lastPort {v : Value} {n : Nat}
    (stands : StandsForPort v (some n)) : n ≤ lastPort := by
  cases stands with
  | truth b => cases b <;> decide
  | number small => exact small
  | digits _ _ _ small => exact small

theorem checkPort_int (n : Int) :
    (∃ m : Nat, n = m ∧ m ≤ lastPort ∧ checkPort (.int n) = .ok (some m)) ∨
      ((∀ m : Nat, n = m → ¬ m ≤ lastPort) ∧
        ∃ reason, checkPort (.int n) = Checked.problem (.refused reason)) := by
  unfold checkPort lastPort
  dsimp only
  by_cases inside : 0 ≤ n ∧ n ≤ 65535
  · refine Or.inl ⟨n.toNat, by omega, by omega, ?_⟩
    rw [if_pos (by simpa using inside)]
  · refine Or.inr ⟨by omega, ?_⟩
    rw [if_neg (by simpa using inside)]
    split
    · exact ⟨_, rfl⟩
    · exact ⟨_, rfl⟩

theorem isDigits_iff {s : String} (filled : s ≠ "") :
    isDigits s = true ↔ ∀ c ∈ s.toList, isDigitChar c = true := by
  unfold isDigits
  simp [filled]

/-- Digits are read as the number they stand for, if there is one. -/
theorem checkPort_digits
    {s : String} (filled : s ≠ "")
    (digits : ∀ c ∈ s.toList, isDigitChar c = true) :
    (∀ n, readInteger 10 s = .ok n →
        checkPort (.text s) = checkPort (.int n)) ∧
      ∀ fault, readInteger 10 s = .error fault →
        checkPort (.text s) =
          Checked.problem (.refused (.number fault)) := by
  have isFilled : ¬ s.isEmpty = true := by
    simpa using filled
  have areDigits := (isDigits_iff filled).mpr digits
  constructor
  · intro n read
    unfold checkPort
    dsimp only
    rw [if_neg isFilled, if_pos areDigits, read]
  · intro fault notRead
    unfold checkPort
    dsimp only
    rw [if_neg isFilled, if_pos areDigits, notRead]

theorem checkPort_of_not_digits
    {s : String} (filled : s ≠ "")
    (notDigits : ¬ ∀ c ∈ s.toList, isDigitChar c = true) :
    checkPort (.text s) = Checked.problem (.refused (.portType "str")) := by
  unfold checkPort
  dsimp only
  rw [if_neg (by simpa using filled),
    if_neg (mt (isDigits_iff filled).mp notDigits)]

/-- A value for the port is read as what it stands for, or refused. -/
theorem checkPort_cases (v : Value) :
    (∃ port, StandsForPort v port ∧ checkPort v = .ok port) ∨
      ((¬ ∃ port, StandsForPort v port) ∧
        ∃ reason, checkPort v = Checked.problem (.refused reason)) := by
  cases v with
  | null => exact Or.inl ⟨none, .null, rfl⟩
  | bool b => exact Or.inl ⟨_, .truth b, rfl⟩
  | int n =>
      rcases checkPort_int n with ⟨m, rfl, small, read⟩ | ⟨outside, refused⟩
      · exact Or.inl ⟨some m, .number small, read⟩
      · refine Or.inr ⟨?_, refused⟩
        rintro ⟨port, stands⟩
        cases stands with
        | number small => exact outside _ rfl small
  | text s =>
      by_cases empty : s = ""
      · subst empty
        exact Or.inl ⟨none, .emptyText, rfl⟩
      · by_cases digits : ∀ c ∈ s.toList, isDigitChar c = true
        · obtain ⟨ofNumber, ofFault⟩ := checkPort_digits empty digits
          cases read : readInteger 10 s with
          | error fault =>
              refine Or.inr ⟨?_, _, ofFault fault read⟩
              rintro ⟨port, stands⟩
              cases stands with
              | emptyText => exact empty rfl
              | digits _ _ isNumber _ =>
                  rw [read] at isNumber
                  cases isNumber
          | ok n =>
              rw [ofNumber n read]
              rcases checkPort_int n with
                ⟨m, rfl, small, inRange⟩ | ⟨outside, refused⟩
              · exact Or.inl ⟨some m, .digits empty digits read small, inRange⟩
              · refine Or.inr ⟨?_, refused⟩
                rintro ⟨port, stands⟩
                cases stands with
                | emptyText => exact empty rfl
                | digits _ _ isNumber small =>
                    rw [read] at isNumber
                    cases isNumber
                    exact outside _ rfl small
        · refine Or.inr ⟨?_, _, checkPort_of_not_digits empty digits⟩
          rintro ⟨port, stands⟩
          cases stands with
          | emptyText => exact empty rfl
          | digits _ allDigits _ _ => exact digits allDigits
  | _ =>
      refine Or.inr ⟨?_, _, rfl⟩
      rintro ⟨port, stands⟩
      cases stands

theorem StandsForPort.unique
    {v : Value} {port other : Option Nat}
    (stands : StandsForPort v port) (otherStands : StandsForPort v other) :
    port = other := by
  cases stands with
  | null => cases otherStands; rfl
  | emptyText =>
      cases otherStands with
      | emptyText => rfl
      | digits filled => exact absurd rfl filled
  | truth b => cases otherStands; rfl
  | number => cases otherStands; rfl
  | digits filled _ read _ =>
      cases otherStands with
      | emptyText => exact absurd rfl filled
      | digits _ _ otherRead _ =>
          rw [read] at otherRead
          cases otherRead
          rfl

theorem checkPort_eq_ok_iff {v : Value} {port : Option Nat} :
    checkPort v = .ok port ↔ StandsForPort v port := by
  rcases checkPort_cases v with
    ⟨meant, stands, read⟩ | ⟨noPort, reason, refused⟩
  · rw [read]
    constructor
    · rintro ⟨⟩
      exact stands
    · intro otherStands
      rw [stands.unique otherStands]
  · rw [refused]
    exact iff_of_false Checked.problem_ne_ok fun stands =>
      noPort ⟨port, stands⟩

theorem standsForPort_unfold_iff
    {whole : List (Value × Value)} {v : Value} {port : Option Nat} :
    StandsForPort (Value.unfold (.dict whole) 0 v) port ↔
      StandsForPort v port := by
  cases v with
  | enclosing levels isDict =>
      rcases Value.unfold_enclosing (.dict whole) 0 levels isDict with
        meant | kept
      · rw [meant]
        constructor <;> (intro stands; cases stands)
      · rw [kept]
  | list | tuple | set | dict =>
      constructor <;> (intro stands; cases stands)
  | _ => exact Iff.rfl

/-! ## Settings -/

theorem Checked.both_ok_left {α β : Type} (a : α) (y : Checked β) :
    Checked.both (.ok a) y = y.map fun b => (a, b) := by
  cases y <;> rfl

theorem Checked.both_ok_right {α β : Type} (x : Checked α) (b : β) :
    Checked.both x (.ok b) = x.map fun a => (a, b) := by
  cases x with
  | ok a => rfl
  | error faults => exact congrArg Except.error (List.append_nil faults)

/-- Settings as they are given, with a value for the port in place of theirs. -/
def withPort (given : Entries) (v : Value) : Entries :=
  Value.put given (.text "port") v

section Settings

variable {given : Entries} {s : DatabaseSettings}

/-- A field other than the port is read as it is given, whatever stands for the
port. -/
theorem IsShallow.fieldOr_withPort
    {α : Type} {check : Value → Checked α} (shallow : IsShallow check)
    (absent : Checked α) {name : String} (other : name ≠ "port") (v : Value) :
    fieldOr absent
        (Value.unfoldEntries (.dict (withPort given v)) 0 (withPort given v))
        [name] check =
      fieldOr absent given [name] check := by
  have kept :
      findField? (withPort given v) [name] = findField? given [name] := by
    unfold withPort
    rw [findField?, findField?, Value.lookupText?_put, if_neg other]
    rfl
  rw [shallow.fieldOr_unfoldEntries]
  unfold fieldOr
  rw [kept]

theorem fieldOr_port (absent : Checked (Option Nat)) (v : Value) :
    fieldOr absent
        (Value.unfoldEntries (.dict (withPort given v)) 0 (withPort given v))
        ["port"] checkPort =
      (checkPort (Value.unfold (.dict (withPort given v)) 0 v)).within
        (.field "port") := by
  have found : findField? (withPort given v) ["port"] = some ("port", v) := by
    unfold withPort
    rw [findField?, Value.lookupText?_put, if_pos rfl]
  unfold fieldOr
  rw [findField?_unfoldEntries, found]
  rfl

theorem checkSettings_eq (v : Value) :
    checkSettings (.dict (withPort given v)) =
      ((requiredField given "name" checkFilledText).both
        ((nullableField given "user" checkText).both
        ((nullableField given "password" checkText).both
        ((optionalField given "host" "localhost" checkText).both
        (((checkPort (Value.unfold (.dict (withPort given v)) 0 v)).within
            (.field "port")).both
        (optionalField given "connect_timeout" 10 checkPositive)))))).map
        fun (name, user, password, host, port, connectTimeout) =>
          { name, user, password, host, port, connectTimeout } := by
  have text := isShallow_checkText
  unfold checkSettings openModel
  simp only [Value.entries?, requiredField, nullableField, optionalField,
    fieldOr_port]
  rw [isShallow_checkFilledText.fieldOr_withPort _ (by decide),
    text.orNull.fieldOr_withPort _ (by decide),
    text.orNull.fieldOr_withPort _ (by decide),
    text.fieldOr_withPort _ (by decide),
    isShallow_checkPositive.fieldOr_withPort _ (by decide)]

/-- Settings that are in order without a port are, with a value for it, in
order as far as that value is. -/
theorem checkSettings_withPort
    (otherwise : checkSettings (.dict (withPort given .null)) = .ok s)
    (v : Value) :
    checkSettings (.dict (withPort given v)) =
      ((checkPort (Value.unfold (.dict (withPort given v)) 0 v)).within
        (.field "port")).map fun port => { s with port := port } := by
  rw [checkSettings_eq] at otherwise
  obtain ⟨⟨name, user, password, host, port, timeout⟩, fields, rfl⟩ :=
    Checked.map_eq_ok_iff.mp otherwise
  obtain ⟨nameRead, fields⟩ := Checked.both_eq_ok_iff.mp fields
  obtain ⟨userRead, fields⟩ := Checked.both_eq_ok_iff.mp fields
  obtain ⟨passwordRead, fields⟩ := Checked.both_eq_ok_iff.mp fields
  obtain ⟨hostRead, fields⟩ := Checked.both_eq_ok_iff.mp fields
  obtain ⟨_, timeoutRead⟩ := Checked.both_eq_ok_iff.mp fields
  rw [checkSettings_eq, nameRead, userRead, passwordRead, hostRead,
    timeoutRead, Checked.both_ok_right]
  iterate 4 rw [Checked.both_ok_left]
  cases checkPort (Value.unfold (.dict (withPort given v)) 0 v) <;> rfl

theorem checkSettings_of_standsForPort
    (otherwise : checkSettings (.dict (withPort given .null)) = .ok s)
    {v : Value} {port : Option Nat} (stands : StandsForPort v port) :
    checkSettings (.dict (withPort given v)) =
      .ok { s with port := port } := by
  rw [checkSettings_withPort otherwise,
    checkPort_eq_ok_iff.mpr (standsForPort_unfold_iff.mpr stands)]
  rfl

/-- A value that stands for no port is the only fault of settings that are
otherwise in order. -/
theorem checkSettings_of_noPort
    (otherwise : checkSettings (.dict (withPort given .null)) = .ok s)
    {v : Value} (noPort : ¬ ∃ port, StandsForPort v port) :
    ∃ reason, checkSettings (.dict (withPort given v)) =
      .error [⟨[.field "port"], .refused reason⟩] := by
  let meant := Value.unfold (.dict (withPort given v)) 0 v
  have meansNoPort : ¬ ∃ port, StandsForPort meant port := by
    rintro ⟨port, stands⟩
    exact noPort ⟨port, standsForPort_unfold_iff.mp stands⟩
  obtain ⟨_, reason, refused⟩ :=
    (checkPort_cases meant).resolve_left fun ⟨port, stands, _⟩ =>
      meansNoPort ⟨port, stands⟩
  refine ⟨reason, ?_⟩
  rw [checkSettings_withPort otherwise, refused]
  rfl

end Settings

/-! ## Configurations -/

/-- A configuration holds settings of a database, and its other fields are in
order. -/
structure HoldsSettings
    (config settings : Value) (c : Configuration) (fields : Entries) :
    Prop where
  isModel : config.entries? = some fields
  database : Value.lookupText? fields "database" = some settings
  dialect :
    optionalField fields "dialect" .standard checkDialect = .ok c.dialect
  sqlOutput : nullableField fields "sql_output" checkText = .ok c.sqlOutput
  typesOutput :
    nullableField fields "types_output" checkText = .ok c.typesOutput
  tables :
    requiredField fields "tables" (checkFilledList checkTable) = .ok c.tables

theorem HoldsSettings.checkConfiguration_eq
    {config settings : Value} {c : Configuration} {fields : Entries}
    (holds : HoldsSettings config settings c fields)
    (isGiven : settings.isNull = false) :
    checkConfiguration config =
      ((checkSettings settings).within (.field "database")).map
        fun read => { c with database := some read } := by
  have database :
      nullableField fields "database" checkSettings =
        Checked.within (.field "database")
          ((checkSettings settings).map some) := by
    unfold nullableField optionalField fieldOr
    rw [findField?, holds.database]
    dsimp only
    unfold Checked.orNull
    rw [isGiven, if_neg Bool.false_ne_true]
  unfold checkConfiguration openModel
  rw [holds.isModel]
  dsimp only
  rw [holds.dialect, holds.sqlOutput, holds.typesOutput, holds.tables,
    database, Checked.both_ok_right]
  iterate 3 rw [Checked.both_ok_left]
  cases checkSettings settings <;> rfl

theorem faultReport_port (reason : Refusal) (file : Value) :
    faultReport
        [⟨[.field "database", .field "port"], .refused reason⟩] file =
      .badConfiguration "Invalid configuration (1 error(s))"
        [("errors", .dict [(.text "database -> port",
          .text ("Value error, " ++ reason.message))])]
        file := by
  have place :
      pathText [.field "database", .field "port"] = "database -> port" := by
    decide +kernel
  have title :
      "Invalid configuration (" ++ toString 1 ++ " error(s))" =
        "Invalid configuration (1 error(s))" := by
    decide +kernel
  have table :
      faultTable [⟨[.field "database", .field "port"], .refused reason⟩] =
        [(.text "database -> port",
          .text ("Value error, " ++ reason.message))] := by
    rw [← place]
    rfl
  unfold faultReport
  rw [table]
  exact congrArg (Report.badConfiguration · _ file) title

/-- Settings that are otherwise in order are accepted exactly if what is given
for the port stands for a port or for none, and this is what they then hold.
Else the port is their one fault, and that of a configuration which is otherwise
in order.  A text of digit characters is a number exactly if all of them are
decimal digits and there are no more than 4300. -/
theorem port_accepted_iff
    {given : Entries} {s : DatabaseSettings}
    (otherwise : checkSettings (.dict (withPort given .null)) = .ok s)
    (v : Value) :
    (∀ read, checkSettings (.dict (withPort given v)) = .ok read ↔
      ∃ port, StandsForPort v port ∧ read = { s with port := port }) ∧
    (∀ port, StandsForPort v port →
      (∀ n, port = some n → n ≤ 65535) ∧
      ∀ config c fields file,
        HoldsSettings config (.dict (withPort given v)) c fields →
          (validate config file).result =
            .ok { c with database := some { s with port := port } }) ∧
    ((¬ ∃ port, StandsForPort v port) →
      ∃ reason,
        checkSettings (.dict (withPort given v)) =
          .error [⟨[.field "port"], .refused reason⟩] ∧
        ∀ config c fields file,
          HoldsSettings config (.dict (withPort given v)) c fields →
            (validate config file).result =
              .error (.report (.badConfiguration
                "Invalid configuration (1 error(s))"
                [("errors", .dict [(.text "database -> port",
                  .text ("Value error, " ++ reason.message))])]
                file))) ∧
    ∀ text, text ≠ "" → (∀ c ∈ text.toList, isDigitChar c = true) →
      ∀ n : Int, readInteger 10 text = .ok n ↔
        ∃ ds : List Nat, text.toList.map digitValue? = ds.map some ∧
          ds.length ≤ 4300 ∧ n = (Nat.ofDigits 10 ds.reverse : Nat) := by
  refine ⟨?_, ?_, ?_,
    fun text filled digits n => readInteger_eq_ok_iff filled digits⟩
  · intro read
    constructor
    · intro accepted
      by_cases somePort : ∃ port, StandsForPort v port
      · obtain ⟨port, stands⟩ := somePort
        rw [checkSettings_of_standsForPort otherwise stands] at accepted
        cases accepted
        exact ⟨port, stands, rfl⟩
      · obtain ⟨reason, refused⟩ := checkSettings_of_noPort otherwise somePort
        rw [refused] at accepted
        cases accepted
    · rintro ⟨port, stands, rfl⟩
      exact checkSettings_of_standsForPort otherwise stands
  · intro port stands
    refine ⟨?_, ?_⟩
    · rintro n rfl
      exact stands.le_lastPort
    · intro config c fields file holds
      rw [result_validate, holds.checkConfiguration_eq rfl,
        checkSettings_of_standsForPort otherwise stands]
      rfl
  · intro noPort
    obtain ⟨reason, refused⟩ := checkSettings_of_noPort otherwise noPort
    refine ⟨reason, refused, ?_⟩
    intro config c fields file holds
    rw [result_validate, holds.checkConfiguration_eq rfl, refused,
      ← faultReport_port]
    rfl

def stockGiven : Entries := [(.text "name", .text "stock")]

/-- The settings of a stock database, with no port. -/
def stock : DatabaseSettings where
  name := "stock"
  user := none
  password := none
  host := "localhost"
  port := none
  connectTimeout := 10

/-- Arabic digits stand for a port; a superscript digit is none, though it
counts as a digit. -/
theorem stock_ports :
    checkSettings (.dict (withPort stockGiven .null)) = .ok stock ∧
      checkSettings (.dict (withPort stockGiven (.text "٦٥٤٣"))) =
        .ok { stock with port := some 6543 } ∧
      isDigits "²" = true ∧
      ∃ reason, checkSettings (.dict (withPort stockGiven (.text "²"))) =
        .error [⟨[.field "port"], .refused reason⟩] := by
  have otherwise :
      checkSettings (.dict (withPort stockGiven .null)) = .ok stock := by
    decide +kernel
  have arabic : StandsForPort (.text "٦٥٤٣") (some 6543) :=
    .digits (by decide) (List.all_eq_true.mp (by decide)) (by decide +kernel)
      (by decide)
  have superscript : ¬ ∃ port, StandsForPort (.text "²") port := by
    have notRead (n : Int) : readInteger 10 "²" ≠ .ok n := by
      have failed : readInteger 10 "²" = .error (.notInteger 10 "²") := by
        decide +kernel
      rw [failed]
      rintro ⟨⟩
    rintro ⟨port, stands⟩
    generalize isText : Value.text "²" = v at stands
    cases stands with
    | emptyText => simp at isText
    | digits _ _ read _ =>
        cases isText
        exact notRead _ read
    | _ => cases isText
  refine ⟨otherwise, ?_, by decide, ?_⟩
  · exact ((port_accepted_iff otherwise _).1 _).mpr ⟨_, arabic, rfl⟩
  · obtain ⟨reason, refused, _⟩ :=
      (port_accepted_iff otherwise _).2.2.1 superscript
    exact ⟨reason, refused⟩

end Tablesmith.Config
