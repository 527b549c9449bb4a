import Tablesmith.Proofs.Config.Places
import Tablesmith.Proofs.Connection.Passwordless

/-!
# Addresses and arguments

The address in a message stands for the connection that was attempted.  Read
with the host and the database name of the arguments, an address has one port
and either names a user or not.  Both are those of the arguments, but for the
port zero, which is handed on and not shown.
-/

namespace Tablesmith.Connection

open Tablesmith.Config

/-! ## Parts of an address -/

/-- A user, perhaps with a password. -/
structure Login where
  user : String
  password : Option String
  named : user ≠ ""

structure AddressParts where
  login : Option Login
  host : String
  port : Option Nat
  database : String

def Login.text (login : Login) : String :=
  login.user ++ login.password.elim "" (":" ++ ·) ++ "@"

namespace AddressParts

def loginText (parts : AddressParts) : String :=
  parts.login.elim "" Login.text

def portText (parts : AddressParts) : String :=
  parts.port.elim "" (":" ++ toString ·)

def text (parts : AddressParts) : String :=
  "postgresql://" ++ parts.loginText ++ parts.host ++ parts.portText ++ "/" ++
    parts.database

/-- The parts make up an address, with the host and the database name that the
arguments of the connection have. -/
structure Reads
    (parts : AddressParts) (address : String)
    (arguments : List (String × Value)) :
    Prop where
  isText : parts.text = address
  sameHost : arguments.lookup "host" = some (.text parts.host)
  sameDatabase : arguments.lookup "dbname" = some (.text parts.database)

end AddressParts

/-- An address describes the connection with the given arguments: it can be
read with their host and database name, and however it is read so, it names a
user exactly if they do, and it has their port. -/
structure Describes
    (address : String) (arguments : List (String × Value)) : Prop where
  readable : ∃ parts : AddressParts, parts.Reads address arguments
  user :
    ∀ parts : AddressParts, parts.Reads address arguments →
      ((∃ login, parts.login = some login) ↔
        ∃ user, arguments.lookup "user" = some (.text user) ∧ user ≠ "")
  port :
    ∀ parts : AddressParts, parts.Reads address arguments →
      arguments.lookup "port" = parts.port.map fun n => .int n

/-! ## One way to read -/

/-- A text with the same marks behind it is split in one way only into a part
that is empty or ends with a mark, and the rest. -/
theorem append_inj_of_ending
    {mark : Char} {front rest other otherRest : List Char}
    (same : front ++ rest = other ++ otherRest)
    (sameMarks : rest.count mark = otherRest.count mark)
    (ending : front = [] ∨ front.getLast? = some mark)
    (otherEnding : other = [] ∨ other.getLast? = some mark) :
    front = other ∧ rest = otherRest := by
  -- The longer part would hold one mark more.
  have sameFront : front = other := by
    have counts := congrArg (List.count mark) same
    rw [List.count_append, List.count_append, sameMarks,
      Nat.add_right_cancel_iff] at counts
    have longer {short long : List Char}
        (isPrefix : short <+: long)
        (sameCount : long.count mark = short.count mark)
        (longEnding : long = [] ∨ long.getLast? = some mark) :
        short = long := by
      obtain ⟨more, rfl⟩ := isPrefix
      cases more using List.reverseRecOn with
      | nil => exact (List.append_nil short).symm
      | append_singleton more last =>
          have isMark : last = mark := by
            rcases longEnding with empty | isLast
            · simp at empty
            · simpa [← List.append_assoc] using isLast
          simp [List.count_append, isMark] at sameCount
    rcases List.prefix_or_prefix_of_prefix
        (List.prefix_append front rest)
        (same ▸ List.prefix_append other otherRest) with
      shorter | notShorter
    · exact longer shorter counts.symm otherEnding
    · exact (longer notShorter counts ending).symm
  subst sameFront
  exact ⟨rfl, List.append_cancel_left same⟩

namespace AddressParts

variable {parts other : AddressParts} {address : String}
  {arguments : List (String × Value)}

theorem loginText_ending (parts : AddressParts) :
    parts.loginText.toList = [] ∨
      parts.loginText.toList.getLast? = some '@' := by
  unfold loginText
  cases parts.login with
  | none => exact Or.inl rfl
  | some login =>
      refine Or.inr ?_
      simp [Login.text]

theorem loginText_eq_empty_iff :
    parts.loginText = "" ↔ parts.login = none := by
  unfold loginText
  cases parts.login with
  | none => simp
  | some login =>
      refine iff_of_false ?_ (by simp)
      intro empty
      have characters := congrArg String.toList empty
      simp [Login.text] at characters

theorem count_sign_portText (parts : AddressParts) :
    parts.portText.toList.count '@' = 0 := by
  rw [List.count_eq_zero]
  unfold portText
  cases parts.port with
  | none => exact List.not_mem_nil
  | some port =>
      show '@' ∉ (":" ++ toString port).toList
      rw [String.toList_append, List.mem_append, not_or]
      exact ⟨by decide, DatabaseSettings.no_sign_toString port⟩

theorem port_eq_of_portText_eq (same : parts.portText = other.portText) :
    parts.port = other.port := by
  have filled (port : Nat) : ":" ++ toString port ≠ "" := by
    intro empty
    have characters := congrArg String.toList empty
    simp at characters
  unfold portText at same
  cases first : parts.port with
  | none =>
      cases second : other.port with
      | none => rfl
      | some port =>
          rw [first, second] at same
          exact absurd same.symm (filled port)
  | some port =>
      cases second : other.port with
      | none =>
          rw [first, second] at same
          exact absurd same (filled port)
      | some otherPort =>
          rw [first, second] at same
          have sameDigits : port.repr = otherPort.repr :=
            (String.append_right_inj ":").mp same
          rw [repr_injective sameDigits]

/-- Two readings of an address agree about the port, and about whether a user
is named. -/
theorem Reads.unique
    (reads : parts.Reads address arguments)
    (otherReads : other.Reads address arguments) :
    (parts.login = none ↔ other.login = none) ∧
      parts.port = other.port := by
  have sameHost : parts.host = other.host := by
    have texts := reads.sameHost.symm.trans otherReads.sameHost
    simpa using texts
  have sameDatabase : parts.database = other.database := by
    have texts := reads.sameDatabase.symm.trans otherReads.sameDatabase
    simpa using texts
  have sameText := reads.isText.trans otherReads.isText.symm
  have sameMiddle :
      parts.loginText.toList ++
          (parts.host.toList ++ parts.portText.toList) =
        other.loginText.toList ++
          (parts.host.toList ++ other.portText.toList) := by
    have characters := congrArg String.toList sameText
    unfold text at characters
    rw [← sameHost, ← sameDatabase] at characters
    have behind :
        (parts.loginText.toList ++
            (parts.host.toList ++ parts.portText.toList)) ++
            '/' :: parts.database.toList =
          (other.loginText.toList ++
            (parts.host.toList ++ other.portText.toList)) ++
            '/' :: parts.database.toList := by
      simpa using characters
    exact List.append_cancel_right behind
  obtain ⟨sameLogin, sameRest⟩ :=
    append_inj_of_ending sameMiddle
      (by simp [List.count_append, count_sign_portText])
      parts.loginText_ending other.loginText_ending
  constructor
  · rw [← loginText_eq_empty_iff, ← loginText_eq_empty_iff,
      String.toList_inj.mp sameLogin]
  · apply port_eq_of_portText_eq
    exact String.toList_inj.mp (List.append_cancel_left sameRest)

end AddressParts

end Tablesmith.Connection

namespace Tablesmith.Config.DatabaseSettings

open Tablesmith.Connection

/-! ## Arguments and address of settings -/

variable (s : DatabaseSettings)

theorem lookup_arguments :
    s.arguments.lookup "dbname" = some (.text s.name) ∧
      s.arguments.lookup "user" = s.user.map Value.text ∧
      s.arguments.lookup "host" = some (.text s.host) ∧
      s.arguments.lookup "port" = s.port.map fun n => .int n := by
  obtain ⟨name, user, password, host, port, timeout⟩ := s
  cases user <;> cases password <;> cases port <;> exact ⟨rfl, rfl, rfl, rfl⟩

/-- The parts that the address of settings is put together from. -/
def parts : AddressParts where
  login :=
    match s.user with
    | none => none
    | some user =>
      if named : user ≠ "" then
        some ⟨user, s.password.filter (· ≠ ""), named⟩
      else none
  host := s.host
  port := s.port.filter (· ≠ 0)
  database := s.name

theorem loginText_parts : s.parts.loginText = s.credentials := by
  unfold AddressParts.loginText parts credentials
  cases s.user with
  | none => rfl
  | some user =>
      by_cases empty : user = ""
      · simp [empty]
      · cases s.password with
        | none => simp [empty, Login.text]
        | some password =>
            by_cases noPassword : password = ""
            · simp [empty, noPassword, Login.text, Option.filter]
            · simp [empty, noPassword, Login.text, Option.filter,
                String.append_assoc]

theorem portText_parts : s.parts.portText = s.portSuffix := by
  unfold AddressParts.portText parts portSuffix
  cases s.port with
  | none => rfl
  | some port =>
      by_cases isZero : port = 0
      · simp [isZero, Option.filter]
      · simp [isZero, Option.filter]

theorem reads_parts : s.parts.Reads s.address s.arguments where
  isText := by
    unfold AddressParts.text address
    rw [loginText_parts, portText_parts]
    rfl
  sameHost := s.lookup_arguments.2.2.1
  sameDatabase := s.lookup_arguments.1

theorem login_parts_eq_none_iff :
    s.parts.login = none ↔
      ∀ user, s.arguments.lookup "user" = some (.text user) → user = "" := by
  rw [s.lookup_arguments.2.1]
  unfold parts
  cases s.user with
  | none => simp
  | some user => simp

variable {s}

theorem user_of_login_parts
    {login : Login} (isLogin : s.parts.login = some login) :
    s.user = some login.user := by
  unfold parts at isLogin
  cases given : s.user with
  | none => simp [given] at isLogin
  | some user =>
      by_cases named : user ≠ ""
      · simp only [given, dif_pos named, Option.some_inj] at isLogin
        rw [← isLogin]
      · simp [given, dif_neg named] at isLogin

/-- However the address of settings is read, it names a user exactly if the
arguments do. -/
theorem exists_login_iff
    {parts : AddressParts} (reads : parts.Reads s.address s.arguments) :
    (∃ login, parts.login = some login) ↔
      ∃ user, s.arguments.lookup "user" = some (.text user) ∧ user ≠ "" := by
  have noUser := (reads.unique s.reads_parts).1.trans s.login_parts_eq_none_iff
  rw [← Option.ne_none_iff_exists', ne_eq, noUser]
  push Not
  rfl

/-- The port of an address is that of the arguments, unless this is zero. -/
theorem port_of_reads
    {parts : AddressParts} (reads : parts.Reads s.address s.arguments) :
    (s.arguments.lookup "port" = parts.port.map fun n => .int n) ↔
      s.port ≠ some 0 := by
  have shown : parts.port = s.port.filter (· ≠ 0) :=
    (reads.unique s.reads_parts).2
  rw [s.lookup_arguments.2.2.2, shown]
  cases s.port with
  | none => simp
  | some port =>
      by_cases isZero : port = 0
      · simp [isZero, Option.filter]
      · simp [isZero, Option.filter]

variable (s)

/-- The address of settings describes their connection exactly if the port is
not zero.  Host, database name and user are described in any case. -/
theorem address_describes_iff :
    (Describes s.address s.arguments ↔ s.port ≠ some 0) ∧
    (∃ parts : AddressParts, parts.Reads s.address s.arguments ∧
      ∀ login, parts.login = some login →
        s.arguments.lookup "user" = some (.text login.user)) ∧
    ∀ parts : AddressParts, parts.Reads s.address s.arguments →
      ((∃ login, parts.login = some login) ↔
        ∃ user, s.arguments.lookup "user" = some (.text user) ∧
          user ≠ "") := by
  refine ⟨⟨?_, ?_⟩, ⟨s.parts, s.reads_parts, ?_⟩,
    fun parts reads => exists_login_iff reads⟩
  · intro describes
    exact (port_of_reads s.reads_parts).mp
      (describes.port s.parts s.reads_parts)
  · intro notZero
    exact ⟨⟨s.parts, s.reads_parts⟩, fun parts reads => exists_login_iff reads,
      fun parts reads => (port_of_reads reads).mpr notZero⟩
  · intro login isLogin
    rw [s.lookup_arguments.2.1, user_of_login_parts isLogin]
    rfl

def gatewayValue : Value :=
  .dict [(.text "name", .text "app"), (.text "port", .int 0)]

/-- Settings with the port zero. -/
def gateway : DatabaseSettings where
  name := "app"
  user := none
  password := none
  host := "localhost"
  port := some 0
  connectTimeout := 10

/-- The port zero is accepted and handed on, but not shown. -/
theorem gateway_not_described :
    checkSettings gatewayValue = .ok gateway ∧
      gateway.arguments.lookup "port" = some (.int 0) ∧
      gateway.address = "postgresql://localhost/app" ∧
      (∀ parts : AddressParts,
        parts.Reads gateway.address gateway.arguments → parts.port = none) ∧
      ¬ Describes gateway.address gateway.arguments := by
  refine ⟨by decide +kernel, rfl, by decide +kernel, ?_, ?_⟩
  · intro parts reads
    exact (reads.unique gateway.reads_parts).2
  · intro describes
    have sent := describes.port gateway.parts gateway.reads_parts
    exact (port_of_reads gateway.reads_parts).mp sent rfl

end Tablesmith.Config.DatabaseSettings
