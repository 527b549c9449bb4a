import Tablesmith.Config.Validation
import Tablesmith.Proofs.Connection.Masking
import Tablesmith.Proofs.Connection.Runs

/-!
# Which passwords stay secret

The text of a failed execution shows the address of the database, masked.  It
tells nothing about the password exactly if there is no user, or credentials
are open after the user name and the password holds no at sign.
-/

namespace Tablesmith.Config.DatabaseSettings

open Tablesmith.Connection

def withPassword (s : DatabaseSettings) (password : String) :
    DatabaseSettings :=
  { s with password := some password }

/-- What stands in the address after the credentials. -/
def location (s : DatabaseSettings) : String :=
  s.host ++ s.portSuffix ++ "/" ++ s.name

/-- Masking hides a password: there is no user, or credentials are open after
the user name and the password holds no at sign. -/
def Hides (s : DatabaseSettings) (password : String) : Prop :=
  ∀ user, s.user = some user → user ≠ "" →
    credentialsOpen ("postgresql://".toList ++ user.toList) = true ∧
      '@' ∉ password.toList

/-- A user name without a colon opens credentials. -/
theorem credentialsOpen_of_plain_user
    {user : String} (named : user ≠ "") (plainUser : ':' ∉ user.toList) :
    credentialsOpen ("postgresql://".toList ++ user.toList) = true := by
  have characters :
      "postgresql://".toList ++ user.toList =
        'p' :: 'o' :: 's' :: 't' :: 'g' :: 'r' :: 'e' :: 's' :: 'q' :: 'l' ::
          ':' :: '/' :: '/' :: user.toList := rfl
  have opens : opensCredentials user.toList = true := by
    unfold opensCredentials
    rw [takeWhile_ne_of_not_mem plainUser, dropWhile_ne_of_not_mem plainUser]
    simpa using named
  have scheme (c : Char) (rest : List Char) (letter : c ≠ ':') :
      credentialsOpen (c :: rest) = credentialsOpen rest := by
    apply credentialsOpen_cons
    intro more equality
    cases equality
    exact letter rfl
  rw [characters]
  repeat rw [scheme _ _ (by decide)]
  rw [credentialsOpen_of_none (credentials?_of_no_colon plainUser), opens]
  rfl

section Address

variable {s : DatabaseSettings} {password : String}

/-- Without a user, the address does not show the password. -/
theorem address_withPassword_of_no_user
    (noUser : ∀ user, s.user = some user → user = "") :
    (s.withPassword password).address =
      "postgresql://" ++ s.location := by
  have noCredentials : (s.withPassword password).credentials = "" := by
    unfold credentials withPassword
    cases found : s.user with
    | none => rfl
    | some user =>
        rw [noUser user found]
        rfl
  unfold address location
  rw [noCredentials]
  simp [withPassword, portSuffix, String.append_assoc]

theorem toList_address_withPassword
    {user : String} (hasUser : s.user = some user) (named : user ≠ "")
    (filled : password ≠ "") :
    (s.withPassword password).address.toList =
      ("postgresql://".toList ++ user.toList) ++
        ':' :: password.toList ++ '@' :: s.location.toList := by
  have credentials :
      (s.withPassword password).credentials =
        user ++ ":" ++ password ++ "@" := by
    unfold credentials withPassword
    rw [hasUser]
    simp [named, filled]
  unfold address location
  rw [credentials]
  simp [withPassword, portSuffix]

end Address

/-- Masked addresses with hidden passwords are the same. -/
theorem masked_eq_of_hides
    {s : DatabaseSettings} {password other : String}
    (filled : password ≠ "") (otherFilled : other ≠ "")
    (hides : s.Hides password) (otherHides : s.Hides other) :
    maskPasswords (s.withPassword password).address =
      maskPasswords (s.withPassword other).address := by
  by_cases noUser : ∀ user, s.user = some user → user = ""
  · rw [address_withPassword_of_no_user noUser,
      address_withPassword_of_no_user noUser]
  · simp only [not_forall] at noUser
    obtain ⟨user, hasUser, named⟩ := noUser
    obtain ⟨isOpen, plain⟩ := hides user hasUser named
    obtain ⟨_, otherPlain⟩ := otherHides user hasUser named
    obtain ⟨shown, hidden⟩ := maskCharacters_of_open isOpen
    unfold maskPasswords
    rw [toList_address_withPassword hasUser named filled,
      toList_address_withPassword hasUser named otherFilled,
      hidden _ _ (by simpa using filled) plain,
      hidden _ _ (by simpa using otherFilled) otherPlain]

/-- A password is hidden if its masked address is that of each password
without at signs. -/
theorem hides_of_masked_eq
    {s : DatabaseSettings} {password : String} (filled : password ≠ "")
    (same :
      ∀ other, other ≠ "" → '@' ∉ other.toList →
        maskPasswords (s.withPassword password).address =
          maskPasswords (s.withPassword other).address) :
    s.Hides password := by
  intro user hasUser named
  have sameCharacters (other : String) (otherFilled : other ≠ "")
      (plain : '@' ∉ other.toList) :
      maskCharacters (("postgresql://".toList ++ user.toList) ++
          ':' :: password.toList ++ '@' :: s.location.toList) =
        maskCharacters (("postgresql://".toList ++ user.toList) ++
          ':' :: other.toList ++ '@' :: s.location.toList) := by
    have equality := congrArg String.toList (same other otherFilled plain)
    unfold maskPasswords at equality
    rwa [String.toList_ofList, String.toList_ofList,
      toList_address_withPassword hasUser named filled,
      toList_address_withPassword hasUser named otherFilled] at equality
  constructor
  · -- Two passwords that are left in the text would be told apart.
    by_contra notOpen
    rw [Bool.not_eq_true] at notOpen
    have shown (c : Char) :
        maskCharacters (("postgresql://".toList ++ user.toList) ++
            ':' :: [c] ++ '@' :: s.location.toList) =
          maskCharacters ("postgresql://".toList ++ user.toList) ++
            ':' :: c :: maskCharacters ('@' :: s.location.toList) := by
      rw [List.append_assoc, List.cons_append, List.singleton_append,
        maskCharacters_of_not_open notOpen, maskCharacters_cons,
        maskCharacters_cons]
      · intro more equality
        cases equality
      · intro more equality
        cases equality
    have first := sameCharacters "a" (by decide) (by decide)
    have second := sameCharacters "b" (by decide) (by decide)
    rw [first] at second
    have different := (shown 'a').symm.trans (second.trans (shown 'b'))
    simp at different
  · -- Masking keeps the number of at signs.
    intro sign
    have counts :=
      congrArg (List.count '@') (sameCharacters "a" (by decide) (by decide))
    rw [count_maskCharacters, count_maskCharacters] at counts
    have positive : 0 < password.toList.count '@' :=
      List.count_pos_iff.mpr sign
    simp [List.count_append] at counts
    omega

end Tablesmith.Config.DatabaseSettings

namespace Tablesmith.Connection

open Tablesmith.Config

/-! ## The text of a failed execution -/

theorem address_ne_empty (s : DatabaseSettings) : s.address ≠ "" := by
  intro empty
  have characters := congrArg String.toList empty
  unfold DatabaseSettings.address at characters
  simp at characters

/-- A report shows the address masked. -/
theorem failedExecution_address (message : String) (s : DatabaseSettings) :
    Report.failedExecution message s.address =
      .of .execution message
        [("database_url", .text (maskPasswords s.address))] [] := by
  unfold Report.failedExecution
  rw [if_neg]
  simpa using address_ne_empty s

namespace Executor

def withPassword (executor : Executor) (password : String) : Executor :=
  { executor with settings := executor.settings.withPassword password }

/-- The text of the failure that an execution ends with, if it fails. -/
def failureText
    (executor : Executor) (behaviour : Behaviour) (sql : String) :
    Option String :=
  match (executor.execute behaviour sql).result with
  | .ok () => none
  | .error failure => some failure.message

/-- Executions whose settings are shown in the same way end in the same
result. -/
theorem result_execute_congr
    {first second : Executor}
    (sameMask :
      maskPasswords first.settings.address =
        maskPasswords second.settings.address)
    (behaviour : Behaviour) (sql : String) :
    (first.execute behaviour sql).result =
      (second.execute behaviour sql).result := by
  have sameConnect (fault : DriverFault) :
      connectReport first.settings fault =
        connectReport second.settings fault := by
    unfold connectReport
    rw [failedExecution_address, failedExecution_address, sameMask]
  have sameExecute (fault : DriverFault) :
      executeReport first.settings fault =
        executeReport second.settings fault := by
    unfold executeReport
    rw [failedExecution_address, failedExecution_address, sameMask]
  have sameCall :
      (Run.call behaviour
          (.openPool first.least first.most first.settings.arguments)).result =
        (Run.call behaviour
          (.openPool second.least second.most
            second.settings.arguments)).result := by
    rw [Run.result_call, Run.result_call]
    rfl
  unfold execute
  simp only [Run.result_andThen, Run.result_always]
  rw [Run.result_reporting_congr rfl sameExecute,
    Run.result_reporting_congr sameCall sameConnect]

/-- The fault of a refused connection. -/
def refusal : DriverFault :=
  ⟨"OperationalError", "refused", true⟩

/-- A driver that refuses every connection. -/
def refusing : Behaviour := fun operation =>
  if operation = .openPool then some refusal else none

theorem failureText_refusing (executor : Executor) (sql : String) :
    executor.failureText refusing sql =
      some (connectReport executor.settings refusal).text := by
  rfl

/-- Texts of lines that differ in one line at most are the same only if that
line is. -/
theorem line_eq_of_intercalate_eq
    {separator line other : String} {first last : List String}
    (sameText :
      separator.intercalate (first ++ line :: last) =
        separator.intercalate (first ++ other :: last)) :
    line = other := by
  induction first with
  | nil =>
      cases last with
      | nil =>
          rwa [List.nil_append, List.nil_append,
            String.intercalate_singleton, String.intercalate_singleton]
            at sameText
      | cons next rest =>
          rw [List.nil_append, List.nil_append,
            String.intercalate_cons_cons, String.intercalate_cons_cons,
            String.append_assoc, String.append_assoc] at sameText
          exact String.append_left_inj _ |>.mp sameText
  | cons head tail inductionHypothesis =>
      rw [List.cons_append, List.cons_append,
        String.intercalate_cons_of_ne_nil (by simp),
        String.intercalate_cons_of_ne_nil (by simp)] at sameText
      exact inductionHypothesis (String.append_right_inj _ |>.mp sameText)

theorem lines_failedExecution (message : String) (s : DatabaseSettings) :
    (Report.failedExecution message s.address).lines =
      [message, "Error Code: EXECUTION_ERROR", "Context:"] ++
        ("  database_url: " ++ maskPasswords s.address) ::
        ["Suggestions:", "  • Check database server is running",
          "  • Verify connection credentials",
          "  • Inspect the generated script with --print"] := by
  rw [failedExecution_address]
  simp [Report.lines, Report.of, Category.code, Category.suggestions,
    Value.truthy, Value.display]

/-- Reports on a refused connection with the same text show the same masked
address. -/
theorem masked_eq_of_text_eq
    (s other : DatabaseSettings) (fault : DriverFault)
    (sameText :
      (connectReport s fault).text = (connectReport other fault).text) :
    maskPasswords s.address = maskPasswords other.address := by
  unfold Report.text connectReport at sameText
  rw [lines_failedExecution, lines_failedExecution] at sameText
  exact String.append_right_inj _ |>.mp (line_eq_of_intercalate_eq sameText)

/-- The text of a failed execution is the same for all passwords that are
hidden; and a password is hidden if its text is that of every password without
at signs. -/
theorem failureText_independent_iff
    (executor : Executor) (password : String) (filled : password ≠ "") :
    (executor.settings.Hides password →
      ∀ other, other ≠ "" → executor.settings.Hides other →
        ∀ behaviour sql,
          (executor.withPassword password).failureText behaviour sql =
            (executor.withPassword other).failureText behaviour sql) ∧
    (executor.settings.Hides password ↔
      ∀ other, other ≠ "" → '@' ∉ other.toList →
        ∀ behaviour sql,
          (executor.withPassword password).failureText behaviour sql =
            (executor.withPassword other).failureText behaviour sql) := by
  have sameText (other : String) (otherFilled : other ≠ "")
      (hides : executor.settings.Hides password)
      (otherHides : executor.settings.Hides other)
      (behaviour : Behaviour) (sql : String) :
      (executor.withPassword password).failureText behaviour sql =
        (executor.withPassword other).failureText behaviour sql := by
    have sameMask :
        maskPasswords (executor.withPassword password).settings.address =
          maskPasswords (executor.withPassword other).settings.address :=
      DatabaseSettings.masked_eq_of_hides filled otherFilled hides otherHides
    unfold failureText
    rw [result_execute_congr sameMask]
  refine ⟨fun hides other otherFilled otherHides =>
    sameText other otherFilled hides otherHides, ?_, ?_⟩
  · intro hides other otherFilled plain
    apply sameText other otherFilled hides
    intro user hasUser named
    exact ⟨(hides user hasUser named).1, plain⟩
  · intro independent
    apply DatabaseSettings.hides_of_masked_eq filled
    intro other otherFilled plain
    have refused := independent other otherFilled plain refusing ""
    rw [failureText_refusing, failureText_refusing, Option.some_inj] at refused
    exact masked_eq_of_text_eq _ _ _ refused

def administratorValue (password : String) : Value :=
  .dict [
    (.text "name", .text "app"),
    (.text "user", .text "admin"),
    (.text "password", .text password)]

/-- The settings of an administrator, and an executor for them. -/
def administrator (password : String) : Executor :=
  .single {
    name := "app"
    user := some "admin"
    password := some password
    host := "localhost"
    port := some 5432
    connectTimeout := 10 }

/-- Passwords without at signs are hidden under a plain user name. -/
theorem administrator_failureText_independent :
    "hunter:2" ≠ "" ∧
      ∀ behaviour sql,
        (administrator "hunter:2").failureText behaviour sql =
          (administrator "other/word").failureText behaviour sql := by
  have hides : (administrator "").settings.Hides "hunter:2" := by
    intro user hasUser named
    cases hasUser
    exact ⟨DatabaseSettings.credentialsOpen_of_plain_user (by decide)
      (by decide), by decide⟩
  refine ⟨by decide, ?_⟩
  exact (failureText_independent_iff (administrator "") "hunter:2"
    (by decide)).2.mp hides "other/word" (by decide) (by decide)

/-- The rest of a password after an at sign can be read off the failure. -/
theorem administrator_failureText_exposes_password :
    checkSettings (administratorValue "p@ss") =
        .ok (administrator "p@ss").settings ∧
      checkSettings (administratorValue "pass") =
        .ok (administrator "pass").settings ∧
      (administrator "p@ss").settings =
        (administrator "pass").settings.withPassword "p@ss" ∧
      (administrator "p@ss").failureText refusing "" ≠
        (administrator "pass").failureText refusing "" := by
  decide +kernel

end Executor

end Tablesmith.Connection
