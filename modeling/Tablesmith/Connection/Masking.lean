/-!
# Masking passwords

A database address may carry credentials: `://`, a user name without a colon,
a colon, a password without an at sign, and an at sign.  Masking replaces each
password by three stars and leaves everything else as it is.
-/

namespace Tablesmith.Connection

/-- If a text after `://` begins with credentials, the user name and the text
after the at sign. -/
def credentials? (cs : List Char) : Option (List Char × List Char) :=
  let user := cs.takeWhile (· ≠ ':')
  match cs.dropWhile (· ≠ ':') with
  | [] => none
  | _ :: secret =>
    let password := secret.takeWhile (· ≠ '@')
    match secret.dropWhile (· ≠ '@') with
    | [] => none
    | _ :: rest =>
      if user.isEmpty || password.isEmpty then none else some (user, rest)

/-- What follows a test-free part of a list is no longer than the list. -/
private theorem length_dropWhile_le (p : Char → Bool) (cs : List Char) :
    (cs.dropWhile p).length ≤ cs.length :=
  (List.dropWhile_sublist p).length_le

/-- The text after credentials is shorter than the text before. -/
theorem length_of_credentials
    {cs user rest : List Char}
    (found : credentials? cs = some (user, rest)) :
    rest.length < cs.length := by
  unfold credentials? at found
  simp only at found
  split at found
  · exact absurd found (by simp)
  · rename_i first secret afterUser
    split at found
    · exact absurd found (by simp)
    · rename_i sign tail afterPassword
      split at found
      · exact absurd found (by simp)
      · simp only [Option.some.injEq, Prod.mk.injEq] at found
        have outer := length_dropWhile_le (· ≠ ':') cs
        have inner := length_dropWhile_le (· ≠ '@') secret
        rw [afterUser] at outer
        rw [afterPassword] at inner
        simp only [List.length_cons] at outer inner
        rw [← found.2]
        omega

/-- Mask the credentials in a list of characters, from left to right. -/
def maskCharacters : List Char → List Char
  | [] => []
  | ':' :: '/' :: '/' :: rest =>
    match _found : credentials? rest with
    | some (user, tail) =>
      ':' :: '/' :: '/' :: user ++ [':', '*', '*', '*', '@'] ++
        maskCharacters tail
    | none => ':' :: maskCharacters ('/' :: '/' :: rest)
  | c :: rest => c :: maskCharacters rest
termination_by cs => cs.length
decreasing_by
  · have shorter := length_of_credentials _found
    simp only [List.length_cons]
    omega
  · simp only [List.length_cons]
    omega
  · simp only [List.length_cons]
    omega

def maskPasswords (address : String) : String :=
  String.ofList (maskCharacters address.toList)

end Tablesmith.Connection
