import Mathlib.Data.List.TakeWhile
import Tablesmith.Connection.Masking

/-!
# What masking hides

Masking finds credentials again in an address that has been put together.
Whether it finds a password depends on what stands before the colon of that
password: either credentials are open there, and the next at sign closes them,
or the password is left in the text.
-/

namespace Tablesmith.Connection

/-! ## Credentials -/

section Marks

variable {mark : Char} {before : List Char}

theorem forall_ne_of_not_mem (absent : mark ∉ before) :
    ∀ c ∈ before, decide (c ≠ mark) = true := by
  intro c member
  rw [decide_eq_true_eq]
  rintro rfl
  exact absent member

theorem takeWhile_ne_of_not_mem (absent : mark ∉ before) :
    before.takeWhile (· ≠ mark) = before :=
  List.takeWhile_eq_self_iff.mpr (forall_ne_of_not_mem absent)

theorem dropWhile_ne_of_not_mem (absent : mark ∉ before) :
    before.dropWhile (· ≠ mark) = [] :=
  List.dropWhile_eq_nil_iff.mpr (forall_ne_of_not_mem absent)

theorem takeWhile_ne_append (after : List Char) (absent : mark ∉ before) :
    (before ++ mark :: after).takeWhile (· ≠ mark) = before := by
  rw [List.takeWhile_append_of_pos (forall_ne_of_not_mem absent)]
  simp

theorem dropWhile_ne_append (after : List Char) (absent : mark ∉ before) :
    (before ++ mark :: after).dropWhile (· ≠ mark) = mark :: after := by
  rw [List.dropWhile_append_of_pos (forall_ne_of_not_mem absent)]
  simp

end Marks

/-- A text without a mark, or the parts before and after the first one. -/
theorem not_mem_or_eq_append (mark : Char) (cs : List Char) :
    mark ∉ cs ∨
      ∃ before after, cs = before ++ mark :: after ∧ mark ∉ before := by
  by_cases member : mark ∈ cs
  · exact Or.inr (List.eq_append_cons_of_mem member)
  · exact Or.inl member

theorem credentials?_of_no_colon
    {cs : List Char} (noColon : ':' ∉ cs) :
    credentials? cs = none := by
  unfold credentials?
  simp only [dropWhile_ne_of_not_mem noColon]

theorem credentials?_of_no_sign
    {user secret : List Char} (plainUser : ':' ∉ user)
    (noSign : '@' ∉ secret) :
    credentials? (user ++ ':' :: secret) = none := by
  unfold credentials?
  simp only [dropWhile_ne_append secret plainUser,
    dropWhile_ne_of_not_mem noSign]

/-- Credentials are there exactly if neither the user name nor the password is
empty. -/
theorem credentials?_append
    {user password : List Char} (tail : List Char)
    (plainUser : ':' ∉ user) (plainPassword : '@' ∉ password) :
    credentials? (user ++ ':' :: password ++ '@' :: tail) =
      if user = [] ∨ password = [] then none else some (user, tail) := by
  rw [List.append_assoc, List.cons_append]
  unfold credentials?
  simp only [dropWhile_ne_append _ plainUser, takeWhile_ne_append _ plainUser,
    dropWhile_ne_append _ plainPassword, takeWhile_ne_append _ plainPassword,
    Bool.or_eq_true, List.isEmpty_iff]

theorem eq_of_credentials?
    {cs user tail : List Char} (found : credentials? cs = some (user, tail)) :
    ∃ password,
      cs = user ++ ':' :: password ++ '@' :: tail ∧
        user ≠ [] ∧ ':' ∉ user ∧ password ≠ [] ∧ '@' ∉ password := by
  rcases not_mem_or_eq_append ':' cs with
    noColon | ⟨name, secret, rfl, plainUser⟩
  · rw [credentials?_of_no_colon noColon] at found
    cases found
  · rcases not_mem_or_eq_append '@' secret with
      noSign | ⟨password, rest, rfl, plainPassword⟩
    · rw [credentials?_of_no_sign plainUser noSign] at found
      cases found
    · have whole :=
        credentials?_append rest plainUser plainPassword
      rw [List.append_assoc, List.cons_append] at whole
      rw [whole] at found
      split at found
      · cases found
      next filled =>
        cases found
        rw [not_or] at filled
        exact ⟨password, by simp, filled.1, plainUser, filled.2,
          plainPassword⟩

/-! ## The equations of masking -/

theorem maskCharacters_of_credentials
    {rest user tail : List Char}
    (found : credentials? rest = some (user, tail)) :
    maskCharacters (':' :: '/' :: '/' :: rest) =
      ':' :: '/' :: '/' :: user ++ [':', '*', '*', '*', '@'] ++
        maskCharacters tail := by
  rw [maskCharacters]
  split
  next other end_ isSome =>
    rw [found] at isSome
    cases isSome
    rfl
  next isNone =>
    rw [found] at isNone
    cases isNone

theorem maskCharacters_of_none
    {rest : List Char} (absent : credentials? rest = none) :
    maskCharacters (':' :: '/' :: '/' :: rest) =
      ':' :: maskCharacters ('/' :: '/' :: rest) := by
  rw [maskCharacters]
  split
  next user tail isSome =>
    rw [absent] at isSome
    cases isSome
  next => rfl

/-- A text that does not begin with `://` keeps its first character. -/
theorem maskCharacters_cons
    {c : Char} {rest : List Char}
    (plain : ∀ more, c :: rest ≠ ':' :: '/' :: '/' :: more) :
    maskCharacters (c :: rest) = c :: maskCharacters rest := by
  rw [maskCharacters]
  intro more isColon isRest
  exact plain more (by rw [isColon, isRest])

/-- The case that is left when a text neither is empty nor begins with `://`. -/
theorem plain_of_cases
    {c : Char} {rest : List Char}
    (plain : ∀ more, c = ':' → rest = '/' :: '/' :: more → False) :
    ∀ more, c :: rest ≠ ':' :: '/' :: '/' :: more := by
  intro more equality
  injection equality with isColon isRest
  exact plain more isColon isRest

theorem count_maskCharacters (cs : List Char) :
    (maskCharacters cs).count '@' = cs.count '@' := by
  induction cs using maskCharacters.induct with
  | case1 => rw [maskCharacters]
  | case2 rest user tail found inductionHypothesis =>
      obtain ⟨password, rfl, _, _, _, plainPassword⟩ := eq_of_credentials? found
      have noSign : password.count '@' = 0 :=
        List.count_eq_zero.mpr plainPassword
      rw [maskCharacters_of_credentials found]
      simp [List.count_append, inductionHypothesis, noSign]
  | case3 rest absent inductionHypothesis =>
      rw [maskCharacters_of_none absent]
      simp [inductionHypothesis]
  | case4 c rest plain inductionHypothesis =>
      rw [maskCharacters_cons (plain_of_cases plain), List.count_cons,
        List.count_cons, inductionHypothesis]

/-! ## Open credentials -/

/-- Whether a text after `://` and one more colon begin credentials that the
next at sign closes: there is a user name, and no at sign after its colon. -/
def opensCredentials (cs : List Char) : Bool :=
  !(cs.takeWhile (· ≠ ':')).isEmpty && !(cs.dropWhile (· ≠ ':')).contains '@'

/-- Whether credentials are open at the colon that follows a text, when it is
masked from left to right. -/
def credentialsOpen : List Char → Bool
  | [] => false
  | ':' :: '/' :: '/' :: rest =>
    match _found : credentials? rest with
    | some (_, tail) => credentialsOpen tail
    | none => opensCredentials rest || credentialsOpen ('/' :: '/' :: rest)
  | _ :: rest => credentialsOpen rest
termination_by cs => cs.length
decreasing_by
  · have shorter := length_of_credentials _found
    simp only [List.length_cons]
    omega
  · simp only [List.length_cons]
    omega
  · simp only [List.length_cons]
    omega

theorem credentialsOpen_of_credentials
    {rest user tail : List Char}
    (found : credentials? rest = some (user, tail)) :
    credentialsOpen (':' :: '/' :: '/' :: rest) = credentialsOpen tail := by
  rw [credentialsOpen]
  split
  next isSome =>
    rw [found] at isSome
    cases isSome
    rfl
  next isNone =>
    rw [found] at isNone
    cases isNone

theorem credentialsOpen_of_none
    {rest : List Char} (absent : credentials? rest = none) :
    credentialsOpen (':' :: '/' :: '/' :: rest) =
      (opensCredentials rest || credentialsOpen ('/' :: '/' :: rest)) := by
  rw [credentialsOpen]
  split
  next isSome =>
    rw [absent] at isSome
    cases isSome
  next => rfl

theorem credentialsOpen_cons
    {c : Char} {rest : List Char}
    (plain : ∀ more, c :: rest ≠ ':' :: '/' :: '/' :: more) :
    credentialsOpen (c :: rest) = credentialsOpen rest := by
  rw [credentialsOpen]
  intro more isColon isRest
  exact plain more (by rw [isColon, isRest])

/-- Credentials that are open hide a password up to its first at sign. -/
theorem credentials?_of_opens
    {rest : List Char} (opens : opensCredentials rest = true) :
    ∃ user, ∀ password tail, password ≠ [] → '@' ∉ password →
      credentials? (rest ++ ':' :: password ++ '@' :: tail) =
        some (user, tail) := by
  unfold opensCredentials at opens
  rw [Bool.and_eq_true, Bool.not_eq_true', Bool.not_eq_true',
    List.isEmpty_eq_false_iff, ← Bool.not_eq_true, List.contains_iff_mem]
    at opens
  rcases not_mem_or_eq_append ':' rest with
    noColon | ⟨user, secret, rfl, plainUser⟩
  · refine ⟨rest, fun password tail filled plainPassword => ?_⟩
    have named : rest ≠ [] := by
      rintro rfl
      exact opens.1 rfl
    rw [credentials?_append tail noColon plainPassword]
    exact if_neg (not_or.mpr ⟨named, filled⟩)
  · rw [takeWhile_ne_append secret plainUser,
      dropWhile_ne_append secret plainUser, List.mem_cons, not_or] at opens
    refine ⟨user, fun password tail filled plainPassword => ?_⟩
    have plainWhole : '@' ∉ secret ++ ':' :: password := by
      rw [List.mem_append, List.mem_cons, not_or, not_or]
      exact ⟨opens.2.2, by decide, plainPassword⟩
    have whole := credentials?_append tail plainUser plainWhole
    rw [if_neg (not_or.mpr ⟨opens.1, by simp⟩)] at whole
    rw [← whole]
    simp

/-- Credentials stay where they are when something follows. -/
theorem credentials?_append_of_some
    {rest user tail : List Char}
    (found : credentials? rest = some (user, tail)) (more : List Char) :
    credentials? (rest ++ more) = some (user, tail ++ more) := by
  obtain ⟨password, rfl, named, plainUser, filled, plainPassword⟩ :=
    eq_of_credentials? found
  have whole := credentials?_append (tail ++ more) plainUser plainPassword
  rw [if_neg (not_or.mpr ⟨named, filled⟩)] at whole
  rw [← whole]
  simp

theorem credentials?_of_no_user (secret : List Char) :
    credentials? (':' :: secret) = none := by
  rcases not_mem_or_eq_append '@' secret with
    noSign | ⟨password, tail, rfl, plainPassword⟩
  · exact credentials?_of_no_sign List.not_mem_nil noSign
  · have whole :=
      credentials?_append tail (List.not_mem_nil (a := ':')) plainPassword
    rwa [if_pos (Or.inl rfl)] at whole

/-- Where no credentials are and none are open, none come with what follows
the next colon. -/
theorem credentials?_append_of_none
    {rest : List Char} (absent : credentials? rest = none)
    (closed : opensCredentials rest = false) (more : List Char) :
    credentials? (rest ++ ':' :: more) = none := by
  rcases not_mem_or_eq_append ':' rest with
    noColon | ⟨user, secret, rfl, plainUser⟩
  · unfold opensCredentials at closed
    rw [takeWhile_ne_of_not_mem noColon, dropWhile_ne_of_not_mem noColon]
      at closed
    have noUser : rest = [] := by simpa using closed
    rw [noUser]
    exact credentials?_of_no_user more
  · by_cases noUser : user = []
    · rw [noUser]
      exact credentials?_of_no_user _
    · have sign : '@' ∈ secret := by
        unfold opensCredentials at closed
        rw [takeWhile_ne_append secret plainUser,
          dropWhile_ne_append secret plainUser] at closed
        simpa [noUser] using closed
      obtain ⟨password, tail, rfl, plainPassword⟩ :=
        List.eq_append_cons_of_mem sign
      have inside := credentials?_append tail plainUser plainPassword
      have whole :=
        credentials?_append (tail ++ ':' :: more) plainUser plainPassword
      rw [List.append_assoc, List.cons_append] at inside whole
      rw [absent] at inside
      have incomplete : user = [] ∨ password = [] := by
        by_contra complete
        rw [if_neg complete] at inside
        cases inside
      rw [if_pos incomplete] at whole
      rw [← whole]
      simp

/-- Before a colon, a text that does not begin with `://` still does not. -/
theorem plain_append
    {c : Char} {rest : List Char}
    (plain : ∀ more, c :: rest ≠ ':' :: '/' :: '/' :: more)
    (following : List Char) :
    ∀ more, c :: (rest ++ ':' :: following) ≠ ':' :: '/' :: '/' :: more := by
  intro more equality
  injection equality with isColon isRest
  cases rest with
  | nil =>
      injection isRest with isSlash _
      cases isSlash
  | cons first others =>
      injection isRest with firstSlash isOthers
      cases others with
      | nil =>
          injection isOthers with isSlash _
          cases isSlash
      | cons second last =>
          injection isOthers with secondSlash _
          exact plain last (by rw [isColon, firstSlash, secondSlash])

/-- Where credentials are open, what is shown of a password without at signs
does not depend on it. -/
theorem maskCharacters_of_open
    {cs : List Char} (isOpen : credentialsOpen cs = true) :
    ∃ shown, ∀ password tail, password ≠ [] → '@' ∉ password →
      maskCharacters (cs ++ ':' :: password ++ '@' :: tail) =
        shown ++ maskCharacters tail := by
  induction cs using credentialsOpen.induct with
  | case1 =>
      rw [credentialsOpen] at isOpen
      cases isOpen
  | case2 rest user inner found inductionHypothesis =>
      rw [credentialsOpen_of_credentials found] at isOpen
      obtain ⟨shown, hidden⟩ := inductionHypothesis isOpen
      refine ⟨':' :: '/' :: '/' :: user ++ [':', '*', '*', '*', '@'] ++ shown,
        fun password tail nonempty plainPassword => ?_⟩
      have whole := credentials?_append_of_some found
        (':' :: password ++ '@' :: tail)
      have later := hidden password tail nonempty plainPassword
      simp only [List.cons_append, List.append_assoc] at whole later ⊢
      rw [maskCharacters_of_credentials whole, later]
      simp
  | case3 rest absent inductionHypothesis =>
      rw [credentialsOpen_of_none absent] at isOpen
      cases opens : opensCredentials rest with
      | true =>
          -- The credentials that begin here end with the password.
          obtain ⟨user, whole⟩ := credentials?_of_opens opens
          refine ⟨':' :: '/' :: '/' :: user ++ [':', '*', '*', '*', '@'],
            fun password tail nonempty plainPassword => ?_⟩
          have found := whole password tail nonempty plainPassword
          simp only [List.cons_append, List.append_assoc] at found ⊢
          rw [maskCharacters_of_credentials found]
          simp
      | false =>
          -- Even with the password no credentials begin here, so they are
          -- open further on.
          rw [opens, Bool.false_or] at isOpen
          obtain ⟨shown, hidden⟩ := inductionHypothesis isOpen
          refine ⟨':' :: shown, fun password tail nonempty plainPassword => ?_⟩
          have none := credentials?_append_of_none absent opens
            (password ++ '@' :: tail)
          have later := hidden password tail nonempty plainPassword
          simp only [List.cons_append, List.append_assoc] at none later ⊢
          rw [maskCharacters_of_none none, later]
  | case4 c rest plain inductionHypothesis =>
      have notBegin := plain_of_cases plain
      rw [credentialsOpen_cons notBegin] at isOpen
      obtain ⟨shown, hidden⟩ := inductionHypothesis isOpen
      refine ⟨c :: shown, fun password tail nonempty plainPassword => ?_⟩
      have later := hidden password tail nonempty plainPassword
      have stillPlain := plain_append notBegin (password ++ '@' :: tail)
      simp only [List.cons_append, List.append_assoc] at later ⊢
      rw [maskCharacters_cons stillPlain, later]

/-- Where no credentials are open, the text after the colon is masked by
itself. -/
theorem maskCharacters_of_not_open
    {cs : List Char} (notOpen : credentialsOpen cs = false)
    (following : List Char) :
    maskCharacters (cs ++ ':' :: following) =
      maskCharacters cs ++ maskCharacters (':' :: following) := by
  induction cs using credentialsOpen.induct with
  | case1 =>
      rw [maskCharacters]
      rfl
  | case2 rest user inner found inductionHypothesis =>
      rw [credentialsOpen_of_credentials found] at notOpen
      have whole := credentials?_append_of_some found (':' :: following)
      simp only [List.cons_append] at whole ⊢
      rw [maskCharacters_of_credentials whole,
        maskCharacters_of_credentials found, inductionHypothesis notOpen]
      simp
  | case3 rest absent inductionHypothesis =>
      rw [credentialsOpen_of_none absent, Bool.or_eq_false_iff] at notOpen
      have none := credentials?_append_of_none absent notOpen.1 following
      have later := inductionHypothesis notOpen.2
      simp only [List.cons_append] at later ⊢
      rw [maskCharacters_of_none none, maskCharacters_of_none absent, later]
      rfl
  | case4 c rest plain inductionHypothesis =>
      have notBegin := plain_of_cases plain
      rw [credentialsOpen_cons notBegin] at notOpen
      rw [List.cons_append,
        maskCharacters_cons (plain_append notBegin following),
        maskCharacters_cons notBegin, inductionHypothesis notOpen]
      rfl

end Tablesmith.Connection
