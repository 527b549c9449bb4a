/-!
# Sound computations

A computation that works on a state and may fail is sound if it keeps a
property of the state, gives what is expected of it, and fails only as
allowed.  Soundness goes from the parts of a computation to the whole, so each
function that is built from sound ones is followed only once.
-/

namespace Tablesmith

variable {σ ε α β γ : Type}

/-- A computation fails only as allowed. -/
def FailsAs (allowed : ε → Prop) (x : Except ε α) : Prop :=
  ∀ fault, x = .error fault → allowed fault

/-- A computation gives what is expected, or it fails as allowed. -/
def EndsAs (allowed : ε → Prop) (expected : α → Prop) : Except ε α → Prop
  | .ok a => expected a
  | .error fault => allowed fault

/-- From a state with the property that is kept, a computation reaches such a
state and gives what is expected, or it fails as allowed. -/
def Sound
    (kept : σ → Prop)
    (allowed : ε → Prop)
    (expected : α → Prop)
    (x : StateT σ (Except ε) α) :
    Prop :=
  ∀ s, kept s →
    match x.run s with
    | .ok (a, after) => kept after ∧ expected a
    | .error fault => allowed fault

/-! ## Results -/

namespace FailsAs

variable {allowed : ε → Prop}

theorem ok (a : α) : FailsAs allowed (.ok a : Except ε α) := by
  intro fault failed
  cases failed

theorem error {fault : ε} (isAllowed : allowed fault) :
    FailsAs allowed (.error fault : Except ε α) := by
  intro other failed
  cases failed
  exact isAllowed

theorem bind {x : Except ε α} {f : α → Except ε β}
    (first : FailsAs allowed x) (next : ∀ a, FailsAs allowed (f a)) :
    FailsAs allowed (x >>= f) := by
  cases x with
  | error fault =>
      intro other failed
      cases failed
      exact first fault rfl
  | ok a => exact next a

theorem map {x : Except ε α} (f : α → β) (first : FailsAs allowed x) :
    FailsAs allowed (x.map f) := by
  cases x with
  | error fault => exact error (first fault rfl)
  | ok a => exact ok (f a)

theorem mapM {f : α → Except ε β} (each : ∀ a, FailsAs allowed (f a)) :
    ∀ xs : List α, FailsAs allowed (xs.mapM f)
  | [] => by
      rw [List.mapM_nil]
      exact ok []
  | a :: rest => by
      rw [List.mapM_cons]
      exact (each a).bind fun b => (mapM each rest).bind fun _ => ok _

theorem ite {condition : Prop} [Decidable condition] {x y : Except ε α}
    (first : FailsAs allowed x) (second : FailsAs allowed y) :
    FailsAs allowed (if condition then x else y) := by
  split
  · exact first
  · exact second

/-- A fault that is shown as another one fails as that one is allowed. -/
theorem mapError {shown : γ → ε} (isAllowed : ∀ fault, allowed (shown fault))
    (x : Except γ α) :
    FailsAs allowed (x.mapError shown) := by
  cases x with
  | error fault => exact error (isAllowed fault)
  | ok a => exact ok a

theorem weaken {x : Except ε α} {more : ε → Prop}
    (fails : FailsAs allowed x) (implied : ∀ fault, allowed fault → more fault) :
    FailsAs more x :=
  fun fault failed => implied fault (fails fault failed)

end FailsAs

namespace EndsAs

variable {allowed : ε → Prop} {expected : α → Prop} {wanted : β → Prop}

theorem bind {x : Except ε α} {f : α → Except ε β}
    (first : EndsAs allowed expected x)
    (next : ∀ a, expected a → EndsAs allowed wanted (f a)) :
    EndsAs allowed wanted (x >>= f) := by
  cases x with
  | error fault => exact first
  | ok a => exact next a first

theorem ite {condition : Prop} [Decidable condition] {x y : Except ε α}
    (first : EndsAs allowed expected x) (second : EndsAs allowed expected y) :
    EndsAs allowed expected (if condition then x else y) := by
  split
  · exact first
  · exact second

/-- A result that fails as allowed may give anything. -/
theorem ofFailsAs {x : Except ε α} (fails : FailsAs allowed x) :
    EndsAs allowed (fun _ => True) x := by
  cases x with
  | error fault => exact fails fault rfl
  | ok a => trivial

end EndsAs

/-! ## Computations -/

namespace Sound

variable {kept : σ → Prop} {allowed : ε → Prop}
variable {expected : α → Prop} {wanted : β → Prop}

theorem pure {a : α} (isExpected : expected a) :
    Sound kept allowed expected (Pure.pure a) :=
  fun _ holds => ⟨holds, isExpected⟩

theorem throw {fault : ε} (isAllowed : allowed fault) :
    Sound kept allowed expected (MonadExcept.throw fault) :=
  fun _ _ => isAllowed

/-- A result that fails as allowed is sound as a computation. -/
theorem lift {x : Except ε α} (fails : FailsAs allowed x) :
    Sound kept allowed (fun _ => True)
      (liftM x : StateT σ (Except ε) α) := by
  cases x with
  | error fault => exact fun _ _ => fails fault rfl
  | ok a => exact fun _ holds => ⟨holds, trivial⟩

theorem get :
    Sound kept allowed kept (MonadState.get : StateT σ (Except ε) σ) :=
  fun _ holds => ⟨holds, holds⟩

theorem set {s : σ} (keeps : kept s) :
    Sound kept allowed (fun _ => True)
      (MonadStateOf.set s : StateT σ (Except ε) PUnit) :=
  fun _ _ => ⟨keeps, trivial⟩

theorem modifyGet {f : σ → α × σ}
    (keeps : ∀ s, kept s → kept (f s).2 ∧ expected (f s).1) :
    Sound kept allowed expected
      (MonadStateOf.modifyGet f : StateT σ (Except ε) α) :=
  fun s holds => keeps s holds

theorem modify {f : σ → σ} (keeps : ∀ s, kept s → kept (f s)) :
    Sound kept allowed (fun _ => True)
      (modify f : StateT σ (Except ε) PUnit) :=
  modifyGet fun s holds => ⟨keeps s holds, trivial⟩

/-- What a sound computation comes to from a state with the property that is
kept. -/
theorem run {x : StateT σ (Except ε) α} (sound : Sound kept allowed expected x)
    {s : σ} (holds : kept s) :
    EndsAs allowed (fun done => kept done.2 ∧ expected done.1) (x.run s) := by
  have reached := sound s holds
  cases result : x.run s with
  | error fault =>
      rw [result] at reached
      exact reached
  | ok done =>
      rw [result] at reached
      exact reached

theorem bind {x : StateT σ (Except ε) α} {f : α → StateT σ (Except ε) β}
    (first : Sound kept allowed expected x)
    (next : ∀ a, expected a → Sound kept allowed wanted (f a)) :
    Sound kept allowed wanted (x >>= f) := by
  intro s holds
  have reached := first s holds
  rw [StateT.run_bind]
  cases result : x.run s with
  | error fault =>
      rw [result] at reached
      exact reached
  | ok done =>
      rw [result] at reached
      exact next done.1 reached.2 done.2 reached.1

theorem weaken {x : StateT σ (Except ε) α} {less : α → Prop}
    (sound : Sound kept allowed expected x)
    (implied : ∀ a, expected a → less a) :
    Sound kept allowed less x := by
  intro s holds
  have reached := sound s holds
  cases result : x.run s with
  | error fault =>
      rw [result] at reached
      exact reached
  | ok done =>
      rw [result] at reached
      exact ⟨reached.1, implied _ reached.2⟩

/-- A computation that is sound for each element is sound for a list; what it
gives is expected one by one. -/
theorem mapM {f : α → StateT σ (Except ε) β}
    (each : ∀ a, Sound kept allowed wanted (f a)) :
    ∀ xs : List α,
      Sound kept allowed (fun bs => ∀ b ∈ bs, wanted b) (xs.mapM f)
  | [] => by
      rw [List.mapM_nil]
      exact pure fun _ member => absurd member List.not_mem_nil
  | a :: rest => by
      rw [List.mapM_cons]
      refine (each a).bind fun b isWanted => ?_
      refine (mapM each rest).bind fun bs othersWanted => ?_
      exact pure (List.forall_mem_cons.mpr ⟨isWanted, othersWanted⟩)

end Sound

end Tablesmith
