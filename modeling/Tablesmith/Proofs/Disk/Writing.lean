import Tablesmith.Disk.Basic

/-!
# Writing files

A file that was written can be read back, and every other file stays as it is.
Both rest on one fact about walks: a walk depends on the directories that it
passes and on the node that it ends at, and writing takes no directory away.
-/

namespace Tablesmith.Disk

/-! ## Nodes -/

/-- A node that is put somewhere is found there, and nothing else changes. -/
theorem node?_put (d : Disk) (place : Path) (node : Node) (p : Path) :
    (d.put place node).node? p =
      if p = place then some node else d.node? p := by
  have replaced (entries : List (Path × Node)) :
      (entries.map fun e => if e.1 = place then (place, node) else e).find?
          (fun e => e.1 = p) =
        (entries.find? fun e => e.1 = p).map
          fun e => if e.1 = place then (place, node) else e := by
    rw [List.find?_map]
    congr 2
    funext e
    by_cases same : e.1 = place
    · simp [same]
    · simp [same]
  by_cases present : d.entries.any (fun e => e.1 = place) = true
  · have whole :
        d.put place node =
          { d with
            entries := d.entries.map fun e =>
              if e.1 = place then (place, node) else e } := by
      unfold put
      rw [if_pos present]
    rw [whole]
    unfold node?
    simp only [replaced]
    by_cases same : p = place
    · subst same
      cases found : d.entries.find? fun e => e.1 = p with
      | none =>
          have absent := List.find?_eq_none.mp found
          obtain ⟨e, member, isThere⟩ := List.any_eq_true.mp present
          exact absurd isThere (absent e member)
      | some e =>
          have isThere := List.find?_some found
          simp only [decide_eq_true_eq] at isThere
          simp [isThere]
    · rw [if_neg same]
      cases found : d.entries.find? fun e => e.1 = p with
      | none => rfl
      | some e =>
          have isThere := List.find?_some found
          simp only [decide_eq_true_eq] at isThere
          have other : e.1 ≠ place := by
            rw [isThere]
            exact same
          simp [other]
  · have whole :
        d.put place node =
          { d with entries := d.entries ++ [(place, node)] } := by
      unfold put
      rw [if_neg present]
    rw [whole]
    unfold node?
    simp only [List.find?_append]
    by_cases same : p = place
    · subst same
      have absent : d.entries.find? (fun e => e.1 = p) = none := by
        rw [List.find?_eq_none]
        intro e member isThere
        exact present (List.any_eq_true.mpr ⟨e, member, isThere⟩)
      rw [absent]
      simp
    · have other : ¬ place = p := fun equal => same equal.symm
      simp [same, other]

@[simp]
theorem working_put (d : Disk) (place : Path) (node : Node) :
    (d.put place node).working = d.working := by
  unfold put
  split
  · rfl
  · rfl

/-! ## Walks -/

/-- Where a walk ends, if it ends at a node or at a free place. -/
def Walk.place? : Walk → Option Path
  | .found place _ => some place
  | .free place => some place
  | .missing => none
  | .blocked => none

/-- What is there where a walk ends. -/
def Walk.node? : Walk → Option Node
  | .found _ node => some node
  | .free _ => none
  | .missing => none
  | .blocked => none

/-- A walk of several steps passes the first directory that it reaches. -/
theorem walkFrom_of_passed {d : Disk} {start : Path} {name next : String}
    {rest : List String} (begun : d.node? start = some .directory)
    {node : Node} (passed : d.node? (start.follow [name]) = some node) :
    d.walkFrom start (name :: next :: rest) =
      d.walkFrom (start.follow [name]) (next :: rest) := by
  conv => lhs; unfold walkFrom
  simp only [begun, passed]

/-- A walk of several steps that comes to an end goes on from the first
directory. -/
theorem walkFrom_cons_cons {d : Disk} {start place : Path}
    {name next : String} {rest : List String}
    (ends : (d.walkFrom start (name :: next :: rest)).place? = some place) :
    d.node? start = some .directory ∧
      d.walkFrom start (name :: next :: rest) =
        d.walkFrom (start.follow [name]) (next :: rest) := by
  cases begun : d.node? start with
  | none =>
      unfold walkFrom at ends
      rw [begun] at ends
      cases ends
  | some node =>
      cases node with
      | file content =>
          unfold walkFrom at ends
          rw [begun] at ends
          cases ends
      | directory =>
          refine ⟨rfl, ?_⟩
          cases passed : d.node? (start.follow [name]) with
          | none =>
              unfold walkFrom at ends
              simp only [begun, passed] at ends
              cases ends
          | some other => exact walkFrom_of_passed begun passed

theorem walkFrom_singleton {d : Disk} {start place : Path} {name : String}
    (ends : (d.walkFrom start [name]).place? = some place) :
    d.node? start = some .directory ∧ start.follow [name] = place ∧
      (d.walkFrom start [name]).node? = d.node? place := by
  unfold walkFrom at ends ⊢
  cases begun : d.node? start with
  | none =>
      rw [begun] at ends
      cases ends
  | some node =>
      cases node with
      | file content =>
          rw [begun] at ends
          cases ends
      | directory =>
          rw [begun] at ends
          refine ⟨rfl, ?_⟩
          cases following : d.node? (start.follow [name]) with
          | none =>
              simp only [following] at ends ⊢
              obtain rfl := Option.some.inj ends
              exact ⟨rfl, following.symm⟩
          | some other =>
              simp only [following] at ends ⊢
              obtain rfl := Option.some.inj ends
              exact ⟨rfl, following.symm⟩

/-- A walk tells what is there where it ends. -/
theorem node?_walkFrom {d : Disk} {start place : Path} {names : List String}
    (ends : (d.walkFrom start names).place? = some place) :
    (d.walkFrom start names).node? = d.node? place := by
  induction names generalizing start with
  | nil =>
      unfold walkFrom at ends ⊢
      cases begun : d.node? start with
      | none =>
          rw [begun] at ends
          cases ends
      | some node =>
          rw [begun] at ends
          obtain rfl := Option.some.inj ends
          exact begun.symm
  | cons name rest inductionHypothesis =>
      cases rest with
      | nil => exact (walkFrom_singleton ends).2.2
      | cons next rest =>
          obtain ⟨_, goesOn⟩ := walkFrom_cons_cons ends
          rw [goesOn] at ends ⊢
          exact inductionHypothesis ends

/-- No directory is taken away. -/
def KeepsDirectories (d after : Disk) : Prop :=
  ∀ p, d.node? p = some .directory → after.node? p = some .directory

/-- A walk ends at the same place on every disk that keeps the directories. -/
theorem walkFrom_of_keepsDirectories
    {d after : Disk} (keeps : d.KeepsDirectories after)
    {start place : Path} {names : List String}
    (ends : (d.walkFrom start names).place? = some place)
    {node : Node} (isThere : after.node? place = some node) :
    after.walkFrom start names = .found place node := by
  induction names generalizing start with
  | nil =>
      have same : start = place := by
        unfold walkFrom at ends
        cases begun : d.node? start with
        | none =>
            rw [begun] at ends
            cases ends
        | some other =>
            rw [begun] at ends
            exact Option.some.inj ends
      unfold walkFrom
      rw [same, isThere]
  | cons name rest inductionHypothesis =>
      cases rest with
      | nil =>
          obtain ⟨begun, same, _⟩ := walkFrom_singleton ends
          unfold walkFrom
          simp only [keeps start begun, same, isThere]
      | cons next rest =>
          obtain ⟨begun, goesOn⟩ := walkFrom_cons_cons ends
          rw [goesOn] at ends
          have wentOn := inductionHypothesis ends
          -- The walk is not over, so the next place is a directory too.
          have passed :
              d.node? (start.follow [name]) = some .directory := by
            cases rest with
            | nil => exact (walkFrom_singleton ends).1
            | cons _ _ => exact (walkFrom_cons_cons ends).1
          rw [walkFrom_of_passed (keeps start begun) (keeps _ passed), wentOn]

theorem walk_of_keepsDirectories
    {d after : Disk} (keeps : d.KeepsDirectories after)
    (sameWorking : after.working = d.working)
    {p place : Path} (ends : (d.walk p).place? = some place)
    {node : Node} (isThere : after.node? place = some node) :
    after.walk p = .found place node := by
  unfold walk at ends ⊢
  rw [sameWorking]
  by_cases isRelative : p.anchor.isEmpty = true
  · rw [if_pos isRelative] at ends ⊢
    exact walkFrom_of_keepsDirectories keeps ends isThere
  · rw [if_neg isRelative] at ends ⊢
    exact walkFrom_of_keepsDirectories keeps ends isThere

theorem node?_walk {d : Disk} {p place : Path}
    (ends : (d.walk p).place? = some place) :
    (d.walk p).node? = d.node? place := by
  unfold walk at ends ⊢
  by_cases isRelative : p.anchor.isEmpty = true
  · rw [if_pos isRelative] at ends ⊢
    exact node?_walkFrom ends
  · rw [if_neg isRelative] at ends ⊢
    exact node?_walkFrom ends

/-! ## Making directories -/

/-- Whatever is there stays as it is. -/
structure Extends (d after : Disk) : Prop where
  sameWorking : after.working = d.working
  keeps : ∀ p node, d.node? p = some node → after.node? p = some node

theorem Extends.refl (d : Disk) : d.Extends d :=
  ⟨rfl, fun _ _ isThere => isThere⟩

theorem Extends.trans {d between after : Disk}
    (first : d.Extends between) (second : between.Extends after) :
    d.Extends after :=
  ⟨second.sameWorking.trans first.sameWorking,
    fun p node isThere => second.keeps p node (first.keeps p node isThere)⟩

theorem extends_makeDirectory {d after : Disk} {p : Path}
    (made : d.makeDirectory p = .ok (some after)) :
    d.Extends after := by
  unfold makeDirectory at made
  cases walked : d.walk p with
  | found place node =>
      rw [walked] at made
      cases node with
      | directory =>
          cases made
          exact Extends.refl d
      | file content => cases made
  | free place =>
      rw [walked] at made
      cases made
      have nothing : d.node? place = none := by
        have ends : (d.walk p).place? = some place := by
          rw [walked]
          rfl
        rw [← node?_walk ends, walked]
        rfl
      refine ⟨working_put d place .directory, ?_⟩
      intro other node isThere
      rw [node?_put]
      by_cases same : other = place
      · rw [same, nothing] at isThere
        cases isThere
      · rw [if_neg same]
        exact isThere
  | missing =>
      rw [walked] at made
      cases made
  | blocked =>
      rw [walked] at made
      cases made

theorem extends_makeDirectories {d after : Disk} {anchor : String}
    {names : List String} (made : d.makeDirectories anchor names = .ok after) :
    d.Extends after := by
  induction names generalizing after with
  | nil =>
      unfold makeDirectories at made
      cases made
      exact Extends.refl d
  | cons name above inductionHypothesis =>
      unfold makeDirectories at made
      simp only at made
      split at made
      · cases made
      · rename_i first done
        cases made
        exact extends_makeDirectory done
      · split at made
        · cases made
        · rename_i between madeAbove
          have isBetween := inductionHypothesis madeAbove
          split at made
          · cases made
          · rename_i last done
            cases made
            exact isBetween.trans (extends_makeDirectory done)
          · cases made
            exact isBetween

/-! ## Writing -/

/-- The bytes of a text as they are written to a file. -/
def contentOf (text : String) : List UInt8 :=
  text.toUTF8.data.toList

/-- The file at a path holds a text and nothing else. -/
def Holds (d : Disk) (p : Path) (text : String) : Prop :=
  d.read? p = some (contentOf text)

/-- Two paths lead to the same file. -/
def SameFile (d : Disk) (p q : Path) : Prop :=
  ∃ place content,
    d.walk p = .found place (.file content) ∧
      d.walk q = .found place (.file content)

theorem SameFile.read?_eq {d : Disk} {p q : Path} (same : d.SameFile p q) :
    d.read? p = d.read? q := by
  obtain ⟨place, content, first, second⟩ := same
  unfold read?
  rw [first, second]

theorem read?_eq_some_iff {d : Disk} {p : Path} {content : List UInt8} :
    d.read? p = some content ↔
      ∃ place, d.walk p = .found place (.file content) := by
  unfold read?
  constructor
  · intro isRead
    split at isRead
    · rename_i place found walked
      cases isRead
      exact ⟨place, walked⟩
    · cases isRead
  · rintro ⟨place, walked⟩
    rw [walked]

/-- Writing puts the content at one place, which is no directory, on a disk
that at most has more directories. -/
theorem write_eq_ok {d after : Disk} {p : Path} {text : String}
    (wrote : d.write p text = .ok after) :
    ∃ ready place,
      d.Extends ready ∧ (ready.walk p).place? = some place ∧
        ready.node? place ≠ some .directory ∧
        after = ready.put place (.file (contentOf text)) := by
  unfold write at wrote
  split at wrote
  · cases wrote
  · rename_i ready made
    have isReady := extends_makeDirectories made
    simp only at wrote
    split at wrote
    · cases wrote
    · rename_i place content walked
      cases wrote
      have ends : (ready.walk p).place? = some place := by
        rw [walked]
        rfl
      refine ⟨ready, place, isReady, ends, ?_, rfl⟩
      rw [← node?_walk ends, walked]
      simp [Walk.node?]
    · rename_i place walked
      cases wrote
      have ends : (ready.walk p).place? = some place := by
        rw [walked]
        rfl
      refine ⟨ready, place, isReady, ends, ?_, rfl⟩
      rw [← node?_walk ends, walked]
      simp [Walk.node?]
    · cases wrote
    · cases wrote

/-- Where nothing but a file is put, no directory is taken away. -/
theorem keepsDirectories_put {d : Disk} {place : Path}
    (noDirectory : d.node? place ≠ some .directory) (node : Node) :
    d.KeepsDirectories (d.put place node) := by
  intro p isDirectory
  rw [node?_put]
  by_cases same : p = place
  · rw [same] at isDirectory
    exact absurd isDirectory noDirectory
  · rw [if_neg same]
    exact isDirectory

/-- What was written to a file can be read back. -/
theorem holds_write {d after : Disk} {p : Path} {text : String}
    (wrote : d.write p text = .ok after) :
    after.Holds p text := by
  obtain ⟨ready, place, _, ends, noDirectory, rfl⟩ := write_eq_ok wrote
  have isThere :
      (ready.put place (.file (contentOf text))).node? place =
        some (.file (contentOf text)) := by
    rw [node?_put, if_pos rfl]
  have walked :=
    walk_of_keepsDirectories (keepsDirectories_put noDirectory _)
      (working_put ready place _) ends isThere
  exact read?_eq_some_iff.mpr ⟨place, walked⟩

/-- Writing a file leaves every other file as it is. -/
theorem read?_write_of_other {d after : Disk} {p q : Path} {text : String}
    (wrote : d.write p text = .ok after) (different : ¬ after.SameFile q p)
    {content : List UInt8} (isRead : d.read? q = some content) :
    after.read? q = some content := by
  obtain ⟨ready, place, isReady, ends, noDirectory, rfl⟩ := write_eq_ok wrote
  obtain ⟨other, walked⟩ := read?_eq_some_iff.mp isRead
  let after := ready.put place (.file (contentOf text))
  have keeps : ready.KeepsDirectories after :=
    keepsDirectories_put noDirectory _
  have keepsAll : d.KeepsDirectories after :=
    fun r isDirectory => keeps r (isReady.keeps r _ isDirectory)
  have sameWorking : after.working = d.working :=
    (working_put ready place _).trans isReady.sameWorking
  have otherEnds : (d.walk q).place? = some other := by
    rw [walked]
    rfl
  have wasThere : d.node? other = some (.file content) := by
    rw [← node?_walk otherEnds, walked]
    rfl
  by_cases same : other = place
  · -- The file that was written is the one that is asked for.
    have isThere : after.node? place = some (.file (contentOf text)) := by
      rw [node?_put, if_pos rfl]
    rw [same] at otherEnds
    refine absurd ⟨place, contentOf text, ?_, ?_⟩ different
    · exact walk_of_keepsDirectories keepsAll sameWorking otherEnds isThere
    · exact walk_of_keepsDirectories keeps (working_put ready place _) ends
        isThere
  · have isThere : after.node? other = some (.file content) := by
      rw [node?_put, if_neg same]
      exact isReady.keeps other _ wasThere
    exact read?_eq_some_iff.mpr
      ⟨other, walk_of_keepsDirectories keepsAll sameWorking otherEnds isThere⟩

end Tablesmith.Disk
