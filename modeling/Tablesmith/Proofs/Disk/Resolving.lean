import Tablesmith.Proofs.Disk.Writing
import Tablesmith.Proofs.Text.Splitting

/-!
# Full paths

A full path comes from the root and goes from name to name without detours.
Its text can be read back, a walk along it ends at the path itself, and every
path resolves to one if the working directory has one.
-/

namespace Tablesmith.Disk

/-! ## Names -/

/-- A name as it is read from a path. -/
structure IsName (name : String) : Prop where
  notEmpty : name ≠ ""
  noSlash : '/' ∉ name.toList
  noPoint : name ≠ "."

/-- A full path: from the root, and without climbing. -/
structure Path.IsFull (p : Path) : Prop where
  fromRoot : p.anchor = "/"
  isName : ∀ name ∈ p.names, IsName name
  noClimb : ".." ∉ p.names

namespace Path

theorem splitSlashes_eq_splitOn (cs : List Char) :
    splitSlashes cs = cs.splitOn '/' := by
  apply Text.eq_splitOn_of_steps
  · rfl
  · intro rest
    rw [splitSlashes, if_pos rfl]
  · intro c rest part more notSlash parts
    rw [splitSlashes, if_neg notSlash, parts]

theorem not_mem_of_mem_splitSlashes {cs : List Char} :
    ∀ part ∈ splitSlashes cs, '/' ∉ part := by
  rw [splitSlashes_eq_splitOn]
  exact fun part isPart => Text.not_mem_of_mem_splitOn isPart

theorem isName_of_mem_ofString {text name : String}
    (member : name ∈ (ofString text).names) : IsName name := by
  have isKept := List.mem_filter.mp member
  obtain ⟨part, isPart, rfl⟩ := List.mem_map.mp isKept.1
  have kept := isKept.2
  simp only [Bool.and_eq_true, Bool.not_eq_true', decide_eq_true_eq] at kept
  refine ⟨?_, ?_, kept.2⟩
  · intro isEmpty
    rw [isEmpty] at kept
    exact absurd kept.1 (by decide)
  · rw [String.toList_ofList]
    exact not_mem_of_mem_splitSlashes part isPart

/-! ## Resolving -/

theorem isFull_parent {p : Path} (full : p.IsFull) : p.parent.IsFull where
  fromRoot := full.fromRoot
  isName := fun name member =>
    full.isName name ((List.dropLast_sublist _).subset member)
  noClimb := fun member =>
    full.noClimb ((List.dropLast_sublist _).subset member)

theorem isFull_follow {start : Path} (full : start.IsFull)
    {names : List String} (areNames : ∀ name ∈ names, IsName name) :
    (start.follow names).IsFull := by
  unfold follow
  induction names generalizing start with
  | nil => exact full
  | cons name rest inductionHypothesis =>
      obtain ⟨isName, others⟩ := List.forall_mem_cons.mp areNames
      rw [List.foldl_cons]
      refine inductionHypothesis ?_ others
      by_cases climbs : name = ".."
      · rw [if_pos climbs]
        exact isFull_parent full
      · rw [if_neg climbs]
        refine ⟨full.fromRoot, ?_, ?_⟩
        · intro other member
          rcases List.mem_append.mp member with old | new
          · exact full.isName other old
          · rw [List.mem_singleton.mp new]
            exact isName
        · intro member
          rcases List.mem_append.mp member with old | new
          · exact full.noClimb old
          · exact climbs (List.mem_singleton.mp new).symm

/-- What a path means in a full working directory is a full path. -/
theorem isFull_resolve {working : Path} (full : working.IsFull)
    (text : String) : (resolve working (ofString text)).IsFull := by
  have areNames : ∀ name ∈ (ofString text).names, IsName name :=
    fun _ member => isName_of_mem_ofString member
  have root : (⟨"/", []⟩ : Path).IsFull := by
    refine ⟨rfl, ?_, List.not_mem_nil⟩
    intro name member
    cases member
  unfold resolve
  split
  · exact isFull_follow full areNames
  · exact isFull_follow root areNames

/-! ## Texts -/

theorem toList_text_of_isFull {p : Path} (full : p.IsFull) :
    p.text.toList =
      '/' :: ['/'].intercalate (p.names.map String.toList) := by
  unfold text
  have anchored : (p.anchor.isEmpty && p.names.isEmpty) = false := by
    rw [full.fromRoot]
    rfl
  rw [anchored, full.fromRoot]
  simp [String.toList_intercalate]

/-- The text of a full path names that path. -/
theorem ofString_text {p : Path} (full : p.IsFull) : ofString p.text = p := by
  obtain ⟨anchor, names⟩ := p
  have chars := toList_text_of_isFull full
  obtain ⟨rfl, isName, -⟩ := full
  unfold ofString
  rw [chars]
  cases names with
  | nil => rfl
  | cons name rest =>
      have noSlash :
          ∀ part ∈ (name :: rest).map String.toList, '/' ∉ part := by
        intro part member
        obtain ⟨other, isOther, rfl⟩ := List.mem_map.mp member
        exact (isName other isOther).noSlash
      have parts :
          splitSlashes
              (['/'].intercalate ((name :: rest).map String.toList)) =
            (name :: rest).map String.toList := by
        rw [splitSlashes_eq_splitOn]
        exact List.splitOn_intercalate '/' noSlash (by simp)
      have kept :
          ((splitSlashes ('/' ::
              ['/'].intercalate ((name :: rest).map String.toList))).map
                String.ofList).filter
              (fun name => !name.isEmpty && name ≠ ".") =
            name :: rest := by
        have whole :
            (name :: rest).map (String.ofList ∘ String.toList) =
              name :: rest := by
          simp
        rw [splitSlashes, if_pos rfl, parts, List.map_cons, List.map_map,
          whole, List.filter_cons_of_neg (by decide), List.filter_eq_self]
        intro other member
        simp [(isName other member).notEmpty, (isName other member).noPoint]
      have anchored :
          anchorOf ('/' ::
              ['/'].intercalate ((name :: rest).map String.toList)) = "/" := by
        -- The first name is not empty and begins with no slash.
        cases first : name.toList with
        | nil =>
            exact absurd (String.toList_eq_nil_iff.mp first)
              (isName name List.mem_cons_self).notEmpty
        | cons c more =>
            have notSlash : c ≠ '/' := by
              rintro rfl
              apply (isName name List.mem_cons_self).noSlash
              rw [first]
              exact List.mem_cons_self
            have begins :
                ∃ later,
                  ['/'].intercalate ((name :: rest).map String.toList) =
                    c :: later := by
              cases rest with
              | nil => exact ⟨more, by simp [first, List.intercalate]⟩
              | cons next others =>
                  exact ⟨more ++ '/' ::
                    ['/'].intercalate ((next :: others).map String.toList), by
                      simp [first, List.intercalate]⟩
            obtain ⟨later, shape⟩ := begins
            rw [shape]
            unfold anchorOf
            split
            · rename_i same
              simp only [List.cons.injEq] at same
              exact absurd same.2.1 notSlash
            · rename_i same
              simp only [List.cons.injEq] at same
              exact absurd same.2.1 notSlash
            · rfl
            · rename_i different
              exact absurd rfl (different _)
      rw [kept, anchored]

end Path

/-! ## Walks -/

theorem place_walkFrom {d : Disk} {start place : Path} {names : List String}
    (noClimb : ".." ∉ names)
    (ends : (d.walkFrom start names).place? = some place) :
    place = { start with names := start.names ++ names } := by
  have follow_one {here : Path} {name : String} (plain : name ≠ "..") :
      here.follow [name] = { here with names := here.names ++ [name] } := by
    simp [Path.follow, plain]
  induction names generalizing start with
  | nil =>
      rw [List.append_nil]
      unfold walkFrom at ends
      cases begun : d.node? start with
      | none =>
          rw [begun] at ends
          cases ends
      | some node =>
          rw [begun] at ends
          exact (Option.some.inj ends).symm
  | cons name rest inductionHypothesis =>
      have plain : name ≠ ".." :=
        fun same => noClimb (same ▸ List.mem_cons_self)
      cases rest with
      | nil => rw [← (walkFrom_singleton ends).2.1, follow_one plain]
      | cons next rest =>
          obtain ⟨_, goesOn⟩ := walkFrom_cons_cons ends
          rw [goesOn] at ends
          have there :=
            inductionHypothesis
              (fun member => noClimb (List.mem_cons_of_mem _ member)) ends
          rw [there, follow_one plain]
          simp

/-- A walk along a full path ends at that path. -/
theorem place_walk {d : Disk} {p place : Path} (full : p.IsFull)
    (ends : (d.walk p).place? = some place) :
    place = p := by
  obtain ⟨anchor, names⟩ := p
  obtain ⟨rfl, -, noClimb⟩ := full
  exact place_walkFrom noClimb ends

/-- Full paths lead to the same file only if they are the same. -/
theorem sameFile_iff_eq {d : Disk} {p q : Path} (first : p.IsFull)
    (second : q.IsFull) {content : List UInt8}
    (isRead : d.read? p = some content) :
    d.SameFile p q ↔ p = q := by
  constructor
  · rintro ⟨place, content, toFirst, toSecond⟩
    have here : place = p := by
      apply place_walk first
      rw [toFirst]
      rfl
    have there : place = q := by
      apply place_walk second
      rw [toSecond]
      rfl
    rw [← here, ← there]
  · rintro rfl
    obtain ⟨place, walked⟩ := read?_eq_some_iff.mp isRead
    exact ⟨place, content, walked, walked⟩

end Tablesmith.Disk
