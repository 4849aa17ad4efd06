import Mathlib.Data.List.Basic
import ScriptCheck.Files.Tree
import ScriptCheck.Proofs.Diagnostic

/-!
# Writing to a tree

A file is written where no directory is. So every way through the tree that was open stays open, and
what is written under a path is read back under it: `Tree.read_put`. All other files stay as they
are: `Tree.lookup_put_of_ne`.
-/

namespace ScriptCheck.Files.Tree

/-- A location is a directory when no file is there and it is given or holds a file. -/
theorem isDirectory_iff {tree : Tree} {location : Location} :
    tree.isDirectory location ↔ tree.files.lookup location = none ∧
      (location.isGiven ∨ ∃ file ∈ tree.files, location.isSuffixOf file.1) := by
  rw [isDirectory, beq_iff_eq, entry?]
  cases tree.files.lookup location with
  | some octets => simp
  | none => by_cases given : location.isGiven <;> simp [given]

/-- Something is at a location when a file or a directory is. -/
theorem isSome_entry?_iff {tree : Tree} {location : Location} :
    (tree.entry? location).isSome ↔
      (tree.files.lookup location).isSome ∨ tree.isDirectory location := by
  rw [isDirectory, beq_iff_eq, entry?]
  cases tree.files.lookup location with
  | some octets => simp
  | none => by_cases given : location.isGiven <;> simp [given]

section Put

variable {tree : Tree} {location : Location} (octets : List UInt8)

/-- A written file is found at its location. -/
theorem entry?_put : Tree.entry? (tree.put location octets) location = some (.file octets) := by
  simp [put, entry?]

/-- A file at another location is what it was. -/
theorem lookup_put_of_ne {other : Location} (apart : other ≠ location) :
    (tree.put location octets).files.lookup other = tree.files.lookup other := by
  have filtered (files : List (Location × List UInt8)) :
      (files.filter (·.1 != location)).lookup other = files.lookup other := by
    induction files with
    | nil => rfl
    | cons file files inductionHypothesis =>
        obtain ⟨place, found⟩ := file
        by_cases replaced : place = location
        · have passed : (other == place) = false := by simp [replaced, apart]
          rw [List.filter_cons_of_neg (by simp [replaced]), inductionHypothesis, List.lookup_cons,
            passed]
        · rw [List.filter_cons_of_pos (by simp [replaced]), List.lookup_cons, List.lookup_cons,
            inductionHypothesis]
  have passed : (other == location) = false := by simp [apart]
  rw [put, List.lookup_cons, passed]
  exact filtered tree.files

variable (free : tree.isDirectory location = false)
include free

/-- A directory stays a directory when a file is written anywhere else. -/
theorem isDirectory_put {directory : Location} (isThere : tree.isDirectory directory) :
    (tree.put location octets).isDirectory directory := by
  have apart : directory ≠ location := by
    rintro rfl
    exact absurd isThere (by simp [free])
  obtain ⟨noFile, above⟩ := isDirectory_iff.1 isThere
  refine isDirectory_iff.2 ⟨(lookup_put_of_ne octets apart).trans noFile, ?_⟩
  -- A directory may be there only by a file that is replaced; the new one is at the same place.
  refine above.imp_right fun ⟨file, listed, below⟩ => ?_
  by_cases replaced : file.1 = location
  · exact ⟨(location, octets), List.mem_cons_self, replaced ▸ below⟩
  · exact ⟨file, List.mem_cons_of_mem _ (List.mem_filter.2 ⟨listed, by simp [replaced]⟩), below⟩

/-- What is at a location may be replaced, but something stays there. -/
theorem isSome_entry?_put {other : Location} (isSomething : (tree.entry? other).isSome) :
    (Tree.entry? (tree.put location octets) other).isSome := by
  by_cases same : other = location
  · rw [same, entry?_put]
    rfl
  · rw [isSome_entry?_iff] at isSomething ⊢
    rw [lookup_put_of_ne octets same]
    exact isSomething.imp_right (isDirectory_put octets free)

/-- A name leads where it led. -/
theorem childOf_put {directory child : Location} {name : String}
    (found : tree.childOf directory name = .ok child) :
    (tree.put location octets).childOf directory name = .ok child := by
  unfold childOf at found ⊢
  by_cases isThere : tree.isDirectory directory = true
  · rw [isDirectory_put octets free isThere]
    simpa only [isThere] using found
  · simp [isThere] at found

theorem enter_put {directory child : Location} {name : String}
    (entered : tree.enter directory name = .ok child) :
    (tree.put location octets).enter directory name = .ok child := by
  obtain ⟨place, found, entered⟩ := bind_eq_ok.1 entered
  refine bind_eq_ok.2 ⟨place, childOf_put octets free found, ?_⟩
  split at entered
  next isSomething =>
    rw [if_pos (isSome_entry?_put octets free isSomething)]
    exact entered
  next => cases entered

/-- A way through the tree stays open. -/
theorem walk_put {start last : Location} {names : List String}
    (walked : tree.walk start names = .ok last) :
    (tree.put location octets).walk start names = .ok last := by
  induction names generalizing start with
  | nil => exact walked
  | cons name names inductionHypothesis =>
      obtain ⟨next, entered, walked⟩ := bind_eq_ok.1 walked
      exact bind_eq_ok.2 ⟨next, enter_put octets free entered, inductionHypothesis walked⟩

end Put

/-- A way that is followed by one more name. -/
theorem walk_append {tree : Tree} {start middle last : Location} {names : List String}
    {name : String} (walked : tree.walk start names = .ok middle)
    (entered : tree.enter middle name = .ok last) :
    tree.walk start (names ++ [name]) = .ok last := by
  induction names generalizing start with
  | nil =>
      cases walked
      exact bind_eq_ok.2 ⟨last, entered, rfl⟩
  | cons first names inductionHypothesis =>
      obtain ⟨next, firstEntered, walked⟩ := bind_eq_ok.1 walked
      exact bind_eq_ok.2 ⟨next, firstEntered, inductionHypothesis walked⟩

/-- A file is written under a path that leads into a directory, and from there to no directory. -/
theorem target_eq_ok {tree : Tree} {text : String} {location : Location}
    (target : tree.target text = .ok location) :
    ∃ (path : Path) (names : List String) (name : String) (directory : Location),
      pathOf text = .ok path ∧ path.names = names ++ [name] ∧ path.endsWithSlash = false ∧
      tree.walk path.start names = .ok directory ∧ tree.childOf directory name = .ok location ∧
      tree.isDirectory location = false := by
  obtain ⟨path, isPath, target⟩ := bind_eq_ok.1 target
  cases last : path.names.getLast? with
  | none =>
      rw [last] at target
      cases target
  | some name =>
      rw [last] at target
      obtain ⟨directory, walked, target⟩ := bind_eq_ok.1 target
      cases isThere : tree.isDirectory directory with
      | false =>
          rw [isThere] at target
          cases target
      | true =>
          rw [isThere] at target
          cases noSlash : path.endsWithSlash with
          | true =>
              rw [noSlash] at target
              cases target
          | false =>
              rw [noSlash] at target
              obtain ⟨place, found, target⟩ := bind_eq_ok.1 target
              cases free : tree.isDirectory place with
              | true =>
                  rw [free] at target
                  cases target
              | false =>
                  rw [free] at target
                  cases target
                  have named : path.names.dropLast ++ [name] = path.names :=
                    List.dropLast_append_getLast? name last
                  exact ⟨path, path.names.dropLast, name, directory, isPath, named.symm, noSlash,
                    walked, found, free⟩

/-- What is written under a path is read back under it. -/
theorem read_put {tree : Tree} {text : String} {location : Location}
    (target : tree.target text = .ok location) (octets : List UInt8) :
    (tree.put location octets).read text = .ok octets := by
  obtain ⟨path, names, name, directory, isPath, named, noSlash, walked, found, free⟩ :=
    target_eq_ok target
  have entered : (tree.put location octets).enter directory name = .ok location := by
    refine bind_eq_ok.2 ⟨location, childOf_put octets free found, ?_⟩
    rw [entry?_put]
    rfl
  have walkedAll := walk_append (walk_put octets free walked) entered
  rw [← named] at walkedAll
  unfold read
  rw [isPath]
  simp only [bind, Except.bind, walkedAll, entry?_put, noSlash]
  rfl

end ScriptCheck.Files.Tree
