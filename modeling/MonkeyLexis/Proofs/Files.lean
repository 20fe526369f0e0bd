import MonkeyLexis.CommandLine.FileSystem

/-!
# Files in memory

What is found in a tree of files. A path is followed from one name to the next, so what it leads to
is decided by two things: whether there are directories all the way, and what stands where the way
ends. For a tree that was made from lists of paths this says that a file is found with what was
written to it last, and that no file is found that was not written.
-/

namespace MonkeyLexis.CommandLine

namespace Location

/-- The locations that have to be directories if a path is to be followed to its last name. -/
def onTheWay (path : String) : List Location :=
  (origin path).trail (names path).dropLast

theorem exists_names_eq_concat (path : String) :
    ∃ outer last, names path = outer ++ [last] ∧ onTheWay path = (origin path).trail outer ∧
      ofPath path = (outer.foldl enter (origin path)).enter last := by
  rcases List.eq_nil_or_concat (names path) with nothing | ⟨outer, last, split⟩
  · exact absurd (List.map_eq_nil_iff.mp nothing) (List.splitOn_ne_nil '/' path.toList)
  · rw [List.concat_eq_append] at split
    refine ⟨outer, last, split, ?_, ?_⟩
    · rw [onTheWay, split, List.dropLast_concat]
    · rw [ofPath, split, List.foldl_append]
      rfl

end Location

namespace FileTree

/-- Whether there is a directory, and no file in its place. -/
def IsOpen (tree : FileTree) (location : Location) : Prop :=
  tree.files.lookup location = none ∧ tree.hasDirectory location = true

/-! ### Following names -/

section

variable {tree : FileTree}

theorem step?_eq_directory_iff {location next : Location} {name : String} :
    tree.step? (.directory location) name = some (.directory next) ↔
      tree.IsOpen next ∧ location.enter name = next := by
  cases found : tree.files.lookup (location.enter name) with
  | none =>
      simp only [step?, found, Option.ite_none_right_eq_some, Option.some_inj,
        Place.directory.injEq]
      constructor
      · rintro ⟨isDirectory, rfl⟩
        exact ⟨⟨found, isDirectory⟩, rfl⟩
      · rintro ⟨⟨_, isDirectory⟩, rfl⟩
        exact ⟨isDirectory, rfl⟩
  | some contents =>
      simp only [step?, found, Option.some_inj, reduceCtorEq, false_iff]
      rintro ⟨⟨noFile, _⟩, rfl⟩
      simp [found] at noFile

theorem step?_eq_file_iff {place : Place} {name : String} {contents : List Byte} :
    tree.step? place name = some (.file contents) ↔
      ∃ location, place = .directory location ∧
        tree.files.lookup (location.enter name) = some contents := by
  cases place with
  | file other => simp [step?]
  | directory location =>
      cases found : tree.files.lookup (location.enter name) with
      | none => simp [step?, found]
      | some other => simp [step?, found]

/-- No name leads further than a file. -/
theorem foldlM_step?_file_ne_directory (contents : List Byte) (names : List String)
    (target : Location) :
    names.foldlM tree.step? (.file contents) ≠ some (.directory target) := by
  cases names with
  | nil => simp
  | cons name names => simp [step?]

/-- Names lead to a directory exactly if they lead through nothing else. -/
theorem foldlM_step?_eq_directory_iff {location target : Location} {names : List String} :
    names.foldlM tree.step? (.directory location) = some (.directory target) ↔
      (∀ passed ∈ location.trail names, tree.IsOpen passed) ∧
        names.foldl Location.enter location = target := by
  induction names generalizing location with
  | nil => simp [Location.trail]
  | cons name names ih =>
      rw [List.foldlM_cons, Location.trail, List.forall_mem_cons, List.foldl_cons]
      constructor
      · intro followed
        rcases Option.bind_eq_some_iff.mp followed with ⟨place, stepped, further⟩
        cases place with
        | file contents => exact absurd further (foldlM_step?_file_ne_directory contents _ _)
        | directory next =>
            rcases step?_eq_directory_iff.mp stepped with ⟨isOpen, rfl⟩
            rcases ih.mp further with ⟨allOpen, leads⟩
            exact ⟨⟨isOpen, allOpen⟩, leads⟩
      · rintro ⟨⟨isOpen, allOpen⟩, leads⟩
        have stepped := step?_eq_directory_iff.mpr ⟨isOpen, rfl⟩
        exact Option.bind_eq_some_iff.mpr ⟨_, stepped, ih.mpr ⟨allOpen, leads⟩⟩

/-- Names lead to a file exactly if all but the last one lead to directories and there is a file
under the last one. -/
theorem foldlM_step?_eq_file_iff {location : Location} {outer : List String} {last : String}
    {contents : List Byte} :
    (outer ++ [last]).foldlM tree.step? (.directory location) = some (.file contents) ↔
      (∀ passed ∈ location.trail outer, tree.IsOpen passed) ∧
        tree.files.lookup ((outer.foldl Location.enter location).enter last) = some contents := by
  have single (place : Place) : [last].foldlM tree.step? place = tree.step? place last :=
    bind_pure _
  rw [List.foldlM_append]
  constructor
  · intro followed
    rcases Option.bind_eq_some_iff.mp followed with ⟨place, outerFollowed, lastFollowed⟩
    rw [single] at lastFollowed
    rcases step?_eq_file_iff.mp lastFollowed with ⟨reached, rfl, found⟩
    rcases foldlM_step?_eq_directory_iff.mp outerFollowed with ⟨allOpen, rfl⟩
    exact ⟨allOpen, found⟩
  · rintro ⟨allOpen, found⟩
    have outerFollowed := foldlM_step?_eq_directory_iff.mpr ⟨allOpen, rfl⟩
    have lastFollowed := step?_eq_file_iff.mpr ⟨_, rfl, found⟩
    rw [← single] at lastFollowed
    exact Option.bind_eq_some_iff.mpr ⟨_, outerFollowed, lastFollowed⟩

/-! ### What is found -/

/-- Whether a path is followed at all. -/
def IsFollowable (path : String) : Prop :=
  path ≠ "" ∧ path.utf8ByteSize < pathLimit

/-- What a program finds in the place to which a path has led it, if to any. -/
def finding : Option Place → FileLookup
  | none => .missing
  | some (.file contents) => .contents contents
  | some (.directory _) => .unreadable "Is a directory (os error 21)"

theorem lookup_eq_iff {path : String} {result : FileLookup} (something : result ≠ .missing) :
    tree.lookup path = result ↔
      IsFollowable path ∧
        finding ((Location.names path).foldlM tree.step? (.directory (Location.origin path))) =
          result := by
  have refused : (path = "" || pathLimit ≤ path.utf8ByteSize) = true ↔ ¬IsFollowable path := by
    simp [IsFollowable, Decidable.or_iff_not_imp_left]
  unfold lookup
  by_cases followable : IsFollowable path
  · rw [if_neg (mt refused.mp (not_not_intro followable)), and_iff_right followable]
    rfl
  · rw [if_pos (refused.mpr followable)]
    exact iff_of_false something.symm fun both => followable both.1

/-- A file is found where its path can be followed through directories alone. -/
theorem lookup_eq_contents_iff {path : String} {bytes : List Byte} :
    tree.lookup path = .contents bytes ↔
      IsFollowable path ∧ (∀ passed ∈ Location.onTheWay path, tree.IsOpen passed) ∧
        tree.files.lookup (.ofPath path) = some bytes := by
  have isFile (place? : Option Place) :
      finding place? = .contents bytes ↔ place? = some (.file bytes) := by
    unfold finding
    split <;> simp
  rcases Location.exists_names_eq_concat path with ⟨outer, last, names, onTheWay, ofPath⟩
  rw [lookup_eq_iff (by simp), isFile, names, onTheWay, ofPath, foldlM_step?_eq_file_iff]

/-- What is there and cannot be read is a directory. -/
theorem lookup_eq_unreadable_iff {path reason : String} :
    tree.lookup path = .unreadable reason ↔
      IsFollowable path ∧
        (∀ passed ∈ (Location.origin path).trail (Location.names path), tree.IsOpen passed) ∧
        reason = "Is a directory (os error 21)" := by
  have isDirectory (place? : Option Place) : finding place? = .unreadable reason ↔
      (∃ location, place? = some (.directory location)) ∧
        reason = "Is a directory (os error 21)" := by
    unfold finding
    split <;> simp [eq_comm]
  rw [lookup_eq_iff (by simp), isDirectory]
  simp [foldlM_step?_eq_directory_iff]

end

/-! ### Trees made from paths -/

theorem hasDirectory_of_mem {tree : FileTree} {location : Location}
    (listed : location ∈ tree.directories) : tree.hasDirectory location = true := by
  simp [hasDirectory, listed]

theorem hasDirectory_ofPaths_of_written (directories : List String)
    {files : List (String × List Byte)} {file : String × List Byte} (written : file ∈ files)
    {location : Location} (passed : location ∈ Location.onTheWay file.1) :
    (ofPaths directories files).hasDirectory location = true := by
  apply hasDirectory_of_mem
  apply List.mem_append_right
  exact List.mem_flatMap.mpr ⟨file, written, passed⟩

theorem hasDirectory_ofPaths_of_made {directories : List String}
    (files : List (String × List Byte)) {path : String} (made : path ∈ directories)
    {location : Location}
    (passed : location ∈ (Location.origin path).trail (Location.names path)) :
    (ofPaths directories files).hasDirectory location = true := by
  apply hasDirectory_of_mem
  apply List.mem_append_left
  exact List.mem_flatMap.mpr ⟨path, made, passed⟩

/-- What stands in a place is what was written there last. -/
theorem lookup_files_ofPaths_eq_some_iff {directories : List String}
    {files : List (String × List Byte)} {location : Location} {bytes : List Byte} :
    (ofPaths directories files).files.lookup location = some bytes ↔
      ∃ before path after, files = before ++ (path, bytes) :: after ∧
        Location.ofPath path = location ∧ ∀ later ∈ after, Location.ofPath later.1 ≠ location := by
  rw [ofPaths, List.lookup_eq_some_iff]
  constructor
  · rintro ⟨after, before, split, others⟩
    rw [List.reverse_eq_iff, List.reverse_append, List.reverse_cons, List.append_assoc,
      List.singleton_append] at split
    rcases List.map_eq_append_iff.mp split with ⟨front, back, rfl, -, placed⟩
    rcases List.map_eq_cons_iff.mp placed with ⟨⟨path, _⟩, later, rfl, same, laterPlaced⟩
    rcases Prod.mk.inj same with ⟨rfl, rfl⟩
    refine ⟨front, path, later, rfl, rfl, ?_⟩
    intro file member
    have inAfter : (Location.ofPath file.1, file.2) ∈ after := by
      rw [← List.mem_reverse, ← laterPlaced]
      exact List.mem_map_of_mem member
    exact (bne_iff_ne.mp (others _ inAfter)).symm
  · rintro ⟨before, path, after, rfl, rfl, others⟩
    refine ⟨(after.map fun file => (Location.ofPath file.1, file.2)).reverse,
      (before.map fun file => (Location.ofPath file.1, file.2)).reverse, by simp, ?_⟩
    intro placed member
    rcases List.mem_map.mp (List.mem_reverse.mp member) with ⟨file, isLater, rfl⟩
    exact bne_iff_ne.mpr (others file isLater).symm

theorem isOpen_ofPaths {directories : List String} {files : List (String × List Byte)}
    {location : Location} (noFile : ∀ file ∈ files, Location.ofPath file.1 ≠ location)
    (isDirectory : (ofPaths directories files).hasDirectory location = true) :
    (ofPaths directories files).IsOpen location := by
  refine ⟨?_, isDirectory⟩
  apply Option.eq_none_iff_forall_ne_some.mpr
  intro bytes found
  rcases lookup_files_ofPaths_eq_some_iff.mp found with ⟨before, path, after, rfl, stands, _⟩
  exact noFile (path, bytes) (by simp) stands

/-- Everything that is found in a file was written to its place, and nothing was written there
afterwards. -/
theorem exists_of_lookup_ofPaths {directories : List String} {files : List (String × List Byte)}
    {path : String} {bytes : List Byte}
    (found : (ofPaths directories files).lookup path = .contents bytes) :
    ∃ before written after, files = before ++ (written, bytes) :: after ∧
      Location.ofPath written = Location.ofPath path ∧
      ∀ later ∈ after, Location.ofPath later.1 ≠ Location.ofPath path :=
  lookup_files_ofPaths_eq_some_iff.mp (lookup_eq_contents_iff.mp found).2.2

/-- A file is found under the path under which it was written last, unless another file stands on
the way. Every directory on the way was made for it. -/
theorem lookup_ofPaths_of_lastWritten (directories : List String)
    {before after : List (String × List Byte)} {path : String} (bytes : List Byte)
    (followable : IsFollowable path)
    (lastWritten : ∀ later ∈ after, Location.ofPath later.1 ≠ Location.ofPath path)
    (noFileOnTheWay : ∀ file ∈ before ++ (path, bytes) :: after,
      Location.ofPath file.1 ∉ Location.onTheWay path) :
    (ofPaths directories (before ++ (path, bytes) :: after)).lookup path = .contents bytes := by
  apply lookup_eq_contents_iff.mpr
  refine ⟨followable, ?_, ?_⟩
  · intro location passed
    have written : (path, bytes) ∈ before ++ (path, bytes) :: after := by simp
    have isDirectory := hasDirectory_ofPaths_of_written directories written passed
    refine isOpen_ofPaths ?_ isDirectory
    rintro file isFile rfl
    exact noFileOnTheWay file isFile passed
  · exact lookup_files_ofPaths_eq_some_iff.mpr ⟨before, path, after, rfl, rfl, lastWritten⟩

/-- The names of a path are taken one by one, so there is more than one path to a file. -/
example :
    (ofPaths [] [("a/b", [1]), ("a/c", []), ("a/b", [2])]).lookup "./a/..//a/b" =
      .contents [2] := by
  decide

/-- A directory that was made is found as one, unless a file stands in its place or on the way. -/
theorem lookup_ofPaths_of_made {directories : List String} {files : List (String × List Byte)}
    {path : String} (followable : IsFollowable path) (made : path ∈ directories)
    (noFileOnTheWay : ∀ file ∈ files,
      Location.ofPath file.1 ∉ (Location.origin path).trail (Location.names path)) :
    (ofPaths directories files).lookup path = .unreadable "Is a directory (os error 21)" := by
  apply lookup_eq_unreadable_iff.mpr
  refine ⟨followable, ?_, rfl⟩
  intro location passed
  have isDirectory := hasDirectory_ofPaths_of_made files made passed
  refine isOpen_ofPaths ?_ isDirectory
  rintro file isFile rfl
  exact noFileOnTheWay file isFile passed

end FileTree

end MonkeyLexis.CommandLine
