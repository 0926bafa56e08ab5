import TemplateLang.Files.Tree
import TemplateLang.Proofs.Reading

/-!
# Writing a file

A text that is written to a file changes the tree in the one place that the path leads to.
Every other place has what it had, directories included, and the path leads to the same place
afterwards, so that the text is read back from there.
-/

namespace TemplateLang.FileTree

variable {tree : FileTree} {path text : String} {place other : Location} {content : ByteArray}

/-- The names of a path lead to a place. -/
def Leads (tree : FileTree) (path : String) (place : Location) : Prop :=
  tree.walk (tree.startOf path) (Path.names path) = .ok place

/-- A tree after a text was written to the file of a path: the path leads to one place, which
was no directory and has the text, and all other places are as they were. -/
structure Written (before : FileTree) (path text : String) (after : FileTree) : Prop where
  here : after.here = before.here
  elsewhere : ∃ place, before.Leads path place ∧ before.node? place ≠ some .directory ∧
    after.node? place = some (.file text.toUTF8) ∧
    ∀ other, other ≠ place → after.node? other = before.node? other
  readBack : after.readText path = .ok text

/-! ## Putting a file into a tree -/

theorem find?_put (place other : Location) (content : ByteArray)
    (files : List (Location × ByteArray)) :
    (put place content files).find? (·.1 == other) =
      if place = other then some (place, content) else files.find? (·.1 == other) := by
  induction files with
  | nil => by_cases same : place = other <;> simp [put, same]
  | cons entry rest ih =>
    rw [put]
    by_cases isPlace : entry.1 = place
    · by_cases same : place = other <;> simp [isPlace, same]
    · rw [if_neg isPlace]
      rcases entry with ⟨first, old⟩
      by_cases isOther : first = other
      · have differ : place ≠ other := fun same => isPlace (isOther.trans same.symm)
        simp [isOther, differ]
      · simp [isOther, ih]

/-- The places of files are those before and the new one. -/
theorem any_put (place : Location) (content : ByteArray) (files : List (Location × ByteArray))
    (isSought : Location → Bool) :
    (put place content files).any (isSought ·.1) =
      (isSought place || files.any (isSought ·.1)) := by
  induction files with
  | nil => rfl
  | cons entry rest ih =>
    rw [put]
    by_cases isPlace : entry.1 = place
    · rw [if_pos isPlace, List.any_cons, List.any_cons, isPlace, ← Bool.or_assoc, Bool.or_self]
    · rw [if_neg isPlace, List.any_cons, List.any_cons, ih, Bool.or_left_comm]

/-- A place under which something is known, as that of a directory is. -/
def isAbove (tree : FileTree) (place : Location) : Bool :=
  place.isPrefixOf tree.here || tree.files.any (place.isPrefixOf ·.1) ||
    tree.directories.any (place.isPrefixOf ·)

theorem node?_eq (tree : FileTree) (place : Location) :
    tree.node? place =
      match tree.files.find? (·.1 == place) with
      | some (_, content) => some (.file content)
      | none => if tree.isAbove place then some .directory else none :=
  rfl

/-- What is on the way to a directory is a directory unless it is a file. -/
theorem isAbove_of_prefix {parent : Location} (isDirectory : tree.node? parent = some .directory)
    (onTheWay : other <+: parent) : tree.isAbove other = true := by
  have isAbove : tree.isAbove parent = true := by
    rw [node?_eq] at isDirectory
    cases isAbove : tree.isAbove parent with
    | true => rfl
    | false =>
      rw [isAbove] at isDirectory
      split at isDirectory <;> exact nomatch isDirectory
  have further : ∀ {below : Location}, parent.isPrefixOf below = true →
      other.isPrefixOf below = true := by
    intro below within
    rw [List.isPrefixOf_iff_prefix] at within ⊢
    exact onTheWay.trans within
  rw [FileTree.isAbove, Bool.or_eq_true, Bool.or_eq_true, List.any_eq_true,
    List.any_eq_true] at isAbove ⊢
  rcases isAbove with (isHere | ⟨entry, isIn, within⟩) | ⟨directory, isIn, within⟩
  · exact .inl (.inl (further isHere))
  · exact .inl (.inr ⟨entry, isIn, further within⟩)
  · exact .inr ⟨directory, isIn, further within⟩

/-- A file in a directory, new or old, is in one place of a tree and leaves all others. -/
theorem node?_put {parent : Location} {name : String}
    (isDirectory : tree.node? parent = some .directory) (differs : other ≠ parent ++ [name]) :
    node? { tree with files := put (parent ++ [name]) content tree.files } other =
      tree.node? other := by
  have sameFile := find?_put (parent ++ [name]) other content tree.files
  rw [if_neg (Ne.symm differs)] at sameFile
  have sameAbove : isAbove { tree with files := put (parent ++ [name]) content tree.files } other =
      tree.isAbove other := by
    by_cases onTheWay : other <+: parent ++ [name]
    · have above : tree.isAbove other = true :=
        isAbove_of_prefix isDirectory ((List.prefix_concat_iff.mp onTheWay).resolve_left differs)
      rw [above]
      rw [isAbove] at above ⊢
      rw [any_put]
      revert above
      cases other.isPrefixOf (parent ++ [name]) <;> simp
    · have notOnTheWay : other.isPrefixOf (parent ++ [name]) = false := by
        rw [← Bool.not_eq_true, List.isPrefixOf_iff_prefix]
        exact onTheWay
      rw [isAbove, any_put, notOnTheWay, Bool.false_or, isAbove]
  rw [node?_eq, node?_eq, sameAbove]
  simp only [sameFile]

/-- The file that was put into a tree is there. -/
theorem node?_put_self (tree : FileTree) (place : Location) (content : ByteArray) :
    node? { tree with files := put place content tree.files } place = some (.file content) := by
  have isThere := find?_put place place content tree.files
  rw [if_pos rfl] at isThere
  rw [node?_eq]
  simp only [isThere]

/-! ## Paths in trees that keep their directories -/

theorem requireDirectory_eq_ok :
    tree.requireDirectory place = .ok () ↔ tree.node? place = some .directory := by
  rw [requireDirectory]
  split <;> simp_all

/-- Names lead on from where the names before them lead. -/
theorem walk_append (tree : FileTree) (start : Location) (names names' : List String) :
    tree.walk start (names ++ names') =
      (tree.walk start names).bind fun place => tree.walk place names' := by
  induction names generalizing start with
  | nil => rfl
  | cons name rest ih =>
    rw [List.cons_append, walk, walk]
    cases tree.requireDirectory start with
    | error => rfl
    | ok =>
      cases step start name with
      | error => rfl
      | ok place => exact ih place

/-- Names lead to the same place in a tree where all directories are kept. -/
theorem walk_of_kept {tree after : FileTree}
    (kept : ∀ place, tree.node? place = some .directory → after.node? place = some .directory)
    {start place : Location} {names : List String} (leads : tree.walk start names = .ok place) :
    after.walk start names = .ok place := by
  induction names generalizing start with
  | nil => exact leads
  | cons name rest ih =>
    rw [walk, Reading.bind_eq_ok] at leads ⊢
    rcases leads with ⟨_, isDirectory, leads⟩
    rw [Reading.bind_eq_ok] at leads
    rcases leads with ⟨next, isStep, leads⟩
    refine ⟨(), requireDirectory_eq_ok.mpr (kept _ (requireDirectory_eq_ok.mp isDirectory)), ?_⟩
    rw [Reading.bind_eq_ok]
    exact ⟨next, isStep, ih leads⟩

/-! ## Writing -/

/-- What a text that was written shows of its path: it ends in a name in a directory, where no
directory is. -/
theorem writeText_eq_ok {after : FileTree} (written : tree.writeText path text = .ok after) :
    ∃ names name parent, checkPath path = .ok () ∧ Path.endsInSlash path = false ∧
      Path.names path = names ++ [name] ∧ tree.walk (tree.startOf path) names = .ok parent ∧
      tree.node? parent = some .directory ∧ step parent name = .ok (parent ++ [name]) ∧
      tree.node? (parent ++ [name]) ≠ some .directory ∧
      after = { tree with files := put (parent ++ [name]) text.toUTF8 tree.files } := by
  rw [writeText, Reading.bind_eq_ok] at written
  rcases written with ⟨_, isPath, written⟩
  rw [Reading.bind_eq_ok] at written
  rcases written with ⟨parent, leads, written⟩
  rw [Reading.bind_eq_ok] at written
  rcases written with ⟨_, isDirectory, written⟩
  cases isLast : (Path.names path).getLast? with
  | none => simp only [isLast] at written; exact nomatch written
  | some name =>
    simp only [isLast] at written
    split at written
    · exact nomatch written
    · rename_i isName
      simp only [Bool.or_eq_true, decide_eq_true_eq, not_or, Bool.not_eq_true] at isName
      rcases isName with ⟨⟨noSlash, notHere⟩, notUp⟩
      rw [Reading.bind_eq_ok] at written
      rcases written with ⟨place, isStep, written⟩
      have isNew : place = parent ++ [name] := by
        rw [step, if_neg notHere, if_neg notUp] at isStep
        split at isStep
        · exact nomatch isStep
        · exact (Except.ok.inj isStep).symm
      subst isNew
      rcases List.getLast?_eq_some_iff.mp isLast with ⟨names, isSplit⟩
      rw [isSplit, List.dropLast_concat] at leads
      split at written
      · exact nomatch written
      · rename_i notDirectory
        exact ⟨names, name, parent, isPath, noSlash, isSplit, leads,
          requireDirectory_eq_ok.mp isDirectory, isStep, notDirectory,
          (Except.ok.inj written).symm⟩

theorem fromUTF8?_toUTF8 (text : String) : String.fromUTF8? text.toUTF8 = some text := by
  rw [String.fromUTF8?, dif_pos (show text.toUTF8.IsValidUTF8 from text.isValidUTF8)]
  rfl

/-- A text that was written is in the place that the path leads to, and in no other one. -/
theorem written_of_writeText {after : FileTree} (given : tree.writeText path text = .ok after) :
    Written tree path text after := by
  rcases writeText_eq_ok given with ⟨names, name, parent, isPath, noSlash, isSplit, leads,
    isDirectory, isStep, notDirectory, rfl⟩
  have elsewhere : ∀ other, other ≠ parent ++ [name] →
      node? { tree with files := put (parent ++ [name]) text.toUTF8 tree.files } other =
        tree.node? other := fun _ => node?_put isDirectory
  have kept : ∀ place, tree.node? place = some .directory →
      node? { tree with files := put (parent ++ [name]) text.toUTF8 tree.files } place =
        some .directory := by
    intro place isDirectory'
    rw [elsewhere place fun same => notDirectory (same ▸ isDirectory')]
    exact isDirectory'
  have leadsOn : ∀ {tree' : FileTree}, tree'.node? parent = some .directory →
      tree'.walk parent [name] = .ok (parent ++ [name]) := by
    intro tree' isDirectory'
    rw [walk, requireDirectory_eq_ok.mpr isDirectory', isStep]
    rfl
  have leadsTo : ∀ {tree' : FileTree}, tree'.walk (tree.startOf path) names = .ok parent →
      tree'.node? parent = some .directory →
      tree'.walk (tree.startOf path) (Path.names path) = .ok (parent ++ [name]) := by
    intro tree' leads' isDirectory'
    rw [isSplit, walk_append, leads']
    exact leadsOn isDirectory'
  constructor
  · rfl
  · exact ⟨parent ++ [name], leadsTo leads isDirectory, notDirectory,
      node?_put_self tree _ _, elsewhere⟩
  · have found : find { tree with files := put (parent ++ [name]) text.toUTF8 tree.files } path =
        .ok (.file text.toUTF8) := by
      have leads' := leadsTo (walk_of_kept kept leads) (kept parent isDirectory)
      have isThere := node?_put_self tree (parent ++ [name]) text.toUTF8
      rw [find, isPath, Reading.bind_eq_ok]
      refine ⟨(), rfl, ?_⟩
      rw [Reading.bind_eq_ok]
      refine ⟨_, leads', ?_⟩
      simp only [noSlash, isThere]
      rfl
    rw [readText, found]
    simp only [fromUTF8?_toUTF8, bind, Except.bind]

end TemplateLang.FileTree
