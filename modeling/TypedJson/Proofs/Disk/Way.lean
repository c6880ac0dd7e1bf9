import TypedJson.Disk.Tree
import TypedJson.Proofs.Result
import TypedJson.Proofs.Text.Split

namespace TypedJson

namespace Disk.Tree

variable {tree : Tree} {way final : List String} {folder name path : String}

/-- A name that stands for itself, not for a folder on the way. -/
def IsName (name : String) : Prop := name ≠ "" ∧ name ≠ "." ∧ name ≠ ".."

/-- The root of a tree is a folder. -/
theorem kindAt?_nil (tree : Tree) : tree.kindAt? [] = some .folder := by
  simp [kindAt?]

/-- A step is taken from a folder. -/
theorem kindAt?_of_step {next : List String} (stepped : tree.step way name = .ok next) :
    tree.kindAt? way = some .folder := by
  unfold step at stepped
  split at stepped
  · simp at stepped
  · simp at stepped
  · assumption

/-- An empty name stays in a folder. -/
theorem step_empty (inFolder : tree.kindAt? way = some .folder) : tree.step way "" = .ok way := by
  simp [step, inFolder]

/-- A proper name leads one name further. -/
theorem step_name {next : List String} (isName : IsName name)
    (stepped : tree.step way name = .ok next) : next = way ++ [name] := by
  obtain ⟨notEmpty, notHere, notUp⟩ := isName
  have inFolder := kindAt?_of_step stepped
  simp only [step, inFolder, notEmpty, notHere, notUp, or_self, if_false] at stepped
  split at stepped
  · simp at stepped
  · exact (Except.ok.inj stepped).symm

/-- What lies right below a folder is listed there. -/
theorem mem_namesBelow (there : (tree.kindAt? (way ++ [name])).isSome = true) :
    name ∈ tree.namesBelow way := by
  have listed : way ++ [name] ∈ tree.files.map Prod.fst ++ tree.folders := by
    unfold kindAt? at there
    rw [List.mem_append]
    split at there
    · rename_i isFolder
      exact .inr (by simpa using isFolder)
    · split at there
      · rename_i isFile
        left
        by_contra absent
        have unfound : tree.files.lookup (way ++ [name]) = none := by
          rw [List.lookup_eq_none_iff]
          intro file inside
          rw [bne_iff_ne]
          intro same
          exact absent (same ▸ List.mem_map_of_mem inside)
        simp [unfound] at isFile
      · simp at there
  rw [namesBelow, List.mem_filterMap]
  exact ⟨_, List.mem_filter.mpr ⟨listed, by simp⟩, by simp⟩

/-- The way of a path is walked name by name, from the root or the working folder. -/
theorem wayOf_eq (tree : Tree) (path : String) (notEmpty : path ≠ "")
    (short : path.utf8ByteSize ≤ pathLimit) :
    tree.wayOf path =
      (slashParts path).foldlM tree.step (if Path.isAbsolute path then [] else tree.here) := by
  rw [wayOf, walk, if_neg (by simpa using notEmpty), if_neg (by omega)]

/-- A folder that is known by its path has a path that is short enough and not empty. -/
theorem wayOf_eq_ok (found : tree.wayOf path = .ok way) :
    path ≠ "" ∧ path.utf8ByteSize ≤ pathLimit ∧
      (slashParts path).foldlM tree.step (if Path.isAbsolute path then [] else tree.here) =
        .ok way := by
  unfold wayOf walk at found
  split at found
  · simp at found
  · rename_i notEmpty
    split at found
    · simp at found
    · exact ⟨by simpa using notEmpty, by omega, found⟩

/-- What is put behind a folder does not change where the path starts. -/
theorem isAbsolute_append (notEmpty : folder ≠ "") (rest : String) :
    Path.isAbsolute (folder ++ rest) = Path.isAbsolute folder := by
  have chars : folder.toList ≠ [] := by simpa using notEmpty
  unfold Path.isAbsolute
  rw [String.toList_append, List.head?_append_of_ne_nil _ chars]

/-- A folder that ends in a slash has something before it. -/
theorem exists_before_slash (ends : folder.toList.getLast? = some '/') :
    ∃ before, folder = before ++ "/" := by
  refine ⟨String.ofList folder.toList.dropLast, ?_⟩
  apply String.toList_injective
  rw [String.toList_append, String.toList_ofList]
  exact (List.dropLast_append_getLast? _ ends).symm

/-- A walk by names and one more ends with the step by that name. -/
theorem foldlM_concat {start : List String} (names : List String) (name : String) :
    (names ++ [name]).foldlM tree.step start =
      names.foldlM tree.step start >>= fun way => tree.step way name := by
  rw [List.foldlM_append]
  congr 1
  funext way
  rw [List.foldlM_cons]
  exact bind_pure _

/-- A name behind a path comes after the names of the path, without the slash at its end. -/
theorem slashParts_join (notEmpty : folder ≠ "") (single : '/' ∉ name.toList) :
    ∃ front, front ≠ [] ∧ slashParts (Path.join folder name) = front ++ [name] ∧
      (slashParts folder = front ∨ slashParts folder = front ++ [""]) := by
  have filled (path : String) : slashParts path ≠ [] := by simp [slashParts, splitAt_ne_nil]
  unfold Path.join
  by_cases ends : folder.toList.getLast? = some '/'
  · rw [if_pos (by simp [ends])]
    obtain ⟨before, rfl⟩ := exists_before_slash ends
    refine ⟨slashParts before, filled before, slashParts_append before name single, .inr ?_⟩
    simpa using slashParts_append before "" (by simp)
  · rw [if_neg (by simp [ends, notEmpty])]
    exact ⟨slashParts folder, filled folder, slashParts_append folder name single, .inl rfl⟩

/-- A name put below a folder does not change where the path starts. -/
theorem isAbsolute_join (notEmpty : folder ≠ "") (name : String) :
    Path.isAbsolute (Path.join folder name) = Path.isAbsolute folder := by
  unfold Path.join
  split
  · exact isAbsolute_append notEmpty name
  · rw [String.append_assoc, isAbsolute_append notEmpty]

/-- A path below a folder is not empty. -/
theorem join_ne_empty (notEmpty : folder ≠ "") (name : String) : Path.join folder name ≠ "" := by
  unfold Path.join
  split <;> simp [notEmpty]

/-- A name behind the path of a folder leads one name further. -/
theorem wayOf_join (found : tree.wayOf folder = .ok way) (single : '/' ∉ name.toList)
    (short : (Path.join folder name).utf8ByteSize ≤ pathLimit) :
    tree.wayOf (Path.join folder name) = tree.step way name := by
  obtain ⟨notEmpty, -, walked⟩ := wayOf_eq_ok found
  obtain ⟨front, -, parts, isFront⟩ := slashParts_join notEmpty single
  -- a slash at the end of the folder reads as an empty name, which leads nowhere else
  have reached : front.foldlM tree.step (if Path.isAbsolute folder then [] else tree.here) =
      .ok way := by
    rcases isFront with same | same
    · rwa [same] at walked
    · rw [same, foldlM_concat] at walked
      obtain ⟨middle, reached, stepped⟩ := bind_eq_ok.mp walked
      obtain rfl := Except.ok.inj ((step_empty (kindAt?_of_step stepped)).symm.trans stepped)
      exact reached
  rw [wayOf_eq tree _ (join_ne_empty notEmpty name) short, isAbsolute_join notEmpty, parts,
    foldlM_concat, reached]
  rfl

/-! ### The working folder -/

/-- Empty names and single dots lead nowhere. -/
theorem walk_here {start : List String} (inFolder : tree.kindAt? start = some .folder)
    {names : List String} (none : ∀ name ∈ names, name = "" ∨ name = ".") :
    names.foldlM tree.step start = .ok start := by
  induction names with
  | nil => rfl
  | cons name rest ih =>
      obtain ⟨first, others⟩ := List.forall_mem_cons.mp none
      have stays : tree.step start name = .ok start := by simp [step, inFolder, first]
      rw [List.foldlM_cons, stays]
      exact ih others

/-- A path of dots and slashes leads nowhere else. -/
theorem wayOf_dots (notEmpty : path ≠ "") (short : path.utf8ByteSize ≤ pathLimit)
    (none : ∀ name ∈ slashParts path, name = "" ∨ name = ".")
    (inFolder : tree.kindAt? (if Path.isAbsolute path then [] else tree.here) = some .folder) :
    tree.wayOf path = .ok (if Path.isAbsolute path then [] else tree.here) := by
  rw [wayOf_eq tree path notEmpty short]
  exact walk_here inFolder none

/-- The first part of an absolute path is empty. -/
theorem slashParts_of_isAbsolute (absolute : Path.isAbsolute path = true) :
    slashParts path = "" :: slashParts (String.ofList path.toList.tail) := by
  unfold Path.isAbsolute at absolute
  cases chars : path.toList with
  | nil => simp [chars] at absolute
  | cons first rest =>
      obtain rfl : first = '/' := by simpa [chars] using absolute
      simp [slashParts, chars, splitAt]

/-- A path that leads to the working folder by dots is a dot with dots and slashes behind it. -/
theorem isHere_iff : Path.isHere path = true ↔
    ∃ rest, slashParts path = "." :: rest ∧ ∀ name ∈ rest, name = "" ∨ name = "." := by
  have dropped {all : List String} :
      Path.parts.names all = [] ↔ ∀ name ∈ all, name = "" ∨ name = "." := by
    rw [Path.parts.names, List.filter_eq_nil_iff]
    simp only [Bool.and_eq_true, bne_iff_ne, not_and_or, not_not]
  rw [Path.isHere, beq_iff_eq, Path.parts]
  split
  · rename_i rest parts
    rw [parts, List.cons.injEq, dropped]
    simp
  · rename_i unstarted
    constructor
    · intro isDot
      have inside : "." ∈ Path.parts.names (slashParts path) := by simp [isDot]
      simp [Path.parts.names] at inside
    · rintro ⟨rest, parts, -⟩
      exact absurd parts (unstarted rest)

/-- The working folder is not an absolute path. -/
theorem isAbsolute_of_isHere (isHere : Path.isHere path = true) :
    Path.isAbsolute path = false := by
  obtain ⟨rest, parts, -⟩ := isHere_iff.mp isHere
  rw [Bool.eq_false_iff]
  intro absolute
  simp [slashParts_of_isAbsolute absolute] at parts

/-- The path of the working folder by dots leads to the working folder. -/
theorem wayOf_isHere (isHere : Path.isHere folder = true) (found : tree.wayOf folder = .ok way) :
    way = tree.here := by
  obtain ⟨-, -, walked⟩ := wayOf_eq_ok found
  obtain ⟨rest, parts, dots⟩ := isHere_iff.mp isHere
  have inFolder : tree.kindAt? tree.here = some .folder := by
    rw [parts, isAbsolute_of_isHere isHere, List.foldlM_cons] at walked
    obtain ⟨middle, stepped, -⟩ := bind_eq_ok.mp walked
    exact kindAt?_of_step stepped
  have stays : (slashParts folder).foldlM tree.step tree.here = .ok tree.here := by
    apply walk_here inFolder
    rw [parts, List.forall_mem_cons]
    exact ⟨.inr rfl, dots⟩
  rw [isAbsolute_of_isHere isHere] at walked
  exact Except.ok.inj (walked.symm.trans stays)

/-- A name without a slash is a path from the working folder. -/
theorem wayOf_name (single : '/' ∉ name.toList) (notEmpty : name ≠ "")
    (short : name.utf8ByteSize ≤ pathLimit) : tree.wayOf name = tree.step tree.here name := by
  have relative : Path.isAbsolute name = false := by
    rw [Bool.eq_false_iff]
    intro absolute
    unfold Path.isAbsolute at absolute
    exact single (List.mem_of_head? (beq_iff_eq.mp absolute))
  have parts : slashParts name = [] ++ [name] := by
    simp [slashParts, splitAt_of_notMem single]
  rw [wayOf_eq tree name notEmpty short, parts, foldlM_concat, relative]
  rfl

end Disk.Tree

end TypedJson
