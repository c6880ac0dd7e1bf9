import TypedJson.Proofs.Disk.Way
import TypedJson.Proofs.Glob.Still

/-
This file looks for a file in a tree with a glob. Names lead to the file from a folder that the
search has reached, and parts lead along these names; then the search finds a path of the file. A
step of the search is a step on the way, so one round keeps this, until no name is left.
-/

namespace TypedJson.Glob

open Disk (Tree)
open Disk.Tree (IsName)

/-! ### Paths that are put together -/

section

variable {folder name : String}

/-- A path below a folder is the folder and the name. -/
theorem place_eq (folder name : String) : place folder name = place folder "" ++ name := by
  unfold place Path.join
  split
  · simp
  · split <;> simp

/-- A path below a folder is as long as both together. -/
theorem size_place (folder name : String) :
    (place folder name).utf8ByteSize = (place folder "").utf8ByteSize + name.utf8ByteSize := by
  rw [place_eq, String.utf8ByteSize_append]

/-- Before a name there is the folder and a slash at most. -/
theorem size_place_empty_le (folder : String) :
    (place folder "").utf8ByteSize ≤ folder.utf8ByteSize + 1 := by
  unfold place Path.join
  split
  · simp
  · split
    · simp
    · have slash : "/".utf8ByteSize = 1 := rfl
      simp [String.utf8ByteSize_append, slash]

/-- From the working folder, only a dot leads to the working folder again. -/
theorem isHere_of_isHere_place (single : '/' ∉ name.toList) (notEmpty : folder ≠ "")
    (isHere : Path.isHere (place folder name) = true) :
    Path.isHere folder = true ∧ name = "." := by
  obtain ⟨rest, parts, dots⟩ := Disk.Tree.isHere_iff.mp isHere
  unfold place at parts
  split at parts
  · rename_i starts
    rw [slashParts, splitAt_of_notMem single] at parts
    exact ⟨starts, by simpa using (List.cons.inj parts).1⟩
  · rename_i elsewhere
    -- joined to a folder, the path has all names of the folder, so the folder was one of dots
    refine absurd (Disk.Tree.isHere_iff.mpr ?_) elsewhere
    obtain ⟨front, filled, joined, isFront⟩ := Disk.Tree.slashParts_join notEmpty single
    obtain ⟨first, others, rfl⟩ := List.exists_cons_of_ne_nil filled
    obtain ⟨rfl, rfl⟩ := List.cons.inj (joined.symm.trans parts)
    have dotsBefore (other : String) (inside : other ∈ others) : other = "" ∨ other = "." :=
      dots other (List.mem_append_left _ inside)
    rcases isFront with same | same
    · exact ⟨others, same, dotsBefore⟩
    · refine ⟨others ++ [""], same, ?_⟩
      rw [List.forall_mem_append]
      exact ⟨dotsBefore, by simp⟩

end

/-! ### The way to the file -/

section

variable {tree : Tree} {final : List String} {folder name : String} {names : List String}

/--
Names lead from a folder that the search has reached to where the file is. The whole path stays
short enough, and no empty name comes where the working folder is not named.
-/
structure Trail (tree : Tree) (final : List String) (folder : String) (names : List String) :
    Prop where
  walked : (tree.wayOf folder >>= fun way => names.foldlM tree.step way) = .ok final
  single : ∀ name ∈ names, '/' ∉ name.toList
  short : (place folder "").utf8ByteSize + endedSize names ≤ Tree.pathLimit + 1
  starts : Path.isHere folder = true → (names.dropWhile (· == ".")).head? ≠ some ""

/-- Where a name leads from a folder. -/
structure Step (tree : Tree) (folder name : String) (way next : List String) : Prop where
  reached : tree.wayOf folder = .ok way
  stepped : tree.step way name = .ok next
  placed : tree.wayOf (place folder name) = .ok next

/-- A name behind a folder leads where it leads in the folder. -/
theorem wayOf_place {way : List String} (found : tree.wayOf folder = .ok way)
    (single : '/' ∉ name.toList) (starts : Path.isHere folder = true → name ≠ "")
    (short : (place folder name).utf8ByteSize ≤ Tree.pathLimit) :
    tree.wayOf (place folder name) = tree.step way name := by
  unfold place at short ⊢
  split at short
  · rename_i isHere
    rw [if_pos isHere, Disk.Tree.wayOf_name single (starts isHere) short,
      Disk.Tree.wayOf_isHere isHere found]
  · rename_i elsewhere
    rw [if_neg elsewhere, Disk.Tree.wayOf_join found single short]

/-- A trail has a first step. -/
theorem Trail.step (trail : Trail tree final folder (name :: names)) :
    ∃ way next, Step tree folder name way next := by
  obtain ⟨way, found, walked⟩ := bind_eq_ok.mp trail.walked
  rw [List.foldlM_cons] at walked
  obtain ⟨next, stepped, -⟩ := bind_eq_ok.mp walked
  have short := trail.short
  rw [endedSize] at short
  have starts (isHere : Path.isHere folder = true) : name ≠ "" := by
    rintro rfl
    exact trail.starts isHere (by simp)
  refine ⟨way, next, found, stepped, ?_⟩
  rw [wayOf_place found (List.forall_mem_cons.mp trail.single).1 starts
    (by rw [size_place]; omega), stepped]

/-- The other names lead on from where the first one leads. -/
theorem Trail.rest (trail : Trail tree final folder (name :: names)) :
    Trail tree final (place folder name) names := by
  obtain ⟨way, next, step⟩ := trail.step
  obtain ⟨single, others⟩ := List.forall_mem_cons.mp trail.single
  have walked := trail.walked
  rw [step.reached] at walked
  refine ⟨?_, others, ?_, ?_⟩
  · change (name :: names).foldlM tree.step way = _ at walked
    rw [List.foldlM_cons, step.stepped] at walked
    rw [step.placed]
    exact walked
  · have short := trail.short
    have above := size_place_empty_le (place folder name)
    rw [endedSize] at short
    rw [size_place folder name] at above
    omega
  · intro isHere same
    obtain ⟨hereBefore, rfl⟩ :=
      isHere_of_isHere_place single (Disk.Tree.wayOf_eq_ok step.reached).1 isHere
    exact trail.starts hereBefore (by simpa using same)

/-- Something is where the search has come, if there is something at the end of the way. -/
theorem Trail.isSome_kindAt? {way : List String} (trail : Trail tree final folder names)
    (found : tree.wayOf folder = .ok way) (there : (tree.kindAt? final).isSome = true) :
    (tree.kindAt? way).isSome = true := by
  have walked := trail.walked
  rw [found] at walked
  cases names with
  | nil =>
      obtain rfl := Except.ok.inj walked
      exact there
  | cons name others =>
      change (name :: others).foldlM tree.step way = _ at walked
      rw [List.foldlM_cons] at walked
      obtain ⟨next, stepped, -⟩ := bind_eq_ok.mp walked
      simp [Disk.Tree.kindAt?_of_step stepped]

end

/-! ### The search -/

section

variable {First Second : Type} {right middle : First → Prop} {after : Second → Prop}

/-- A search ends, with a result of this kind. -/
def Yields (search : ExceptT Unlisted Id First) (right : First → Prop) : Prop :=
  ∃ result, search.run.run = .ok result ∧ right result

namespace Yields

/-- A result is found at once. -/
theorem pure {result : First} (isRight : right result) : Yields (Pure.pure result) right :=
  ⟨result, rfl, isRight⟩

theorem bind {search : ExceptT Unlisted Id First} {next : First → ExceptT Unlisted Id Second}
    (first : Yields search middle) (second : ∀ result, middle result → Yields (next result) after) :
    Yields (search >>= next) after := by
  obtain ⟨result, found, isMiddle⟩ := first
  obtain ⟨final, foundNext, isRight⟩ := second result isMiddle
  refine ⟨final, ?_, isRight⟩
  rw [ExceptT.run_bind, Id.run_bind, found]
  exact foundNext

/-- A look at the disk comes first. -/
theorem look {seen : Id First} {next : First → ExceptT Unlisted Id Second}
    (second : Yields (next seen.run) after) : Yields (liftM seen >>= next) after := second

/-- What a search yields may be said in weaker words. -/
theorem weaken {search : ExceptT Unlisted Id First} (yields : Yields search middle)
    (weaker : ∀ result, middle result → right result) : Yields search right := by
  obtain ⟨result, found, isMiddle⟩ := yields
  exact ⟨result, found, weaker result isMiddle⟩

theorem mapM {search : First → ExceptT Unlisted Id Second} {related : First → Second → Prop}
    {items : List First} (each : ∀ item ∈ items, Yields (search item) (related item)) :
    Yields (items.mapM search) (List.Forall₂ related items) := by
  induction items with
  | nil => exact .pure .nil
  | cons item rest ih =>
      rw [List.mapM_cons]
      obtain ⟨first, others⟩ := List.forall_mem_cons.mp each
      refine first.bind fun result isRelated => ?_
      exact (ih others).bind fun results areRelated => .pure (.cons isRelated areRelated)

end Yields

end

/-- A search ends. -/
abbrev Ends {Result : Type} (search : ExceptT Unlisted Id Result) : Prop :=
  Yields search fun _ => True

/-- A search ends, and one of the paths that it finds leads to where the file is. -/
abbrev Reaches (tree : Tree) (final : List String) (search : ExceptT Unlisted Id (List String)) :
    Prop :=
  Yields search fun paths => ∃ path ∈ paths, tree.wayOf path = .ok final

section

variable {tree : Tree} {final : List String} {folder name : String} {names : List String}
  {foldersOnly : Bool} {fuel : Nat} {part : Part} {parts rest : List Part}

/-- A tree says that a path is a folder just if it is one. -/
theorem run_isFolder (tree : Tree) (path : String) :
    ((Tree.disk.shown tree).isFolder path).run = decide (tree.kind? path = some .folder) := rfl

/-- The names are all that is right below a folder, if it is one. -/
def Lists (tree : Tree) (folder : String) (names : List String) : Prop :=
  ∀ way, tree.wayOf folder = .ok way → tree.kindAt? way = some .folder →
    ∀ name ∈ tree.namesBelow way, name ∈ names

/-- The names below a folder are listed. -/
theorem sortedNames_yields (tree : Tree) (folder : String) :
    Yields (sortedNames (Tree.disk.shown tree) folder) (Lists tree folder) := by
  unfold sortedNames
  apply Yields.look
  rw [run_isFolder]
  split
  · rename_i isFolder
    rw [decide_eq_true_eq, Tree.kind?] at isFolder
    split at isFolder
    · rename_i way found
      have listed : ((Tree.disk.shown tree).names folder).run = .ok (tree.namesBelow way) := by
        change tree.names folder = _
        simp only [Tree.names, found, bind, Except.bind, isFolder]
        rfl
      apply Yields.look
      rw [listed]
      apply Yields.pure
      intro other foundOther _ name inside
      obtain rfl := Except.ok.inj (found.symm.trans foundOther)
      rwa [List.mem_mergeSort]
    · simp at isFolder
  · rename_i isNot
    refine .pure fun way found inFolder => absurd ?_ isNot
    rw [decide_eq_true_eq, Tree.kind?, found]
    exact inFolder

/-- A search from a name ends if the search below does. -/
theorem fromName_ends {below : List Part → String → ExceptT Unlisted Id (List String)}
    (ends : ∀ parts path, Ends (below parts path)) (contents : Disk Id) (parts : List Part)
    (name path : String) : Ends (fromName below contents parts name path) := by
  have either (part : Part) (rest : List Part) :
      Ends (if part.isMatch name then below rest path else pure []) := by
    split
    · exact ends rest path
    · exact .pure trivial
  have deeper (rest : List Part) (own : List String) :
      Ends (do return own ++ (← below rest path)) := (ends rest path).bind fun _ _ => .pure trivial
  cases parts with
  | nil => exact .pure trivial
  | cons part rest =>
      cases part with
      | name text => exact either (.name text) rest
      | tokens list => exact either (.tokens list) rest
      | folders =>
          unfold fromName
          dsimp only
          cases afterFolders (.folders :: rest) with
          | nil =>
              apply Yields.look
              split <;> exact deeper _ _
          | cons part after =>
              dsimp only
              split
              · exact (ends after path).bind fun own _ => deeper _ own
              · exact deeper _ []

section

variable {below : List Part → String → ExceptT Unlisted Id (List String)} {contents : Disk Id}
  {path : String} {list : List Token} {after : List Part}

/-- A name that fits is passed, and the search goes on behind it. -/
theorem fromName_tokens (fits : isMatch list name.toList = true) :
    fromName below contents (.tokens list :: rest) name path = below rest path := by
  change (if isMatch list name.toList then below rest path else pure []) = _
  rw [if_pos fits]

/-- Where a part for folders may end, the search goes on behind it and with it. -/
theorem fromName_behind (next : afterFolders rest = part :: after)
    (fits : part.isMatch name = true) :
    fromName below contents (.folders :: rest) name path =
      (do return (← below after path) ++ (← below (.folders :: part :: after) path)) := by
  unfold fromName
  dsimp only
  rw [afterFolders, next]
  dsimp only
  rw [if_pos fits]

/-- A part for folders may be passed by going deeper. -/
theorem fromName_deeper (ends : ∀ parts path, Ends (below parts path))
    (found : Reaches tree final (below (.folders :: afterFolders rest) path)) :
    Reaches tree final (fromName below contents (.folders :: rest) name path) := by
  have deeper (own : List String) : Reaches tree final
      (do return own ++ (← below (.folders :: afterFolders rest) path)) := by
    apply found.bind
    rintro paths ⟨path, inside, leads⟩
    exact .pure ⟨path, List.mem_append_right _ inside, leads⟩
  unfold fromName
  dsimp only
  rw [afterFolders]
  split
  · apply Yields.look
    split <;> exact deeper _
  · split
    · exact (ends _ path).bind fun own _ => deeper own
    · exact deeper []

end

/-- The matches that are reached from the names in a folder. -/
def fromNames (tree : Tree) (foldersOnly : Bool) (fuel : Nat) (parts : List Part) (folder : String)
    (names : List String) : ExceptT Unlisted Id (List (List String)) :=
  names.mapM fun name => fromName (below (Tree.disk.shown tree) foldersOnly fuel)
    (Tree.disk.shown tree) parts name (place folder name)

/-- A round goes through the names of a folder; what else it finds does not matter. -/
theorem below_round {right : List String → Prop} (isListed : ∀ text, part ≠ .name text)
    (inside : ∀ names, Lists tree folder names →
      Yields (fromNames tree foldersOnly fuel (part :: rest) folder names)
        fun found => ∀ special, right (special ++ found.flatten))
    (ends : ∀ parts path, Ends (below (Tree.disk.shown tree) foldersOnly fuel parts path)) :
    Yields (below (Tree.disk.shown tree) foldersOnly (fuel + 1) (part :: rest) folder) right := by
  have started : Yields (do
      let names ← sortedNames (Tree.disk.shown tree) folder
      if ← (Tree.disk.shown tree).isFolder folder then
        let special ← (dotNames part).mapM fun name =>
          below (Tree.disk.shown tree) foldersOnly fuel rest (Path.join folder name)
        let found ← fromNames tree foldersOnly fuel (part :: rest) folder names
        return special.flatten ++ found.flatten
      else
        let found ← fromNames tree foldersOnly fuel (part :: rest) folder names
        return [].flatten ++ found.flatten) right := by
    apply (sortedNames_yields tree folder).bind
    intro names listed
    apply Yields.look
    split
    · apply (Yields.mapM fun name _ => ends rest (Path.join folder name)).bind
      intro special _
      exact (inside names listed).bind fun found isRight => .pure (isRight _)
    · exact (inside names listed).bind fun found isRight => .pure (isRight _)
  cases part with
  | name text => exact absurd rfl (isListed text)
  | folders => exact started
  | tokens list => exact started

/-- In a tree, each search ends: a folder that is there can be listed. -/
theorem below_ends (tree : Tree) (foldersOnly : Bool) (fuel : Nat) (parts : List Part)
    (path : String) : Ends (below (Tree.disk.shown tree) foldersOnly fuel parts path) := by
  induction fuel generalizing parts path with
  | zero => exact .pure trivial
  | succ fuel ih =>
      have listed {part : Part} {rest : List Part} (isListed : ∀ text, part ≠ .name text) :
          Ends (below (Tree.disk.shown tree) foldersOnly (fuel + 1) (part :: rest) path) := by
        refine below_round isListed (fun names _ => ?_) ih
        have each := fromName_ends ih (Tree.disk.shown tree) (part :: rest)
        exact (Yields.mapM fun name _ => each name _).weaken fun _ _ _ => trivial
      cases parts with
      | nil =>
          unfold below
          apply Yields.look
          split <;> exact .pure trivial
      | cons part rest =>
          cases part with
          | name text =>
              unfold below
              apply Yields.look
              split
              · exact ih rest _
              · exact .pure trivial
          | folders => exact listed (by simp)
          | tokens list => exact listed (by simp)

/-- The next name is listed, so the file is found if it is reached from there. -/
theorem reaches_of_name (trail : Trail tree final folder (name :: names)) (isName : IsName name)
    (there : (tree.kindAt? final).isSome = true) (isListed : ∀ text, part ≠ .name text)
    (found : Reaches tree final (fromName (below (Tree.disk.shown tree) foldersOnly fuel)
      (Tree.disk.shown tree) (part :: rest) name (place folder name))) :
    Reaches tree final
      (below (Tree.disk.shown tree) foldersOnly (fuel + 1) (part :: rest) folder) := by
  obtain ⟨way, next, step⟩ := trail.step
  refine below_round isListed (fun all listed => ?_) (below_ends tree foldersOnly fuel)
  have isIn : name ∈ all := by
    apply listed way step.reached (Disk.Tree.kindAt?_of_step step.stepped)
    apply Disk.Tree.mem_namesBelow
    rw [← Disk.Tree.step_name isName step.stepped]
    exact trail.rest.isSome_kindAt? step.placed there
  -- the other names have to end the search as well, but nothing is known of what they find
  have each : ∀ other ∈ all, Yields (fromName (below (Tree.disk.shown tree) foldersOnly fuel)
      (Tree.disk.shown tree) (part :: rest) other (place folder other))
      fun paths => other = name → ∃ path ∈ paths, tree.wayOf path = .ok final := by
    intro other _
    by_cases same : other = name
    · rw [same]
      exact found.weaken fun paths isRight _ => isRight
    · apply (fromName_ends (below_ends tree foldersOnly fuel) _ _ other _).weaken
      exact fun paths _ isSame => absurd isSame same
  apply (Yields.mapM each).weaken
  intro lists areRight special
  obtain ⟨paths, inside, isRight⟩ := exists_right_of_forall₂ areRight isIn
  obtain ⟨path, inPaths, leads⟩ := isRight rfl
  exact ⟨path, List.mem_append_right _ (List.mem_flatten_of_mem inside inPaths), leads⟩

/-! ### Completeness -/

/-- The parts of a glob lead along names, each to the next one. -/
inductive Leads : List Part → List String → Prop
  | none : Leads [] []
  | name {text : String} {rest : List Part} {names : List String} (others : Leads rest names) :
    Leads (.name text :: rest) (text :: names)
  | tokens {list : List Token} {rest : List Part} {name : String} {names : List String}
    (isName : IsName name) (fits : isMatch list name.toList = true) (others : Leads rest names) :
    Leads (.tokens list :: rest) (name :: names)
  /-- The name is one of the folders. -/
  | deeper {rest : List Part} {name : String} {names : List String} (isName : IsName name)
    (others : Leads (.folders :: afterFolders rest) names) :
    Leads (.folders :: rest) (name :: names)
  /-- The name is the one behind the folders. -/
  | behind {rest after : List Part} {part : Part} {name : String} {names : List String}
    (isName : IsName name) (next : afterFolders rest = part :: after)
    (fits : part.isMatch name = true) (others : Leads after names) :
    Leads (.folders :: rest) (name :: names)

/-- A special name is there in a folder, and another one if something is at its path. -/
theorem run_hasName (trail : Trail tree final folder (name :: names))
    (there : (tree.kindAt? final).isSome = true) :
    (hasName (Tree.disk.shown tree) folder name).run = true := by
  obtain ⟨way, next, step⟩ := trail.step
  unfold hasName
  split
  · rw [run_isFolder, decide_eq_true_eq, Tree.kind?, step.reached]
    exact Disk.Tree.kindAt?_of_step step.stepped
  · change (tree.kind? (place folder name)).isSome = true
    rw [Tree.kind?, step.placed]
    exact trail.rest.isSome_kindAt? step.placed there

/-- Whatever the parts of a glob lead to is found, if there are rounds enough. -/
theorem reaches_of_leads (leads : Leads parts names) (trail : Trail tree final folder names)
    (there : (tree.kindAt? final).isSome = true) (enough : names.length < fuel) :
    Reaches tree final (below (Tree.disk.shown tree) false fuel parts folder) := by
  -- the parts choose the branch of a round, and the rest of the trail starts the next one
  induction leads generalizing folder fuel with
  | none =>
      obtain ⟨fuel, rfl⟩ := Nat.exists_eq_succ_of_ne_zero (Nat.ne_of_gt enough)
      obtain ⟨way, found, walked⟩ := bind_eq_ok.mp trail.walked
      obtain rfl := Except.ok.inj walked
      exact .pure ⟨folder, List.mem_singleton_self folder, found⟩
  | name others ih =>
      obtain ⟨fuel, rfl⟩ := Nat.exists_eq_succ_of_ne_zero (Nat.ne_zero_of_lt enough)
      unfold below
      apply Yields.look
      rw [run_hasName trail there, if_pos rfl]
      exact ih trail.rest (Nat.lt_of_succ_lt_succ enough)
  | tokens isName fits others ih =>
      obtain ⟨fuel, rfl⟩ := Nat.exists_eq_succ_of_ne_zero (Nat.ne_zero_of_lt enough)
      apply reaches_of_name trail isName there (by simp)
      rw [fromName_tokens fits]
      exact ih trail.rest (Nat.lt_of_succ_lt_succ enough)
  | deeper isName others ih =>
      obtain ⟨fuel, rfl⟩ := Nat.exists_eq_succ_of_ne_zero (Nat.ne_zero_of_lt enough)
      apply reaches_of_name trail isName there (by simp)
      apply fromName_deeper (below_ends tree false fuel)
      exact ih trail.rest (Nat.lt_of_succ_lt_succ enough)
  | behind isName next fits others ih =>
      obtain ⟨fuel, rfl⟩ := Nat.exists_eq_succ_of_ne_zero (Nat.ne_zero_of_lt enough)
      apply reaches_of_name trail isName there (by simp)
      rw [fromName_behind next fits]
      apply (ih trail.rest (Nat.lt_of_succ_lt_succ enough)).bind
      rintro own ⟨path, inside, leads⟩
      apply (below_ends tree false fuel _ _).bind
      exact fun deeper _ => .pure ⟨path, List.mem_append_left _ inside, leads⟩

end

end TypedJson.Glob
