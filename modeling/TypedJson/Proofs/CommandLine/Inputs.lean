import TypedJson.Proofs.CommandLine.Check
import TypedJson.Proofs.Glob.Itself

namespace TypedJson.CommandLine

open Disk (Tree)
open Glob (FindsItself)

/-- The input gives these paths. -/
def Resolves (tree : Tree) (input : String) (paths : List String) : Prop :=
  (resolve Tree.disk input).run.run tree = (.ok paths, tree)

section

variable {tree : Tree} {source : Source} {byLine : Bool} {input path : String}
  {inputs paths : List String}

/-- An input names at least one path. -/
theorem Names.ne_nil {contents : Disk Id} (names : Names contents input paths) : paths ≠ [] := by
  unfold Names at names
  split at names
  · obtain ⟨glob, -, -, nonempty⟩ := names
    exact nonempty
  · simp [names]

/-- A glob names what it finds, if it finds something. -/
theorem names_glob {contents : Disk Id} {glob : Glob} (isGlob : Glob.isGlob input = true)
    (is : Glob.ofText input = .ok glob) (found : (glob.expand contents).run.run = .ok paths)
    (nonempty : paths ≠ []) : Names contents input paths := by
  rw [Names, if_pos isGlob]
  exact ⟨glob, is, found, nonempty⟩

/-- One input alone is looked up as it is among others. -/
theorem resolve_ends_alone (tree : Tree) (input : String) :
    Ends tree (resolve Tree.disk input) (Names (Tree.disk.shown tree) input)
      (Hinders (Tree.disk.shown tree) ⟨"", none, none⟩ false [input]) :=
  resolve_ends Tree.still_disk (List.mem_singleton_self input)

/-- The paths that an input names are those that looking it up gives. -/
theorem Names.resolves (names : Names (Tree.disk.shown tree) input paths) :
    Resolves tree input paths := by
  have ends : Ends tree (resolve Tree.disk input) (· = paths) fun _ => False := by
    unfold resolve
    unfold Names at names
    split
    · rename_i isGlob
      rw [if_pos isGlob] at names
      obtain ⟨glob, is, found, nonempty⟩ := names
      rw [is]
      refine .bind (.required (fun value same => Except.ok.inj same) (by simp)) ?_
      rintro _ rfl
      refine .look (Glob.expand_meets Tree.still_disk tree glob) ?_
      rw [found]
      refine .bind (.required (fun value same => Except.ok.inj same) (by simp)) ?_
      rintro _ rfl
      rw [if_neg (by simpa using nonempty)]
      exact .pure rfl
    · rename_i isNone
      rw [if_neg isNone] at names
      exact .pure names.symm
  cases ends with
  | done result ran isRight => rwa [isRight] at ran
  | stopped problem ran isThere => exact isThere.elim

/-- An input gives the paths that it names in the tree. -/
theorem resolves_iff : Resolves tree input paths ↔ Names (Tree.disk.shown tree) input paths := by
  constructor
  · intro resolves
    cases resolve_ends_alone tree input with
    | done result ran isRight =>
        obtain rfl := Except.ok.inj (Prod.mk.inj (resolves.symm.trans ran)).1
        exact isRight
    | stopped problem ran isThere =>
        exact absurd (Prod.mk.inj (resolves.symm.trans ran)).1 (by simp)
  · exact Names.resolves

/-- An input for a file, which finds itself if it is a glob. -/
structure Designates (tree : Tree) (input : String) : Prop where
  isFile : tree.kind? input = some .file
  finds : Glob.isGlob input = true → FindsItself input

/-- The file that is designated is among those that are found. -/
theorem Designates.names (designates : Designates tree input) :
    ∃ paths, Names (Tree.disk.shown tree) input paths ∧
      ∃ path ∈ paths, tree.wayOf path = tree.wayOf input := by
  unfold Names
  split
  · rename_i isGlob
    obtain ⟨glob, is, paths, found, path, inside, same⟩ :=
      (designates.finds isGlob).expand designates.isFile
    exact ⟨paths, ⟨glob, is, found, List.ne_nil_of_mem inside⟩, path, inside, same⟩
  · exact ⟨[input], rfl, input, List.mem_singleton_self input, rfl⟩

/-- Only a file has documents in it. -/
theorem HoldsDocuments.isFile {documents : List (String × Json.Value)}
    (holds : HoldsDocuments (Tree.disk.shown tree) byLine path documents) :
    tree.kind? path = some .file := by
  obtain ⟨text, read⟩ := holds.exists_text
  change tree.read path = .ok text.toUTF8 at read
  unfold Tree.read at read
  obtain ⟨way, found, shown⟩ := bind_eq_ok.mp read
  rw [Tree.kind?, found]
  dsimp only
  split at shown
  · simp at shown
  · simp at shown
  · assumption

/-- The paths that an input gives: some, and one of the file that it designates. -/
structure Finds (tree : Tree) (input : String) (paths : List String) : Prop where
  resolves : Resolves tree input paths
  nonempty : paths ≠ []
  itself : Designates tree input → ∃ path ∈ paths, tree.wayOf path = tree.wayOf input

/-- The paths that an input names are found for a reason. -/
theorem Names.finds (names : Names (Tree.disk.shown tree) input paths) :
    Finds tree input paths := by
  refine ⟨names.resolves, names.ne_nil, fun designates => ?_⟩
  obtain ⟨found, namesFound, itself⟩ := designates.names
  rwa [names.unique namesFound]

/-- Looking up an input leaves the disk as it is. -/
theorem resolve_still (tree : Tree) (input : String) :
    ((resolve Tree.disk input).run.run tree).2 = tree := by
  cases resolve_ends_alone tree input with
  | done result ran _ => rw [ran]
  | stopped problem ran _ => rw [ran]

/-- The inputs are resolved one after the other, each by itself. -/
theorem run_resolve_iff {lists : List (List String)} :
    (inputs.mapM (resolve Tree.disk)).run.run tree = (.ok lists, tree) ↔
      List.Forall₂ (Resolves tree) inputs lists := by
  have each (input : String) : (resolve Tree.disk input).run.run tree =
      (((resolve Tree.disk input).run.run tree).1, tree) :=
    Prod.ext rfl (resolve_still tree input)
  have resolvesTo {input : String} {paths : List String} :
      ((resolve Tree.disk input).run.run tree).1 = .ok paths ↔ Resolves tree input paths := by
    rw [Resolves, each, Prod.mk.injEq, and_iff_left rfl]
  rw [run_mapM each, Prod.mk.injEq, mapM_eq_ok, and_iff_left rfl]
  simp only [resolvesTo]

/-- A check ends with the reports on the documents that its inputs name. -/
theorem run_check_of_holds (verbose : Bool) {type : Descriptor} {lists : List (List String)}
    {parts : List (List (String × Json.Value))} (gives : source.Gives (Tree.disk.shown tree) type)
    (names : List.Forall₂ (Names (Tree.disk.shown tree)) inputs lists)
    (holds : List.Forall₂ (HoldsDocuments (Tree.disk.shown tree) byLine) lists.flatten parts) :
    (Request.run Tree.disk ⟨verbose, .check source byLine inputs⟩).run tree =
      ({ reportsOutcome (parts.flatten.map (reportOn type)) with
        errors := note verbose type ++
          (reportsOutcome (parts.flatten.map (reportOn type))).errors }, tree) := by
  have named : NamesDocuments (Tree.disk.shown tree) byLine inputs parts.flatten :=
    ⟨lists, parts, names, holds, rfl⟩
  have ends : Ends tree (check Tree.disk source byLine inputs verbose) _ _ :=
    check_ends_note Tree.still_disk
  rw [Request.run, StateT.run_bind, Request.work]
  cases ends with
  | done outcome ran isRight =>
      obtain ⟨other, documents, givesToo, namedToo, rfl⟩ := isRight
      obtain rfl := gives.unique givesToo
      obtain rfl := named.unique namedToo
      rw [ran]
      rfl
  | stopped problem ran isThere =>
      exact absurd (named.source_hinders isThere) (gives.not_hinders problem)

/--
No input is dropped, and none is taken for another. An input that designates a file resolves, and
wherever all inputs resolve, each of them finds paths, one of its own file among them. A check that
does not fail reports on the documents of all these paths, which are paths of files, in the order of
the inputs. An input that gives no path of a file makes the check fail.
-/
theorem run_check_finds (tree : Tree) (source : Source) (byLine verbose : Bool)
    (inputs : List String) :
    ∃ outcome,
      (Request.run Tree.disk ⟨verbose, .check source byLine inputs⟩).run tree = (outcome, tree) ∧
      (∀ input ∈ inputs, Designates tree input → ∃ paths, Resolves tree input paths) ∧
      (∀ lists, (inputs.mapM (resolve Tree.disk)).run.run tree = (.ok lists, tree) →
        List.Forall₂ (Finds tree) inputs lists) ∧
      (outcome.code ≠ 2 → ∃ type lists parts,
        source.Gives (Tree.disk.shown tree) type ∧
        (inputs.mapM (resolve Tree.disk)).run.run tree = (.ok lists, tree) ∧
        (∀ path ∈ lists.flatten, tree.kind? path = some .file) ∧
        List.Forall₂ (HoldsDocuments (Tree.disk.shown tree) byLine) lists.flatten parts ∧
        outcome = { reportsOutcome (parts.flatten.map (reportOn type)) with
          errors := note verbose type ++
            (reportsOutcome (parts.flatten.map (reportOn type))).errors }) ∧
      ((∃ input ∈ inputs, ∀ paths, Resolves tree input paths →
          ∀ path ∈ paths, tree.kind? path ≠ some .file) → outcome.code = 2) := by
  have designated : ∀ input ∈ inputs, Designates tree input →
      ∃ paths, Resolves tree input paths := by
    intro input _ designates
    obtain ⟨paths, names, -⟩ := designates.names
    exact ⟨paths, names.resolves⟩
  have found : ∀ lists, (inputs.mapM (resolve Tree.disk)).run.run tree = (.ok lists, tree) →
      List.Forall₂ (Finds tree) inputs lists := by
    intro lists ran
    exact (run_resolve_iff.mp ran).imp fun _ _ resolves => (resolves_iff.mp resolves).finds
  have ends : Ends tree (check Tree.disk source byLine inputs verbose) _ _ :=
    check_ends_note Tree.still_disk
  cases ends with
  | done outcome ran isRight =>
      obtain ⟨type, documents, gives, ⟨lists, parts, names, holds, rfl⟩, isOutcome⟩ := isRight
      have resolved : List.Forall₂ (Resolves tree) inputs lists :=
        names.imp fun _ _ here => here.resolves
      have areFiles : ∀ path ∈ lists.flatten, tree.kind? path = some .file := by
        intro path inside
        obtain ⟨documents, -, held⟩ := exists_right_of_forall₂ holds inside
        exact held.isFile
      refine ⟨outcome, ?_, designated, found, fun _ => ?_, ?_⟩
      · rw [Request.run, StateT.run_bind, Request.work, ran]
        rfl
      · exact ⟨type, lists, parts, gives, run_resolve_iff.mpr resolved, areFiles, holds, isOutcome⟩
      · -- had the check not failed, there would be a document in a path of this input
        rintro ⟨input, given, noFile⟩
        obtain ⟨paths, among, here⟩ := exists_right_of_forall₂ names given
        obtain ⟨path, inside⟩ := List.exists_mem_of_ne_nil _ here.ne_nil
        exact absurd (areFiles path (List.mem_flatten_of_mem among inside))
          (noFile paths here.resolves path inside)
  | stopped problem ran isThere =>
      refine ⟨problem.outcome, ?_, designated, found, fun notFailed => absurd rfl notFailed,
        fun _ => rfl⟩
      rw [Request.run, StateT.run_bind, Request.work, ran]
      rfl

end

/-! ### Names that look like globs -/

/-- Files whose names are globs that match the name of another file. -/
def globNames : Tree where
  files := [(["a1.json"], "\"x\"".toUTF8), (["a?.json"], "1".toUTF8),
    (["a[1].json"], "1".toUTF8), (["schema.json"], "\x7b\"type\": \"string\"\x7d".toUTF8)]
  folders := []
  here := []

/-- The names of the folder in their order. -/
theorem sortedNames_globNames : (Glob.sortedNames (Tree.disk.shown globNames) ".").run.run =
    .ok ["a1.json", "a?.json", "a[1].json", "schema.json"] := by
  have sorted : ["a1.json", "a?.json", "a[1].json", "schema.json"].mergeSort
      (fun first second => !decide (second < first)) =
        ["a1.json", "a?.json", "a[1].json", "schema.json"] := by
    apply List.mergeSort_of_pairwise
    decide
  exact congrArg Except.ok sorted

/-- An `a`, one character and the ending of the files. -/
def afterA (token : Glob.Token) : Glob where
  absolute := false
  parts := [.tokens [.char 'a', token, .char '.', .char 'j', .char 's', .char 'o', .char 'n']]
  foldersOnly := false

/-- The file with a question mark is found by its own name, beside another one. -/
theorem names_question :
    Names (Tree.disk.shown globNames) "a?.json" ["a1.json", "a?.json"] := by
  have is : Glob.ofText "a?.json" = .ok (afterA .anyChar) := rfl
  refine names_glob rfl is ?_ (by simp)
  change (Glob.below (Tree.disk.shown globNames) false (4096 + 1) (afterA .anyChar).parts
    ".").run.run = _
  unfold afterA Glob.below
  rw [ExceptT.run_bind, Id.run_bind, sortedNames_globNames]
  rfl

/-- The name with brackets finds the other file. -/
theorem names_bracket : Names (Tree.disk.shown globNames) "a[1].json" ["a1.json"] := by
  have is : Glob.ofText "a[1].json" = .ok (afterA (.set false [('1', '1')])) := rfl
  refine names_glob rfl is ?_ (by simp)
  change (Glob.below (Tree.disk.shown globNames) false (4096 + 1)
    (afterA (.set false [('1', '1')])).parts ".").run.run = _
  unfold afterA Glob.below
  rw [ExceptT.run_bind, Id.run_bind, sortedNames_globNames]
  rfl

/-- The name with a question mark is the path of a file. -/
theorem designates_question : Designates globNames "a?.json" := by
  refine ⟨rfl, fun _ => Glob.findsItself_of_no_set (by decide) ⟨_, rfl⟩ (by decide) ?_ ?_⟩
  · exact Glob.continues_of_notMem (by decide)
  · exact fun _ => by decide

def textSource : Source := ⟨"schema.json", none, none⟩

/-- The schema gives the type of strings. -/
theorem gives_textSource : textSource.Gives (Tree.disk.shown globNames) (.primitive .string) :=
  ⟨_, _, _, holdsJson_schema rfl, rfl, rfl, compile_text⟩

/-- The file that is found holds a string. -/
theorem holdsDocuments_a1 :
    HoldsDocuments (Tree.disk.shown globNames) false "a1.json" [("a1.json", .string "x")] := by
  have read : ((Tree.disk.shown globNames).read "a1.json").run = .ok "\"x\"".toUTF8 := rfl
  exact ⟨_, .of_text read rfl, rfl⟩

/-- A question mark in a name finds the file, here beside another one. -/
theorem run_check_finds_question :
    ∃ outcome lists, (Request.run Tree.disk ⟨false, .check textSource false ["a?.json"]⟩).run
        globNames = (outcome, globNames) ∧
      outcome.code = 1 ∧ List.Forall₂ (Finds globNames) ["a?.json"] lists ∧
      ∃ path ∈ lists.flatten, globNames.wayOf path = .ok ["a?.json"] := by
  have read : ((Tree.disk.shown globNames).read "a?.json").run = .ok "1".toUTF8 := rfl
  have number : HoldsDocuments (Tree.disk.shown globNames) false "a?.json"
      [("a?.json", .number (.integer 1 (by decide)))] := ⟨_, .of_text read rfl, rfl⟩
  have evaluated := run_check_of_holds false gives_textSource
    (.cons names_question .nil) (.cons holdsDocuments_a1 (.cons number .nil))
  obtain ⟨outcome, ran, -, finds, reports, -⟩ :=
    run_check_finds globNames textSource false false ["a?.json"]
  obtain rfl := (Prod.mk.inj (ran.symm.trans evaluated)).1
  obtain ⟨type, lists, parts, -, resolved, -⟩ := reports (by decide)
  have all := finds lists resolved
  refine ⟨_, lists, evaluated, by decide, all, ?_⟩
  cases all with
  | cons first none =>
      obtain ⟨path, inside, same⟩ := first.itself designates_question
      exact ⟨path, List.mem_flatten_of_mem List.mem_cons_self inside, same⟩

/-- A set of characters in a name finds another file, so the one that is named goes unchecked. -/
theorem run_check_bracket :
    globNames.kind? "a[1].json" = some .file ∧
      (Request.run Tree.disk ⟨false, .check textSource false ["a[1].json"]⟩).run globNames =
        (⟨0, "", "\u2705 a1.json\n"⟩, globNames) ∧
      ∀ paths, Resolves globNames "a[1].json" paths →
        ∀ path ∈ paths, globNames.wayOf path ≠ globNames.wayOf "a[1].json" := by
  refine ⟨rfl, ?_, ?_⟩
  · exact run_check_of_holds false gives_textSource (.cons names_bracket .nil)
      (.cons holdsDocuments_a1 .nil)
  · intro paths resolves path inside
    obtain rfl := names_bracket.unique (resolves_iff.mp resolves)
    obtain rfl := List.mem_singleton.mp inside
    intro same
    cases same

end TypedJson.CommandLine
