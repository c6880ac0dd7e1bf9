import TypedJson.Proofs.CommandLine.Work
import TypedJson.Proofs.Descriptor.Report
import TypedJson.Proofs.Registry.Bytes
import TypedJson.Proofs.Result

namespace TypedJson.CommandLine

open Json (Value)

/-! ### Documents -/

/-- The paths that an input names: itself, or, for a glob, the matches, of which there are some. -/
def Names (contents : Disk Id) (input : String) (paths : List String) : Prop :=
  if Glob.isGlob input then
    ∃ glob, Glob.ofText input = .ok glob ∧ (glob.expand contents).run.run = .ok paths ∧ paths ≠ []
  else paths = [input]

/-- The documents of a file with their origins: the whole file, or each line that is not blank. -/
def HoldsDocuments (contents : Disk Id) (byLine : Bool) (path : String)
    (documents : List (String × Value)) : Prop :=
  if byLine then
    ∃ text, (contents.read path).run = .ok text.toUTF8 ∧ List.Forall₂ (fun line document =>
      document.1 = lineOrigin path line.1 ∧ Json.read line.2 = .ok document.2)
      (documentLines text) documents
  else ∃ document, HoldsJson contents path document ∧ documents = [(path, document)]

/-- All documents that inputs name, in the order of the inputs, of their paths and of the lines. -/
def NamesDocuments (contents : Disk Id) (byLine : Bool) (inputs : List String)
    (documents : List (String × Value)) : Prop :=
  ∃ paths parts, List.Forall₂ (Names contents) inputs paths ∧
    List.Forall₂ (HoldsDocuments contents byLine) paths.flatten parts ∧ documents = parts.flatten

/-- A line with its number is one of the lines of the text, and not blank. -/
theorem mem_documentLines {text line : String} {number : Nat} :
    (number, line) ∈ documentLines text ↔
      ∃ index, number = index + 1 ∧ (lines text)[index]? = some line ∧
        line.toList.all Unicode.isBlank = false := by
  unfold documentLines
  rw [List.mem_filterMap]
  constructor
  · rintro ⟨⟨given, position⟩, inside, kept⟩
    obtain ⟨index, rfl, isLine⟩ : ∃ index, position = index + 1 ∧
        (lines text)[index]? = some given := by
      obtain ⟨above, isLine⟩ := List.mk_mem_zipIdx_iff_le_and_getElem?_sub.mp inside
      exact ⟨position - 1, by omega, isLine⟩
    dsimp only at kept
    split at kept
    · simp at kept
    · rename_i filled
      obtain ⟨rfl, rfl⟩ := Prod.mk.inj (Option.some.inj kept)
      exact ⟨index, rfl, isLine, Bool.eq_false_iff.mpr filled⟩
  · rintro ⟨index, rfl, isLine, filled⟩
    refine ⟨(line, index + 1), ?_, by simp [filled]⟩
    exact List.mk_mem_zipIdx_iff_le_and_getElem?_sub.mpr ⟨by omega, by simpa using isLine⟩

/-- A problem that stands in the way of checking documents. -/
inductive Hinders (contents : Disk Id) (source : Source) (byLine : Bool) (inputs : List String) :
    Problem → Prop
  | source {problem : Problem} (hinders : source.Hinders contents problem) :
    Hinders contents source byLine inputs problem
  | badGlob {input : String} {failure : Glob.Failure} (given : input ∈ inputs)
    (isGlob : Glob.isGlob input = true) (isNot : Glob.ofText input = .error failure) :
    Hinders contents source byLine inputs (.badGlob failure)
  | unlisted {input : String} {glob : Glob} {unlisted : Glob.Unlisted} (given : input ∈ inputs)
    (isGlob : Glob.isGlob input = true) (is : Glob.ofText input = .ok glob)
    (fails : (glob.expand contents).run.run = .error unlisted) :
    Hinders contents source byLine inputs (.unlisted unlisted.folder unlisted.fault)
  | noMatch {input : String} {glob : Glob} (given : input ∈ inputs)
    (isGlob : Glob.isGlob input = true) (is : Glob.ofText input = .ok glob)
    (nothing : (glob.expand contents).run.run = .ok []) :
    Hinders contents source byLine inputs (.noMatch input)
  | unread {input path : String} {paths : List String} {fault : Disk.Fault} (given : input ∈ inputs)
    (names : Names contents input paths) (inside : path ∈ paths)
    (read : (contents.read path).run = .error fault) :
    Hinders contents source byLine inputs (.unread path fault)
  | notText {input path : String} {paths : List String} {bytes : ByteArray}
    (given : input ∈ inputs) (names : Names contents input paths) (inside : path ∈ paths)
    (lineWise : byLine = true) (read : (contents.read path).run = .ok bytes)
    (isNot : ∀ text : String, bytes ≠ text.toUTF8) :
    Hinders contents source byLine inputs (.unread path .notText)
  | notJson {input path : String} {paths : List String} {bytes : ByteArray}
    {failure : Json.Failure} (given : input ∈ inputs) (names : Names contents input paths)
    (inside : path ∈ paths) (whole : byLine = false) (read : (contents.read path).run = .ok bytes)
    (isNot : Json.readBytes bytes = .error failure) :
    Hinders contents source byLine inputs (.notJson path failure)
  | lineNotJson {input path text line : String} {paths : List String} {index : Nat}
    {failure : Json.Failure} (given : input ∈ inputs) (names : Names contents input paths)
    (inside : path ∈ paths) (lineWise : byLine = true)
    (read : (contents.read path).run = .ok text.toUTF8)
    (isLine : (lines text)[index]? = some line)
    (filled : line.toList.all Unicode.isBlank = false) (isNot : Json.read line = .error failure) :
    Hinders contents source byLine inputs (.lineNotJson (lineOrigin path (index + 1)) failure)

/-- The report on a document. -/
def reportOn (type : Descriptor) (document : String × Value) : Report :=
  ⟨document.1, type.validate document.2⟩

section

variable {contents : Disk Id} {byLine : Bool}

/-- An input that is a glob names what the glob finds. -/
theorem Names.expands {input : String} {paths : List String} (names : Names contents input paths)
    (isGlob : Glob.isGlob input = true) :
    ∃ glob, Glob.ofText input = .ok glob ∧ (glob.expand contents).run.run = .ok paths ∧
      paths ≠ [] := by
  rwa [Names, if_pos isGlob] at names

/-- An input that is no glob names itself. -/
theorem names_plain {input : String} (plain : Glob.isGlob input = false) :
    Names contents input [input] := by
  rw [Names, plain, if_neg Bool.false_ne_true]

/-- An input names one list of paths. -/
theorem Names.unique {input : String} {first second : List String}
    (names : Names contents input first) (namesToo : Names contents input second) :
    first = second := by
  by_cases isGlob : Glob.isGlob input = true
  · obtain ⟨glob, is, found, -⟩ := names.expands isGlob
    obtain ⟨other, isOther, foundOther, -⟩ := namesToo.expands isGlob
    obtain rfl := Except.ok.inj (is.symm.trans isOther)
    exact Except.ok.inj (found.symm.trans foundOther)
  · rw [Names, if_neg isGlob] at names namesToo
    rw [names, namesToo]

/-- A file holds one list of documents. -/
theorem HoldsDocuments.unique {path : String} {first second : List (String × Value)}
    (holds : HoldsDocuments contents byLine path first)
    (holdsToo : HoldsDocuments contents byLine path second) : first = second := by
  unfold HoldsDocuments at holds holdsToo
  cases byLine with
  | false =>
      obtain ⟨document, held, rfl⟩ := holds
      obtain ⟨other, heldToo, rfl⟩ := holdsToo
      rw [held.unique heldToo]
  | true =>
      obtain ⟨text, read, all⟩ := holds
      obtain ⟨other, readToo, allToo⟩ := holdsToo
      obtain rfl := Utf8.toUTF8_inj (Except.ok.inj (read.symm.trans readToo))
      refine List.right_unique_forall₂' ?_ all allToo
      intro line document otherDocument here hereToo
      apply Prod.ext
      · rw [here.1, hereToo.1]
      · exact Except.ok.inj (here.2.symm.trans hereToo.2)

/-- The documents that inputs name are known by what the disk shows. -/
theorem NamesDocuments.unique {inputs : List String} {first second : List (String × Value)}
    (named : NamesDocuments contents byLine inputs first)
    (namedToo : NamesDocuments contents byLine inputs second) : first = second := by
  obtain ⟨paths, parts, names, holds, rfl⟩ := named
  obtain ⟨otherPaths, otherParts, namesToo, holdsToo, rfl⟩ := namedToo
  obtain rfl : paths = otherPaths :=
    List.right_unique_forall₂' (fun _ _ _ here hereToo => here.unique hereToo) names namesToo
  obtain rfl : parts = otherParts :=
    List.right_unique_forall₂' (fun _ _ _ here hereToo => here.unique hereToo) holds holdsToo
  rfl

/-- Documents are held in bytes that can be read; a document is a text, and so are lines. -/
theorem HoldsDocuments.exists_text {path : String} {documents : List (String × Value)}
    (holds : HoldsDocuments contents byLine path documents) :
    ∃ text : String, (contents.read path).run = .ok text.toUTF8 := by
  unfold HoldsDocuments at holds
  split at holds
  · obtain ⟨text, read, -⟩ := holds
    exact ⟨text, read⟩
  · obtain ⟨document, ⟨bytes, read, parsed⟩, -⟩ := holds
    obtain ⟨text, rfl, -⟩ := Json.readBytes_eq_ok_iff.mp parsed
    exact ⟨text, read⟩

/-- A path that an input names holds documents, if all that the inputs name do. -/
theorem exists_holdsDocuments {inputs : List String} {allPaths : List (List String)}
    {parts : List (List (String × Value))} (names : List.Forall₂ (Names contents) inputs allPaths)
    (holds : List.Forall₂ (HoldsDocuments contents byLine) allPaths.flatten parts)
    {input path : String} {paths : List String} (given : input ∈ inputs)
    (here : Names contents input paths) (inside : path ∈ paths) :
    ∃ part, HoldsDocuments contents byLine path part := by
  obtain ⟨others, among, namesOthers⟩ := exists_right_of_forall₂ names given
  obtain rfl := here.unique namesOthers
  obtain ⟨part, -, held⟩ := exists_right_of_forall₂ holds (List.mem_flatten_of_mem among inside)
  exact ⟨part, held⟩

/-- If all documents are there, then nothing but the source can stand in the way. -/
theorem NamesDocuments.source_hinders {source : Source} {inputs : List String}
    {documents : List (String × Value)}
    (named : NamesDocuments contents byLine inputs documents) {problem : Problem}
    (hinders : Hinders contents source byLine inputs problem) :
    source.Hinders contents problem := by
  obtain ⟨allPaths, parts, names, holds, -⟩ := named
  cases hinders with
  | source hinders => exact hinders
  | badGlob given isGlob isNot =>
      obtain ⟨paths, -, here⟩ := exists_right_of_forall₂ names given
      obtain ⟨glob, is, -⟩ := here.expands isGlob
      simp [is] at isNot
  | unlisted given isGlob is fails =>
      obtain ⟨paths, -, here⟩ := exists_right_of_forall₂ names given
      obtain ⟨glob, isToo, found, -⟩ := here.expands isGlob
      obtain rfl := Except.ok.inj (is.symm.trans isToo)
      simp [found] at fails
  | noMatch given isGlob is nothing =>
      obtain ⟨paths, -, here⟩ := exists_right_of_forall₂ names given
      obtain ⟨glob, isToo, found, nonempty⟩ := here.expands isGlob
      obtain rfl := Except.ok.inj (is.symm.trans isToo)
      exact absurd (Except.ok.inj (found.symm.trans nothing)) nonempty
  | unread given here inside unread =>
      obtain ⟨part, held⟩ := exists_holdsDocuments names holds given here inside
      obtain ⟨text, read⟩ := held.exists_text
      simp [read] at unread
  | notText given here inside lineWise read isNot =>
      obtain ⟨part, held⟩ := exists_holdsDocuments names holds given here inside
      obtain ⟨text, readToo⟩ := held.exists_text
      exact absurd (Except.ok.inj (read.symm.trans readToo)) (isNot text)
  | notJson given here inside whole read isNot =>
      obtain ⟨part, held⟩ := exists_holdsDocuments names holds given here inside
      rw [HoldsDocuments, whole, if_neg Bool.false_ne_true] at held
      obtain ⟨document, ⟨bytes, readToo, parsed⟩, -⟩ := held
      obtain rfl := Except.ok.inj (read.symm.trans readToo)
      simp [parsed] at isNot
  | lineNotJson given here inside lineWise read isLine filled isNot =>
      obtain ⟨part, held⟩ := exists_holdsDocuments names holds given here inside
      rw [HoldsDocuments, lineWise, if_pos rfl] at held
      obtain ⟨text, readToo, all⟩ := held
      obtain rfl := Utf8.toUTF8_inj (Except.ok.inj (read.symm.trans readToo))
      obtain ⟨document, -, -, parsed⟩ :=
        exists_right_of_forall₂ all (mem_documentLines.mpr ⟨_, rfl, isLine, filled⟩)
      simp [parsed] at isNot

end

/-! ### Reading -/

section

variable {State : Type} {state : State} {disk : Disk (StateM State)} (still : disk.Still)
  {source : Source} {byLine : Bool} {inputs : List String}

include still

/-- Looking up an input ends with the paths that it names, or with what hinders. -/
theorem resolve_ends {input : String} (given : input ∈ inputs) :
    Ends state (resolve disk input) (Names (disk.shown state) input)
      (Hinders (disk.shown state) source byLine inputs) := by
  unfold resolve Names
  split
  · rename_i isGlob
    refine .bind (.required (fun _ => id) fun failure isNot => .badGlob given isGlob isNot) ?_
    intro glob is
    refine .look (Glob.expand_meets still state glob) ?_
    refine .bind (.required (fun _ => id) fun unlisted fails => .unlisted given isGlob is fails) ?_
    intro paths found
    split
    · rename_i nothing
      rw [List.isEmpty_iff] at nothing
      exact .throw (.noMatch given isGlob is (nothing ▸ found))
    · rename_i some
      exact .pure ⟨glob, is, found, fun nothing => some (List.isEmpty_iff.mpr nothing)⟩
  · exact .pure rfl

/-- Reading a file ends with the documents that it holds, or with what hinders. -/
theorem readDocuments_ends {input path : String} {paths : List String} (given : input ∈ inputs)
    (names : Names (disk.shown state) input paths) (inside : path ∈ paths) :
    Ends state (readDocuments disk byLine path) (HoldsDocuments (disk.shown state) byLine path)
      (Hinders (disk.shown state) source byLine inputs) := by
  unfold readDocuments HoldsDocuments
  have unread {fault : Disk.Fault} : ((disk.shown state).read path).run = .error fault →
      Hinders (disk.shown state) source byLine inputs (.unread path fault) :=
    .unread given names inside
  cases byLine with
  | false =>
      refine .bind (readJson_ends still (fun _ => unread) fun bytes failure read isNot =>
        .notJson given names inside rfl read isNot) ?_
      exact fun document holds => .pure ⟨document, holds, rfl⟩
  | true =>
      refine .bind (readText_ends still (fun _ => unread) fun bytes read isNot =>
        .notText given names inside rfl read isNot) fun text read => ?_
      have each : ∀ line ∈ documentLines text, Ends state
          (do return (lineOrigin path line.1,
            ← required (.lineNotJson (lineOrigin path line.1)) (Json.read line.2)))
          (fun document => document.1 = lineOrigin path line.1 ∧ Json.read line.2 = .ok document.2)
          (Hinders (disk.shown state) source true inputs) := by
        rintro ⟨number, line⟩ isInside
        obtain ⟨index, rfl, isLine, filled⟩ := mem_documentLines.mp isInside
        refine .bind (.required (fun _ => id) fun failure isNot =>
          .lineNotJson given names inside rfl read isLine filled isNot) ?_
        exact fun document parsed => .pure ⟨rfl, parsed⟩
      exact (Ends.mapM each).weaken fun documents all => ⟨text, read, all⟩

/-- Checking a file ends with a report on each of its documents, or with what hinders. -/
theorem checkFile_ends {type : Descriptor} {input path : String} {paths : List String}
    (given : input ∈ inputs) (names : Names (disk.shown state) input paths)
    (inside : path ∈ paths) :
    Ends state (checkFile disk type byLine path)
      (fun reports => ∃ documents, HoldsDocuments (disk.shown state) byLine path documents ∧
        reports = documents.map (reportOn type))
      (Hinders (disk.shown state) source byLine inputs) :=
  (readDocuments_ends still given names inside).bind fun documents holds =>
    .pure ⟨documents, holds, rfl⟩

/-- A check ends with the reports on all documents, or with what hinders; a note may come before. -/
theorem check_ends_note {verbose : Bool} :
    Ends state (check disk source byLine inputs verbose)
      (fun outcome => ∃ type documents, source.Gives (disk.shown state) type ∧
        NamesDocuments (disk.shown state) byLine inputs documents ∧
          outcome = { reportsOutcome (documents.map (reportOn type)) with
            errors := note verbose type ++
              (reportsOutcome (documents.map (reportOn type))).errors })
      (Hinders (disk.shown state) source byLine inputs) := by
  unfold check
  apply (readType_ends still fun problem => Hinders.source).bind
  intro type gives
  apply (Ends.mapM fun input given => resolve_ends still given).bind
  intro paths names
  have each : ∀ path ∈ paths.flatten, Ends state (checkFile disk type byLine path)
      (fun reports => ∃ documents, HoldsDocuments (disk.shown state) byLine path documents ∧
        reports = documents.map (reportOn type))
      (Hinders (disk.shown state) source byLine inputs) := by
    intro path inside
    obtain ⟨here, among, inHere⟩ := List.mem_flatten.mp inside
    obtain ⟨input, given, namesHere⟩ := exists_left_of_forall₂ names among
    exact checkFile_ends still given namesHere inHere
  apply (Ends.mapM each).bind
  intro reports all
  obtain ⟨parts, holds, rfl⟩ := exists_of_forall₂_image all
  refine .pure ⟨type, parts.flatten, gives, ⟨paths, parts, names, holds, rfl⟩, ?_⟩
  rw [← List.map_flatten]

/-- Without the note on the type, there are the reports alone. -/
theorem check_ends :
    Ends state (check disk source byLine inputs false)
      (fun outcome => ∃ type documents, source.Gives (disk.shown state) type ∧
        NamesDocuments (disk.shown state) byLine inputs documents ∧
          outcome = reportsOutcome (documents.map (reportOn type)))
      (Hinders (disk.shown state) source byLine inputs) := by
  apply (check_ends_note still).weaken
  rintro outcome ⟨type, documents, gives, named, rfl⟩
  refine ⟨type, documents, gives, named, ?_⟩
  rw [note, if_neg Bool.false_ne_true, String.empty_append]

end

/-! ### Verdicts -/

/-- What is printed about a document: a mark, and its violations if it is rejected. -/
inductive Verdict (type : Descriptor) : String × Value → String → Prop
  | passing {origin : String} {document : Value} (accepted : type.accepts document = true) :
    Verdict type (origin, document) ("\u2705 " ++ origin ++ "\n")
  | failing {origin : String} {document : Value} {violations : List Violation}
    (rejected : type.accepts document = false)
    (found : type.validate document = .error violations) :
    Verdict type (origin, document) ("\u274c " ++ origin ++ "\n" ++
      String.join (violations.map fun violation => "    " ++ violation.text ++ "\n"))

/-- A report accepts a document just if the type does. -/
theorem isAccepted_reportOn (type : Descriptor) (document : String × Value) :
    (reportOn type document).isAccepted = type.accepts document.2 := by
  have empty := type.report_eq_nil_iff document.2
  unfold Report.isAccepted reportOn Descriptor.validate
  rw [Bool.eq_iff_iff, ← empty]
  cases type.report document.2 <;> simp [Except.isOk, Except.toBool]

/-- The text of a report is the verdict on the document. -/
theorem verdict_reportOn (type : Descriptor) (document : String × Value) :
    Verdict type document (reportOn type document).text := by
  have isAccepted := isAccepted_reportOn type document
  unfold Report.isAccepted at isAccepted
  unfold Report.text
  cases found : (reportOn type document).result with
  | ok nothing =>
      rw [found] at isAccepted
      exact .passing isAccepted.symm
  | error violations =>
      rw [found] at isAccepted
      exact .failing isAccepted.symm found

section

variable (type : Descriptor) (documents : List (String × Value))

/-- All reports accept just if the type accepts all documents. -/
theorem all_isAccepted_reportOn :
    (documents.map (reportOn type)).all Report.isAccepted =
      documents.all fun document => type.accepts document.2 := by
  rw [List.all_map]
  congr 1
  funext document
  exact isAccepted_reportOn type document

/-- The exit code is 0 just if all documents are accepted. -/
theorem code_reportsOutcome_eq_zero_iff :
    (reportsOutcome (documents.map (reportOn type))).code = 0 ↔
      ∀ document ∈ documents, type.accepts document.2 = true := by
  rw [← List.all_eq_true, ← all_isAccepted_reportOn, reportsOutcome]
  simp

/-- The exit code is 1 just if a document is refused. -/
theorem code_reportsOutcome_eq_one_iff :
    (reportsOutcome (documents.map (reportOn type))).code = 1 ↔
      ∃ document ∈ documents, type.accepts document.2 = false := by
  have rejected : (∃ document ∈ documents, type.accepts document.2 = false) ↔
      ¬(documents.all fun document => type.accepts document.2) = true := by
    simp
  rw [rejected, ← all_isAccepted_reportOn, reportsOutcome]
  simp

/-- What is printed is the verdicts in the order of the documents. -/
theorem verdicts_reportsOutcome :
    ∃ verdicts, List.Forall₂ (Verdict type) documents verdicts ∧
      (reportsOutcome (documents.map (reportOn type))).errors = String.join verdicts := by
  refine ⟨documents.map fun document => (reportOn type document).text, ?_, ?_⟩
  · rw [List.forall₂_map_right_iff, List.forall₂_same]
    exact fun document _ => verdict_reportOn type document
  · rw [reportsOutcome, List.map_map]
    rfl

end

/--
The exit code tells the truth. If anything stands in the way, the code is two and nothing is said of
any document. Otherwise the code is zero exactly if the type accepts every document and one exactly
if it rejects one, and each document has its verdict, in order.
-/
theorem run_check {State : Type} {disk : Disk (StateM State)} (still : disk.Still) (state : State)
    (source : Source) (byLine : Bool) (inputs : List String) :
    ∃ outcome,
      (Request.run disk ⟨false, .check source byLine inputs⟩).run state = (outcome, state) ∧
      outcome.output = "" ∧
        ((∃ problem, Hinders (disk.shown state) source byLine inputs problem) →
          outcome.code = 2 ∧ ∃ problem, Hinders (disk.shown state) source byLine inputs problem ∧
            outcome.errors = "error: " ++ problem.message ++ "\n") ∧
        ((¬∃ problem, Hinders (disk.shown state) source byLine inputs problem) →
          ∃ type documents, source.Gives (disk.shown state) type ∧
            NamesDocuments (disk.shown state) byLine inputs documents ∧
              (outcome.code = 0 ↔ ∀ document ∈ documents, type.accepts document.2 = true) ∧
              (outcome.code = 1 ↔ ∃ document ∈ documents, type.accepts document.2 = false) ∧
              ∃ verdicts, List.Forall₂ (Verdict type) documents verdicts ∧
                outcome.errors = String.join verdicts) := by
  have ends : Ends state (check disk source byLine inputs false) _ _ := check_ends still
  cases ends with
  | done outcome ran isRight =>
      obtain ⟨type, documents, gives, named, rfl⟩ := isRight
      refine ⟨reportsOutcome (documents.map (reportOn type)), ?_, rfl, ?_, ?_⟩
      · rw [Request.run, StateT.run_bind, Request.work, ran]
        rfl
      · intro hindered
        obtain ⟨problem, hinders⟩ := hindered
        exact absurd (named.source_hinders hinders) (gives.not_hinders problem)
      · intro _
        refine ⟨type, documents, gives, named, ?_⟩
        exact ⟨code_reportsOutcome_eq_zero_iff type documents,
          code_reportsOutcome_eq_one_iff type documents, verdicts_reportsOutcome type documents⟩
  | stopped problem ran isThere =>
      refine ⟨problem.outcome, ?_, rfl, ?_, ?_⟩
      · rw [Request.run, StateT.run_bind, Request.work, ran]
        rfl
      · intro _
        exact ⟨rfl, problem, isThere, rfl⟩
      · intro free
        exact absurd ⟨problem, isThere⟩ free

/-- A file with this text holds the schema of a string. -/
theorem holdsJson_schema {contents : Disk Id}
    (read : (contents.read "schema.json").run = .ok "\x7b\"type\": \"string\"\x7d".toUTF8) :
    HoldsJson contents "schema.json" (.object [("type", .string "string")]) := .of_text read rfl

/-- That schema is the type of strings. -/
theorem compile_text :
    Schema.compile .empty (.object [("type", .string "string")]) = .ok (.primitive .string) := rfl

/-- A text and a number, each in a file of its own, beside a schema for texts and a registry file
which is no text behind its end. -/
def textAndNumber : Disk.Tree where
  files := [(["schema.json"], "\x7b\"type\": \"string\"\x7d".toUTF8),
    (["types.json"], "\x7b\"types\":\x7b\x7d\x7d".toUTF8 ++ ⟨#[0xFF]⟩),
    (["d1.json"], "\"x\"".toUTF8), (["d2.json"], "1".toUTF8)]
  folders := []
  here := []

/-- The same schema, which may name the types of a file. -/
def registeredSource : Source := ⟨"schema.json", none, some "types.json"⟩

/-- The registry file defines nothing, whatever the byte behind its value. -/
theorem knows_registeredSource :
    registeredSource.Knows (Disk.Tree.disk.shown textAndNumber) .empty := by
  have stray : Utf8.Stray ⟨#[0xFF]⟩ := rfl
  have file : RegistryFile.readBytes ("\x7b\"types\":\x7b\x7d\x7d".toUTF8 ++ ⟨#[0xFF]⟩) =
      .ok .empty := (RegistryFile.readBytes_eq_ok_iff stray).mpr rfl
  exact ⟨_, _, rfl, file, rfl⟩

/-- With that registry file the schema gives the type of strings. -/
theorem gives_registeredSource :
    registeredSource.Gives (Disk.Tree.disk.shown textAndNumber) (.primitive .string) :=
  ⟨_, _, _, holdsJson_schema rfl, rfl, knows_registeredSource, compile_text⟩

/-- Both documents are found, a string and a number. -/
theorem namesDocuments_textAndNumber :
    NamesDocuments (Disk.Tree.disk.shown textAndNumber) false ["d1.json", "d2.json"]
      [("d1.json", .string "x"), ("d2.json", .number (.integer 1 (by decide)))] := by
  have readText : ((Disk.Tree.disk.shown textAndNumber).read "d1.json").run =
      .ok "\"x\"".toUTF8 := rfl
  have readNumber : ((Disk.Tree.disk.shown textAndNumber).read "d2.json").run =
      .ok "1".toUTF8 := rfl
  have text : HoldsJson (Disk.Tree.disk.shown textAndNumber) "d1.json" (.string "x") :=
    .of_text readText rfl
  have number : HoldsJson (Disk.Tree.disk.shown textAndNumber) "d2.json"
      (.number (.integer 1 (by decide))) := .of_text readNumber rfl
  refine ⟨[["d1.json"], ["d2.json"]], [[_], [_]], ?_, ?_, rfl⟩
  · exact .cons (names_plain rfl) (.cons (names_plain rfl) .nil)
  · exact .cons ⟨_, text, rfl⟩ (.cons ⟨_, number, rfl⟩ .nil)

/-- The registry file loads and the number is rejected, so the exit code is one. -/
theorem run_check_textAndNumber :
    ∃ outcome,
      (Request.run Disk.Tree.disk ⟨false, .check registeredSource false ["d1.json", "d2.json"]⟩).run
        textAndNumber = (outcome, textAndNumber) ∧ outcome.code = 1 ∧
        outcome.errors = "\u2705 d1.json\n\u274c d2.json\n    (root): expected String, got 1\n" := by
  obtain ⟨outcome, ran, -, -, otherwise⟩ := run_check Disk.Tree.still_disk textAndNumber
    registeredSource false ["d1.json", "d2.json"]
  have free : ¬∃ problem, Hinders (Disk.Tree.disk.shown textAndNumber) registeredSource false
      ["d1.json", "d2.json"] problem := by
    intro hindered
    obtain ⟨problem, hinders⟩ := hindered
    exact gives_registeredSource.not_hinders problem
      (namesDocuments_textAndNumber.source_hinders hinders)
  obtain ⟨type, documents, gives, named, -, one, verdicts, all, printed⟩ := otherwise free
  obtain rfl := gives_registeredSource.unique gives
  obtain rfl := namesDocuments_textAndNumber.unique named
  have rejects := one.mpr ⟨_, List.mem_cons_of_mem _ List.mem_cons_self, rfl⟩
  refine ⟨outcome, ran, rejects, ?_⟩
  rw [printed]
  cases all with
  | cons text rest =>
      cases rest with
      | cons number rest =>
          cases rest
          cases text with
          | failing rejected => cases rejected
          | passing =>
              cases number with
              | passing accepted => cases accepted
              | failing _ found =>
                  obtain rfl := Except.error.inj found
                  rfl

end TypedJson.CommandLine
