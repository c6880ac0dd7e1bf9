import TypedJson.Proofs.Pattern.Place

namespace TypedJson.Pattern

namespace Token

/-- The escapes that are given another text. -/
def rewritten : List Token := ['d', 'D', 'w', 'W', 'b', 'B'].map pair

/-- The tokens of a text have the text. -/
theorem flatMap_text_readAll (input : List Char) : (readAll input).flatMap text = input := by
  induction input using tokenInduction with
  | nil => rfl
  | lone => rfl
  | pair escaped rest ih =>
      rw [readAll, List.flatMap_cons, ih]
      rfl
  | single char rest single ih =>
      rw [readAll_cons single, List.flatMap_cons, ih]
      rfl

/-- The text of tokens has the tokens, if no backslash stands alone before the last. -/
theorem readAll_flatMap_text {tokens : List Token} (alone : single '\\' ∉ tokens.dropLast) :
    readAll (tokens.flatMap text) = tokens := by
  induction tokens with
  | nil => rfl
  | cons token rest ih =>
      have others : single '\\' ∉ rest.dropLast := fun inside => alone <| by
        cases rest with
        | nil => simp at inside
        | cons next more => exact List.mem_cons_of_mem _ inside
      rw [List.flatMap_cons]
      cases token with
      | pair escaped => exact congrArg (pair escaped :: ·) (ih others)
      | single char =>
          by_cases backslash : char = '\\'
          · subst backslash
            cases rest with
            | nil => rfl
            | cons next more => exact absurd List.mem_cons_self alone
          · exact (readAll_cons backslash).trans (congrArg (single char :: ·) (ih others))

/-- A backslash is alone only at the end. -/
theorem backslash_notMem_dropLast (input : List Char) :
    single '\\' ∉ (readAll input).dropLast := by
  have cons {token : Token} {tokens : List Token} (other : token ≠ single '\\')
      (alone : single '\\' ∉ tokens.dropLast) : single '\\' ∉ (token :: tokens).dropLast := by
    cases tokens with
    | nil => simp
    | cons next more => simpa [Ne.symm other] using alone
  induction input using tokenInduction with
  | nil => simp [readAll]
  | lone => simp [readAll]
  | pair escaped rest ih => exact cons (by simp) ih
  | single char rest single ih =>
      rw [readAll_cons single]
      exact cons (fun same => single (Token.single.inj same)) ih

/-- There is one way to take a text apart so that a backslash is alone only at the end. -/
theorem eq_readAll_iff {tokens : List Token} {input : List Char} :
    tokens = readAll input ↔ tokens.flatMap text = input ∧ single '\\' ∉ tokens.dropLast := by
  constructor
  · rintro rfl
    exact ⟨flatMap_text_readAll input, backslash_notMem_dropLast input⟩
  · rintro ⟨rfl, alone⟩
    exact (readAll_flatMap_text alone).symm

/-- Other tokens than the six escapes stay. -/
theorem image_of_notMem_rewritten {token : Token} (kept : token ∉ rewritten) (engine : Engine)
    (inClass : Bool) : token.image engine inClass = token.text := by
  cases token with
  | single char => rfl
  | pair escaped =>
      change escapeText engine inClass escaped = ['\\', escaped]
      revert kept
      unfold escapeText
      split
      all_goals first | exact fun _ => rfl | exact fun kept => absurd (by decide) kept

/-- Tokens have their images one by one, each in a class or not. -/
theorem imageAll_eq_flatten (engine : Engine) (inClass : Bool) (tokens : List Token) :
    imageAll engine inClass tokens =
      (List.zipWith (image engine) (tokens.scanl classAfter inClass) tokens).flatten := by
  induction tokens generalizing inClass with
  | nil => rfl
  | cons token rest ih =>
      rw [imageAll, List.scanl_cons, List.zipWith_cons_cons, List.flatten_cons, ih]

/-- A body without the six escapes stays. -/
theorem imageAll_of_kept {tokens : List Token} (kept : ∀ token ∈ tokens, token ∉ rewritten)
    (engine : Engine) (inClass : Bool) :
    imageAll engine inClass tokens = tokens.flatMap text := by
  induction tokens generalizing inClass with
  | nil => rfl
  | cons token rest ih =>
      rw [List.forall_mem_cons] at kept
      rw [imageAll, image_of_notMem_rewritten kept.1, ih kept.2, List.flatMap_cons]

end Token

variable {engine : Engine} {inClass : Bool} {rest : List Char}

/-- A text that leaves no backslash waiting is read on its own, also if more follows. -/
theorem translated_append {last : Bool} (text : List Char)
    (ends : Place.after ⟨inClass, false⟩ text = ⟨last, false⟩) :
    translated engine inClass (text ++ rest) =
      translated engine inClass text ++ translated engine last rest := by
  induction text using tokenInduction generalizing inClass with
  | nil =>
      obtain rfl : inClass = last := congrArg Place.inClass ends
      rfl
  | lone => simp at ends
  | pair escaped others ih =>
      rw [Place.after_cons, Place.after_cons, Place.next_backslash, Place.next_escaped] at ends
      rw [List.cons_append, List.cons_append, translated_pair, translated_pair, ih ends,
        List.append_assoc]
  | single char others single ih =>
      rw [Place.after_cons, Place.next_single single] at ends
      rw [List.cons_append, translated_cons single, translated_cons single, ih ends,
        List.cons_append]

/-- What stands open until something closes it. -/
inductive Opening
  | parenthesis
  | bracket

/-- What a reader of brackets and parentheses has seen of a text. -/
structure Nesting where
  /-- What is still open, the last first. -/
  opened : List Opening
  /-- The number of groups that capture. -/
  captures : Nat
  /-- The number of closing brackets and parentheses that close nothing. -/
  strays : Nat

namespace Nesting

def start : Nesting := ⟨[], 0, 0⟩

/-- Whether a parenthesis opens a group that captures, with a name or without any mark. -/
def opensCapture (rest : List Char) : Bool :=
  !(['?'].isPrefixOf rest) || ['?', 'P', '<'].isPrefixOf rest ||
    (['?', '<'].isPrefixOf rest && !(['?', '<', '='].isPrefixOf rest) &&
      !(['?', '<', '!'].isPrefixOf rest))

/-- Moves over one character; parentheses in brackets stand for themselves. -/
def pass (nesting : Nesting) (char : Char) (rest : List Char) : Nesting :=
  match nesting.opened, char with
  | opened, '[' => { nesting with opened := .bracket :: opened }
  | .bracket :: others, ']' => { nesting with opened := others }
  | .bracket :: _, _ => nesting
  | opened, '(' =>
    { nesting with
      opened := .parenthesis :: opened
      captures := nesting.captures + (opensCapture rest).toNat }
  | .parenthesis :: others, ')' => { nesting with opened := others }
  | _, ']' => { nesting with strays := nesting.strays + 1 }
  | _, ')' => { nesting with strays := nesting.strays + 1 }
  | _, _ => nesting

/-- Moves over a text; a backslash takes the next character along. -/
def read (nesting : Nesting) : List Char → Nesting
  | [] => nesting
  | '\\' :: _ :: rest => nesting.read rest
  | char :: rest => (nesting.pass char rest).read rest

/-- Another character than a backslash is read alone. -/
theorem read_cons {char : Char} (single : char ≠ '\\') (nesting : Nesting) (rest : List Char) :
    nesting.read (char :: rest) = (nesting.pass char rest).read rest := by
  rw [read]
  intro _ _ same
  exact absurd same single

/-- Brackets and parentheses, and what takes the next character along. -/
def isSign (char : Char) : Bool :=
  char = '\\' || char = '[' || char = ']' || char = '(' || char = ')'

/-- A character that is no sign changes nothing. -/
theorem pass_plain {char : Char} (plain : isSign char = false) (nesting : Nesting)
    (rest : List Char) : nesting.pass char rest = nesting := by
  unfold pass
  split
  all_goals first | rfl | exact absurd plain (by decide)

/-- A text that leaves everything as it was before, wherever it stands. -/
def Closed (text : List Char) : Prop :=
  ∀ (nesting : Nesting) (rest : List Char), nesting.read (text ++ rest) = nesting.read rest

namespace Closed

variable {text more : List Char}

theorem append (one : Closed text) (other : Closed more) : Closed (text ++ more) := by
  intro nesting rest
  rw [List.append_assoc, one, other]

/-- A pair with a backslash is closed. -/
theorem pair (escaped : Char) : Closed ['\\', escaped] := fun _ _ => rfl

/-- A text without signs is closed. -/
theorem plain (text : List Char) (plain : text.any isSign = false) : Closed text := by
  induction text with
  | nil => exact fun _ _ => rfl
  | cons char others ih =>
      rw [List.any_cons, Bool.or_eq_false_iff] at plain
      have single : char ≠ '\\' := ne_of_test plain.1 (by decide)
      intro nesting rest
      rw [List.cons_append, read_cons single, pass_plain plain.1, ih plain.2]

/-- A closed text in brackets is closed. -/
theorem bracket (text : List Char) (members : Closed text) : Closed ('[' :: text ++ [']']) := by
  intro nesting rest
  rw [List.append_assoc, List.cons_append, read_cons (by decide), members]
  rfl

/-- A closed text in parentheses that do not capture is closed. -/
theorem group (content : Closed text) (uncaptured : ∀ rest, opensCapture (text ++ rest) = false) :
    Closed ('(' :: text ++ [')']) := by
  rintro ⟨_ | ⟨_ | _, others⟩, captures, strays⟩ rest
  all_goals
    rw [List.append_assoc, List.cons_append, read_cons (by decide)]
    simp only [pass, uncaptured]
    rw [content]
    rfl

end Closed

/-- A look at a word character, ahead or behind. -/
def wordLook (mark : List Char) : List Char :=
  '(' :: (mark ++ ('[' :: Token.wordMembers ++ [']'])) ++ [')']

/-- A look-around over word characters is closed. -/
theorem closed_wordLook {mark : List Char} (plain : mark.any isSign = false)
    (uncaptured : ∀ rest, opensCapture (mark ++ rest) = false) : Closed (wordLook mark) := by
  have word : Closed Token.wordMembers := .plain _ (by decide)
  refine .group (.append (.plain mark plain) (.bracket _ word)) fun rest => ?_
  rw [List.append_assoc, uncaptured]

/-- Either of two rows of looks. -/
def eitherLooks (first second : List Char) : List Char :=
  '(' :: ("?:".toList ++ (first ++ ('|' :: second))) ++ [')']

/-- Two pairs of look-arounds are closed. -/
theorem closed_eitherLooks {first second : List Char} (one : Closed first)
    (other : Closed second) : Closed (eitherLooks first second) := by
  have mark : Closed "?:".toList := .plain _ (by decide)
  have bar : Closed ['|'] := .plain _ (by decide)
  exact .group (.append mark (.append one (.append bar other))) fun _ => rfl

/-- The texts for a boundary and for none are closed. -/
theorem closed_boundary (engine : Engine) :
    Closed (Token.boundary engine) ∧ Closed (Token.noBoundary engine) := by
  cases engine with
  | linear =>
      have mark : Closed "?-u:".toList := .plain _ (by decide)
      exact ⟨.group (.append mark (.pair 'b')) fun _ => rfl,
        .group (.append mark (.pair 'B')) fun _ => rfl⟩
  | backtracking =>
      have ahead : Closed (wordLook "?=".toList) := closed_wordLook (by decide) fun _ => rfl
      have notAhead : Closed (wordLook "?!".toList) := closed_wordLook (by decide) fun _ => rfl
      have behind : Closed (wordLook "?<=".toList) := closed_wordLook (by decide) fun _ => rfl
      have notBehind : Closed (wordLook "?<!".toList) := closed_wordLook (by decide) fun _ => rfl
      have boundary : Token.boundary .backtracking =
          eitherLooks (wordLook "?<=".toList ++ wordLook "?!".toList)
            (wordLook "?<!".toList ++ wordLook "?=".toList) := by decide
      have noBoundary : Token.noBoundary .backtracking =
          eitherLooks (wordLook "?<=".toList ++ wordLook "?=".toList)
            (wordLook "?<!".toList ++ wordLook "?!".toList) := by decide
      rw [boundary, noBoundary]
      exact ⟨closed_eitherLooks (.append behind notAhead) (.append notBehind ahead),
        closed_eitherLooks (.append behind ahead) (.append notBehind notAhead)⟩

/-- The text for an escape is closed. -/
theorem closed_escapeText (engine : Engine) (inClass : Bool) (escaped : Char) :
    Closed (Token.escapeText engine inClass escaped) := by
  unfold Token.escapeText
  split
  · exact .plain _ (by decide)
  · exact .bracket "0-9".toList (.plain _ (by decide))
  · exact .bracket "^0-9".toList (.plain _ (by decide))
  · exact .plain _ (by decide)
  · exact .bracket Token.wordMembers (.plain _ (by decide))
  · exact .bracket ('^' :: Token.wordMembers) (.plain _ (by decide))
  · exact .append (.pair 'x') (.plain "08".toList (by decide))
  · exact (closed_boundary engine).1
  · exact (closed_boundary engine).2
  · exact .pair _

/-- What marks behind a parenthesis are made of. -/
def markSigns : List Char := ['?', 'P', '<', '=', '!']

/-- No text for an escape starts like a mark behind a parenthesis. -/
theorem head_escapeText (engine : Engine) (inClass : Bool) (escaped : Char) :
    ∃ first others, Token.escapeText engine inClass escaped = first :: others ∧
      first ∉ markSigns := by
  unfold Token.escapeText
  split
  all_goals cases engine <;> exact ⟨_, _, rfl, by decide⟩

/-- What tells the kinds of groups apart is not touched. -/
theorem isPrefixOf_translated {mark : List Char}
    (plain : mark ⊆ markSigns) (engine : Engine) (inClass : Bool) (text : List Char) :
    mark.isPrefixOf (translated engine inClass text) = mark.isPrefixOf text := by
  induction mark generalizing inClass text with
  | nil => rfl
  | cons first others ih =>
      rw [List.cons_subset] at plain
      cases text with
      | nil => rfl
      | cons char rest =>
          by_cases single : char = '\\'
          · subst single
            have other : first ≠ '\\' := by
              rintro rfl
              exact absurd plain.1 (by decide)
            cases rest with
            | nil => rfl
            | cons escaped rest =>
                obtain ⟨head, tail, image, unlike⟩ := head_escapeText engine inClass escaped
                have another : first ≠ head := fun same => unlike (same ▸ plain.1)
                rw [translated_pair, image, List.cons_append, List.isPrefixOf_cons_cons,
                  List.isPrefixOf_cons_cons, beq_false_of_ne other, beq_false_of_ne another,
                  Bool.false_and, Bool.false_and]
          · rw [translated_cons single, List.isPrefixOf_cons_cons, List.isPrefixOf_cons_cons,
              ih plain.2]

/-- The translation starts a group just if the text does. -/
theorem opensCapture_translated (engine : Engine) (inClass : Bool) (text : List Char) :
    opensCapture (translated engine inClass text) = opensCapture text := by
  unfold opensCapture
  rw [isPrefixOf_translated (by decide), isPrefixOf_translated (by decide),
    isPrefixOf_translated (by decide), isPrefixOf_translated (by decide),
    isPrefixOf_translated (by decide)]

/-- What follows a character is looked at alike before and after the translation. -/
theorem pass_translated (nesting : Nesting) (char : Char) (engine : Engine) (inClass : Bool)
    (rest : List Char) :
    nesting.pass char (translated engine inClass rest) = nesting.pass char rest := by
  unfold pass
  rw [opensCapture_translated]

/-- The translation opens and closes what the text does, and has the same groups. -/
theorem read_translated (nesting : Nesting) (engine : Engine) (inClass : Bool) (text : List Char) :
    nesting.read (translated engine inClass text) = nesting.read text := by
  induction text using tokenInduction generalizing nesting inClass with
  | nil => rfl
  | lone => rfl
  | pair escaped rest ih => rw [translated_pair, closed_escapeText, ih, read]
  | single char rest single ih =>
      rw [translated_cons single, read_cons single, read_cons single, pass_translated, ih]

end Nesting

/--
The text for an engine is that of the tokens one after the other, each by itself but for whether it
stands in a class. All tokens but six escapes keep their texts. The texts for these close what they
open and open no group that captures, so the brackets, parentheses and groups of the whole stay as
they are in the body.
-/
theorem engineText_of_tokens (engine : Engine) (body : List Char) :
    (∀ tokens : List Token, tokens = Token.readAll body ↔
        tokens.flatMap Token.text = body ∧ .single '\\' ∉ tokens.dropLast) ∧
      engineText engine body =
        (List.zipWith (Token.image engine) ((Token.readAll body).scanl Token.classAfter false)
          (Token.readAll body)).flatten ∧
      (∀ token ∉ Token.rewritten, ∀ inClass, token.image engine inClass = token.text) ∧
      (∀ token ∈ Token.rewritten, ∀ inClass,
        Nesting.start.read (token.image engine inClass) = .start) ∧
      Nesting.start.read (engineText engine body) = Nesting.start.read body ∧
      ((∀ token ∈ Token.readAll body, token ∉ Token.rewritten) → engineText engine body = body) ∧
      (Place.outside.after body = .outside → ∀ rest,
        engineText engine (body ++ rest) = engineText engine body ++ engineText engine rest) := by
  refine ⟨fun tokens => Token.eq_readAll_iff, Token.imageAll_eq_flatten engine false _,
    fun token kept inClass => Token.image_of_notMem_rewritten kept engine inClass, ?_,
    Nesting.read_translated .start engine false body, fun kept => ?_, fun ends rest => ?_⟩
  · intro token member inClass
    obtain ⟨escaped, -, rfl⟩ := List.mem_map.mp member
    have closed := Nesting.closed_escapeText engine inClass escaped .start []
    rwa [List.append_nil] at closed
  · rw [engineText, Token.imageAll_of_kept kept, Token.flatMap_text_readAll]
  · exact translated_append body ends

/-- A class with an escaped bracket and a parenthesis, a space class and an escaped backslash. -/
theorem engineText_of_tokens_bracket :
    let body := "[\\](]\\s\\\\".toList
    (∀ token ∈ Token.readAll body, token ∉ Token.rewritten) ∧
      engineText .backtracking body = body ∧
      Place.outside.after body = .outside ∧
      engineText .backtracking (body ++ "\\d\\".toList) =
        engineText .backtracking body ++ engineText .backtracking "\\d\\".toList := by
  intro body
  have kept : ∀ token ∈ Token.readAll body, token ∉ Token.rewritten := by decide
  have ends : Place.outside.after body = .outside := by decide
  obtain ⟨-, -, -, -, -, unchanged, append⟩ := engineText_of_tokens .backtracking body
  exact ⟨kept, unchanged kept, ends, append ends _⟩

end TypedJson.Pattern
