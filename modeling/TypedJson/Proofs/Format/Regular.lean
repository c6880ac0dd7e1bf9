import TypedJson.Format.Regular
import TypedJson.Regex.Written

namespace TypedJson

/-- A written expression is read as the regular expression that it means, if that is small. -/
theorem Regex.ofText?_of_meaning {text : List Char} {regex : Regex} {flags : Flags}
    (means : (Reader.read? text).bind (fun expression => expression.meaning .standard) =
      some (regex, flags)) (small : regex.isCompilable = true) : ofText? text = some regex := by
  obtain ⟨expression, read, meaning⟩ := Option.bind_eq_some_iff.mp means
  simp [ofText?, read, meaning, small]

namespace Format

open Regex (ofText?_of_meaning)

/-- The expression for mail addresses is what its pattern is read as. -/
theorem ofText?_mailAddress :
    Regex.ofText? "^[^\\s@]+@[^\\s@]+\\.[^\\s@]+$".toList = some mailAddress :=
  ofText?_of_meaning (by with_unfolding_all rfl) (by decide +kernel)

/-- The expression for resource identifiers is what its pattern is read as. -/
theorem ofText?_resourceIdentifier :
    Regex.ofText? "^[A-Za-z][A-Za-z0-9+.\\-]*:[^\\s]*$".toList = some resourceIdentifier :=
  ofText?_of_meaning (by with_unfolding_all rfl) (by decide +kernel)

/-- The expression for unique identifiers is what its pattern is read as, where the counts of
digits stand between braces. -/
theorem ofText?_uniqueIdentifier :
    Regex.ofText? ("^[0-9a-fA-F]\x7b8\x7d-[0-9a-fA-F]\x7b4\x7d-[0-9a-fA-F]\x7b4\x7d-" ++
      "[0-9a-fA-F]\x7b4\x7d-[0-9a-fA-F]\x7b12\x7d$").toList = some uniqueIdentifier :=
  ofText?_of_meaning (by with_unfolding_all rfl) (by decide +kernel)

end Format

end TypedJson
