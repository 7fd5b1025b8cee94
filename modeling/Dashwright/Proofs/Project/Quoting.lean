import Dashwright.Project.Load
import Dashwright.Proofs.Text.Split

/-! The quoted reading of an environment variable.

A project file reads a variable as `"{{ env_var('X') }}"`, inside a double-quoted YAML scalar.
The quoting escapes backslashes and double quotes and keeps every other character as it is,
so the scalar ends where it should and its escapes read back to the two characters. A line
break is kept too, and a double-quoted scalar folds a line break into a space: the value
loaded is then not the variable's. -/

namespace Dashwright.Project

/-- A variable's quoted reading: each backslash and each double quote after a backslash, every
other character of its value as it is; `NOT-SET` for a variable that is not set. -/
theorem quoted_escapes (env : Environment) (key : String) :
    (env.quoted key).toList = ((env.get? key).getD "NOT-SET").toList.flatMap fun c =>
      if c = '\\' then ['\\', '\\'] else if c = '"' then ['\\', '"'] else [c] := by
  have backslash : ("\\" : String) = String.singleton '\\' := by decide
  have quote : ("\"" : String) = String.singleton '"' := by decide
  simp only [Environment.quoted]
  rw [quote, Text.replaceAll_char, backslash, Text.replaceAll_char, List.flatMap_assoc]
  congr 1
  funext c
  by_cases isBackslash : c = '\\'
  · subst isBackslash
    decide
  · by_cases isQuote : c = '"'
    · subst isQuote
      decide
    · simp [isBackslash, isQuote]

/-- A variable holding a line break is read back with a space in its place. -/
theorem lineBreak_folded_in_secret :
    (match loadProjectFile ⟨[("X", "a\nb")]⟩ "project.visivo.yml" "k: \"\x7b\x7b env_var('X') \x7d\x7d\"\n" with
      | .ok v => Value.equal v (.record [("k", .str "a b")])
      | .error _ => false) = true := by
  decide +kernel

end Dashwright.Project
