import Dashwright.Project.Merge

/-!
The user's profile: a YAML file under the home directory that holds the token for the
service. The token comes from the `VISIVO_TOKEN` environment variable when it is set and not
empty, otherwise from the `token` key of the profile file.
-/

namespace Dashwright.Project

def profileFileName : String := "profile.yml"

/-- The path of the profile file under a home directory. -/
def profilePath (home : String) : String :=
  normalizePath (home ++ "/.visivo/" ++ profileFileName)

def noToken : Failure :=
  Failure.make .usage (profileFileName ++ " not present or token not present in " ++ profileFileName)

/-- The token: the environment's, else the profile file's `token`. -/
def profileToken (ws : Workspace) (env : Environment) (profileFile : Option String) : Outcome Value := do
  match env.get? "VISIVO_TOKEN" with
  | some t => if t != "" then return .str t
  | none => pure ()
  let profile ← match profileFile with
    | some f => loadFileAt ws env (normalizePath f)
    | none => pure .none
  if !profile.truthy then throw noToken
  if !(← containsKey profile "token") then throw noToken
  itemAt profile "token"

end Dashwright.Project
