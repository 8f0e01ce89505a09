import CloudScaffold.Value.Json
/-!
# Prompts

What the assistant is told: `systemPrompt` once and for all, and for a service `prompt`, which is TerraForge's
`build_prompt`: a heading, the requirements as indented JSON, and whatever the user adds. Its texts are those
of code points, since names and values may hold halves of pairs. `prompt?` is the prompt for requirements
whose texts are of characters alone.
-/
namespace CloudScaffold.Assistant

open Text Json

/-- The standing instructions. -/
def systemPrompt : String :=
  "You are an expert Terraform code generator. Generate production-ready Terraform code based on "
    ++ "the user's requirements. Always include:\n"
    ++ "- Provider configuration\n"
    ++ "- Resource definitions with best practices\n"
    ++ "- Variables for customization\n"
    ++ "- Outputs for important values\n"
    ++ "- Proper naming conventions\n"
    ++ "- Security best practices\n"
    ++ "\n"
    ++ "Split the code into files. Start every file with a line containing only\n"
    ++ "\"# <filename>.tf\" (for example \"# main.tf\") and put nothing else on that line."

/-- What the user adds; the empty text counts as nothing. -/
def contextText (addition : Points) : Points :=
  if addition.isEmpty then Points.ofString "none" else addition

/-- What stands in front of the requirements. -/
def heading (provider service : Points) : Points :=
  Points.ofString "Generate Terraform code for " ++ provider ++ Points.ofString " " ++ service
    ++ Points.ofString " with these requirements:\n"

/-- What stands behind the requirements and a blank line. -/
def contextSection (addition : Points) : Points :=
  Points.ofString "Additional context: " ++ contextText addition
    ++ Points.ofString "\n\nPlease provide complete, working Terraform code with proper structure."

/-- The prompt for a service. -/
def prompt (provider service : Points) (requirements : List (Points × Data)) (addition : Points) : Points :=
  heading provider service ++ Points.ofString ((Data.object requirements).write .indented 0)
    ++ Points.ofString "\n\n" ++ contextSection addition

/-- The prompt for requirements of a request; none if one of them has no JSON text. -/
def prompt? (provider service : String) (requirements : Attributes) (addition : String) : Option String :=
  (Value.dataEntries? requirements).map fun entries =>
    (prompt (.ofString provider) (.ofString service) entries (.ofString addition)).toString

end CloudScaffold.Assistant
