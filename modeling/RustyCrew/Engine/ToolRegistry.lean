import RustyCrew.Library.Text

namespace RustyCrew.Engine

open Library

structure ToolDeprecation where
  (reason since : String)
  (replacement sunset : Option String)
  deriving DecidableEq

structure ToolMetadata where
  name : String
  deprecated : Option ToolDeprecation
  replacement : Option String
  deriving DecidableEq

inductive ToolMetadataDiagnosticSeverity where
  | error
  | warning
  | info
  deriving DecidableEq

structure ToolMetadataDiagnostic where
  severity : ToolMetadataDiagnosticSeverity
  code : String
  (toolName otherToolName path : Option String)
  message : String
  deriving DecidableEq

def snakeCaseTail : Bool → List Char → Bool
  | previousUnderscore, [] => !previousUnderscore
  | previousUnderscore, c :: rest =>
    if c = '_' then !previousUnderscore && snakeCaseTail true rest
    else (c.isLower || c.isDigit) && snakeCaseTail false rest

def validToolName (value : String) : Bool :=
  match value.toList with
  | [] => false
  | first :: rest => first.isLower && snakeCaseTail false rest

def validSemver (value : String) : Bool :=
  let parts := value.toList.splitOn '.'
  parts.length = 3 && parts.all fun part =>
    !part.isEmpty && part.all Char.isDigit && (part = ['0'] || part.head? != some '0')

def ToolMetadata.replacementName (entry : ToolMetadata) : Option String :=
  (entry.replacement.filter fun value => !Text.isBlank value).or
    ((entry.deprecated.bind ToolDeprecation.replacement).filter fun value => !Text.isBlank value)

def validateDeprecation (names : List String) (index : Nat) (entry : ToolMetadata) :
    List ToolMetadataDiagnostic :=
  let error (found : Bool) (code : String) (other : Option String) (field message : String) :=
    if found then [ToolMetadataDiagnostic.mk .error code (some entry.name) other
      (some s!"tools[{index}].{field}") message] else []
  let replacement := entry.replacementName
  error (entry.deprecated.isSome && replacement.isNone) "deprecated_without_replacement" none
      "deprecated" s!"deprecated tool {entry.name} needs a replacement" ++
    error (entry.deprecated.isNone && replacement.isSome) "replacement_without_deprecation"
      replacement "replacement" s!"replacement is only valid for deprecated tool {entry.name}" ++
    (entry.deprecated.toList.flatMap fun deprecated =>
      error (Text.isBlank deprecated.reason) "bad_deprecation" none "deprecated.reason"
          "deprecation reason is required" ++
        error (!validSemver deprecated.since) "bad_deprecation" none "deprecated.since"
          s!"deprecation since {deprecated.since} must be semver-like" ++
        error (deprecated.sunset.any fun sunset => !validSemver sunset) "bad_deprecation" none
          "deprecated.sunset" "deprecation sunset must be semver-like when present") ++
    replacement.toList.flatMap fun replacement =>
      error (!validToolName replacement) "invalid_replacement" none "replacement"
          s!"replacement {replacement} must be lower snake case" ++
        error (replacement = entry.name) "deprecated_replacement_self_reference" entry.name
          "replacement" s!"deprecated tool {entry.name} cannot replace itself" ++
        error (replacement ∉ names) "missing_replacement_tool" replacement "replacement"
          s!"replacement tool {replacement} is not registered"

def validateDeprecations (entries : List ToolMetadata) : List ToolMetadataDiagnostic :=
  entries.zipIdx.flatMap fun (entry, index) =>
    validateDeprecation (entries.map ToolMetadata.name) index entry

end RustyCrew.Engine
