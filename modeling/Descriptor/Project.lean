import Descriptor.Context
/-!
Projects: the attributes that every project has, under the names by which descriptors ask for them.
-/
namespace Descriptor

structure Project where
  organization : String
  name : String
  type : String
  version : Version
  namingConvention : String
  buildConfig : String
  buildType : String
  deriving DecidableEq, Repr

namespace Project

def blank : Project := ⟨"", "", "", .zero, "", "", ""⟩

def symbols (p : Project) : List (String × Value) :=
  [("organization", .string p.organization),
   ("project", .string p.name),
   ("project_type", .string p.type),
   ("version", .version p.version),
   ("naming_convention", .string p.namingConvention),
   ("config", .string p.buildConfig),
   ("type", .string p.buildType)]

end Project

def Context.ofProject {X : Type} (functions : Registry X) (environment : SymbolTable)
    (p : Project) : Context X :=
  { ofEnvironment functions environment with globals := .ofList p.symbols }

end Descriptor
