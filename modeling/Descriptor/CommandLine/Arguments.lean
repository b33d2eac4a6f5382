import Descriptor.Definition
/-!
The arguments of the command line. Options stand before or after the name of a command, and an
option that is given in both places counts as it stands after it. A reader gives `none` for
arguments that are no proper use.
-/
namespace Descriptor.CommandLine

inductive Setting
  | organization | project | projectType | projectVersion | namingConvention | config | buildType
  deriving DecidableEq, Repr

inductive Opt
  | define | locals | environment
  | setting (s : Setting)
  deriving DecidableEq, Repr

inductive Flag
  | verbose | exitCode
  deriving DecidableEq, Repr

inductive Item
  | option (o : Opt) (value : String)
  | flag (f : Flag)
  | word (s : String)
  deriving DecidableEq, Repr

def longOptions : List (String × Opt) :=
  [("define", .define), ("local", .locals), ("environment", .environment),
   ("organization", .setting .organization), ("project", .setting .project),
   ("project-type", .setting .projectType), ("project-version", .setting .projectVersion),
   ("naming-convention", .setting .namingConvention), ("config", .setting .config),
   ("type", .setting .buildType)]

def shortOptions : List (Char × Opt) :=
  [('D', .define), ('L', .locals), ('E', .environment)]

def longFlags : List (String × Flag) :=
  [("verbose", .verbose), ("exit-code", .exitCode)]

def looksLikeOption (argument : String) : Bool :=
  match argument.toList with
  | '-' :: _ :: _ => true
  | _ => false

/- The options of a cluster such as `-vDname=value`, and the option that still wants a value from
the next argument. What stands behind an option that takes a value is its value; an equals sign
between them is left out. -/
def cluster : List Char → Option (List Item × Option Opt)
  | [] => some ([], none)
  | c :: rest =>
    if c = 'v' then do
      let (items, wanting) ← cluster rest
      return (.flag .verbose :: items, wanting)
    else do
      let o ← shortOptions.lookup c
      match rest with
      | [] => return ([], some o)
      | '=' :: value => return ([.option o (String.ofList value)], none)
      | value => return ([.option o (String.ofList value)], none)

def long (argument : List Char) : Option (List Item × Option Opt) :=
  let (name, value) :=
    match Text.splitFirst '=' argument with
    | some (name, value) => (String.ofList name, some (String.ofList value))
    | none => (String.ofList argument, none)
  match longOptions.lookup name, longFlags.lookup name, value with
  | some o, _, some value => some ([.option o value], none)
  | some o, _, none => some ([], some o)
  | none, some f, none => some ([.flag f], none)
  | none, _, _ => none

def options (argument : String) : Option (List Item × Option Opt) :=
  match argument.toList with
  | '-' :: '-' :: name => long name
  | '-' :: letters => cluster letters
  | _ => none

def items : List String → Option (List Item)
  | [] => some []
  | a :: rest =>
    if a = "--" then some (rest.map .word)
    else if looksLikeOption a then do
      match ← options a, rest with
      | (found, none), rest => return found ++ (← items rest)
      | (found, some o), value :: rest =>
        if looksLikeOption value then none
        else return found ++ .option o value :: (← items rest)
      | (_, some _), [] => none
    else return .word a :: (← items rest)

def itemsBeforeWord : List String → Option (List Item × String × List String)
  | [] => none
  | a :: rest =>
    if a = "--" then none
    else if looksLikeOption a then do
      match ← options a, rest with
      | (found, none), rest =>
        let (more, word, behind) ← itemsBeforeWord rest
        return (found ++ more, word, behind)
      | (found, some o), value :: rest =>
        if looksLikeOption value then none
        else
          let (more, word, behind) ← itemsBeforeWord rest
          return (found ++ .option o value :: more, word, behind)
      | (_, some _), [] => none
    else some ([], a, rest)

inductive Command
  | eval (expression : String) (exitCode : Bool)
  | expand (format : String)
  | functions
  deriving DecidableEq, Repr

def valuesOf (o : Opt) (found : List Item) : List String :=
  found.filterMap fun
    | .option p value => if p = o then some value else none
    | _ => none

def onlyValue (o : Opt) (found : List Item) : Option (Option String) :=
  match valuesOf o found with
  | [] => some none
  | [value] => some (some value)
  | _ => none

def definitionsOf (o : Opt) (found : List Item) : Option (List Definition) :=
  (valuesOf o found).mapM fun text => (Definition.read text).toOption

structure Options where
  definitions : Definitions
  setting : Setting → Option String
  version : Option Version

def Options.ofItems (found : List Item) : Option Options := do
  let environment ← definitionsOf .environment found
  let globals ← definitionsOf .define found
  let locals ← definitionsOf .locals found
  let once := fun s => onlyValue (.setting s) found
  let organization ← once .organization
  let project ← once .project
  let projectType ← once .projectType
  let projectVersion ← once .projectVersion
  let namingConvention ← once .namingConvention
  let config ← once .config
  let buildType ← once .buildType
  let version ← projectVersion.mapM fun text => (Version.read text).toOption
  return {
    definitions := ⟨environment, globals, locals⟩
    setting := fun
      | .organization => organization
      | .project => project
      | .projectType => projectType
      | .projectVersion => projectVersion
      | .namingConvention => namingConvention
      | .config => config
      | .buildType => buildType
    version }

def laterDefinitions (before after : Definitions) : Definitions :=
  let later := fun (b a : List Definition) => if a.isEmpty then b else a
  ⟨later before.environment after.environment, later before.globals after.globals,
    later before.locals after.locals⟩

def Options.project (before after : Options) : Project :=
  let setting := fun s default => ((after.setting s).or (before.setting s)).getD default
  { organization := setting .organization ""
    name := setting .project ""
    type := setting .projectType "library"
    version := (after.version.or before.version).getD .zero
    namingConvention := setting .namingConvention "Hierarchical"
    buildConfig := setting .config "Debug"
    buildType := setting .buildType "Static" }

def wordsOf (found : List Item) : List String :=
  found.filterMap fun
    | .word s => some s
    | _ => none

def commandOf (name : String) (found : List Item) : Option Command :=
  let exitCodes := found.count (.flag .exitCode)
  match name, wordsOf found with
  | "eval", [expression] =>
    if exitCodes ≤ 1 then some (.eval expression (exitCodes = 1)) else none
  | "expand", [format] => if exitCodes = 0 then some (.expand format) else none
  | "functions", [] => if exitCodes = 0 then some .functions else none
  | _, _ => none

structure Request where
  project : Project
  definitions : Definitions
  command : Command
  deriving DecidableEq, Repr

def Request.read (arguments : List String) : Option Request := do
  let (first, name, rest) ← itemsBeforeWord arguments
  if .flag .exitCode ∈ first then none
  let behind ← items rest
  let command ← commandOf name behind
  let before ← Options.ofItems first
  let after ← Options.ofItems behind
  return ⟨before.project after, laterDefinitions before.definitions after.definitions, command⟩

end Descriptor.CommandLine
