import Descriptor.CommandLine
/-!
The program: the command line on the process that runs it.
-/
namespace Descriptor

def processHost : Host IO Empty where
  osVariable? name := if name.toList.contains '\x00' then return none else IO.getEnv name
  pathExists path :=
    if path.toList.contains '\x00' then return false
    else return (← (IO.FS.realPath path).toBaseIO).toOption.isSome
  system := "linux"
  architecture := "x86_64"
  run x := nomatch x

end Descriptor

def main (arguments : List String) : IO UInt32 := do
  let outcome ← Descriptor.CommandLine.run Descriptor.processHost arguments
  IO.print outcome.output
  IO.eprint outcome.errors
  return outcome.status.toUInt32
