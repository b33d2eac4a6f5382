/-!
Environments of processes, as blocks of entries `name=value`.
-/
namespace Descriptor

structure Environment where
  entries : List (String × String)
  deriving DecidableEq, Repr

namespace Environment

def valueIn? (asked : List Char) (entry : String × String) : Option String :=
  let written := entry.1.toList ++ '=' :: entry.2.toList
  if (asked ++ ['=']).isPrefixOf written then some (String.ofList (written.drop (asked.length + 1)))
  else none

/- The value of the first entry that begins with the name and an equals sign. A name that is empty
or has a NUL has no value; one with an equals sign can reach into the value of another. -/
def get? (e : Environment) (name : String) : Option String :=
  let asked := name.toList
  if asked.isEmpty || asked.contains '\x00' then none else e.entries.findSome? (valueIn? asked)

def erase (e : Environment) (name : String) : Environment :=
  ⟨e.entries.filter (·.1 != name)⟩

def insert (e : Environment) (name value : String) : Environment :=
  ⟨(e.erase name).entries ++ [(name, value)]⟩

end Environment
end Descriptor
