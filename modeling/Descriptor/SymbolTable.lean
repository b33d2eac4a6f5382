import Descriptor.Keyed
import Descriptor.Value
/-!
Tables of symbols: values by name, in the order in which the names were defined.
-/
namespace Descriptor

abbrev SymbolTable := Keyed Value

namespace SymbolTable

def append (t : SymbolTable) (name : String) (v : Value) : SymbolTable :=
  t.insert name (((t.get? name).getD Value.unknown).append v)

inductive Change
  | insert (name : String) (v : Value)
  | append (name : String) (v : Value)
  | remove (name : String)
  | clear
  deriving DecidableEq, Repr

def change (t : SymbolTable) : Change → Option Value × SymbolTable
  | .insert name v => t.exchange name v
  | .append name v => (none, SymbolTable.append t name v)
  | .remove name => t.remove name
  | .clear => (none, .empty)

def changes (t : SymbolTable) (cs : List Change) : SymbolTable :=
  cs.foldl (fun t c => (change t c).2) t

inductive Step
  | single (c : Change)
  | extend (entries : List (String × Value))
  deriving DecidableEq, Repr

def step (t : SymbolTable) : Step → Option Value × SymbolTable
  | .single c => change t c
  | .extend entries => (none, t.insertAll entries)

def steps (t : SymbolTable) (ss : List Step) : SymbolTable :=
  ss.foldl (fun t s => (step t s).2) t

theorem getAppend (t : SymbolTable) (name other : String) (v : Value) :
    (SymbolTable.append t name v).get? other =
      if other = name then some (((t.get? name).getD Value.unknown).append v)
      else t.get? other :=
  Keyed.getInsert ..

end SymbolTable
end Descriptor
