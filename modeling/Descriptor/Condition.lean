import Descriptor.Tokenizer
/-!
Conditions. They are evaluated while they are read:

    or         := and ['||' and]
    and        := relational ['&&' relational]
    relational := '(' or ')' | primary [relation primary]
    primary    := '!' ('(' or ')' | primary) | value

A right operand is read only if the left one leaves the result open, and each level takes at most
one. What is left over when the result stands is not read at all, so that no call in it is carried
out and no fault in it is noticed.

The productions work on any source of tokens. Those that nest take the evaluation one level further
in as an argument, and the levels are stacked as high as the text can need.
-/
namespace Descriptor.Condition

structure Source (μ : Type → Type) where
  next : μ Token
  pushBack : Token → μ Unit

structure Level (μ : Type → Type) where
  condition : μ Bool
  primary : μ Token

variable {μ : Type → Type} [Monad μ] [MonadExcept Failure μ]

def fail {α : Type} (e : ExpressionError) : μ α :=
  throw (Failure.of (.expression e))

def expectValue : Token → μ Value
  | .value v => return v
  | _ => fail .expectingValue

def primary (source : Source μ) (inner : Level μ) : μ Token := do
  let first ← source.next
  if first ≠ .not then return first
  let operand ← source.next
  if operand = .leftParen then
    let result ← inner.condition
    if (← source.next) ≠ .rightParen then fail .unbalancedParenthesis
    return .value (.bool !result)
  else
    source.pushBack operand
    let v ← expectValue (← inner.primary)
    return .value (.bool !v.isTrue)

def relational (source : Source μ) (inner : Level μ) : μ Bool := do
  let left ← primary source inner
  if left = .leftParen then
    let result ← inner.condition
    if (← primary source inner) ≠ .rightParen then fail .unbalancedParenthesis
    return result
  match ← source.next with
  | .relation r =>
    let left ← expectValue left
    let right ← expectValue (← primary source inner)
    return left.relate r right
  | other =>
    source.pushBack other
    return (← expectValue left).isTrue

def conjunction (source : Source μ) (inner : Level μ) : μ Bool := do
  if ← relational source inner then
    let token ← source.next
    if token = .and then relational source inner
    else
      source.pushBack token
      return true
  else return false

def disjunction (source : Source μ) (inner : Level μ) : μ Bool := do
  if ← conjunction source inner then return true
  else
    let token ← source.next
    if token = .or then conjunction source inner
    else
      source.pushBack token
      return false

def level (source : Source μ) : Nat → Level μ
  | 0 => ⟨fail .expectingValue, fail .expectingValue⟩
  | n + 1 => ⟨disjunction source (level source n), primary source (level source n)⟩

end Condition

namespace Tokenizer

variable {m : Type → Type} [Monad m]

def source (exec : Exec m) : Condition.Source (Reading m) where
  next := next exec
  pushBack t := modify (pushBack t)

/- Evaluates one condition from where the tokenizer is. Each level further in costs a token, so
there are levels enough. -/
def evaluate (exec : Exec m) : Reading m Bool := do
  ((Condition.level (source exec) ((← get).size + 1)).condition)

end Tokenizer

variable {m : Type → Type} [Monad m] {X : Type}

def Context.eval (host : Host m X) (c : Context X) (text : String) : m (Except Failure Bool) := do
  let (result, _) ← (Tokenizer.evaluate (c.exec host)).run.run (.ofText text.toList)
  return result.mapError (·.within (.evaluating text))

end Descriptor
