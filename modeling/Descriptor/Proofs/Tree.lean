import Descriptor.Condition
/-!
Conditions as trees, and what they mean. A right operand that need not be read cuts the condition
short: what contains it then finds the operator where it looks for a parenthesis or for an operator
of its own. Nothing in relation to something else can be cut, and neither can anything in
parentheses.
-/
namespace Descriptor.Condition

mutual
inductive Disjunction where
  | one (a : Conjunction)
  | either (a b : Conjunction)

inductive Conjunction where
  | one (r : Relational)
  | both (r s : Relational)

inductive Relational where
  | grouped (d : Disjunction)
  | alone (p : Primary)
  | related (p : Primary) (r : Relation) (q : Primary)

inductive Primary where
  | value (v : Value)
  | not (p : Primary)
  | notGrouped (d : Disjunction)
end

mutual
def Disjunction.tokens : Disjunction → List Token
  | .one a => a.tokens
  | .either a b => a.tokens ++ .or :: b.tokens

def Conjunction.tokens : Conjunction → List Token
  | .one r => r.tokens
  | .both r s => r.tokens ++ .and :: s.tokens

def Relational.tokens : Relational → List Token
  | .grouped d => .leftParen :: d.tokens ++ [.rightParen]
  | .alone p => p.tokens
  | .related p r q => p.tokens ++ .relation r :: q.tokens

def Primary.tokens : Primary → List Token
  | .value v => [.value v]
  | .not p => .not :: p.tokens
  | .notGrouped d => .not :: .leftParen :: d.tokens ++ [.rightParen]
end

structure Verdict where
  holds : Bool
  cut : Bool
  deriving DecidableEq, Repr

def Verdict.closed (v : Verdict) : Except ExpressionError Bool :=
  if v.cut then .error .unbalancedParenthesis else .ok v.holds

mutual
def Disjunction.meaning : Disjunction → Except ExpressionError Verdict
  | .one a => a.meaning
  | .either a b => do
    let left ← a.meaning
    if left.holds then return ⟨true, true⟩
    else if left.cut then return ⟨false, true⟩
    else b.meaning

def Conjunction.meaning : Conjunction → Except ExpressionError Verdict
  | .one r => return ⟨← r.meaning, false⟩
  | .both r s => do
    if ← r.meaning then return ⟨← s.meaning, false⟩
    else return ⟨false, true⟩

def Relational.meaning : Relational → Except ExpressionError Bool
  | .grouped d => do (← d.meaning).closed
  | .alone p => return (← p.meaning).isTrue
  | .related p r q => return (← p.meaning).relate r (← q.meaning)

def Primary.meaning : Primary → Except ExpressionError Value
  | .value v => return v
  | .not p => return .bool !(← p.meaning).isTrue
  | .notGrouped d => return .bool !(← (← d.meaning).closed)
end

end Descriptor.Condition
