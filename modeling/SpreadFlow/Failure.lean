/-
Module: SpreadFlow.Failure
Purpose: Failures as a host reports them: a message, and the failure that caused it.
Main exports: Failure, Failure.message, Failure.sources, Failure.shortName, Failure.ofNode
-/

namespace SpreadFlow

/-!
A failure that a node reports may wrap the failure that caused it.  Lifting a node's own error to
the host names the node by the short form of its type name: what follows the last `::` of it.
-/

/-- A failure and the chain of its causes. -/
inductive Failure where
  | plain (message : String)
  | caused (message : String) (source : Failure)
deriving Repr, DecidableEq

namespace Failure

instance : Inhabited Failure := ⟨plain ""⟩

def message : Failure → String
  | plain message => message
  | caused message _ => message

/-- The causes, from the nearest inwards. -/
def causes : Failure → List Failure
  | plain _ => []
  | caused _ source => source :: source.causes

/-- The messages of the causes, from the nearest inwards. -/
def sources (failure : Failure) : List String :=
  failure.causes.map message

/-- The characters before the first `::`, or all of them if there is none. -/
def beforeSeparator : List Char → List Char
  | ':' :: ':' :: _ => []
  | character :: rest => character :: beforeSeparator rest
  | [] => []

/-- What follows the last `::` of a type name, or all of it if there is none. -/
def shortName (typeName : String) : String :=
  String.ofList (beforeSeparator typeName.toList.reverse).reverse

/-- A node's failure as the host sees it: it names the node, repeats the message and keeps the
failure as its source. -/
def ofNode (typeName : String) (failure : Failure) : Failure :=
  caused ("Node `" ++ shortName typeName ++ "` failed: " ++ failure.message) failure

/-- A failure under a message of the host's own. -/
def wrap (message : String) (failure : Failure) : Failure :=
  caused message failure

/-- The same failure with a text put before its message.  The causes are not kept. -/
def prepend (text : String) (failure : Failure) : Failure :=
  plain (text ++ failure.message)

end Failure

end SpreadFlow
