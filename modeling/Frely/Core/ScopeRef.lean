import Frely.Core.Text
import Frely.Core.RelayError

/-!
# Scope references

A scope reference is `global:` or a kind of scope and an identifier, with a colon between them.
-/

namespace Frely

/-- The characters before the first colon, and those behind it if there is one. -/
def splitAtColon : List Char → List Char × Option (List Char)
  | [] => ([], none)
  | c :: text =>
    if c = ':' then ([], some text)
    else
      let (before, behind) := splitAtColon text
      (c :: before, behind)

def isScopeType (scopeType : List Char) : Bool :=
  scopeType = "team".toList || scopeType = "user".toList || scopeType = "key".toList

def isRuntimeScopeRef (scopeRef : String) : Bool :=
  scopeRef = "global:" || match splitAtColon scopeRef.toList with
    | (scopeType, some (_ :: _)) => isScopeType scopeType
    | _ => false

inductive ScopeType where
  | global
  | team
  | user
  | key
deriving DecidableEq

/-- The kind of a scope.  The identifier ends at the second colon and must not be empty. -/
def parseScopeType (scopeRef : String) : Except RelayError ScopeType :=
  if scopeRef = "global:" then .ok .global
  else
    let (scopeType, behind) := splitAtColon scopeRef.toList
    let scopeId := (splitAtColon (behind.getD [])).1
    if scopeType = "team".toList ∧ scopeId ≠ [] then .ok .team
    else if scopeType = "user".toList ∧ scopeId ≠ [] then .ok .user
    else if scopeType = "key".toList ∧ scopeId ≠ [] then .ok .key
    else .error ⟨"invalid_scope_ref", "Invalid scope_ref: " ++ scopeRef, 400⟩

/-- A scope reference taken apart: the kind of the scope and its identifier. -/
def parseScopeRef (scopeRef : String) : Except RelayError (ScopeType × String) := do
  let scopeType ← parseScopeType scopeRef
  let behind := (splitAtColon scopeRef.toList).2.getD []
  return (scopeType,
    if scopeType = .global then "global" else String.ofList (splitAtColon behind).1)

end Frely
