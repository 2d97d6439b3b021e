/-
# SealedTransfer.Asn1.AlgorithmId — algorithms with their parameters

An algorithm is named by an object identifier and may come with parameters, one element of any kind.
-/
import SealedTransfer.Asn1.ObjectId

namespace SealedTransfer.Asn1

/-- An algorithm with its parameters, if it has some. -/
structure AlgorithmId where
  id : ObjectId
  parameters : Option Element
deriving DecidableEq, Repr

namespace AlgorithmId

/-- The element of an algorithm. -/
def element (algorithm : AlgorithmId) : Element :=
  .sequence (algorithm.id.element :: algorithm.parameters.toList)

end AlgorithmId

/-- The null value. -/
def Element.null : Element := ⟨nullIdentifier, []⟩

/-- The algorithm that an element holds. -/
def Element.algorithmId? (element : Element) : Option AlgorithmId := do
  match ← element.sequence? with
  | [id] => some ⟨← id.objectId?, none⟩
  | [id, parameters] => some ⟨← id.objectId?, some parameters⟩
  | _ => none

end SealedTransfer.Asn1
