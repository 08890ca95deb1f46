import ApiTypings.Generation
import ApiTypings.Json.Pointer
import ApiTypings.OpenApi.Description

/-! # References

A reference is a pointer behind a number sign, and designates a node of the document. Following
references one after the other ends, because every pointer but the first is a text of the
document and none is followed twice. A document therefore has room for a fixed number of open
references, and what happens beyond it does not matter.
-/

namespace ApiTypings.OpenApi

/-- A document whose references are followed. -/
structure Document where
  root : Json
  /-- How many references can be open at once. -/
  room : Nat
  /-- The answer to a reference that finds no room. -/
  overflow : String → GenerationError := .cyclicReference

namespace Document

/-- The document with a root. It has room for one reference from outside of it, and for one for
each text in it. -/
def ofJson (root : Json) : Document where
  root := root
  room := root.texts.length + 1

/-- The node that a reference designates. -/
def node (doc : Document) (pointer : String) : Except GenerationError Json :=
  let found :=
    match pointer.toList with
    | '#' :: path => doc.root.pointer? path
    | _ => none
  match found with
  | some node => .ok node
  | none => .error (.unresolvedReference pointer)

/-- The designated node as read by a reader. -/
def resolve {α : Type} (doc : Document) (read : Reader α) (pointer : String) :
    Except GenerationError α := do
  match read (← doc.node pointer) with
  | .ok a => .ok a
  | .error cause => .error (.unreadable cause)

end Document

/-- Nodes in whose place a reference may stand. -/
class Referable (α : Type) where
  read : Reader α
  reference? : α → Option String

instance : Referable Schema := ⟨Schema.read, Schema.reference⟩

instance : Referable Parameter := ⟨Parameter.read, Parameter.reference⟩

instance : Referable RequestBody := ⟨RequestBody.read, RequestBody.reference⟩

instance : Referable Response := ⟨Response.read, Response.reference⟩

namespace Document

variable {α : Type} [Referable α]

/-- Follows references until a node is none. A pointer that was followed before closes a cycle.
The first argument bounds how many more are followed. -/
def follow (doc : Document) : Nat → List String → α → Except GenerationError α
  | room, followed, item =>
      match Referable.reference? item with
      | none => .ok item
      | some pointer =>
          if pointer ∈ followed then
            .error (.cyclicReference pointer)
          else
            match room with
            | 0 => .error (doc.overflow pointer)
            | room + 1 => do
                let target ← doc.resolve Referable.read pointer
                follow doc room (pointer :: followed) target

/-- The node behind any number of references. -/
def deref (doc : Document) (item : α) : Except GenerationError α :=
  doc.follow doc.room [] item

end Document

end ApiTypings.OpenApi
