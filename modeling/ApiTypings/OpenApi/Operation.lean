import ApiTypings.Generation
import ApiTypings.OpenApi.Description
import ApiTypings.Text.Identifier

/-! # Operations and their names

Every operation of a description must have responses and a name of its own. Both are checked for
all operations, in document order, before any type is built.
-/

namespace ApiTypings.OpenApi

/-! ## Names -/

/-- A segment of a path without the braces around a parameter. -/
def bareSegment (segment : List Char) : List Char :=
  ((segment.dropWhile (· = '\x7b')).reverse.dropWhile (· = '\x7d')).reverse

/-- The segments of a path that are not empty. -/
def pathSegments (path : String) : List (List Char) :=
  ((Text.pieces (· = '/') path.toList).map bareSegment).filter (!·.isEmpty)

/-- The name of an operation: from its identifier, or else from its method and path, or else from
its method alone. -/
def operationName (path method : String) (operation : Operation) : String :=
  let name :=
    match operation.operationId with
    | some id => Text.pascalCase id
    | none =>
        Text.pascalCase
          (method ++ " " ++ " ".intercalate ((pathSegments path).map String.ofList))
  if name.isEmpty then Text.pascalCase method else name

/-- The name of the client's method for an operation. -/
def methodName (operation : String) : String :=
  Text.sanitizeIdentifier (Text.lowercaseFirst operation)

/-! ## Named operations -/

/-- An operation with its name and the parameters of its path. -/
structure NamedOperation where
  name : String
  operation : Operation
  responses : List (String × Response)
  shared : List Parameter
  deriving Repr

/-- Every operation with its path, its method and the parameters of its path, in document
order. -/
def Description.operations (d : Description) :
    List (String × String × Operation × List Parameter) :=
  d.paths.flatMap fun (path, item) =>
    item.operations.map fun (method, operation) =>
      (path, method, operation, item.parameters.getD [])

/-- Appends an operation to those before it: it must have responses and a name of its own. -/
def addOperation (named : List NamedOperation) :
    String × String × Operation × List Parameter → Except GenerationError (List NamedOperation)
  | (path, method, operation, shared) =>
      let name := operationName path method operation
      match operation.responses with
      | none => throw (.missingResponses name)
      | some responses =>
          if named.any (·.name = name) then throw (.duplicateOperation name)
          else return named ++ [{ name, operation, responses, shared }]

/-- The operations of a description with their names. -/
def Description.namedOperations (d : Description) :
    Except GenerationError (List NamedOperation) :=
  d.operations.foldlM addOperation []

end ApiTypings.OpenApi
