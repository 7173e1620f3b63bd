import Tabletop.Fault
import Tabletop.Json
import Tabletop.Log

/-!
# Requests and responses

A request has a method, a path, query values and a body; a response has a status
and a body, which is JSON but for a page of the documentation or a plain text.  Of
several query values with one name the last counts.  A path is named in records as it
would stand in an address.
-/

namespace Tabletop
namespace Web

/-- A request to the service. -/
structure Request where
  /-- What is asked for. -/
  method : String
  /-- The path asked for. -/
  path : String
  /-- The query values with their names, in order. -/
  query : List (String × String)
  /-- The text of the body, empty if there is none. -/
  body : String
  /-- When the request is made, in half seconds. -/
  time : Int

/-- A page of the documentation, whose text is left open. -/
inductive Page
  /-- What the service offers, to be read by programs. -/
  | schema
  /-- What the service offers, to be tried out. -/
  | explorer
  /-- Where the page to try things out goes on after signing in. -/
  | signIn
  /-- What the service offers, to be read by people. -/
  | reference
  deriving DecidableEq

/-- The body of a response. -/
inductive Body
  | empty
  | json (value : Json)
  | plain (text : String)
  | page (page : Page)

/-- An answer of the service. -/
structure Response where
  /-- The status code. -/
  status : Nat
  /-- The body. -/
  body : Body

namespace Request

/-- The last query value with the given name. -/
def value? (request : Request) (name : String) : Option String :=
  request.query.reverse.lookup name

/-- A character of a path as it stands in an address: marks that would end the path
or divide it are written by their codes, and line ends and tabs are left out. -/
def addressCharacter (character : Char) : List Char :=
  match character with
  | '?' => ['%', '3', 'F']
  | '#' => ['%', '2', '3']
  | '\\' => ['%', '5', 'C']
  | '\t' => []
  | '\n' => []
  | '\r' => []
  | _ => [character]

/-- The path as it stands in an address; unless it is empty, a slash begins it. -/
def addressPath (request : Request) : String :=
  match request.path.toList with
  | [] => ""
  | '/' :: rest => String.ofList ('/' :: rest.flatMap addressCharacter)
  | characters => String.ofList ('/' :: characters.flatMap addressCharacter)

/-- The method and the path, as they are named in records. -/
def label (request : Request) : String :=
  request.method ++ " " ++ request.addressPath

/-- The record that begins what is written for a request. -/
def openingRecord (request : Request) : Log.Record :=
  .debug ("Request: " ++ request.label)

/-- The record that ends what is written for a request. -/
def closingRecord (request : Request) (response : Response) : Log.Record :=
  .debug ("Response: " ++ request.label ++ " -> " ++ Numeral.text response.status)

/-- The record of a text that is no notation. -/
def misreading (request : Request) (text : String) : Log.Record where
  level := .info
  origin := none
  message := "Bad notation: " ++ request.label ++ " | notation=" ++ Text.quoted text

/-- The record of dice that cannot be rolled, for a fault of theirs. -/
def rejection (request : Request) (fault : Fault) : Log.Record where
  level := .info
  origin := none
  message := "Rejected roll: " ++ request.label ++ " | error=" ++ fault.wording

/-- The record of a fault that nothing closer to the request answered. -/
def alarm (request : Request) : Log.Record where
  level := .error
  origin := none
  message := "Unhandled error: " ++ request.label

end Request

namespace Response

/-- A response whose body only has a detail. -/
def detailed (status : Nat) (detail : Json) : Response :=
  { status, body := .json (.object [("detail", detail)]) }

/-- A response to a request that went wrong, with a detail of any shape. -/
def failedWith (code : Nat) (message : String) (detail : Json) : Response :=
  { status := code
    body := .json (.object [
      ("code", .integer code), ("message", .text message), ("detail", detail)]) }

/-- A response to a request that went wrong. -/
def failed (code : Nat) (message : String) (detail : Option String) : Response :=
  failedWith code message ((detail.map Json.text).getD .null)

/-- What is sent for the service by the server that it runs in. -/
def crashed : Response :=
  { status := 500, body := .plain "Internal Server Error" }

/-- What the client receives: the answer, or what is sent for the service where a fault
escapes from it. -/
def received : Except Fault Response → Response
  | .ok response => response
  | .error _ => crashed

end Response
end Web
end Tabletop
