import Parley.Http.MediaType
import Parley.Http.Target
import Parley.Server.Body

/-!
# Requests and responses
-/

namespace Parley.Http

structure Request where
  method : String
  /-- The path as written, with its percent signs. -/
  path : List Char
  headers : List (String × String) := []
  body : Reply.Bytes := []

/-- A header's value may hold blanks and everything that shows. -/
def isHeaderChar (c : Char) : Bool := (32 ≤ c.toNat && c.toNat ≠ 127) || c = '\t'

namespace Request

/-- A request, unless its method, its target or one of its headers is malformed. Names of headers do
not depend on case. -/
def make? (method target : String) (headers : List (String × String)) (body : Reply.Bytes) :
    Option Request := do
  let path ← Target.path? target
  let isName := fun s : String => s ≠ "" && s.toList.all isToken
  let isHeader := fun h : String × String => isName h.1 && h.2.toList.all isHeaderChar
  if isName method && headers.all isHeader then
    some ⟨method, path, headers.map fun (name, value) => (name.map Char.toLower, value), body⟩
  else none

/-- The first header of a name, if it is plain text. -/
def header? (r : Request) (name : String) : Option String :=
  match r.headers.lookup name with
  | some value => if value.toList.all (·.toNat < 127) then some value else none
  | none => none

def formType : String := "application/x-www-form-urlencoded"

def hasForm (r : Request) : Bool :=
  (r.header? "content-type").any fun s => formType.toList.isPrefixOf s.toList

def hasJson (r : Request) : Bool :=
  ((r.header? "content-type").bind MediaType.parse?).any MediaType.isJson

end Request

structure Response where
  status : Nat
  headers : List (String × String) := []
  body : Body := .bytes []

namespace Response

def json (status : Nat) (j : Json) : Response :=
  ⟨status, [("content-type", "application/json")], .ofText j.compact⟩

def plainText : String := "text/plain; charset=utf-8"

def text (status : Nat) (s : String) : Response :=
  ⟨status, [("content-type", plainText)], .ofText s⟩

end Response

end Parley.Http
