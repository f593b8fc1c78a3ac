/-
  The requests and answers of the HTTP API (`writeJSON` in `internal/api/server.go`).

  The handlers are spread over the files of `internal/api`.  What they have in common stands here,
  below all the modules that embed one of them.

  1. **Methods** - the four that handlers tell apart, and `other` for all the rest.
  2. **Answers** - a status code, the text under `"error"` and the text under `"status"`.  Each
     answer that a handler writes is built by a function named after its status code, with the text
     as its argument, so that a handler can be read beside its source.

  The entities that a body lists or returns are left out: an answer that carries some is `json` or
  `created`.  Where they matter, as for the pages of devices, the module in question has a type of
  its own for them.
-/

namespace ChirpStackSimulator

/-- The methods that a handler tells apart. -/
inductive Method where
  | get
  | post
  | put
  | delete
  /-- Any other. -/
  | other
  deriving DecidableEq

/-- What `writeJSON` is given. -/
structure Response where
  code : Nat
  error : Option String
  status : Option String
  deriving DecidableEq

namespace Response

/-- The answers by their status codes, as the handlers write them. -/
def ok (status : String) : Response := ⟨200, none, some status⟩
/-- An answer that lists or returns entities. -/
def json : Response := ⟨200, none, none⟩
/-- An answer that returns what was created. -/
def created : Response := ⟨201, none, none⟩
def badRequest (error : String) : Response := ⟨400, some error, none⟩
def unauthorized : Response := ⟨401, some "unauthorized", none⟩
def notFound (error : String) : Response := ⟨404, some error, none⟩
def methodNotAllowed : Response := ⟨405, some "method not allowed", none⟩
/-- A conflict answer also names the status the request conflicts with. -/
def conflict (error status : String) : Response := ⟨409, some error, some status⟩
/-- The answer of `requireWriteMode`. -/
def locked : Response := ⟨423, some "passive_mode_active", none⟩
def internalServerError (error : String) : Response := ⟨500, some error, none⟩
def badGateway (error : String) : Response := ⟨502, some error, none⟩
def serviceUnavailable (error : String) : Response := ⟨503, some error, none⟩

@[simp] theorem code_ok (s : String) : (ok s).code = 200 := rfl
@[simp] theorem code_badRequest (e : String) : (badRequest e).code = 400 := rfl
@[simp] theorem code_notFound (e : String) : (notFound e).code = 404 := rfl
@[simp] theorem code_methodNotAllowed : methodNotAllowed.code = 405 := rfl
@[simp] theorem code_conflict (e s : String) : (conflict e s).code = 409 := rfl
@[simp] theorem code_internalServerError (e : String) : (internalServerError e).code = 500 := rfl

end Response

end ChirpStackSimulator
