import FormulaOcr.Rest.Answer

/-! Requests from pages of other origins. All origins are welcome, with credentials. -/

namespace FormulaOcr.Rest

def allowedMethods : List String :=
  ["DELETE", "GET", "HEAD", "OPTIONS", "PATCH", "POST", "PUT", "QUERY"]

/-- What an answer to a page of another origin says about that origin. -/
def originHeaders (origin : String) : Dictionary String :=
  [("access-control-allow-origin", origin), ("access-control-allow-credentials", "true")]

/-- What is refused to a page that asks for a method and perhaps for a private network. -/
def refusals (method : String) (privateNetwork : Bool) : List String :=
  (if allowedMethods.contains method then [] else ["method"]) ++
    if privateNetwork then ["private-network"] else []

/-- The answer to a question whether a request may be sent. -/
def preflight (origin method : String) (headers : Option String) (privateNetwork : Bool) :
    Answer :=
  let refused := refusals method privateNetwork
  { status := if refused.isEmpty then 200 else 400
    content := .text <|
      if refused.isEmpty then "OK" else "Disallowed CORS " ++ ", ".intercalate refused
    headers :=
      originHeaders origin ++
      [("vary", "Origin, Access-Control-Request-Method, Access-Control-Request-Headers, " ++
        "Access-Control-Request-Private-Network"),
       ("access-control-allow-methods", ", ".intercalate allowedMethods),
       ("access-control-max-age", "600")] ++
      (headers.map fun names => ("access-control-allow-headers", names)).toList }

/-- An answer with what a page of another origin is told. A crash is answered without it. -/
def Answer.toOrigin (a : Answer) (origin : String) : Answer :=
  if a.crash.isSome then a
  else { a with headers := a.headers ++ originHeaders origin ++ [("vary", "Origin")] }

end FormulaOcr.Rest
