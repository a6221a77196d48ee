import FormulaOcr.Fault

/-! The failures that commands report, each with the key of its message. -/

namespace FormulaOcr.Complaint

def imageMissing : Complaint := { kind := .validation, key := "errors.image_missing" }

def imageUndecodable (detail : String) : Complaint :=
  { kind := .validation, key := "errors.image_decode", values := [("detail", .str detail)] }

def imageTooSmall : Complaint := { kind := .validation, key := "errors.image_too_small" }

def unknownMode (mode : Json) : Complaint :=
  { kind := .validation, key := "errors.unknown_mode", values := [("mode", mode)] }

def unknownProvider (provider : String) : Complaint :=
  { kind := .validation, key := "errors.unknown_provider", values := [("provider", .str provider)] }

def unknownAction (action : Json) : Complaint :=
  { kind := .validation, key := "errors.unknown_action", values := [("action", action)] }

def badMessage : Complaint := { kind := .validation, key := "errors.bad_message" }

def invalidUrl (url : String) : Complaint :=
  { kind := .validation, key := "errors.invalid_url", values := [("url", .str url)] }

def noModelSelected : Complaint := { kind := .noModelSelected, key := "errors.no_model_selected" }

def tokenNotConfigured : Complaint :=
  { kind := .notConfigured, key := "errors.simpletex_not_configured" }

def keyNotConfigured : Complaint :=
  { kind := .notConfigured, key := "errors.siliconflow_not_configured" }

def tokenUnauthorized : Complaint := { kind := .auth, key := "errors.simpletex_unauthorized" }

def quotaExhausted : Complaint := { kind := .quotaExhausted, key := "errors.simpletex_quota" }

def recognitionFailed (code : String) : Complaint :=
  { kind := .provider, key := "errors.simpletex_failed", values := [("code", .str code)] }

def uploadRefused (status : Int) : Complaint :=
  { kind := .provider, key := "errors.simpletex_http", values := [("status", .int status)] }

/-- A refusal of the chat provider that gives no reason. -/
def callRefused (kind : FailureKind) (status : Int) : Complaint :=
  { kind, key := "errors.api_failed", values := [("status", .int status)] }

/-- A refusal of the chat provider in its own words. -/
def callRefusedBecause (kind : FailureKind) (message : String) : Complaint :=
  { kind, key := "errors.provider_message", values := [("message", .str message)] }

def badResponse (detail : String) : Complaint :=
  { kind := .provider, key := "errors.bad_response", values := [("detail", .str detail)] }

def requestFailed (detail : String) : Complaint :=
  { kind := .network, key := "errors.request_failed", values := [("detail", .str detail)] }

end FormulaOcr.Complaint
